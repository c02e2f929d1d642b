import WorkSchema.Url.Address
import WorkSchema.Url.Domain

/-!
The syntax of absolute addresses (URLs). An address is accepted when it has a
scheme and, where the scheme calls for one, a well-formed authority; a path, a
query and a fragment never make it wrong.
-/

namespace WorkSchema.Url

/-- What a scheme demands of the rest: the well-known network schemes need a
host, `file` may have one, and any other may have one after two slashes. -/
inductive SchemeKind where
  | network
  | file
  | other
  deriving DecidableEq

def schemeKind (scheme : List Char) : SchemeKind :=
  let name := String.ofList (scheme.map Char.toLower)
  if name = "file" then .file
  else if ["http", "https", "ws", "wss", "ftp"].contains name then .network
  else .other

def isBlank (c : Char) : Bool := c.toNat ≤ 32

/-- Blanks and controls at both ends and all tabs and line breaks are dropped
before anything is read. -/
def strip (text : List Char) : List Char :=
  let trimmed := ((text.dropWhile isBlank).reverse.dropWhile isBlank).reverse
  trimmed.filter fun c => c != '\t' && c != '\n' && c != '\r'

/-- The scheme and what follows its colon. -/
def splitScheme? (text : List Char) : Option (List Char × List Char) :=
  let allowed (c : Char) : Bool := c.isAlphanum || c == '+' || c == '-' || c == '.'
  let scheme := text.takeWhile allowed
  match scheme, text.drop scheme.length with
  | first :: _, ':' :: rest => if first.isAlpha then some (scheme, rest) else none
  | _, _ => none

def isSlash (backslash : Bool) (c : Char) : Bool := c == '/' || (backslash && c == '\\')

/-- Whether an authority ends before the character. -/
def endsAuthority (backslash : Bool) (c : Char) : Bool :=
  isSlash backslash c || c == '?' || c == '#'

/-- Bytes with each `%` and two hexadecimal digits read as one byte. -/
def percentDecode : List UInt8 → List UInt8
  | 37 :: a :: b :: rest =>
      match Digits.hexDigit? (Char.ofNat a.toNat), Digits.hexDigit? (Char.ofNat b.toNat) with
      | some high, some low => UInt8.ofNat (16 * high + low) :: percentDecode rest
      | _, _ => 37 :: percentDecode (a :: b :: rest)
  | byte :: rest => byte :: percentDecode rest
  | [] => []
termination_by bytes => bytes.length

def bracketed? (host : List Char) : Option (List Char) :=
  match host with
  | '[' :: rest => some rest
  | _ => none

def isIpv6Host (afterBracket : List Char) : Bool :=
  match afterBracket.reverse with
  | ']' :: reversed => Address.isIpv6 reversed.reverse
  | _ => false

/-- The host of a network or file address: six-group address in brackets, an
address in digits, or a domain name. -/
def isHost (host : List Char) : Bool :=
  match bracketed? host with
  | some rest => isIpv6Host rest
  | none =>
      let bytes := percentDecode (String.ofList host).toUTF8.toList
      match String.fromUTF8? ⟨bytes.toArray⟩ with
      | none => false
      | some decoded =>
          match Domain.labels? decoded.toList with
          | none | some [[]] => false
          | some labels =>
              if Address.endsInNumber labels then (Address.ipv4? labels).isSome else true

/-- The host of any other address, which is not looked up as a name. -/
def isOpaqueHost (host : List Char) : Bool :=
  match bracketed? host with
  | some rest => isIpv6Host rest
  | none => !host.any fun c =>
      "\x00\t\n\r #/:<>?@[\\]^|".toList.contains c

/-- The host and what follows it. A colon inside brackets belongs to the host. -/
def splitHost (backslash inBrackets : Bool) : List Char → List Char × List Char
  | [] => ([], [])
  | c :: rest =>
      if endsAuthority backslash c || (c == ':' && !inBrackets) then ([], c :: rest)
      else
        let inside := if c = '[' then true else if c = ']' then false else inBrackets
        let (host, after) := splitHost backslash inside rest
        (c :: host, after)

/-- A port after its colon: digits up to the end of the authority, whose value
fits sixteen bits. A backslash ends it for every scheme. -/
def isPort (text : List Char) : Bool :=
  let port := text.takeWhile fun c => !endsAuthority true c
  match Digits.inBase? 10 port with
  | some n => n < 65536
  | none => false

/-- The user part before the last at sign of an authority, and what follows it. -/
def splitUser (backslash : Bool) (text : List Char) : Option (List Char) × List Char :=
  let authority := text.takeWhile fun c => !endsAuthority backslash c
  if authority.contains '@' then
    let after := (authority.reverse.takeWhile (· != '@')).length
    let user := authority.take (authority.length - after - 1)
    (some user, text.drop (user.length + 1))
  else (none, text)

/-- An authority after its two slashes. A user part needs a host after it. -/
def isAuthority (network : Bool) (text : List Char) : Bool :=
  let (user?, afterUser) := splitUser network text
  let (host, rest) := splitHost network false afterUser
  let port? := match rest with
    | ':' :: port => some port
    | _ => none
  let userNeedsHost := match user? with
    | none | some [':'] => false
    | some [] => !rest.isEmpty && port?.isNone
    | some _ => true
  if host.isEmpty then !network && !userNeedsHost && port?.isNone
  else
    (if network then isHost host else isOpaqueHost host) &&
      (port?.map isPort).getD true

/-- The host of a file address is empty, a drive letter, or a host proper. -/
def isFileAuthority (text : List Char) : Bool :=
  let host := text.takeWhile fun c => !endsAuthority true c
  match host with
  | [] => true
  | [drive, mark] => (drive.isAlpha && (mark == ':' || mark == '|')) || isHost host
  | _ => isHost host

def isAbsolute (text : String) : Bool :=
  match splitScheme? (strip text.toList) with
  | none => false
  | some (scheme, rest) =>
      match schemeKind scheme with
      | .network => isAuthority true (rest.dropWhile (isSlash true))
      | .file =>
          match rest with
          | a :: b :: host => !(isSlash true a && isSlash true b) || isFileAuthority host
          | _ => true
      | .other =>
          match rest with
          | '/' :: '/' :: authority => isAuthority false authority
          | _ => true

end WorkSchema.Url
