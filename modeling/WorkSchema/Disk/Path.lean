/-!
Paths of files and folders. A path is kept as it was given, since messages show
it; the names on the way to the file are what finds it.
-/

namespace WorkSchema

structure Path where
  text : String
  deriving DecidableEq, Repr

namespace Path

instance : ToString Path := ⟨Path.text⟩

def isAbsolute (path : Path) : Bool := path.text.startsWith "/"

/-- The path of something under a folder. -/
def join (folder : Path) (name : String) : Path :=
  if name.startsWith "/" || folder.text.isEmpty then ⟨name⟩
  else if folder.text.endsWith "/" then ⟨folder.text ++ name⟩
  else ⟨folder.text ++ "/" ++ name⟩

/-- The parts between the slashes. -/
def parts (path : Path) : List String :=
  ((path.text.splitOn "/").filter fun part => part ≠ "" ∧ part ≠ ".")

/-- The way one step up. Above the top there is nothing but the top itself;
above the working folder the way is kept as it is written. -/
def up (absolute : Bool) (names : List String) : List String :=
  match names.getLast? with
  | none => if absolute then [] else [".."]
  | some last => if last = ".." then names ++ [".."] else names.dropLast

/-- Goes along the parts of a path. -/
def follow (absolute : Bool) : List String → List String → List String
  | names, [] => names
  | names, part :: rest =>
      follow absolute (if part = ".." then up absolute names else names ++ [part]) rest

/-- The names on the way from the working folder, or from the top if the path
is absolute, which the name `/` stands for. -/
def names (path : Path) : List String :=
  if path.isAbsolute then "/" :: follow true [] path.parts else follow false [] path.parts

/-- The text of the path along the given names. -/
def textOf : List String → String
  | [] => "."
  | "/" :: rest => "/" ++ "/".intercalate rest
  | names => "/".intercalate names

/-- The last name, if the path ends in one. -/
def fileName? (path : Path) : Option String :=
  match path.parts.getLast? with
  | some part => if part = ".." then none else some part
  | none => none

/-- What follows the last dot of a file name. A dot at its very start begins no
extension. -/
def extensionOf? (fileName : String) : Option String :=
  let backwards := fileName.toList.reverse
  match backwards.dropWhile (· ≠ '.') with
  | _ :: _ :: _ => some (String.ofList (backwards.takeWhile (· ≠ '.')).reverse)
  | _ => none

def extension? (path : Path) : Option String := path.fileName?.bind extensionOf?

end Path

end WorkSchema
