import WorkSchema.Disk.Path

/-!
The files and folders that a store can see. A file is replaced in one step: its
new contents go to a temporary file beside it, which is then renamed, so a
replacement that fails leaves the file as it was.
-/

namespace WorkSchema

/-- Why something cannot be done with a file or a folder. -/
inductive FileError where
  | missing
  | taken
  | notFolder
  | isFolder
  | notText
  | other (reason : String)
  deriving DecidableEq, Repr

def FileError.message : FileError → String
  | missing => "No such file or directory (os error 2)"
  | taken => "File exists (os error 17)"
  | notFolder => "Not a directory (os error 20)"
  | isFolder => "Is a directory (os error 21)"
  | notText => "stream did not contain valid UTF-8"
  | other reason => reason

inductive DiskEntry where
  | folder
  | file (content : ByteArray)

/-- Files are compared byte by byte. -/
instance : DecidableEq DiskEntry
  | .folder, .folder => isTrue rfl
  | .file a, .file b =>
      if h : a.data = b.data then isTrue (by rw [ByteArray.ext h])
      else isFalse fun e => h (by injection e with e; rw [e])
  | .folder, .file _ => isFalse nofun
  | .file _, .folder => isFalse nofun

/-- Where the replacement of a file fails: while the temporary file is written,
with what is left of it, or when it is renamed. -/
inductive ReplaceFault where
  | write (left? : Option ByteArray)
  | rename

/-- The entries are in the order in which folders list them; the working folder
itself is not among them. `faults` says what becomes of the replacements to
come, each of which succeeds once the list is used up. `temporaries` counts the
temporary files, so that no two of them share a name. -/
structure Disk where
  entries : List (List String × DiskEntry) := []
  faults : List (Option ReplaceFault) := []
  temporaries : Nat := 0

namespace Disk

def entry? (disk : Disk) (names : List String) : Option DiskEntry :=
  if names.isEmpty then some .folder else disk.entries.lookup names

def contains (disk : Disk) (names : List String) : Bool := (disk.entry? names).isSome

def isFolder (disk : Disk) (names : List String) : Bool := disk.entry? names == some .folder

/-- Whether some part of the way is a file, so that nothing can lie below it. -/
def isBlocked (disk : Disk) (names : List String) : Bool :=
  (List.range names.length).any fun n =>
    match disk.entry? (names.take n) with
    | some (.file _) => true
    | _ => false

/-- The error of something that is not there. -/
def absence (disk : Disk) (names : List String) : FileError :=
  if disk.isBlocked names then .notFolder else .missing

def readBytes (disk : Disk) (names : List String) : Except FileError ByteArray :=
  match disk.entry? names with
  | some (.file content) => return content
  | some .folder => throw .isFolder
  | none => throw (disk.absence names)

/-- The contents of a file that holds text. -/
def readText (disk : Disk) (names : List String) : Except FileError String := do
  match String.fromUTF8? (← disk.readBytes names) with
  | some text => return text
  | none => throw .notText

/-- The names of what lies directly in a folder, in listing order. -/
def list (disk : Disk) (names : List String) : Except FileError (List String) :=
  match disk.entry? names with
  | some .folder =>
      return disk.entries.filterMap fun (way, _) =>
        if way.dropLast = names then way.getLast? else none
  | some (.file _) => throw .notFolder
  | none => throw (disk.absence names)

/-- Puts an entry in the place of the one of the same way, or at the end. -/
def putEntry (names : List String) (entry : DiskEntry) :
    List (List String × DiskEntry) → List (List String × DiskEntry)
  | [] => [(names, entry)]
  | (way, old) :: rest =>
      if way = names then (way, entry) :: rest else (way, old) :: putEntry names entry rest

def put (disk : Disk) (names : List String) (entry : DiskEntry) : Disk :=
  {disk with entries := putEntry names entry disk.entries}

/-- Removes a file, or a folder with all that lies below it. -/
def remove (disk : Disk) (names : List String) : Disk :=
  {disk with entries := disk.entries.filter fun (way, _) => !names.isPrefixOf way}

/-- Makes the folders on a way that are not there yet. A file on the way stops
it, and the folders made before stay. -/
def makeFoldersBelow (disk : Disk) (above : List String) :
    List String → Except FileError Unit × Disk
  | [] => (.ok (), disk)
  | name :: rest =>
      let names := above ++ [name]
      match disk.entry? names with
      | some .folder => makeFoldersBelow disk names rest
      | some (.file _) => (.error (if rest.isEmpty then .taken else .notFolder), disk)
      | none => makeFoldersBelow (disk.put names .folder) names rest

def makeFolders (disk : Disk) (names : List String) : Except FileError Unit × Disk :=
  disk.makeFoldersBelow [] names

/-- Puts a file in its place, in folders that are made for it if need be. -/
def putFile (disk : Disk) (names : List String) (content : ByteArray) : Disk :=
  (disk.makeFolders names.dropLast).2.put names (.file content)

def putFiles (disk : Disk) (files : List (Path × ByteArray)) : Disk :=
  files.foldl (fun disk (path, content) => disk.putFile path.names content) disk

/-- What lies below a folder at any depth, each with its way from there. -/
def below (disk : Disk) (names : List String) : List (List String × DiskEntry) :=
  disk.entries.filterMap fun (way, entry) =>
    if names.isPrefixOf way ∧ way ≠ names then some (way.drop names.length, entry) else none

/-- The name that every temporary file begins with. It begins with a dot, so the
file has no extension. -/
def temporaryMark : String := ".tmp_"

def temporaryName (disk : Disk) : String := temporaryMark ++ toString disk.temporaries

/-- Replaces a file by way of a temporary file in the same folder, or creates it. -/
def replace (disk : Disk) (names : List String) (content : ByteArray) :
    Except FileError Unit × Disk :=
  let folder := names.dropLast
  let temporary := folder ++ [disk.temporaryName]
  let fault? := disk.faults.head?.join
  let disk := {disk with faults := disk.faults.drop 1, temporaries := disk.temporaries + 1}
  match disk.entry? folder with
  | some .folder =>
      match fault? with
      | some (.write left?) =>
          let disk := match left? with
            | some left => disk.put temporary (.file left)
            | none => disk
          (.error (.other "write failed"), disk)
      | some .rename => (.error (.other "rename failed"), disk.put temporary (.file content))
      | none =>
          if disk.isFolder names then (.error .isFolder, disk.put temporary (.file content))
          else (.ok (), disk.put names (.file content))
  | some (.file _) => (.error .notFolder, disk)
  | none => (.error (disk.absence folder), disk)

end Disk

end WorkSchema
