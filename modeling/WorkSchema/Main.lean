import WorkSchema.Command.Program

/-!
The program as it is run: what a run can need is read from the files outside,
and what it has changed is written back to them.
-/

namespace WorkSchema.Session

/-- Takes over a file or a folder. What is not there or cannot be read stays
unknown. -/
def fetch (names : List String) (disk : Disk) : IO Disk := do
  try
    let place ← IO.FS.realPath (Path.textOf names)
    if ← place.isDir then return disk.put names .folder
    else return disk.put names (.file (← IO.FS.readBinFile place))
  catch _ => return disk

/-- Takes over everything on the way. -/
def fetchWay (names : List String) (disk : Disk) : IO Disk :=
  (List.range names.length).foldlM (fun disk n => fetch (names.take (n + 1)) disk) disk

/-- Takes over a folder and what lies directly in it. -/
def fetchFolder (names : List String) (disk : Disk) : IO Disk := do
  let disk ← fetchWay names disk
  if disk.isFolder names then
    let place ← IO.FS.realPath (Path.textOf names)
    let found ← place.readDir
    found.foldlM (fun disk entry => fetch (names ++ [entry.fileName]) disk) disk
  else return disk

def fetchStore (root : Path) (disk : Disk) : IO Disk := do
  let disk ← fetchFolder (root.names ++ [DirectoryStore.typesFolder]) disk
  let disk ← fetchFolder (root.names ++ [DirectoryStore.categoriesFolder]) disk
  fetchWay (root.names ++ [DirectoryStore.linksFile]) disk

/-- The part of the files outside that a run can need: the configuration, the
store that it leads to, and the payload. -/
def gather (arguments : List String) (environment : List (String × String)) : IO Disk := do
  match Arguments.parse arguments with
  | .run options command =>
      let disk ← match options.config? with
        | some path => fetchWay path.names {}
        | none => pure {}
      let disk ← match Settings.load disk environment options.config? with
        | .ok settings =>
            fetchStore (Program.storeRoot (Program.withRoot options.root? settings)) disk
        | .error _ => pure disk
      match command with
      | .validate _ payload => fetchWay payload.names disk
      | .list | .showType _ | .check => return disk
  | .help | .version | .misuse => return {}

/-- Replaces a file by way of a temporary file beside it. -/
def putFile (names : List String) (content : ByteArray) : IO Unit := do
  let temporary := names.dropLast ++ [Disk.temporaryMark ++ (names.getLast?).getD ""]
  IO.FS.writeBinFile (Path.textOf temporary) content
  IO.FS.rename (Path.textOf temporary) (Path.textOf names)

/-- Writes the folders and files that a run has made or changed. -/
def release (before after : Disk) : IO Unit :=
  after.entries.forM fun (names, entry) => do
    if before.entry? names ≠ some entry then
      match entry with
      | .folder => IO.FS.createDirAll (Path.textOf names)
      | .file content => putFile names content

def readEnvironment : IO (List (String × String)) := do
  let found ← Variable.names.mapM fun name => do return (name, ← IO.getEnv name)
  return found.filterMap fun (name, value?) => value?.map (name, ·)

end WorkSchema.Session

open WorkSchema in
def main (arguments : List String) : IO UInt32 := do
  let environment ← Session.readEnvironment
  let before ← Session.gather arguments environment
  let outcome := Program.run arguments environment before
  try
    Session.release before outcome.disk
    IO.print outcome.output
    IO.eprint outcome.errors
    return outcome.exitCode.toUInt32
  catch error =>
    IO.eprintln (toString error)
    return 1
