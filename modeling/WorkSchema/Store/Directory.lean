import WorkSchema.Store.Format
import WorkSchema.Store.Interface

/-!
A store in a folder of definition files: one file for each type and category,
under the id in its name, and one file for all links. Everything is read when
the store is opened. A definition goes to its file before the catalog is changed;
links go to the catalog first, and are taken back if their file cannot be written.
-/

namespace WorkSchema

structure DirectoryStore where
  format : DefinitionFormat
  root : Path
  catalog : Catalog := {}
  skipped : List SkippedFile := []
  disk : Disk

namespace DirectoryStore

def typesFolder : String := "types"

def categoriesFolder : String := "categories"

def linksFile : String := "links.yaml"

/-- The extension of a file that holds a definition. Other files are ignored. -/
def extension : String := "yaml"

def fileName (id : String) : String := id ++ "." ++ extension

def typeFile (root : Path) (id : TypeId) : List String :=
  root.names ++ [typesFolder, fileName id.toText]

def categoryFile (root : Path) (id : CategoryId) : List String :=
  root.names ++ [categoriesFolder, fileName id.toText]

/-- Replaces a file of text on a disk. -/
def replaceText (names : List String) (text : String) : EStateM SchemaError Disk Unit :=
  fun disk =>
    match disk.replace names text.toUTF8 with
    | (.ok (), disk) => .ok () disk
    | (.error error, disk) => .error (.file error) disk

def makeFolders (names : List String) : EStateM SchemaError Disk Unit :=
  fun disk =>
    match disk.makeFolders names with
    | (.ok (), disk) => .ok () disk
    | (.error error, disk) => .error (.file error) disk

/-- What the files of a folder define, in listing order, and the files that
cannot be read as definitions. -/
structure Loaded (α : Type) where
  items : List α := []
  skipped : List SkippedFile := []

def loadFiles {α : Type} (read : String → Decoded α) (disk : Disk) (folder : Path)
    (names : List String) : List String → Except SchemaError (Loaded α)
  | [] => return {}
  | file :: rest =>
      if Path.extensionOf? file = some extension then
        match disk.readText (names ++ [file]) with
        | .error error => throw (.file error)
        | .ok text => do
            let loaded ← loadFiles read disk folder names rest
            match read text with
            | .ok item => return {loaded with items := item :: loaded.items}
            | .error error =>
                return {loaded with
                  skipped := {path := folder.join file, error} :: loaded.skipped}
      else loadFiles read disk folder names rest

/-- Loads a folder of the store. -/
def loadFolder {α : Type} (read : String → Decoded α) (disk : Disk) (root : Path)
    (folder : String) : Except SchemaError (Loaded α) :=
  let names := root.names ++ [folder]
  match disk.list names with
  | .ok files => loadFiles read disk (root.join folder) names files
  | .error error => throw (.file error)

def loadLinks (format : DefinitionFormat) (disk : Disk) (root : Path) :
    Except SchemaError (List CategoryLink) :=
  let names := root.names ++ [linksFile]
  if disk.contains names then
    match disk.readText names with
    | .error error => throw (.file error)
    | .ok text =>
        match format.readLinks text with
        | .ok links => return links
        | .error error => throw (.malformedFile error)
  else return []

/-- The catalog of a folder. Links whose ends are not both known are left out. -/
def load (format : DefinitionFormat) (disk : Disk) (root : Path) :
    Except SchemaError (Catalog × List SkippedFile) := do
  let types ← loadFolder format.readType disk root typesFolder
  let categories ← loadFolder format.readCategory disk root categoriesFolder
  let catalog := types.items.foldl Catalog.save {}
  let catalog := categories.items.foldl Catalog.saveCategory catalog
  let links ← loadLinks format disk root
  return (links.foldl Catalog.addKnownLink catalog, types.skipped ++ categories.skipped)

/-- Writes the categories that have no file yet. -/
def seed (format : DefinitionFormat) (root : Path) : List Category → EStateM SchemaError Disk Unit
  | [] => return ()
  | category :: rest => do
      let names := categoryFile root category.id
      unless (← get).contains names do
        replaceText names (format.writeCategory category)
      seed format root rest

/-- Opens the store in a folder, which is made if it is not there. The default
categories are added to it, except those that it has a file for. -/
def openAt (format : DefinitionFormat) (root : Path) (defaults : List Category) :
    EStateM SchemaError Disk DirectoryStore := do
  makeFolders (root.names ++ [typesFolder])
  makeFolders (root.names ++ [categoriesFolder])
  seed format root defaults
  let disk ← get
  let (catalog, skipped) ← liftResult (load format disk root)
  return {format, root, catalog, skipped, disk}

/-- Replaces a file of the store. -/
def write (names : List String) (text : String) : StoreM DirectoryStore Unit :=
  fun store =>
    match replaceText names text store.disk with
    | .ok () disk => .ok () {store with disk}
    | .error error disk => .error error {store with disk}

def setCatalog (change : Catalog → Catalog) : StoreM DirectoryStore Unit :=
  modify fun store => {store with catalog := change store.catalog}

/-- What makes the texts of files. Each of them can fail to. -/
structure Writers where
  type : WorkItemType → Except SchemaError String
  category : Category → Except SchemaError String
  links : List CategoryLink → Except SchemaError String

/-- Those of a format make every text. -/
def writersOf (format : DefinitionFormat) : Writers where
  type type := .ok (format.writeType type)
  category category := .ok (format.writeCategory category)
  links links := .ok (format.writeLinks links)

def saveBy (writers : Writers) (type : WorkItemType) : StoreM DirectoryStore Unit := do
  let store ← get
  let text ← liftResult (writers.type type)
  write (typeFile store.root type.id) text
  setCatalog (·.save type)

def saveCategoryBy (writers : Writers) (category : Category) : StoreM DirectoryStore Unit := do
  let store ← get
  let text ← liftResult (writers.category category)
  write (categoryFile store.root category.id) text
  setCatalog (·.saveCategory category)

/-- Links a type. The catalog has the links before they are written, and gets back those
that it had if the file cannot be replaced. The file is written only if there is a new
link. -/
def linkBy (writers : Writers) (id : TypeId) (categories : List CategoryId) :
    StoreM DirectoryStore Unit := do
  let store ← get
  let linked ← liftResult (store.catalog.link id categories)
  set {store with catalog := linked}
  unless linked.links.size = store.catalog.links.size do
    let text ← liftResult (writers.links linked.links.elements)
    try
      write (store.root.names ++ [linksFile]) text
    catch error =>
      setCatalog fun catalog =>
        {catalog with links := .ofList store.catalog.links.elements}
      throw error

def save (type : WorkItemType) : StoreM DirectoryStore Unit := do
  saveBy (writersOf (← get).format) type

def saveCategory (category : Category) : StoreM DirectoryStore Unit := do
  saveCategoryBy (writersOf (← get).format) category

def link (id : TypeId) (categories : List CategoryId) : StoreM DirectoryStore Unit := do
  linkBy (writersOf (← get).format) id categories

instance : TypeStore DirectoryStore where
  catalog := DirectoryStore.catalog
  save := save
  saveCategory := saveCategory
  link := link
  skipped := DirectoryStore.skipped

end DirectoryStore

end WorkSchema
