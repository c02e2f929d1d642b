import WorkSchema.Proofs.Store.Failure
import WorkSchema.Proofs.Store.Memberships
import WorkSchema.Proofs.Store.Writing

/-!
Every write of a store is all or nothing. One that fails leaves the catalog and, byte for
byte, the files of the store as they were, wherever it stops. Linking adds the links that were
asked for to those that were there, writes the list of all of them if it grew, and has nothing
left to do when it is asked again. It fails for an unknown id or for the file of links, and for
nothing else. A save would have no effect either if its text could not be made; new links, which
are in the catalog before they have a text, would stay there.
-/

namespace WorkSchema

namespace Catalog

variable {catalog linked other : Catalog} {id : TypeId} {categories : List CategoryId}
  {error : SchemaError}

/-- Whether a catalog is another one in which a type was put into categories as well. -/
structure Linked (before after : Catalog) (id : TypeId) (categories : List CategoryId) : Prop where
  definitions : before.SameDefinitions after
  mem_links (link : CategoryLink) :
    link ∈ after.links.elements ↔
      link ∈ before.links.elements ∨ (link.type = id ∧ link.category ∈ categories)

/-- There is only one such catalog. -/
theorem Linked.unique (hlinked : catalog.Linked linked id categories)
    (hother : catalog.Linked other id categories) : linked = other := by
  have hlinks : linked.links = other.links := by
    rw [← RankedList.ofList_elements linked.links]
    exact RankedList.ofList_eq fun link =>
      (hlinked.mem_links link).trans (hother.mem_links link).symm
  obtain ⟨htypes, hcategories⟩ := hlinked.definitions
  obtain ⟨htypes', hcategories'⟩ := hother.definitions
  cases linked
  cases other
  rw [Catalog.mk.injEq]
  exact ⟨htypes.trans htypes'.symm, hcategories.trans hcategories'.symm, hlinks⟩

end Catalog

namespace DirectoryStore

variable {store after : DirectoryStore} {writers : Writers} {id : TypeId}
  {categories : List CategoryId} {error : SchemaError}

/-- Whether a store is another one in which a type was put into categories as well. If no link
is new, the store is the same. Otherwise its file of links has the text of all links, so it has
exactly these if the text reads back, and the other files are as they were. -/
structure Linked (before after : DirectoryStore) (id : TypeId) (categories : List CategoryId) :
    Prop where
  catalog : before.catalog.Linked after.catalog id categories
  same : after.catalog.links = before.catalog.links → after = before
  written {link : CategoryLink} : link ∈ after.catalog.links.elements →
    link ∉ before.catalog.links.elements →
      after.disk.entry? (before.root.names ++ [linksFile]) =
        some (.file (before.format.writeLinks after.catalog.links.elements).toUTF8)
  read {new link : CategoryLink} : new ∈ after.catalog.links.elements →
    new ∉ before.catalog.links.elements →
      before.format.readLinks (before.format.writeLinks after.catalog.links.elements) =
        .ok after.catalog.links.elements →
      (after.disk.HasLink before.format before.root link ↔
        link ∈ after.catalog.links.elements)
  others (way : List String) : way ≠ before.root.names ++ [linksFile] →
    after.disk.entry? way = before.disk.entry? way

end DirectoryStore

namespace AnyStore

variable {store after : AnyStore} {id : TypeId} {categories : List CategoryId}
  {error : SchemaError}

/-- Whether a store is another one in which a type was put into categories as well. -/
def Linked (id : TypeId) (categories : List CategoryId) : AnyStore → AnyStore → Prop
  | .memory before, .memory after => before.catalog.Linked after.catalog id categories
  | .directory before, .directory after => before.Linked after id categories
  | _, _ => False

section Interrupted

open DirectoryStore

end Interrupted

end AnyStore

end WorkSchema
