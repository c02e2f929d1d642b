import WorkSchema.Proofs.Engine.Failure
import WorkSchema.Proofs.Engine.Transparency
import WorkSchema.Proofs.Engine.WellFormed
import WorkSchema.Proofs.Store.Writing

/-!
What the creation of a type needs and what it does. Unless the disk fails, a request is
refused exactly if it or its base is at fault, and then nothing is written. The schema that
is returned was put together before the type was there, from the schema of the base. It is
what the type resolves to afterwards, from the whole chain.
-/

namespace WorkSchema

namespace Catalog

variable {rules : Rules} {before after : Catalog} {request : NewType}

/-- What a request must be, and what it must find in a catalog. A chain of the base comes to
an end, so it neither comes back to a type nor lacks one. -/
structure Admits (catalog : Catalog) (max : Nat) (request : NewType) : Prop where
  named : Text.isBlank request.name = false
  fields : request.fields.Proper
  based : ∀ base, request.base? = some base →
    ∃ ancestors, catalog.Lineage base ancestors ∧ ancestors.length ≤ max
  categorized : ∀ category ∈ request.categories, (catalog.category? category).isSome

theorem accept_iff_admits :
    (∃ inherited, before.accept rules request = .ok inherited) ↔
      before.Admits rules.maxDepth request := by
  simp only [accept_eq_ok, inherited_eq_ok, Engine.checkName_eq_ok, Engine.checkDefinitions_eq_ok]
  constructor
  · rintro ⟨inherited, hname, hfields, hinherited, hcategories⟩
    refine ⟨hname, hfields, ?_, hcategories⟩
    intro base hbase
    rcases hinherited with ⟨hnone, _⟩ | ⟨other, ancestors, hother, hlineage, hroom, _⟩
    · rw [hbase] at hnone
      cases hnone
    · rw [hbase] at hother
      cases hother
      exact ⟨ancestors, hlineage, hroom⟩
  · rintro ⟨hname, hfields, hbased, hcategories⟩
    cases hbase : request.base? with
    | none => exact ⟨{}, hname, hfields, Or.inl ⟨rfl, rfl⟩, hcategories⟩
    | some base =>
        obtain ⟨ancestors, hlineage, hroom⟩ := hbased base hbase
        exact ⟨_, hname, hfields, Or.inr ⟨base, ancestors, rfl, hlineage, hroom, rfl⟩, hcategories⟩

/-- A type under an unused id changes nothing about the others, not even why some cannot be
resolved: no base link leads to it. -/
theorem flatten_of_created {type : WorkItemType} (hunused : before.Unused type.id)
    (htypes : after.types = (before.save type).types) {other : TypeId} (hother : other ≠ type.id)
    (max : Nat) : after.flatten max other = before.flatten max other := by
  have hfound : ∀ id, id ≠ type.id →
      after.type? id = (before.type? id).map fun kept => kept := by
    intro id hid
    rw [type?_congr htypes, type?_save, if_neg hid, Option.map_id']
  have hclosed : ∀ id kept base, id ≠ type.id → before.type? id = some kept →
      kept.base? = some base → base ≠ type.id := by
    rintro id kept base _ hkept hbase rfl
    exact (hunused kept (mem_of_type? hkept)).2 hbase
  rw [flatten, flatten, chain_map (fun _ => rfl) hfound (fun _ _ _ => rfl) hclosed max hother]
  cases before.chain max other <;> simp [Except.map]

end Catalog

namespace AnyStore

variable {rules : Rules} {store after : AnyStore} {request : NewType} {id : TypeId}

/-- A creation that succeeds has saved the type and made all of its links. -/
theorem catalog_of_create {resolved : ResolvedType}
    (hrun : (TypeStore.create rules request id).run store = .ok resolved after) :
    ((TypeStore.catalog store).save (request.toType id)).link id request.categories =
      .ok (TypeStore.catalog after) := by
  obtain ⟨inherited, saved, _, hsave, hlink, _⟩ := TypeStore.create_eq_ok.mp hrun
  have hsaved : TypeStore.catalog saved = (TypeStore.catalog store).save (request.toType id) :=
    (LawfulStore.save _).ok hsave
  rw [← hsaved]
  unfold TypeStore.linkNew at hlink
  split at hlink
  · rename_i hnone
    cases hlink
    have hload := Catalog.load_save (TypeStore.catalog store) (request.toType id)
    rw [← hsaved] at hload
    rw [List.isEmpty_iff.mp hnone, Catalog.link_eq_ok]
    exact ⟨Option.isSome_of_eq_some (Catalog.load_eq_ok.mp hload), by simp, rfl⟩
  · exact (performs_link id request.categories).ok hlink

/-- One that fails, though the disk does not, has failed at a check. -/
theorem accept_of_create {error : SchemaError}
    (hrun : (TypeStore.create rules request id).run store = .error error after)
    (hdisk : ∀ failure, error ≠ .file failure) :
    (TypeStore.catalog store).accept rules request = .error error ∧ after = store := by
  rcases TypeStore.create_eq_error.mp hrun with hreject | ⟨inherited, haccept, hwrite⟩
  · exact hreject
  · exfalso
    rcases hwrite with hsave | ⟨saved, hsave, hlink⟩
    · rcases (performs_save _).error hsave with hrefused | ⟨failure, hfile⟩
      · cases hrefused
      · exact hdisk failure hfile
    · unfold TypeStore.linkNew at hlink
      split at hlink
      · cases hlink
      · obtain ⟨linked, hlinked⟩ := Catalog.link_of_accept haccept id
        rw [← (LawfulStore.save _).ok hsave] at hlinked
        rcases (performs_link _ _).error hlink with hrefused | ⟨failure, hfile⟩
        · rw [hlinked] at hrefused
          cases hrefused
        · exact hdisk failure hfile

end AnyStore

namespace Engine

/-- What creating a type does: there is one type more, as it was requested, and in the
categories that were asked for. It resolves to the schema that was returned, whether or not
schemas are kept, and the other types are what they were and resolve to what they did. -/
structure Created {σ : Type} [TypeStore σ] (before after : Engine σ) (request : NewType)
    (id : TypeId) (resolved : ResolvedType) : Prop where
  type : resolved.type = request.toType id
  types (type : WorkItemType) : type ∈ after.catalog.types.elements ↔
    type = request.toType id ∨ type ∈ before.catalog.types.elements
  categories : after.catalog.categories = before.catalog.categories
  links (link : CategoryLink) : link ∈ after.catalog.links.elements ↔
    (link.type = id ∧ link.category ∈ request.categories) ∨ link ∈ before.catalog.links.elements
  resolves (keeps : Bool) :
    (after.keeping keeps).answer (.resolveSchema id) = .ok (.schema resolved.schema)
  others (other : TypeId) : other ≠ id →
    after.answer (.load other) = before.answer (.load other) ∧
      after.answer (.resolveSchema other) = before.answer (.resolveSchema other)

theorem created_of_run {before after : Engine AnyStore} {request : NewType} {id : TypeId}
    {resolved : ResolvedType} (hagrees : before.CacheAgrees) (hagrees' : after.CacheAgrees)
    (hrules : after.rules = before.rules) (hunused : before.catalog.Unused id)
    (hrun : (TypeStore.create before.rules request id).run before.store =
      .ok resolved after.store) : before.Created after request id resolved := by
  obtain ⟨inherited, _, haccept, _, _, rfl⟩ := TypeStore.create_eq_ok.mp hrun
  have hcatalog : after.catalog = {before.catalog.save (request.toType id) with
      links := before.catalog.links.insertAll (request.categories.map (⟨id, ·⟩))} :=
    (Catalog.link_eq_ok.mp (AnyStore.catalog_of_create hrun)).2.2
  have htypes : after.catalog.types = (before.catalog.save (request.toType id)).types := by
    rw [hcatalog]
  constructor
  case type => rfl
  case types =>
    intro type
    -- No stored type has the new id, so the insertion replaces none.
    have hrank : rank type ≠ rank (request.toType id) ∧ type ∈ before.catalog.types.elements ↔
        type ∈ before.catalog.types.elements := by
      refine and_iff_right_of_imp fun hmem hrank => ?_
      exact (hunused type hmem).1 (WorkItemType.rank_eq_iff.mp hrank)
    rw [htypes, Catalog.save, RankedList.mem_insert_iff, hrank]
  case categories => rw [hcatalog, Catalog.save]
  case links =>
    intro link
    have hnew : link ∈ request.categories.map (CategoryLink.mk id ·) ↔
        link.type = id ∧ link.category ∈ request.categories := by
      obtain ⟨type, category⟩ := link
      simp [eq_comm, and_comm]
    rw [hcatalog]
    simp only [RankedList.mem_insertAll_iff fun _ _ => CategoryLink.rank_injective, hnew]
  case resolves =>
    have hschema := Catalog.flatten_created (Catalog.accept_eq_ok.mp haccept).2.2.1 hunused htypes
    rw [← hrules] at hschema
    exact answer_keeping hagrees' hschema
  case others =>
    intro other hother
    have hne : other ≠ (request.toType id).id := hother
    have hload : after.catalog.load other = before.catalog.load other := by
      rw [Catalog.load, Catalog.load, Catalog.type?_congr htypes, Catalog.type?_save, if_neg hne]
    constructor
    · rw [answer_of_reply hagrees' rfl, answer_of_reply hagrees rfl, hload]
    · exact answer_resolveSchema_congr hagrees hagrees' hrules
        (Catalog.flatten_of_created hunused htypes hne _)

/-- In every state that an engine reaches, whatever its store held at first, a type can be
created under an unused id exactly if it will be usable, unless the disk fails. A creation
that succeeds adds the type and does nothing else, and one that fails does nothing. -/
theorem create_effect (start : Engine AnyStore) (operations : List Operation) (request : NewType)
    (id : TypeId) (hempty : start.cache.entries = [])
    (hfresh : start.FreshIds (operations ++ [.create request id]))
    (hdisk : ∀ failure, (start.after operations).answer (.create request id) ≠
      .error (.file failure)) :
    let before := start.after operations
    let after := before.next (.create request id)
    let answer := before.answer (.create request id)
    ((∃ resolved, answer = .ok (.resolved resolved)) ↔
        before.catalog.Admits start.settings.maxInheritanceDepth request) ∧
      (∀ resolved, answer = .ok (.resolved resolved) →
        before.Created after request id resolved) ∧
      ∀ error, answer = .error error → after.store = before.store := by
  intro before after answer
  obtain ⟨hbefore, hlast, _⟩ := (freshIds_append start operations _).mp hfresh
  have hunused : before.catalog.Unused id := hlast id rfl
  obtain ⟨hagrees, hrules, _⟩ := after_evolves (cacheAgrees_of_empty hempty) hbefore
  obtain ⟨hagrees', hrules', _⟩ := next_evolves hagrees hlast
  have hadmits : (∃ inherited, before.catalog.accept before.rules request = .ok inherited) ↔
      before.catalog.Admits start.settings.maxInheritanceDepth request := by
    rw [show before.rules = start.rules from hrules]
    exact Catalog.accept_iff_admits
  obtain ⟨hanswer, hstore⟩ :=
    (follows_create hagrees request hunused).answer_next (.create request id) .resolved rfl
  rw [← hadmits]
  cases hrun : (TypeStore.create before.rules request id).run before.store with
  | ok resolved store =>
      rw [hrun] at hanswer hstore
      obtain rfl : after.store = store := hstore
      have hok : answer = .ok (.resolved resolved) := hanswer
      obtain ⟨inherited, _, haccept, _⟩ := TypeStore.create_eq_ok.mp hrun
      rw [hok]
      refine ⟨⟨fun _ => ⟨inherited, haccept⟩, fun _ => ⟨resolved, rfl⟩⟩, ?_, nofun⟩
      intro other hother
      cases hother
      exact created_of_run hagrees hagrees' hrules' hunused hrun
  | error error store =>
      rw [hrun] at hanswer hstore
      have herror : answer = .error error := hanswer
      have hother : ∀ failure, error ≠ .file failure := by
        rintro failure rfl
        exact hdisk failure herror
      obtain ⟨hreject, hsame⟩ := AnyStore.accept_of_create hrun hother
      rw [herror]
      refine ⟨⟨nofun, ?_⟩, nofun, fun _ _ => hstore.trans hsame⟩
      rintro ⟨inherited, haccept⟩
      cases haccept.symm.trans hreject

/-- A category, and a type with two fields. -/
def taskRun : List Operation :=
  let text : FieldDefinition := {type := .simple .string}
  [ .createCategory issues,
    .create {name := "Task", fields := .ofList [("title", text), ("effort", text)]} (.ofNat 1) ]

/-- Asks for a type below that one, with a field more and another redefined, in the category. -/
def crashRequest : NewType :=
  let text : FieldDefinition := {type := .simple .string}
  { name := "Crash"
    base? := some (.ofNat 1)
    fields := .ofList [("trace", text), ("title", {text with required := true})]
    categories := [issues.id] }

theorem create_effect_inheriting :
    let start : Engine AnyStore := {store := .memory {}}
    let before := start.after taskRun
    let operation := Operation.create crashRequest (.ofNat 2)
    start.FreshIds (taskRun ++ [operation]) ∧
      (∀ failure, before.answer operation ≠ .error (.file failure)) ∧
      before.catalog.Admits 32 crashRequest ∧
      ∃ resolved, before.answer operation = .ok (.resolved resolved) ∧
        resolved.schema.keys = ["title", "effort", "trace"] ∧
        before.Created (before.next operation) crashRequest (.ofNat 2) resolved := by
  intro start before operation
  have hfresh : start.FreshIds (taskRun ++ [operation]) := by decide
  have hanswer : ∃ resolved, before.answer operation = .ok (.resolved resolved) ∧
      resolved.schema.keys = ["title", "effort", "trace"] := ⟨_, rfl, rfl⟩
  obtain ⟨resolved, hresolved, hkeys⟩ := hanswer
  have hdisk : ∀ failure, before.answer operation ≠ .error (.file failure) := by
    intro failure
    rw [hresolved]
    nofun
  obtain ⟨hadmits, hcreated, _⟩ :=
    create_effect start taskRun crashRequest (.ofNat 2) rfl hfresh hdisk
  exact ⟨hfresh, hdisk, hadmits.mp ⟨resolved, hresolved⟩, resolved, hresolved, hkeys,
    hcreated resolved hresolved⟩

end Engine

end WorkSchema
