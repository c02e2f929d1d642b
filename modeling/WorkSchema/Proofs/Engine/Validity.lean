import WorkSchema.Proofs.Engine.Cache
import WorkSchema.Proofs.Engine.Run
import WorkSchema.Proofs.Store.Laws

/-!
Field types are checked before they are stored, so in an engine that began with
valid types every type of the catalog and of the cache is valid, whatever was
done with it and whether or not that succeeded. Unlike the agreement of the
cache, this does not depend on the ids that new types get.
-/

namespace WorkSchema

namespace Schema

/-- Whether the type of every field is valid. -/
def Valid (schema : Schema) : Prop :=
  ∀ name definition, schema.get? name = some definition → definition.type.validate = .ok ()

/-- Whether every field has a name that is not blank and a valid type. -/
def Proper (schema : Schema) : Prop :=
  ∀ name definition, schema.get? name = some definition →
    Text.isBlank name = false ∧ definition.type.validate = .ok ()

theorem Valid.extend {schema fields : Schema} (hschema : schema.Valid) (hfields : fields.Valid) :
    (schema.extend fields).Valid := by
  intro name definition hdefinition
  rw [get?_extend] at hdefinition
  rcases Option.or_eq_some_iff.mp hdefinition with hnew | ⟨_, hold⟩
  · exact hfields name definition hnew
  · exact hschema name definition hold

theorem valid_ofChain {chain : List WorkItemType} (hchain : ∀ type ∈ chain, type.fields.Valid) :
    (ofChain chain).Valid := by
  intro name definition hdefinition
  obtain ⟨type, hmem, hfield⟩ := mem_of_get?_ofChain hdefinition
  exact hchain type hmem name definition hfield

end Schema

theorem Engine.checkDefinitions_eq_ok {fields : Schema} :
    checkDefinitions fields = .ok () ↔ fields.Proper := by
  rw [checkDefinitions, Outcome.forM_eq_ok]
  constructor
  · intro hcheck name definition hdefinition
    have hentry := hcheck (name, definition)
      ((OrderedMap.mem_entries_iff fields name definition).mpr hdefinition)
    simp only at hentry
    split at hentry
    · cases hentry
    · rename_i hname
      split at hentry
      · rename_i hvalid
        exact ⟨Bool.eq_false_iff.mpr hname, hvalid⟩
      · cases hentry
  · rintro hall ⟨name, definition⟩ hmem
    obtain ⟨hname, hvalid⟩ :=
      hall name definition ((OrderedMap.mem_entries_iff fields name definition).mp hmem)
    simp only [hname, hvalid]
    rfl

theorem Engine.valid_of_checkDefinitions {fields : Schema}
    (hcheck : checkDefinitions fields = .ok ()) : fields.Valid :=
  fun name definition hdefinition =>
    (checkDefinitions_eq_ok.mp hcheck name definition hdefinition).2

namespace Catalog

variable {catalog : Catalog}

def Valid (catalog : Catalog) : Prop := ∀ type ∈ catalog.types.elements, type.fields.Valid

theorem Valid.save (hvalid : catalog.Valid) {type : WorkItemType} (htype : type.fields.Valid) :
    (catalog.save type).Valid := by
  intro other hmem
  rcases RankedList.mem_insert hmem with rfl | hold
  · exact htype
  · exact hvalid other hold

theorem Valid.congr {after : Catalog} (hvalid : catalog.Valid)
    (htypes : after.types = catalog.types) : after.Valid := by
  unfold Valid
  rw [htypes]
  exact hvalid

theorem Valid.chain (hvalid : catalog.Valid) {max : Nat} {id : TypeId}
    {chain : List WorkItemType} (hchain : catalog.chain max id = .ok chain) :
    ∀ type ∈ chain, type.fields.Valid := by
  intro type hmem
  have hfound := (chain_eq_ok.mp hchain).1.type?_of_mem hmem
  exact hvalid type (mem_of_type? hfound)

theorem Valid.load (hvalid : catalog.Valid) {id : TypeId} {type : WorkItemType}
    (hload : catalog.load id = .ok type) : type.fields.Valid :=
  hvalid type (mem_of_type? (load_eq_ok.mp hload))

end Catalog

namespace SchemaCache

variable {cache : SchemaCache}

def Valid (cache : SchemaCache) : Prop :=
  ∀ id entry, (id, entry) ∈ cache.entries → entry.schema.Valid

theorem Valid.get? (hvalid : cache.Valid) {id : TypeId} {schema : Schema}
    (hfound : cache.get? id = some schema) : schema.Valid := by
  obtain ⟨entry, hmem, rfl⟩ := mem_of_get? hfound
  exact hvalid id entry hmem

theorem Valid.insert (hvalid : cache.Valid) (generation : Nat) (lineage : List TypeId)
    {schema : Schema} (hschema : schema.Valid) :
    (cache.insert generation lineage schema).2.Valid := by
  unfold SchemaCache.insert
  split
  · exact hvalid
  · split
    · intro id entry hmem
      rcases mem_put hmem with hnew | hold
      · cases hnew
        exact hschema
      · exact hvalid id entry hold
    · exact hvalid

theorem Valid.invalidate (hvalid : cache.Valid) (id : TypeId) : (cache.invalidate id).2.Valid :=
  fun other entry hmem => hvalid other entry (mem_invalidate_iff.mp hmem).1

theorem valid_clear (cache : SchemaCache) : cache.clear.Valid := by
  intro id entry hmem
  cases hmem

end SchemaCache

namespace Engine

variable {σ α β : Type} [TypeStore σ]

/-- Whether all types that the engine holds are valid, in its store and in its
cache. -/
structure Valid (engine : Engine σ) : Prop where
  catalog : engine.catalog.Valid
  cache : engine.cache.Valid

/-- Whether an action leaves every valid engine valid, with a result that has the
given property if there is one. -/
def Keeps (action : EngineM σ α) (result : α → Prop) : Prop :=
  ∀ engine : Engine σ, engine.Valid →
    Outcome.Ensures action engine (fun value after => after.Valid ∧ result value)
      (fun after => after.Valid)

variable {action : EngineM σ α} {holds : α → Prop} {result : β → Prop}

theorem keeps_lift (outcome : Except SchemaError α) :
    Keeps (σ := σ) (liftResult outcome) fun value => outcome = .ok value := by
  intro engine hvalid
  cases outcome with
  | ok value => exact ⟨hvalid, rfl⟩
  | error error => exact hvalid

theorem keeps_pure {value : β} (hresult : result value) :
    Keeps (σ := σ) (pure value) result :=
  fun _ hvalid => ⟨hvalid, hresult⟩

theorem keeps_throw (error : SchemaError) : Keeps (σ := σ) (throw error) result :=
  fun _ hvalid => hvalid

theorem Keeps.bind {rest : α → EngineM σ β} (hfirst : Keeps action holds)
    (hrest : ∀ value, holds value → Keeps (rest value) result) :
    Keeps (action >>= rest) result := by
  intro engine hvalid
  apply (hfirst engine hvalid).bind
  · exact fun after hafter => hafter
  · rintro value after ⟨hafter, hvalue⟩
    exact hrest value hvalue after hafter

theorem Keeps.mono {holds' : α → Prop} (hkeeps : Keeps action holds)
    (hweaken : ∀ value, holds value → holds' value) : Keeps action holds' := by
  intro engine hvalid
  apply (hkeeps engine hvalid).mono
  · rintro value after ⟨hafter, hvalue⟩
    exact ⟨hafter, hweaken value hvalue⟩
  · exact fun after hafter => hafter

theorem keeps_get {rest : Engine σ → EngineM σ β}
    (hrest : ∀ engine, engine.Valid → Keeps (rest engine) result) : Keeps (get >>= rest) result :=
  fun engine hvalid => hrest engine hvalid engine hvalid

theorem keeps_ask (question : Catalog → Except SchemaError α)
    (hanswer : ∀ catalog, catalog.Valid → ∀ value, question catalog = .ok value → holds value) :
    Keeps (σ := σ) (ask question) holds := by
  apply keeps_get
  intro engine hvalid
  apply (keeps_lift (question engine.catalog)).mono
  exact hanswer engine.catalog hvalid.catalog

theorem keeps_asked (question : Catalog → Except SchemaError α) :
    Keeps (σ := σ) (ask question) fun _ => True :=
  keeps_ask question fun _ _ _ _ => trivial

theorem Keeps.map (hkeeps : Keeps action holds) (f : α → β) :
    Keeps (do return f (← action)) fun _ => True :=
  hkeeps.bind fun _ _ => keeps_pure trivial

theorem keeps_forM {f : α → EngineM σ Unit} (hkeeps : ∀ item, Keeps (f item) fun _ => True)
    (items : List α) : Keeps (items.forM f) fun _ => True := by
  induction items with
  | nil => exact keeps_pure trivial
  | cons item rest ih => exact (hkeeps item).bind fun _ _ => ih

theorem keeps_mapM {f : α → EngineM σ β} (hkeeps : ∀ item, Keeps (f item) fun _ => True)
    (items : List α) : Keeps (items.mapM f) fun _ => True := by
  induction items with
  | nil => exact keeps_pure trivial
  | cons item rest ih =>
      rw [List.mapM_cons]
      apply (hkeeps item).bind
      intro _ _
      apply ih.bind
      exact fun _ _ => keeps_pure trivial

theorem keeps_onCache {change : SchemaCache → α × SchemaCache}
    (hchange : ∀ cache : SchemaCache, cache.Valid → (change cache).2.Valid) :
    Keeps (σ := σ) (onCache change) fun _ => True :=
  fun engine hvalid => ⟨⟨hvalid.catalog, hchange engine.cache hvalid.cache⟩, trivial⟩

theorem keeps_onStore {write : StoreM σ Unit} {effect : Catalog → Catalog → Prop}
    (hwrites : Writes write effect)
    (heffect : ∀ before after, before.Valid → effect before after → after.Valid) :
    Keeps (onStore write) fun _ => True := by
  intro engine hvalid
  unfold Outcome.Ensures
  simp only [onStore, EStateM.run]
  cases hrun : write engine.store with
  | ok value store =>
      exact ⟨⟨heffect _ _ hvalid.catalog (hwrites.ok hrun), hvalid.cache⟩, trivial⟩
  | error error store =>
      have hsame : TypeStore.catalog store = engine.catalog := hwrites.error hrun
      refine ⟨?_, hvalid.cache⟩
      change (TypeStore.catalog store).Valid
      rw [hsame]
      exact hvalid.catalog

theorem keeps_chain (id : TypeId) :
    Keeps (σ := σ) (chain id) fun chain => ∀ type ∈ chain, type.fields.Valid := by
  apply keeps_get
  intro engine _
  apply keeps_ask
  exact fun catalog hcatalog chain hchain => hcatalog.chain hchain

theorem keeps_load (id : TypeId) :
    Keeps (σ := σ) (load id) fun type => type.fields.Valid :=
  keeps_ask _ fun _ hcatalog _ hload => hcatalog.load hload

private theorem keeps_cached? (id : TypeId) :
    Keeps (σ := σ) (cached? id) fun found? => ∀ schema, found? = some schema → schema.Valid := by
  apply keeps_get
  intro engine hengine
  apply keeps_pure
  intro schema hfound
  split at hfound
  · exact hengine.cache.get? hfound
  · cases hfound

/-- Whatever is resolved, afresh or from the cache, is a valid schema. -/
theorem keeps_resolveSchema (id : TypeId) :
    Keeps (σ := σ) (resolveSchema id) fun schema => schema.Valid := by
  apply (keeps_cached? id).bind
  intro found? hfound
  cases found? with
  | some schema => exact keeps_pure (hfound schema rfl)
  | none =>
      apply keeps_get
      intro engine _
      apply (keeps_chain id).bind
      intro chain hchain
      have hschema : (Schema.ofChain chain).Valid := Schema.valid_ofChain hchain
      split
      · apply (keeps_onCache fun cache hcache => hcache.insert _ _ hschema).bind
        exact fun _ _ => keeps_pure hschema
      · exact keeps_pure hschema

theorem keeps_resolve (id : TypeId) : Keeps (σ := σ) (resolve id) fun _ => True := by
  apply (keeps_resolveSchema id).bind
  intro schema _
  apply (keeps_load id).bind
  exact fun _ _ => keeps_pure trivial

theorem keeps_validateFields (id : TypeId) (payload : Payload) :
    Keeps (σ := σ) (validateFields id payload) fun _ => True := by
  apply (keeps_resolveSchema id).bind
  intro schema _
  apply keeps_get
  intro engine _
  split
  · exact keeps_pure trivial
  · exact keeps_throw _

private theorem keeps_inheritedSchema (request : NewType) :
    Keeps (σ := σ) (inheritedSchema request) fun _ => True := by
  unfold inheritedSchema
  split
  · exact keeps_pure trivial
  · rename_i base _
    apply (keeps_chain base).bind
    intro ancestors _
    apply keeps_get
    intro engine _
    dsimp only
    have hbase : Keeps (σ := σ) (resolveSchema base) fun _ => True :=
      (keeps_resolveSchema base).mono fun _ _ => trivial
    split
    · exact (keeps_throw _).bind fun _ (_ : True) => hbase
    · exact hbase

section Writes

variable [LawfulStore σ]

theorem keeps_save {type : WorkItemType} (htype : type.fields.Valid) :
    Keeps (σ := σ) (onStore (TypeStore.save type)) fun _ => True := by
  apply keeps_onStore (LawfulStore.save type)
  rintro before after hbefore rfl
  exact hbefore.save htype

theorem keeps_link (id : TypeId) (categories : List CategoryId) :
    Keeps (σ := σ) (onStore (TypeStore.link id categories)) fun _ => True := by
  apply keeps_onStore (LawfulStore.link id categories)
  exact fun before after hbefore hsame => hbefore.congr hsame.1

theorem keeps_create (request : NewType) (id : TypeId) :
    Keeps (σ := σ) (create request id) fun _ => True := by
  apply (keeps_lift (checkName request.name)).bind
  intro _ _
  apply (keeps_lift (checkDefinitions request.fields)).bind
  intro _ hcheck
  apply (keeps_inheritedSchema request).bind
  intro inherited _
  have hfields : (request.toType id).fields.Valid := valid_of_checkDefinitions hcheck
  have hcategory : ∀ category : CategoryId, Keeps (σ := σ)
      (do let _ ← ask (·.loadCategory category)) fun _ => True := by
    intro category
    apply (keeps_asked (·.loadCategory category)).bind
    exact fun _ _ => keeps_pure trivial
  apply (keeps_forM hcategory request.categories).bind
  intro _ _
  apply (keeps_save hfields).bind
  intro _ _
  dsimp only
  split
  · exact keeps_pure trivial
  · apply (keeps_link id request.categories).bind
    exact fun _ _ => keeps_pure trivial

theorem keeps_addFields (id : TypeId) (fields : Schema) :
    Keeps (σ := σ) (addFields id fields) fun _ => True := by
  apply (keeps_lift (checkDefinitions fields)).bind
  intro _ hcheck
  apply (keeps_resolveSchema id).bind
  intro current _
  apply (keeps_lift (checkCompatible current fields)).bind
  intro _ _
  apply (keeps_load id).bind
  intro type htype
  have hfields : ({type with fields := type.fields.extend fields} : WorkItemType).fields.Valid :=
    htype.extend (valid_of_checkDefinitions hcheck)
  apply (keeps_save hfields).bind
  intro _ _
  apply (keeps_onCache fun cache hcache => hcache.invalidate id).bind
  exact fun _ _ => keeps_resolve id

theorem keeps_createCategory (category : Category) :
    Keeps (σ := σ) (createCategory category) fun _ => True := by
  apply (keeps_lift (checkName category.name)).bind
  intro _ _
  have hsave : Keeps (σ := σ) (onStore (TypeStore.saveCategory category)) fun _ => True := by
    apply keeps_onStore (LawfulStore.saveCategory category)
    rintro before after hbefore rfl
    exact hbefore.congr rfl
  apply hsave.bind
  exact fun _ _ => keeps_pure trivial

/-- Every operation keeps an engine valid, also one that fails. -/
theorem keeps_perform (operation : Operation) :
    Keeps (σ := σ) operation.perform fun _ => True := by
  cases operation with
  | create request id => exact (keeps_create request id).map Response.resolved
  | addFields id fields => exact (keeps_addFields id fields).map Response.resolved
  | load id => exact (keeps_asked (·.load id)).map Response.type
  | resolve id => exact (keeps_resolve id).map Response.resolved
  | resolveSchema id =>
      exact (keeps_resolveSchema id).map Response.schema
  | validateFields id payload => exact (keeps_validateFields id payload).map Response.values
  | validateUpdate id current changes =>
      exact (keeps_validateFields id (.update current changes)).map Response.values
  | list | listCategories | clone => exact fun engine hvalid => ⟨hvalid, trivial⟩
  | createCategory category => exact (keeps_createCategory category).map Response.category
  | linkCategories id categories => exact (keeps_link id categories).map fun _ => Response.done
  | categoriesOf id =>
      apply Keeps.map
      apply (keeps_asked (·.categoriesOf id)).bind
      exact fun ids _ => keeps_mapM (fun category => keeps_asked (·.loadCategory category)) ids
  | typesIn category =>
      apply Keeps.map
      apply (keeps_asked (·.typesIn category)).bind
      exact fun ids _ => keeps_mapM (fun id => keeps_asked (·.load id)) ids
  | clearCache =>
      have hclear : Keeps (σ := σ) clearCache fun _ => True :=
        keeps_onCache fun cache _ => SchemaCache.valid_clear cache
      exact hclear.map fun _ => Response.done
  | invalidate id =>
      have hdrop : Keeps (σ := σ) (onCache (·.invalidate id)) fun _ => True :=
        keeps_onCache fun cache hcache => hcache.invalidate id
      exact hdrop.map Response.dropped

theorem Valid.next {engine : Engine σ} (hvalid : engine.Valid) (operation : Operation) :
    (engine.next operation).Valid := by
  apply Outcome.Ensures.endState
  apply (keeps_perform operation engine hvalid).mono
  · exact fun _ after hafter => hafter.1
  · exact fun after hafter => hafter

theorem Valid.after {engine : Engine σ} (hvalid : engine.Valid) (operations : List Operation) :
    (engine.after operations).Valid :=
  after_induction hvalid (fun _ operation hengine => hengine.next operation) operations

end Writes

end Engine

end WorkSchema
