import WorkSchema.Proofs.Engine.Uncached

/-!
What each operation that writes does to a store, and what a step can make of a catalog.
A creation writes twice, so it is the one operation that can fail after a write.
-/

namespace WorkSchema

namespace TypeStore

variable {σ : Type} [TypeStore σ] {rules : Rules} {store after : σ} {error : SchemaError}

/-- The links of a type that was just saved are written if there are any. -/
def linkNew (request : NewType) (id : TypeId) : StoreM σ Unit :=
  if request.categories.isEmpty then pure () else link id request.categories

theorem create_eq (rules : Rules) (request : NewType) (id : TypeId) :
    create (σ := σ) rules request id = (do
      let inherited ← consult (·.accept rules request)
      save (request.toType id)
      linkNew request id
      return {type := request.toType id, schema := inherited.extend request.fields}) := by
  unfold create linkNew
  cases request.categories.isEmpty <;> rfl

/-- A creation succeeds if it passes the checks and both of its writes succeed. -/
theorem create_eq_ok {request : NewType} {id : TypeId} {resolved : ResolvedType} :
    (create rules request id).run store = .ok resolved after ↔
      ∃ inherited saved, (catalog store).accept rules request = .ok inherited ∧
        (save (request.toType id)).run store = .ok () saved ∧
        (linkNew request id).run saved = .ok () after ∧
        resolved = {type := request.toType id, schema := inherited.extend request.fields} := by
  simp only [create_eq, Outcome.run_bind_eq_ok, consult_eq_ok, EStateM.run_pure,
    EStateM.Result.ok.injEq]
  constructor
  · rintro ⟨inherited, _, ⟨haccept, rfl⟩, _, saved, hsave, _, linked, hlink, rfl, rfl⟩
    exact ⟨inherited, saved, haccept, hsave, hlink, rfl⟩
  · rintro ⟨inherited, saved, haccept, hsave, hlink, rfl⟩
    exact ⟨inherited, store, ⟨haccept, rfl⟩, (), saved, hsave, (), after, hlink, rfl, rfl⟩

/-- A creation fails at a check, at its first write or at its second. -/
theorem create_eq_error {request : NewType} {id : TypeId} :
    (create rules request id).run store = .error error after ↔
      ((catalog store).accept rules request = .error error ∧ after = store) ∨
        ∃ inherited, (catalog store).accept rules request = .ok inherited ∧
          ((save (request.toType id)).run store = .error error after ∨
            ∃ saved, (save (request.toType id)).run store = .ok () saved ∧
              (linkNew request id).run saved = .error error after) := by
  simp only [create_eq, Outcome.run_bind_eq_error, consult_eq_error, consult_eq_ok,
    EStateM.run_pure, reduceCtorEq, and_false, exists_false, or_false]
  constructor
  · rintro (hreject | ⟨inherited, _, ⟨haccept, rfl⟩, hwrite⟩)
    · exact Or.inl hreject
    · rcases hwrite with hsave | ⟨_, saved, hsave, hlink⟩
      · exact Or.inr ⟨inherited, haccept, Or.inl hsave⟩
      · exact Or.inr ⟨inherited, haccept, Or.inr ⟨saved, hsave, hlink⟩⟩
  · rintro (hreject | ⟨inherited, haccept, hwrite⟩)
    · exact Or.inl hreject
    · refine Or.inr ⟨inherited, store, ⟨haccept, rfl⟩, ?_⟩
      rcases hwrite with hsave | ⟨saved, hsave, hlink⟩
      · exact Or.inl hsave
      · exact Or.inr ⟨(), saved, hsave, hlink⟩

theorem addFields_eq_ok {id : TypeId} {fields : Schema} {resolved : ResolvedType} :
    (addFields rules id fields).run store = .ok resolved after ↔
      ∃ revised, (catalog store).revise rules id fields = .ok revised ∧
        (save revised).run store = .ok () after ∧
        (catalog after).resolve rules id = .ok resolved := by
  simp only [addFields, Outcome.run_bind_eq_ok, consult_eq_ok]
  constructor
  · rintro ⟨revised, _, ⟨hrevise, rfl⟩, _, saved, hsave, hresolve, rfl⟩
    exact ⟨revised, hrevise, hsave, hresolve⟩
  · rintro ⟨revised, hrevise, hsave, hresolve⟩
    exact ⟨revised, store, ⟨hrevise, rfl⟩, (), after, hsave, hresolve, rfl⟩

theorem addFields_eq_error {id : TypeId} {fields : Schema} :
    (addFields rules id fields).run store = .error error after ↔
      ((catalog store).revise rules id fields = .error error ∧ after = store) ∨
        ∃ revised, (catalog store).revise rules id fields = .ok revised ∧
          ((save revised).run store = .error error after ∨
            ((save revised).run store = .ok () after ∧
              (catalog after).resolve rules id = .error error)) := by
  simp only [addFields, Outcome.run_bind_eq_error, consult_eq_error, consult_eq_ok]
  constructor
  · rintro (hreject | ⟨revised, _, ⟨hrevise, rfl⟩, hwrite⟩)
    · exact Or.inl hreject
    · rcases hwrite with hsave | ⟨_, saved, hsave, hresolve, rfl⟩
      · exact Or.inr ⟨revised, hrevise, Or.inl hsave⟩
      · exact Or.inr ⟨revised, hrevise, Or.inr ⟨hsave, hresolve⟩⟩
  · rintro (hreject | ⟨revised, hrevise, hwrite⟩)
    · exact Or.inl hreject
    · refine Or.inr ⟨revised, store, ⟨hrevise, rfl⟩, ?_⟩
      rcases hwrite with hsave | ⟨hsave, hresolve⟩
      · exact Or.inl hsave
      · exact Or.inr ⟨(), after, hsave, hresolve, rfl⟩

theorem createCategory_eq_ok {category made : Category} :
    (createCategory category).run store = .ok made after ↔
      Engine.checkName category.name = .ok () ∧
        (saveCategory category).run store = .ok () after ∧ made = category := by
  simp only [createCategory, Outcome.run_bind_eq_ok, consult_eq_ok, EStateM.run_pure,
    EStateM.Result.ok.injEq]
  constructor
  · rintro ⟨_, _, ⟨hname, rfl⟩, _, saved, hsave, rfl, rfl⟩
    exact ⟨hname, hsave, rfl⟩
  · rintro ⟨hname, hsave, rfl⟩
    exact ⟨(), store, ⟨hname, rfl⟩, (), after, hsave, rfl, rfl⟩

theorem createCategory_eq_error {category : Category} :
    (createCategory category).run store = .error error after ↔
      (Engine.checkName category.name = .error error ∧ after = store) ∨
        (Engine.checkName category.name = .ok () ∧
          (saveCategory category).run store = .error error after) := by
  simp only [createCategory, Outcome.run_bind_eq_error, consult_eq_error, consult_eq_ok,
    EStateM.run_pure, reduceCtorEq, and_false, exists_false, or_false]
  constructor
  · rintro (hreject | ⟨_, _, ⟨hname, rfl⟩, hsave⟩)
    · exact Or.inl hreject
    · exact Or.inr ⟨hname, hsave⟩
  · rintro (hreject | ⟨hname, hsave⟩)
    · exact Or.inl hreject
    · exact Or.inr ⟨(), store, ⟨hname, rfl⟩, hsave⟩

theorem writes_linkNew [LawfulStore σ] (request : NewType) (id : TypeId) :
    Writes (σ := σ) (linkNew request id) Catalog.SameDefinitions := by
  unfold linkNew
  split
  · constructor
    · intro store after hrun
      cases hrun
      exact ⟨rfl, rfl⟩
    · intro store after error hrun
      cases hrun
  · exact LawfulStore.link id request.categories

end TypeStore

/-- What an operation can make of a catalog. A creation has made its type even if it
fails when the links are written. -/
inductive Catalog.Step (rules : Rules) (before : Catalog) : Operation → Catalog → Prop where
  | unchanged (operation : Operation) : Step rules before operation before
  | created {request : NewType} {id : TypeId} {inherited : Schema} {after : Catalog} :
      before.accept rules request = .ok inherited →
      (before.save (request.toType id)).SameDefinitions after →
        Step rules before (.create request id) after
  | extended {id : TypeId} {fields : Schema} {revised : WorkItemType} :
      before.revise rules id fields = .ok revised →
        Step rules before (.addFields id fields) (before.save revised)
  | categorized {category : Category} : Engine.checkName category.name = .ok () →
      Step rules before (.createCategory category) (before.saveCategory category)
  | linked {id : TypeId} {categories : List CategoryId} {after : Catalog} :
      before.SameDefinitions after → Step rules before (.linkCategories id categories) after

section Steps

variable {σ : Type} [TypeStore σ] {rules : Rules} {store after : σ}

open Catalog TypeStore

private theorem step_of_same {operation : Operation}
    (hsame : catalog after = catalog store) :
    (catalog store).Step rules operation (catalog after) := by
  rw [hsame]
  exact .unchanged operation

variable [LawfulStore σ]

private theorem step_create (request : NewType) (id : TypeId) :
    (catalog store).Step rules (.create request id)
      (catalog (Outcome.endState ((create rules request id).run store))) := by
  cases hrun : (create rules request id).run store with
  | ok resolved after =>
      obtain ⟨inherited, saved, haccept, hsave, hlink, _⟩ := create_eq_ok.mp hrun
      have hlinked := (writes_linkNew request id).ok hlink
      rw [(LawfulStore.save _).ok hsave] at hlinked
      exact .created haccept hlinked
  | error error after =>
      rcases create_eq_error.mp hrun with ⟨_, rfl⟩ | ⟨inherited, haccept, hwrite⟩
      · exact .unchanged _
      · rcases hwrite with hsave | ⟨saved, hsave, hlink⟩
        · exact step_of_same ((LawfulStore.save _).error hsave)
        · have hsame := (writes_linkNew request id).error hlink
          rw [(LawfulStore.save _).ok hsave] at hsame
          refine .created haccept ?_
          rw [← hsame]
          exact ⟨rfl, rfl⟩

private theorem step_addFields (id : TypeId) (fields : Schema) :
    (catalog store).Step rules (.addFields id fields)
      (catalog (Outcome.endState ((addFields rules id fields).run store))) := by
  have hextended : ∀ {revised : WorkItemType} {after : σ},
      (catalog store).revise rules id fields = .ok revised →
      (save revised).run store = .ok () after →
        (catalog store).Step rules (.addFields id fields) (catalog after) := by
    intro revised after hrevise hsave
    rw [(LawfulStore.save revised).ok hsave]
    exact .extended hrevise
  cases hrun : (addFields rules id fields).run store with
  | ok resolved after =>
      obtain ⟨revised, hrevise, hsave, _⟩ := addFields_eq_ok.mp hrun
      exact hextended hrevise hsave
  | error error after =>
      rcases addFields_eq_error.mp hrun with ⟨_, rfl⟩ | ⟨revised, hrevise, hwrite⟩
      · exact .unchanged _
      · rcases hwrite with hsave | ⟨hsave, _⟩
        · exact step_of_same ((LawfulStore.save revised).error hsave)
        · exact hextended hrevise hsave

private theorem step_createCategory (category : Category) :
    (catalog store).Step rules (.createCategory category)
      (catalog (Outcome.endState ((createCategory category).run store))) := by
  cases hrun : (createCategory category).run store with
  | ok made after =>
      obtain ⟨hname, hsave, _⟩ := createCategory_eq_ok.mp hrun
      rw [Outcome.endState, (LawfulStore.saveCategory category).ok hsave]
      exact .categorized hname
  | error error after =>
      rcases createCategory_eq_error.mp hrun with ⟨_, rfl⟩ | ⟨_, hsave⟩
      · exact .unchanged _
      · exact step_of_same ((LawfulStore.saveCategory category).error hsave)

private theorem step_linkCategories (id : TypeId) (categories : List CategoryId) :
    (catalog store).Step rules (.linkCategories id categories)
      (catalog (Outcome.endState ((link id categories).run store))) := by
  cases hrun : (link id categories).run store with
  | ok _ after => exact .linked ((LawfulStore.link id categories).ok hrun)
  | error error after => exact step_of_same ((LawfulStore.link id categories).error hrun)

/-- Whatever an operation answers, what it makes of the catalog is a step. -/
theorem step_plain (operation : Operation) (store : σ) :
    (catalog store).Step rules operation
      (catalog (Outcome.endState ((operation.plain rules).run store))) := by
  cases hreply : operation.reply? (catalog store) rules with
  | some reply =>
      rw [Operation.plain_of_reply hreply, consult_run, Outcome.endState_inState]
      exact .unchanged operation
  | none =>
      cases operation with
      | create request id =>
          rw [Operation.plain, Outcome.endState_map]
          exact step_create request id
      | addFields id fields =>
          rw [Operation.plain, Outcome.endState_map]
          exact step_addFields id fields
      | createCategory category =>
          rw [Operation.plain, Outcome.endState_map]
          exact step_createCategory category
      | linkCategories id categories =>
          have hend := Outcome.endState_map (link id categories) (fun _ => Response.done) store
          rw [Operation.plain, hend]
          exact step_linkCategories id categories
      | clearCache | invalidate => exact .unchanged _
      | load | resolve | resolveSchema | validateFields | validateUpdate | list | listCategories
      | categoriesOf | typesIn | clone => cases hreply

end Steps

/-- What an operation makes of the catalog of an engine whose cache agrees with it. -/
theorem Engine.step_next {σ : Type} [TypeStore σ] [LawfulStore σ] {engine : Engine σ}
    (hagrees : engine.CacheAgrees) {operation : Operation}
    (hfresh : operation.Fresh engine.catalog) :
    engine.catalog.Step engine.rules operation (engine.next operation).catalog := by
  obtain ⟨_, cache, hnext⟩ := next_eq_plain hagrees hfresh
  rw [hnext]
  exact step_plain operation engine.store

end WorkSchema
