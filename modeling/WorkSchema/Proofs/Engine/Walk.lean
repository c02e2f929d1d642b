import WorkSchema.Proofs.Engine.Links

/-!
Where the walk along the base links ends. It passes one ancestor after the other and
ends at the first one that was passed before, is too far up, is not stored or has no
base; of several reasons the first in this order is the one reported. The types passed
are all stored and all different, so there are at most as many steps as stored types,
however large the limit is.
-/

namespace WorkSchema

namespace Catalog

variable {catalog : Catalog} {max steps : Nat} {id current : TypeId}

/-- The id that the base links lead to in a number of steps. It need not be that of a
stored type, but then nothing comes after it. -/
def ancestor? (catalog : Catalog) (id : TypeId) : Nat → Option TypeId
  | 0 => some id
  | steps + 1 => do
      let type ← catalog.type? (← ancestor? catalog id steps)
      type.base?

/-- The stored type that the base links lead to in a number of steps. -/
def visited? (catalog : Catalog) (id : TypeId) (steps : Nat) : Option WorkItemType :=
  (catalog.ancestor? id steps).bind catalog.type?

/-- The ids that are passed in fewer than the given number of steps, in order. -/
def trail (catalog : Catalog) (id : TypeId) (steps : Nat) : List TypeId :=
  (List.range steps).filterMap (catalog.ancestor? id)

/-- The types that are passed in fewer than the given number of steps, in order. -/
def passed (catalog : Catalog) (id : TypeId) (steps : Nat) : List WorkItemType :=
  (List.range steps).filterMap (catalog.visited? id)

/-- How a walk with at most `max` ancestors ends after a number of steps, if it ends
there. -/
def stop? (catalog : Catalog) (max : Nat) (id : TypeId) (steps : Nat) :
    Option (Except SchemaError (List WorkItemType)) := do
  let current ← catalog.ancestor? id steps
  if ∃ earlier < steps, catalog.ancestor? id earlier = some current then
    let path := (catalog.trail id (steps + 1)).map (·.toText)
    some (.error (.inheritanceCycle (" -> ".intercalate path)))
  else if max < steps then some (.error (.inheritanceTooDeep id.toText max))
  else match catalog.type? current with
    | none => some (.error (.typeNotFound current.toText))
    | some type =>
        match type.base? with
        | none => some (.ok (catalog.passed id (steps + 1)))
        | some _ => none

theorem ancestor?_succ {base : TypeId} :
    catalog.ancestor? id (steps + 1) = some base ↔
      ∃ current type, catalog.ancestor? id steps = some current ∧
        catalog.type? current = some type ∧ type.base? = some base := by
  simp [ancestor?, Option.bind_eq_some_iff]

theorem mem_trail :
    current ∈ catalog.trail id steps ↔
      ∃ earlier < steps, catalog.ancestor? id earlier = some current := by
  simp [trail]

theorem trail_succ (hcurrent : catalog.ancestor? id steps = some current) :
    catalog.trail id (steps + 1) = catalog.trail id steps ++ [current] := by
  simp [trail, List.range_succ, hcurrent]

theorem passed_succ {type : WorkItemType} (hcurrent : catalog.ancestor? id steps = some current)
    (hfound : catalog.type? current = some type) :
    catalog.passed id (steps + 1) = catalog.passed id steps ++ [type] := by
  simp [passed, List.range_succ, visited?, hcurrent, hfound]

/-- Nothing is left out below an ancestor: all ids up to it are ids of stored types. -/
theorem ids_passed (hcurrent : catalog.ancestor? id steps = some current) :
    (catalog.passed id steps).map (·.id) = catalog.trail id steps ∧
      (catalog.passed id steps).map some = (List.range steps).map (catalog.visited? id) := by
  induction steps generalizing current with
  | zero => exact ⟨rfl, rfl⟩
  | succ steps ih =>
      obtain ⟨below, type, hbelow, hfound, _⟩ := ancestor?_succ.1 hcurrent
      obtain ⟨hids, htypes⟩ := ih hbelow
      have hvisited : catalog.visited? id steps = some type := by
        rw [visited?, hbelow]
        exact hfound
      rw [passed_succ hbelow hfound, trail_succ hbelow, List.range_succ]
      simp only [List.map_append, List.map_cons, List.map_nil, hids, htypes, hvisited,
        id_of_type? hfound, and_self]

theorem comesBack_passed (hcurrent : catalog.ancestor? id steps = some current) :
    comesBack (catalog.passed id steps) current = true ↔
      ∃ earlier < steps, catalog.ancestor? id earlier = some current := by
  rw [← mem_trail, ← (ids_passed hcurrent).1]
  simp [comesBack]

theorem cycleError_passed (hcurrent : catalog.ancestor? id steps = some current) :
    cycleError (catalog.passed id steps) current =
      .inheritanceCycle (" -> ".intercalate ((catalog.trail id (steps + 1)).map (·.toText))) := by
  rw [trail_succ hcurrent, ← (ids_passed hcurrent).1, cycleError, List.map_append, List.map_map]
  rfl

/-- What there is to report, in terms of the types that the walk has passed. -/
theorem stop?_eq (hcurrent : catalog.ancestor? id steps = some current) :
    catalog.stop? max id steps =
      if comesBack (catalog.passed id steps) current then
        some (.error (cycleError (catalog.passed id steps) current))
      else if max < steps then some (.error (.inheritanceTooDeep id.toText max))
      else match catalog.type? current with
        | none => some (.error (.typeNotFound current.toText))
        | some type =>
            match type.base? with
            | none => some (.ok (catalog.passed id steps ++ [type]))
            | some _ => none := by
  have hback := comesBack_passed hcurrent
  rw [cycleError_passed hcurrent]
  simp only [stop?, hcurrent, Option.bind_eq_bind, Option.bind_some, ← hback]
  cases hfound : catalog.type? current with
  | none => rfl
  | some type => simp only [passed_succ hcurrent hfound]

/-- Where the walk ends, it returns what there is to report. -/
theorem chainAbove_of_stop {budget : Nat} {result : Except SchemaError (List WorkItemType)}
    (hcurrent : catalog.ancestor? id steps = some current) (hbudget : steps + budget = max + 1)
    (hstop : catalog.stop? max id steps = some result) :
    catalog.chainAbove max id (catalog.passed id steps) current budget = result := by
  rw [stop?_eq hcurrent] at hstop
  by_cases hcycle : comesBack (catalog.passed id steps) current = true
  · rw [if_pos hcycle] at hstop
    cases hstop
    cases budget <;> rw [chainAbove, if_pos hcycle] <;> rfl
  · rw [if_neg hcycle] at hstop
    cases budget with
    | zero =>
        rw [if_pos (by omega)] at hstop
        cases hstop
        rw [chainAbove, if_neg hcycle]
        rfl
    | succ budget =>
        rw [if_neg (by omega)] at hstop
        rw [chainAbove, if_neg hcycle, load]
        split at hstop
        · rename_i hfound
          cases hstop
          rw [hfound]
          rfl
        · rename_i type hfound
          split at hstop
          · rename_i hbase
            cases hstop
            simp only [hfound, pure, Except.pure, Outcome.ok_bind, hbase]
          · cases hstop

/-- Where the walk does not end, there is a base to go on with. -/
theorem chainAbove_of_not_stop {budget : Nat}
    (hcurrent : catalog.ancestor? id steps = some current) (hbudget : steps + budget = max + 1)
    (hstop : catalog.stop? max id steps = none) :
    ∃ base rest, budget = rest + 1 ∧ catalog.ancestor? id (steps + 1) = some base ∧
      catalog.chainAbove max id (catalog.passed id steps) current budget =
        catalog.chainAbove max id (catalog.passed id (steps + 1)) base rest := by
  rw [stop?_eq hcurrent] at hstop
  split at hstop
  · cases hstop
  · rename_i hcycle
    split at hstop
    · cases hstop
    · obtain ⟨rest, rfl⟩ : ∃ rest, budget = rest + 1 := ⟨budget - 1, by omega⟩
      split at hstop
      · cases hstop
      · rename_i type hfound
        split at hstop
        · cases hstop
        · rename_i base hbase
          refine ⟨base, rest, rfl, ancestor?_succ.2 ⟨_, _, hcurrent, hfound, hbase⟩, ?_⟩
          rw [passed_succ hcurrent hfound, chainAbove, if_neg hcycle, load, hfound]
          simp only [pure, Except.pure, Outcome.ok_bind, hbase]

/-- The rest of a walk ends at the first ancestor where there is something to report. -/
private theorem chainAbove_stops {budget : Nat}
    (hcurrent : catalog.ancestor? id steps = some current) (hbudget : steps + budget = max + 1) :
    ∃ last result, (∀ between, steps ≤ between → between < last →
        catalog.stop? max id between = none) ∧
      catalog.stop? max id last = some result ∧ last ≤ max + 1 ∧
      catalog.chainAbove max id (catalog.passed id steps) current budget = result := by
  -- A step that does not end the walk takes one off the budget.
  induction budget using Nat.strong_induction_on generalizing steps current with
  | _ budget ih =>
      cases hstop : catalog.stop? max id steps with
      | some result =>
          exact ⟨steps, result, by omega, hstop, by omega,
            chainAbove_of_stop hcurrent hbudget hstop⟩
      | none =>
          obtain ⟨base, rest, rfl, hnext, hwalk⟩ :=
            chainAbove_of_not_stop hcurrent hbudget hstop
          obtain ⟨last, result, hbetween, hlast, hle, hresult⟩ :=
            ih rest rest.lt_succ_self hnext (by omega)
          refine ⟨last, result, ?_, hlast, hle, hwalk.trans hresult⟩
          intro between hfrom hto
          by_cases hhere : between = steps
          · rw [hhere]
            exact hstop
          · exact hbetween between (by omega) hto

/-- The walk ends at the first ancestor where there is something to report, and that is
no further up than one step past the limit. -/
theorem chain_stops (catalog : Catalog) (max : Nat) (id : TypeId) :
    ∃ steps result, (∀ earlier < steps, catalog.stop? max id earlier = none) ∧
      catalog.stop? max id steps = some result ∧ steps ≤ max + 1 ∧
      catalog.chain max id = result := by
  have hstart : catalog.ancestor? id 0 = some id := rfl
  obtain ⟨steps, result, hearlier, hstop, hle, hwalk⟩ :=
    chainAbove_stops hstart (Nat.zero_add (max + 1))
  exact ⟨steps, result, fun earlier => hearlier earlier earlier.zero_le, hstop, hle, hwalk⟩

/-- A cycle that closes one step past the limit is still a cycle. -/
example :
    let lower : WorkItemType := {id := .ofNat 1, name := "Lower", base? := some (.ofNat 2)}
    let upper : WorkItemType := {id := .ofNat 2, name := "Upper", base? := some (.ofNat 1)}
    chain {types := .ofList [lower, upper]} 1 lower.id = .error (.inheritanceCycle
      (" -> ".intercalate [lower.id.toText, upper.id.toText, lower.id.toText])) := rfl

private theorem nodup_trail (hcurrent : catalog.ancestor? id steps = some current)
    (hearlier : ∀ earlier < steps, catalog.stop? max id earlier = none) :
    (catalog.trail id steps).Nodup := by
  induction steps generalizing current with
  | zero => exact List.nodup_nil
  | succ steps ih =>
      obtain ⟨below, _, hbelow, _⟩ := ancestor?_succ.1 hcurrent
      have hrest := ih hbelow fun earlier hlt => hearlier earlier (by omega)
      have hstop := hearlier steps (by omega)
      have hnew : below ∉ catalog.trail id steps := by
        intro hmem
        simp [stop?, hbelow, mem_trail.1 hmem] at hstop
      rw [trail_succ hbelow, List.nodup_append]
      refine ⟨hrest, List.nodup_singleton below, ?_⟩
      rintro other hother _ hlast rfl
      exact hnew (List.mem_singleton.1 hlast ▸ hother)

/-- The types that are passed before the walk ends are different stored types. -/
theorem steps_le_size {result : Except SchemaError (List WorkItemType)}
    (hearlier : ∀ earlier < steps, catalog.stop? max id earlier = none)
    (hstop : catalog.stop? max id steps = some result) : steps ≤ catalog.types.size := by
  obtain ⟨current, hcurrent, _⟩ := Option.bind_eq_some_iff.1 hstop
  obtain ⟨hids, htypes⟩ := ids_passed hcurrent
  have hnodup : (catalog.passed id steps).Nodup := by
    apply List.Nodup.of_map (·.id)
    rw [hids]
    exact nodup_trail hcurrent hearlier
  have hstored : catalog.passed id steps ⊆ catalog.types.elements := by
    intro type hmem
    obtain ⟨_, _, hvisited⟩ := List.mem_filterMap.1 hmem
    obtain ⟨_, _, hfound⟩ := Option.bind_eq_some_iff.1 hvisited
    exact mem_of_type? hfound
  have hlength : (catalog.passed id steps).length = steps := by
    simpa using congrArg List.length htypes
  rw [← hlength]
  exact (List.subperm_of_subset hnodup hstored).length_le

/-- A walk that succeeds has passed the type and all of its ancestors. -/
theorem visited_of_stop {found : List WorkItemType}
    (hstop : catalog.stop? max id steps = some (.ok found)) :
    found.map some = (List.range (steps + 1)).map (catalog.visited? id) := by
  obtain ⟨current, hcurrent, _⟩ := Option.bind_eq_some_iff.1 hstop
  rw [stop?_eq hcurrent] at hstop
  split at hstop
  · cases hstop
  · split at hstop
    · cases hstop
    · split at hstop
      · cases hstop
      · rename_i type hfound
        split at hstop
        · cases hstop
          have hvisited : catalog.visited? id steps = some type := by
            rw [visited?, hcurrent]
            exact hfound
          rw [List.map_append, (ids_passed hcurrent).2, List.range_succ, List.map_append,
            List.map_singleton, List.map_singleton, hvisited]
        · cases hstop

/-- Each ancestor of a type with a chain has a chain, which is no longer. -/
theorem Lineage.ancestor {found : List WorkItemType} (hlineage : catalog.Lineage id found)
    (hcurrent : catalog.ancestor? id steps = some current) :
    ∃ above, catalog.Lineage current above ∧ above.length ≤ found.length := by
  induction steps generalizing current with
  | zero =>
      cases hcurrent
      exact ⟨found, hlineage, le_rfl⟩
  | succ steps ih =>
      obtain ⟨below, type, hbelow, hfound, hbase⟩ := ancestor?_succ.1 hcurrent
      obtain ⟨above, habove, hlength⟩ := ih hbelow
      cases habove with
      | root hroot hnone =>
          rw [hfound] at hroot
          cases hroot
          rw [hbase] at hnone
          cases hnone
      | link hlink hsome hrest =>
          rw [hfound] at hlink
          cases hlink
          rw [hbase] at hsome
          cases hsome
          exact ⟨_, hrest, by simp at hlength; omega⟩

/-- The walk succeeds from each ancestor of a type from which it succeeds. -/
theorem chain_ancestor {found : List WorkItemType} (hchain : catalog.chain max id = .ok found)
    (hcurrent : catalog.ancestor? id steps = some current) :
    ∃ above, catalog.chain max current = .ok above := by
  obtain ⟨hlineage, hlength⟩ := chain_eq_ok.1 hchain
  obtain ⟨above, habove, hle⟩ := hlineage.ancestor hcurrent
  exact ⟨above, chain_eq_ok.2 ⟨habove, hle.trans hlength⟩⟩

end Catalog

namespace Engine

variable {σ : Type} [TypeStore σ]

theorem chain_run (engine : Engine σ) (id : TypeId) :
    (chain id).run engine =
      Outcome.inState (engine.catalog.chain engine.settings.maxInheritanceDepth id) engine := by
  rw [chain, EStateM.run_bind]
  exact ask_run _ engine

private theorem resolveSchema_of_chain {engine : Engine σ} {id : TypeId}
    {found : List WorkItemType}
    (hchain : engine.catalog.chain engine.settings.maxInheritanceDepth id = .ok found) :
    ∃ schema cache, (resolveSchema id).run engine = .ok schema {engine with cache} := by
  have hcached : (cached? id).run engine =
      .ok (if engine.settings.cacheResolved then engine.cache.get? id else none) engine := rfl
  rw [resolveSchema, EStateM.run_bind, hcached]
  cases if engine.settings.cacheResolved then engine.cache.get? id else none with
  | some schema => exact ⟨schema, engine.cache, rfl⟩
  | none =>
      have hwalk : (chain id).run engine = .ok found engine := by rw [chain_run, hchain]; rfl
      simp only [EStateM.run_bind, EStateM.run_get, hwalk]
      cases engine.settings.cacheResolved with
      | true => exact ⟨_, _, rfl⟩
      | false => exact ⟨_, _, rfl⟩

/-- A type with a chain is resolved, whatever is cached. -/
theorem resolve_of_chain {engine : Engine σ} {id : TypeId} {found : List WorkItemType}
    (hchain : engine.catalog.chain engine.settings.maxInheritanceDepth id = .ok found) :
    ∃ resolved cache, (resolve id).run engine = .ok resolved {engine with cache} := by
  obtain ⟨schema, cache, hschema⟩ := resolveSchema_of_chain hchain
  obtain ⟨hlineage, _⟩ := Catalog.chain_eq_ok.1 hchain
  obtain ⟨type, _, rfl, hid⟩ := hlineage.head
  have hload : engine.catalog.load id = .ok type := by
    rw [Catalog.load_eq_ok, ← hid]
    exact hlineage.type?_of_mem List.mem_cons_self
  have hrun : (load id).run {engine with cache} = .ok type {engine with cache} := by
    rw [load, ask_run]
    exact congrArg (Outcome.inState · {engine with cache}) hload
  refine ⟨⟨type, schema⟩, cache, ?_⟩
  rw [resolve, EStateM.run_bind, hschema]
  simp only [EStateM.run_bind, hrun]
  rfl

/-- Walking up from a type ends at the first ancestor where there is something to report,
after no more steps than there are stored types, and reports it without changing
anything. If it is a chain, it holds the types that the base links lead through, in
order, no two of one id, no more of them than the limit allows; and then every ancestor
has a chain as well and is resolved. -/
theorem chain_run_stops (engine : Engine σ) (id : TypeId) :
    let catalog := engine.catalog
    let max := engine.settings.maxInheritanceDepth
    ∃ steps result,
      (∀ earlier < steps, catalog.stop? max id earlier = none) ∧
      catalog.stop? max id steps = some result ∧
      (chain id).run engine = Outcome.inState result engine ∧
      steps ≤ catalog.types.size ∧ steps ≤ max + 1 ∧
      ∀ found, result = .ok found →
        found.map some = (List.range (steps + 1)).map (catalog.visited? id) ∧
        (found.map (·.id)).Nodup ∧ found.length ≤ max + 1 ∧
        ∀ higher ancestor, catalog.ancestor? id higher = some ancestor →
          (∃ above, (chain ancestor).run engine = .ok above engine) ∧
          ∃ resolved after, (resolve ancestor).run engine = .ok resolved after := by
  intro catalog max
  obtain ⟨steps, result, hearlier, hstop, hle, hwalk⟩ := catalog.chain_stops max id
  refine ⟨steps, result, hearlier, hstop, ?_, Catalog.steps_le_size hearlier hstop, hle, ?_⟩
  · rw [chain_run]
    exact congrArg (Outcome.inState · engine) hwalk
  · rintro found rfl
    obtain ⟨hlineage, hlength⟩ := Catalog.chain_eq_ok.1 hwalk
    refine ⟨Catalog.visited_of_stop hstop, hlineage.nodup, hlength, ?_⟩
    intro higher ancestor hancestor
    obtain ⟨above, habove⟩ := Catalog.chain_ancestor hwalk hancestor
    obtain ⟨resolved, cache, hresolve⟩ := resolve_of_chain habove
    refine ⟨⟨above, ?_⟩, resolved, _, hresolve⟩
    rw [chain_run]
    exact congrArg (Outcome.inState · engine) habove

end Engine

end WorkSchema
