import Mathlib.Data.List.Forall2

/-!
When a computation that can fail succeeds. Sequences and traversals succeed
exactly if each of their parts does. A run over a state is taken apart into its
answer and the state it ends in.
-/

namespace WorkSchema.Outcome

variable {ε α β : Type}

theorem ok_bind (a : α) (f : α → Except ε β) : (.ok a >>= f) = f a := rfl

/-- A result of which an evaluation says what it is. -/
theorem eq_ok_of_any {x : Except ε α} {a : α} (same : α → Bool)
    (hsame : ∀ b, same b = true → b = a) (hany : x.toOption.any same = true) : x = .ok a := by
  cases x with
  | error error => cases hany
  | ok b => rw [hsame b hany]

theorem bind_eq_ok {x : Except ε α} {f : α → Except ε β} {b : β} :
    (x >>= f) = .ok b ↔ ∃ a, x = .ok a ∧ f a = .ok b := by
  cases x <;> simp [bind, Except.bind]

theorem bind_eq_error {x : Except ε α} {f : α → Except ε β} {error : ε} :
    (x >>= f) = .error error ↔ x = .error error ∨ ∃ a, x = .ok a ∧ f a = .error error := by
  cases x <;> simp [bind, Except.bind]

/-- A traversal succeeds exactly if it succeeds on every element, with the
results in the order of the elements. -/
theorem mapM_eq_ok {f : α → Except ε β} {items : List α} {results : List β} :
    items.mapM f = .ok results ↔
      List.Forall₂ (fun item result => f item = .ok result) items results := by
  induction items generalizing results with
  | nil => cases results <;> simp [pure, Except.pure]
  | cons item rest ih =>
      simp only [List.mapM_cons, bind_eq_ok, ih, pure, Except.pure, Except.ok.injEq]
      constructor
      · rintro ⟨result, hitem, others, hrest, rfl⟩
        exact .cons hitem hrest
      · intro hall
        cases hall with
        | cons hitem hrest => exact ⟨_, hitem, _, hrest, rfl⟩

theorem forM_eq_ok {f : α → Except ε Unit} {items : List α} :
    items.forM f = .ok () ↔ ∀ item ∈ items, f item = .ok () := by
  induction items with
  | nil => simp [pure, Except.pure]
  | cons item rest ih =>
      have hstep : (item :: rest).forM f = f item >>= fun _ => rest.forM f := rfl
      simp only [hstep, bind_eq_ok, ih, List.mem_cons, forall_eq_or_imp]
      constructor
      · rintro ⟨_, hitem, hrest⟩
        exact ⟨hitem, hrest⟩
      · rintro ⟨hitem, hrest⟩
        exact ⟨_, hitem, hrest⟩

/-- A traversal fails with the error of the first element that it fails on. -/
theorem forM_eq_error {f : α → Except ε Unit} {items : List α} {error : ε} :
    items.forM f = .error error ↔
      ∃ before item after, items = before ++ item :: after ∧ (∀ other ∈ before, f other = .ok ()) ∧
        f item = .error error := by
  induction items with
  | nil => simp [pure, Except.pure]
  | cons first rest ih =>
      have hstep : (first :: rest).forM f = f first >>= fun _ => rest.forM f := rfl
      rw [hstep, bind_eq_error]
      constructor
      · rintro (hfirst | ⟨_, hfirst, hrest⟩)
        · exact ⟨[], first, rest, rfl, nofun, hfirst⟩
        · obtain ⟨before, item, after, rfl, hbefore, hitem⟩ := ih.mp hrest
          exact ⟨first :: before, item, after, rfl,
            List.forall_mem_cons.mpr ⟨hfirst, hbefore⟩, hitem⟩
      · rintro ⟨before, item, after, hsplit, hbefore, hitem⟩
        cases before with
        | nil =>
            cases hsplit
            exact Or.inl hitem
        | cons _ before =>
            cases hsplit
            obtain ⟨hfirst, hothers⟩ := List.forall_mem_cons.mp hbefore
            exact Or.inr ⟨(), hfirst, ih.mpr ⟨before, item, after, rfl, hothers, hitem⟩⟩

/-- A traversal that fails has failed on some element. -/
theorem mapM_eq_error {f : α → Except ε β} {items : List α} {error : ε}
    (hfails : items.mapM f = .error error) : ∃ item ∈ items, f item = .error error := by
  induction items with
  | nil => cases hfails
  | cons first rest ih =>
      rw [List.mapM_cons] at hfails
      rcases bind_eq_error.mp hfails with hfirst | ⟨_, _, hrest⟩
      · exact ⟨first, List.mem_cons_self, hfirst⟩
      · rcases bind_eq_error.mp hrest with hothers | ⟨_, _, hpure⟩
        · obtain ⟨item, hmem, hitem⟩ := ih hothers
          exact ⟨item, List.mem_cons_of_mem first hmem, hitem⟩
        · cases hpure

/-- Whether an element is the first of a list of which something holds. -/
def First (holds : α → Prop) (items : List α) (item : α) : Prop :=
  ∃ before after, items = before ++ item :: after ∧ holds item ∧
    ∀ earlier ∈ before, ¬ holds earlier

theorem first_cons_iff {holds : α → Prop} {first item : α} {rest : List α} :
    First holds (first :: rest) item ↔
      (holds first ∧ first = item) ∨ (¬ holds first ∧ First holds rest item) := by
  constructor
  · rintro ⟨before, after, hsplit, hitem, hbefore⟩
    cases before with
    | nil =>
        cases hsplit
        exact .inl ⟨hitem, rfl⟩
    | cons _ before =>
        cases hsplit
        obtain ⟨hfirst, hothers⟩ := List.forall_mem_cons.mp hbefore
        exact .inr ⟨hfirst, before, after, rfl, hitem, hothers⟩
  · rintro (⟨hfirst, rfl⟩ | ⟨hfirst, before, after, rfl, hitem, hbefore⟩)
    · exact ⟨[], rest, rfl, hfirst, nofun⟩
    · exact ⟨first :: before, after, rfl, hitem, List.forall_mem_cons.mpr ⟨hfirst, hbefore⟩⟩

theorem find?_eq_some_iff_first {holds : α → Bool} {items : List α} {item : α} :
    items.find? holds = some item ↔ First (holds · = true) items item := by
  simp only [List.find?_eq_some_iff_append, First, Bool.not_eq_true', Bool.not_eq_true]
  constructor
  · rintro ⟨hitem, before, after, hsplit, hbefore⟩
    exact ⟨before, after, hsplit, hitem, hbefore⟩
  · rintro ⟨before, after, hsplit, hitem, hbefore⟩
    exact ⟨hitem, before, after, hsplit, hbefore⟩

section State

variable {σ : Type}

/-- What a run answers, whatever state it ends in. -/
def answer : EStateM.Result ε σ α → Except ε α
  | .ok value _ => .ok value
  | .error error _ => .error error

/-- The state that a run ends in, which a failed run has too. -/
def endState : EStateM.Result ε σ α → σ
  | .ok _ state => state
  | .error _ state => state

/-- A run with the given answer that ends in the given state. -/
def inState (result : Except ε α) (state : σ) : EStateM.Result ε σ α :=
  match result with
  | .ok value => .ok value state
  | .error error => .error error state

@[simp] theorem answer_inState (result : Except ε α) (state : σ) :
    answer (inState result state) = result := by
  cases result <;> rfl

@[simp] theorem endState_inState (result : Except ε α) (state : σ) :
    endState (inState result state) = state := by
  cases result <;> rfl

theorem answer_map (action : EStateM ε σ α) (f : α → β) (state : σ) :
    answer ((do return f (← action) : EStateM ε σ β).run state) =
      (answer (action.run state)).map f := by
  rw [EStateM.run_bind]
  cases action.run state <;> rfl

theorem endState_map (action : EStateM ε σ α) (f : α → β) (state : σ) :
    endState ((do return f (← action) : EStateM ε σ β).run state) =
      endState (action.run state) := by
  rw [EStateM.run_bind]
  cases action.run state <;> rfl

theorem run_bind_eq_ok {action : EStateM ε σ α} {rest : α → EStateM ε σ β} {start after : σ}
    {result : β} :
    (action >>= rest).run start = .ok result after ↔
      ∃ value middle, action.run start = .ok value middle ∧
        (rest value).run middle = .ok result after := by
  rw [EStateM.run_bind]
  cases action.run start <;> simp

/-- A sequence fails in its first part, or after it. -/
theorem run_bind_eq_error {action : EStateM ε σ α} {rest : α → EStateM ε σ β} {start after : σ}
    {error : ε} :
    (action >>= rest).run start = .error error after ↔
      action.run start = .error error after ∨
        ∃ value middle, action.run start = .ok value middle ∧
          (rest value).run middle = .error error after := by
  rw [EStateM.run_bind]
  cases action.run start <;> simp

theorem run_map_eq_error {action : EStateM ε σ α} {f : α → β} {start after : σ} {error : ε} :
    (do return f (← action) : EStateM ε σ β).run start = .error error after ↔
      action.run start = .error error after := by
  rw [EStateM.run_bind]
  cases action.run start <;> simp

/-- What a run establishes: one condition on its value and the state it ends in if
it succeeds, and another on the state if it fails. -/
def Ensures (action : EStateM ε σ α) (start : σ) (success : α → σ → Prop)
    (failure : σ → Prop) : Prop :=
  match action.run start with
  | .ok value state => success value state
  | .error _ state => failure state

variable {action : EStateM ε σ α} {start : σ} {success : α → σ → Prop} {failure : σ → Prop}

theorem ensures_pure {value : α} (hholds : success value start) :
    Ensures (pure value : EStateM ε σ α) start success failure := hholds

theorem Ensures.bind {rest : α → EStateM ε σ β} {result : β → σ → Prop} {failure' : σ → Prop}
    (hfirst : Ensures action start success failure)
    (hfailure : ∀ state, failure state → failure' state)
    (hrest : ∀ value state, success value state → Ensures (rest value) state result failure') :
    Ensures (action >>= rest) start result failure' := by
  unfold Ensures at *
  rw [EStateM.run_bind]
  cases hrun : action.run start with
  | error error state =>
      rw [hrun] at hfirst
      exact hfailure state hfirst
  | ok value state =>
      rw [hrun] at hfirst
      exact hrest value state hfirst

theorem Ensures.mono {success' : α → σ → Prop} {failure' : σ → Prop}
    (hensures : Ensures action start success failure)
    (hsuccess : ∀ value state, success value state → success' value state)
    (hfailure : ∀ state, failure state → failure' state) :
    Ensures action start success' failure' := by
  unfold Ensures at *
  cases hrun : action.run start with
  | error error state =>
      rw [hrun] at hensures
      exact hfailure state hensures
  | ok value state =>
      rw [hrun] at hensures
      exact hsuccess value state hensures

theorem Ensures.endState {holds : σ → Prop}
    (hensures : Ensures action start (fun _ state => holds state) holds) :
    holds (endState (action.run start)) := by
  unfold Ensures at hensures
  cases hrun : action.run start with
  | error error state =>
      rw [hrun] at hensures
      exact hensures
  | ok value state =>
      rw [hrun] at hensures
      exact hensures

/-- Whether an action keeps a condition on the state, whether or not it succeeds. -/
def Keeps (holds : σ → Prop) (action : EStateM ε σ α) : Prop :=
  ∀ state, holds state → Ensures action state (fun _ after => holds after) holds

variable {holds : σ → Prop}

theorem keeps_pure (value : α) : Keeps holds (pure value : EStateM ε σ α) :=
  fun _ hholds => hholds

theorem Keeps.bind {rest : α → EStateM ε σ β} (hfirst : Keeps holds action)
    (hrest : ∀ value, Keeps holds (rest value)) : Keeps holds (action >>= rest) :=
  fun state hholds =>
    (hfirst state hholds).bind (fun _ hfailed => hfailed) fun value after => hrest value after

end State

end WorkSchema.Outcome
