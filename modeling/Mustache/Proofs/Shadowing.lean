import Mustache.Proofs.Contexts.Memory

/-!
How a value shadows the values around it.

Only the first name of a path is looked for outside a value that does not know it.
-/

namespace Mustache

variable {σ : Type} {host : Host σ}

namespace Context

/-- There is only one row of values along contexts around each other. -/
theorem Chain.unique {contexts : Nat → Context} {id : Nat} {views others : List Value}
    (chain : Chain contexts id views) (chain' : Chain contexts id others) : views = others := by
  -- A context has one outer context, or none.
  induction chain generalizing others with
  -- The outermost context ends both rows.
  | root outermost =>
    cases chain' with
    | root _ => rfl
    | inside around _ =>
      rw [outermost] at around
      cases around
  | inside around _ ih =>
    cases chain' with
    | root outermost =>
      rw [outermost] at around
      cases around
    | inside around' outer' =>
      rw [around] at around'
      cases around'
      rw [ih outer']

/-- The scope of a context has the values along the contexts around it behind its own. -/
theorem views_of_parent {s : Session σ} (kept : s.Kept host) {inner id : Nat}
    (there : inner < s.contextCount) (around : (s.contexts inner).parent = some id) :
    (s.contexts inner).scope.views
      = (s.contexts inner).scope.view :: (s.contexts id).scope.views := by
  -- The outer context was made before, and its values are those along its own chain.
  have before : id < s.contextCount := Nat.lt_trans (kept.inner there around) there
  exact (kept.chain there).unique (.inside around (kept.chain before))

/--
A value shadows the values around it as soon as it knows the first name of a path.

If it does not know that name, a context over it gives for the path what the context around it gives.
Otherwise what comes of the other names, asked in turn inside what was found, is the value of the
path in every context over the value, wherever that context is.
-/
theorem lookup_over (host : Host σ) {s : Session σ} {view : Value}
    (steady : view.Steady host s.edits) {path head : Text} {rest : List Text}
    (several : path ≠ ['.']) (joined : Text.join '.' head rest = path) (whole : '.' ∉ head)
    (wholes : ∀ name ∈ rest, '.' ∉ name) :
    ∃ answer, view.Answers host s.edits head answer
      ∧ (answer = .ok .absent → ∀ (t : Session σ) (inner id : Nat) (outer : List Value),
        t.Grown host → t.edits = s.edits → inner < t.contextCount →
        (t.contexts inner).scope.view = view → (t.contexts inner).parent = some id →
        Chain t.contexts id outer → (∀ value ∈ outer, value.Steady host s.edits) →
        ∃ result after after', lookup host inner path t = some (result, after)
          ∧ lookup host id path t = some (result, after'))
      ∧ (answer ≠ .ok .absent → ∃ result, Value.Yields host s.edits answer rest result
        ∧ ∀ (t : Session σ) (inner : Nat), t.Grown host → t.edits = s.edits →
          inner < t.contextCount → (t.contexts inner).scope.view = view →
          ∃ after, lookup host inner path t = some (result, after)) := by
  have pieces : Text.pieces '.' path = (head, rest) := by
    rw [← joined]
    exact Text.pieces_join whole wholes
  obtain ⟨answer, answers, steady'⟩ := steady.answer s rfl head
  refine ⟨answer, answers, ?_, fun known => ?_⟩
  · -- The name is not known, and the scopes of both contexts go on with the same views.
    rintro rfl t inner id outer grown edits there rfl around chain steadies
    have kept := grown.kept
    have before : id < t.contextCount := Nat.lt_trans (kept.inner there around) there
    obtain rfl := chain.unique (kept.chain before)
    -- The values around answer the first name, and so they do in the context over the value.
    obtain ⟨other, among, steady''⟩ := Scope.AnswersAmong.of_steady s rfl head steadies
    obtain ⟨result, yields⟩ := Value.Yields.of_steady s rfl rest steady''
    have among' : Scope.AnswersAmong host s.edits (t.contexts inner).scope.views head other := by
      rw [views_of_parent kept there around]
      exact .of_absent answers among
    have found (scope : Scope) (among : Scope.AnswersAmong host s.edits scope.views head other) :
        Fixed t.edits (scope.find host path) result := by
      rw [edits]
      exact Scope.fixed_find_of_pieces several pieces among yields
    obtain ⟨after, looked⟩ := lookup_of_fixed kept there (found _ among')
    obtain ⟨after', looked'⟩ := lookup_of_fixed kept before (found _ among)
    exact ⟨result, after, after', looked, looked'⟩
  · -- The name is known, and no view around the value is asked.
    obtain ⟨result, yields⟩ := Value.Yields.of_steady s rfl rest steady'
    refine ⟨result, yields, ?_⟩
    rintro t inner grown edits there rfl
    refine lookup_of_fixed grown.kept there ?_
    rw [edits]
    exact Scope.fixed_find_of_pieces several pieces (.of_answers _ answers known) yields

/--
A mapping with an entry of null inside another mapping, which could resolve the whole path: what is
found first has no further names, and null is the value.
-/
theorem lookup_over_null :
    let host : Host Unit := ⟨fun _ _ state => (.ok .null, state), fun _ _ state =>
      .value .null state⟩
    let view : Value := .mapping [(.text ['a'], .null)]
    let outer : Value := .mapping [(.text ['a'], .mapping [(.text ['b'], .int 1)])]
    let path : Text := ['a', '.', 'b']
    ∃ s : Session Unit, s.Grown host ∧ 1 < s.contextCount ∧ (s.contexts 1).parent = some 0
      ∧ (s.contexts 1).scope.view = view ∧ (s.contexts 0).scope.view = outer
      ∧ (∃ after, lookup host 0 path s = some (.ok (.int 1), after))
      ∧ ∃ after, lookup host 1 path s = some (.ok .null, after) := by
  intro host view outer path
  let root : Context := { scope := { view := outer } }
  let inner : Context := { scope := root.scope.push view, parent := some 0 }
  let start : Session Unit := { host := () }
  let first : Session Unit := { start with
    contexts := fun n => if n = 0 then root else start.contexts n
    contextCount := 1 }
  let s : Session Unit := { first with
    contexts := fun n => if n = 1 then inner else first.contexts n
    contextCount := 2 }
  -- Both contexts were made by the steps that a session may take.
  have made : Render.keep root start = some (.ok 0, first) := rfl
  have pushed : Context.push 0 view first = some (.ok 1, s) := rfl
  have grown : s.Grown host :=
    ⟨start, rfl, .tail (.tail .refl (.root outer made)) (.push (by decide) pushed)⟩
  have constant : host.Constant := fun _ _ _ _ => rfl
  have steady : view.Steady host s.edits := constant.steady () view
  have several : path ≠ ['.'] := by decide
  have joined : Text.join '.' ['a'] [['b']] = path := rfl
  have whole : '.' ∉ ['a'] := by decide
  have wholes : ∀ name ∈ [['b']], '.' ∉ name := by decide
  have outermost : (lookup host 0 path s).map (·.1) = some (.ok (.int 1)) := by
    with_unfolding_all rfl
  obtain ⟨⟨_, after⟩, looked, rfl⟩ := Option.map_eq_some_iff.mp outermost
  obtain ⟨answer, answers, -, known⟩ := lookup_over host steady several joined whole wholes
  -- The mapping answers the first name with null, which does not know the second one.
  have null : view.Answers host s.edits ['a'] (.ok .null) := fun s same => ⟨s, rfl, same⟩
  have unknown : Value.null.Answers host s.edits ['b'] (.ok .absent) := fun s same => ⟨s, rfl, same⟩
  obtain rfl := answers.unique s rfl null
  obtain ⟨result, yields, looks⟩ := known nofun
  -- Null has no entry by the second name, so that the path resolves to nothing more.
  cases yields with
  | next _ answers rest =>
    obtain rfl := answers.unique s rfl unknown
    cases rest with
    | missing =>
      have there : 1 < s.contextCount := Nat.one_lt_two
      exact ⟨s, grown, there, rfl, rfl, rfl, ⟨after, looked⟩, looks s 1 grown rfl there rfl⟩
    | found present => exact absurd rfl present

end Context

end Mustache
