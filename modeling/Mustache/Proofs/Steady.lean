import Mustache.Proofs.Consulting

/-!
Values that give fixed answers, and what the paths stand for that are resolved among them.

Nothing is remembered here: a path is resolved from the values in scope each time.
-/

namespace Mustache

variable {σ : Type} {host : Host σ} {edits : Nat → Edits}

/-- A step that always has one result where the same was written into shared values. -/
def Fixed {α : Type} (edits : Nat → Edits) (step : Render σ α) (result : Except Failure α) : Prop :=
  ∀ s : Session σ, s.edits = edits → ∃ t, step s = some (result, t) ∧ t.edits = edits

namespace Fixed

variable {α β : Type}

/-- To give a value has one result. -/
theorem pure (value : α) : Fixed edits (Pure.pure value : Render σ α) (.ok value) :=
  fun s same => ⟨s, rfl, same⟩

/-- A result that needs no session is the result. -/
theorem ofExcept (result : Except Failure α) :
    Fixed edits (Render.ofExcept result : Render σ α) result := by
  -- The result is a value or a failure.
  cases result <;> exact fun s same => ⟨s, rfl, same⟩

/-- After a step with a value as its one result the next step goes on from that value. -/
theorem bind {step : Render σ α} {next : α → Render σ β} {value : α} {result : Except Failure β}
    (first : Fixed edits step (.ok value)) (second : Fixed edits (next value) result) :
    Fixed edits (step >>= next) result := by
  intro s same
  -- What was written stays the same, so that the next step comes out as assumed.
  obtain ⟨t, stepped, same'⟩ := first s same
  rw [Render.bind_apply, stepped]
  exact second t same'

/-- A step that always fails leaves nothing to the next one. -/
theorem bind_error {step : Render σ α} (next : α → Render σ β) {failure : Failure}
    (first : Fixed edits step (.error failure)) : Fixed edits (step >>= next) (.error failure) := by
  intro s same
  -- The failure of the first step is that of both.
  obtain ⟨t, stepped, same'⟩ := first s same
  rw [Render.bind_apply, stepped]
  exact ⟨t, rfl, same'⟩

/-- There is only one result. -/
theorem unique {step : Render σ α} {result other : Except Failure α} (s : Session σ)
    (same : s.edits = edits) (first : Fixed edits step result) (second : Fixed edits step other) :
    result = other := by
  -- A step has one result in one session.
  obtain ⟨t, ran, -⟩ := first s same
  obtain ⟨t', ran', -⟩ := second s same
  rw [ran] at ran'
  exact (Prod.mk.inj (Option.some.inj ran')).1

end Fixed

namespace Value

/-- A value always gives one answer to a name. -/
abbrev Answers (host : Host σ) (edits : Nat → Edits) (value : Value) (name : Text)
    (answer : Except Failure Value) : Prop :=
  Fixed edits (value.resolve host name) answer

/-- A value always gives one answer to the first of some names, and what it gives to the others. -/
def SteadyAlong (host : Host σ) (edits : Nat → Edits) : Value → List Text → Prop
  | _, [] => True
  | value, name :: rest => ∃ answer, value.Answers host edits name answer ∧
      ∀ found, answer = .ok found → SteadyAlong host edits found rest

/-- A value gives fixed answers, and so does all that is found in it, at any depth. -/
def Steady (host : Host σ) (edits : Nat → Edits) (value : Value) : Prop :=
  ∀ names, value.SteadyAlong host edits names

/-- The mark of absence knows no name. -/
theorem answers_absent (name : Text) : absent.Answers host edits name (.ok .absent) := by
  -- It has no attributes, and looking for one fails nowhere.
  have unknown : absent.member name = .ok .absent := by
    change Except.ok (absent.publicAttribute name) = _
    unfold publicAttribute
    split <;> rfl
  intro s same
  change ∃ t, (Render.ofExcept (absent.member name) : Render σ Value) s = _ ∧ _
  rw [unknown]
  exact ⟨s, rfl, same⟩

/-- The mark of absence is steady. -/
theorem steady_absent : absent.Steady host edits := by
  -- The answer to each name is the mark of absence again.
  intro names
  induction names with
  | nil => trivial
  | cons name names ih =>
    refine ⟨_, answers_absent name, fun found given => ?_⟩
    cases given
    exact ih

/-- What a steady value answers to a name is steady again. -/
theorem Steady.answer {value : Value} (steady : value.Steady host edits) (s : Session σ)
    (same : s.edits = edits) (name : Text) :
    ∃ answer, value.Answers host edits name answer ∧
      ∀ found, answer = .ok found → found.Steady host edits := by
  obtain ⟨answer, answers, -⟩ := steady [name]
  refine ⟨answer, answers, fun found given names => ?_⟩
  -- Whatever names follow, the answer to the first one is the same.
  obtain ⟨other, answers', along⟩ := steady (name :: names)
  exact along found ((answers'.unique s same answers).trans given)

/--
What comes of asking for names in turn, strictly inside what was answered so far.

A name without a value ends it with null, and a failure ends it as it is.
-/
inductive Yields (host : Host σ) (edits : Nat → Edits) :
    Except Failure Value → List Text → Except Failure Value → Prop
  /-- There was a failure. -/
  | failed (failure : Failure) (names : List Text) :
      Yields host edits (.error failure) names (.error failure)
  /-- There was no value. -/
  | missing (names : List Text) : Yields host edits (.ok .absent) names (.ok .null)
  /-- There was a value, and no name is left. -/
  | found {value : Value} (present : value ≠ .absent) : Yields host edits (.ok value) [] (.ok value)
  /-- There was a value, which is asked for the next name. -/
  | next {value : Value} {name : Text} {names : List Text} {answer result : Except Failure Value}
      (present : value ≠ .absent) (answers : value.Answers host edits name answer)
      (rest : Yields host edits answer names result) :
      Yields host edits (.ok value) (name :: names) result

/-- Something comes of asking steady values for names in turn. -/
theorem Yields.of_steady (s : Session σ) (same : s.edits = edits) (names : List Text)
    {answer : Except Failure Value}
    (steady : ∀ found, answer = .ok found → found.Steady host edits) :
    ∃ result, Yields host edits answer names result := by
  -- The names are gone through; a failure or an absence ends the questions.
  induction names generalizing answer with
  | nil =>
    rcases answer with failure | value
    · exact ⟨_, .failed failure []⟩
    · by_cases present : value = .absent
      · subst present
        exact ⟨_, .missing []⟩
      · exact ⟨_, .found present⟩
  | cons name names ih =>
    rcases answer with failure | value
    · exact ⟨_, .failed failure _⟩
    · by_cases present : value = .absent
      · subst present
        exact ⟨_, .missing _⟩
      · -- What the value answers to the name is steady again.
        obtain ⟨answer, answers, steady'⟩ := (steady value rfl).answer s same name
        obtain ⟨result, rest⟩ := ih steady'
        exact ⟨result, .next present answers rest⟩

/-- What comes of asking for names in turn is the one result of resolving them. -/
theorem Yields.fixed {answer result : Except Failure Value} {names : List Text}
    (yields : Yields host edits answer names result) :
    Fixed edits (Render.ofExcept answer >>= fun value => Scope.resolveWithin host value names)
      result := by
  induction yields with
  | failed failure names => exact .bind_error _ (.ofExcept _)
  | missing names => cases names <;> exact .bind (.ofExcept _) (.pure _)
  | @found value present =>
    -- Only the mark of absence is not the value itself.
    cases value with
    | absent => exact absurd rfl present
    | _ => exact .pure _
  | @next value name names answer result present answers rest ih =>
    -- The answer is asked for the names left, unless it is a failure.
    have asks : Fixed edits (value.resolve host name >>= fun found =>
        Scope.resolveWithin host found names) result := by
      cases answer with
      | ok found => exact .bind answers ih
      | error failure =>
        cases rest
        exact .bind_error _ answers
    cases value with
    | absent => exact absurd rfl present
    | _ => exact asks

end Value

/-- The functions of a host by which providers answer always give the same answer to a name. -/
def Host.Constant (host : Host σ) : Prop :=
  ∀ id name state state',
    (host.answer id (.resolve (.text name)) state).1 = (host.answer id (.resolve (.text name)) state').1

namespace Host.Constant

/-- A function of such a host always gives one answer to a name. -/
theorem call (constant : host.Constant) (state : σ) (f : Function) (name : Text) :
    ∃ answer, Fixed edits (f.call host (.resolve (.text name))) answer := by
  -- Whether a function takes a single argument only depends on the function.
  have checks (f : Function) : Fixed (σ := σ) edits (f.checkCount 1)
      (if f.accepts 1 then .ok () else .error .wrongArity) := by
    unfold Function.checkCount
    split
    · exact .pure ()
    · exact fun s same => ⟨_, rfl, same⟩
  by_cases accepts : f.accepts 1 = true
  · have checked := checks f
    rw [if_pos accepts] at checked
    cases f with
    | html => exact ⟨_, .bind checked (.pure _)⟩
    | hosted id className label arity =>
      let call : Call := .resolve (.text name)
      -- The host answers as it would in any other state.
      have asked : Fixed edits (host.ask id call) (.ok (host.answer id call state).1) := by
        intro s same
        rw [constant id name state s.host]
        exact ⟨_, rfl, same⟩
      refine ⟨(host.answer id call state).1.mapError HostFailure.toFailure, ?_⟩
      rw [Function.call_hosted]
      refine .bind checked (.bind asked (.bind (fun s same => ⟨_, rfl, same⟩) (.ofExcept _)))
  · have checked := checks f
    rw [if_neg accepts] at checked
    exact ⟨_, by cases f <;> exact .bind_error _ checked⟩

/-- Every value always gives one answer to a name. -/
theorem answers (constant : host.Constant) (state : σ) (value : Value) (name : Text) :
    ∃ answer, value.Answers host edits name answer := by
  have opens : Fixed edits (Render.opened value : Render σ Value) (.ok (value.openedIn edits)) := by
    intro s same
    rw [Render.opened_apply, same]
    exact ⟨s, rfl, same⟩
  -- A provider is asked, if what it is asked by is a function, and other values know the name or not.
  cases found : (value.openedIn edits).resolver? with
  | none =>
    refine ⟨(value.openedIn edits).member name, .bind opens ?_⟩
    rw [found]
    exact .ofExcept _
  | some resolver =>
    have called : ∃ answer, Fixed edits (resolver.call host (.resolve (.text name))) answer := by
      cases resolver with
      -- A function of the host gives one answer, and nothing else can be called.
      | function f => exact call constant state f name
      | _ => exact ⟨.error .notCallable, fun s same => ⟨s, rfl, same⟩⟩
    obtain ⟨answer, fixed⟩ := called
    refine ⟨answer, .bind opens ?_⟩
    rw [found]
    exact fixed

/-- Where the functions of providers always give the same answers every value is steady. -/
theorem steady (constant : host.Constant) (state : σ) (value : Value) :
    value.Steady host edits := by
  -- By induction on how many names are asked for, whatever the value.
  intro names
  induction names generalizing value with
  | nil => trivial
  | cons name names ih =>
    obtain ⟨answer, answers⟩ := constant.answers state value name
    exact ⟨answer, answers, fun found _ => ih found⟩

end Host.Constant

namespace Scope

/-- The value of a path, for which nothing is remembered; a single dot is the innermost value. -/
def find (host : Host σ) (scope : Scope) (path : Text) : Render σ Value :=
  if path = ['.'] then pure scope.view else scope.resolvePath host path

/-- Values always give one answer among them to a name. -/
abbrev AnswersAmong (host : Host σ) (edits : Nat → Edits) (views : List Value) (name : Text)
    (answer : Except Failure Value) : Prop :=
  Fixed edits (resolveAmong host name views) answer

/-- A value that does not know a name leaves the answer to the values around it. -/
theorem AnswersAmong.of_absent {view : Value} {outer : List Value} {name : Text}
    {answer : Except Failure Value} (unknown : view.Answers host edits name (.ok .absent))
    (among : AnswersAmong host edits outer name answer) :
    AnswersAmong host edits (view :: outer) name answer := by
  -- The search goes on among the values around it.
  rw [AnswersAmong, resolveAmong]
  exact .bind unknown among

/-- A value that knows a name gives the answer, whatever values are around it. -/
theorem AnswersAmong.of_answers {view : Value} (outer : List Value) {name : Text}
    {answer : Except Failure Value} (answers : view.Answers host edits name answer)
    (known : answer ≠ .ok .absent) : AnswersAmong host edits (view :: outer) name answer := by
  -- Values further out are asked only if this one knows nothing.
  rw [AnswersAmong, resolveAmong]
  rcases answer with failure | found
  · -- A failure is an answer as well.
    exact .bind_error _ answers
  · refine .bind answers ?_
    cases found with
    | absent => exact absurd rfl known
    | _ => exact .pure _

/-- Steady values always give one answer among them, which is steady again. -/
theorem AnswersAmong.of_steady (s : Session σ) (same : s.edits = edits) (name : Text)
    {views : List Value} (steady : ∀ view ∈ views, view.Steady host edits) :
    ∃ answer, AnswersAmong host edits views name answer ∧
      ∀ found, answer = .ok found → found.Steady host edits := by
  -- The innermost value that knows the name decides.
  induction views with
  | nil =>
    refine ⟨.ok .absent, .pure _, fun found given => ?_⟩
    cases given
    exact Value.steady_absent
  | cons view outer ih =>
    obtain ⟨answer, answers, steady'⟩ := (steady view List.mem_cons_self).answer s same name
    -- A value that does not know the name leaves it to those around it.
    by_cases known : answer = .ok .absent
    · subst known
      obtain ⟨other, among, steady''⟩ := ih fun view later => steady view (List.mem_cons_of_mem _ later)
      exact ⟨other, .of_absent answers among, steady''⟩
    · exact ⟨answer, .of_answers outer answers known, steady'⟩

/-- What comes of the first name of a path and then of the others is what the path stands for. -/
theorem fixed_find_of_pieces {scope : Scope} {path head : Text} {rest : List Text}
    (several : path ≠ ['.']) (pieces : Text.pieces '.' path = (head, rest))
    {answer result : Except Failure Value}
    (among : AnswersAmong host edits scope.views head answer)
    (yields : Value.Yields host edits answer rest result) :
    Fixed edits (scope.find host path) result := by
  rw [find, if_neg several, resolvePath, pieces]
  have within := yields.fixed
  -- A failure at the first name is what comes of the path.
  cases answer with
  | ok found => exact .bind among within
  | error failure =>
    cases yields
    exact .bind_error _ among

/-- Among steady values a path always stands for the same. -/
theorem fixed_find_of_steady (s : Session σ) (same : s.edits = edits) {scope : Scope}
    (steady : ∀ view ∈ scope.views, view.Steady host edits) (path : Text) :
    ∃ result, Fixed edits (scope.find host path) result := by
  by_cases several : path = ['.']
  · -- A single dot stands for the view itself.
    refine ⟨.ok scope.view, ?_⟩
    rw [find, if_pos several]
    exact .pure _
  · -- The first name is asked among the values, and the others of what has come of it.
    obtain ⟨answer, among, steady'⟩ := AnswersAmong.of_steady s same _ steady
    obtain ⟨result, yields⟩ := Value.Yields.of_steady s same _ steady'
    exact ⟨result, fixed_find_of_pieces several rfl among yields⟩

end Scope

end Mustache
