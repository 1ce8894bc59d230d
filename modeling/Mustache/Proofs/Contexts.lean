import Mathlib.Logic.Relation
import Mustache.Proofs.Steady

/-!
Contexts that are put inside each other, and what they remember of the paths looked up in them.

Steps make contexts and look up paths in them, and leave all that there are as they were but for what
they remember.
-/

namespace Mustache

variable {σ : Type} {host : Host σ}

namespace Context

/-- A step that makes a context, or looks up a path in one. -/
inductive Step (host : Host σ) : Session σ → Session σ → Prop
  /-- A context around which there is none. -/
  | root {s t : Session σ} {id : Nat} (view : Value)
      (made : Render.keep { scope := { view := view } } s = some (.ok id, t)) : Step host s t
  /-- A context inside one that there is. -/
  | push {s t : Session σ} {id inner : Nat} {view : Value} (there : id < s.contextCount)
      (pushed : Context.push id view s = some (.ok inner, t)) : Step host s t
  /-- A lookup in a context, which may fail. -/
  | lookup {s t : Session σ} {id : Nat} {path : Text} {result : Except Failure Value}
      (there : id < s.contextCount)
      (looked : Context.lookup host id path s = some (result, t)) : Step host s t

/-- Any number of such steps. -/
abbrev Steps (host : Host σ) : Session σ → Session σ → Prop :=
  Relation.ReflTransGen (Step host)

/-- The values along the contexts around each other, from the inside out. -/
inductive Chain (contexts : Nat → Context) : Nat → List Value → Prop
  /-- There is no context around this one. -/
  | root {id : Nat} (outermost : (contexts id).parent = none) :
      Chain contexts id [(contexts id).scope.view]
  /-- There is a context around this one. -/
  | inside {id parent : Nat} {views : List Value} (around : (contexts id).parent = some parent)
      (outer : Chain contexts parent views) :
      Chain contexts id ((contexts id).scope.view :: views)

/-- A context after a path was looked up in it: only a value is remembered. -/
def remember (context : Context) (path : Text) : Except Failure Value → Context
  | .ok value => { context with memo := (path, value) :: context.memo }
  | .error _ => context

/-- A context has the same scope after a lookup. -/
@[simp] theorem remember_scope (context : Context) (path : Text) (result : Except Failure Value) :
    (context.remember path result).scope = context.scope := by
  -- Only the memory of a context is changed by a lookup.
  cases result <;> rfl

/-- A context has the same context around it after a lookup. -/
@[simp] theorem remember_parent (context : Context) (path : Text)
    (result : Except Failure Value) : (context.remember path result).parent = context.parent := by
  cases result <;> rfl

/-- What a context remembers it remembers after the lookup of a path that was not remembered. -/
theorem lookup_remember {context : Context} {path other : Text} {value : Value}
    (new : context.memo.lookup path = none) (result : Except Failure Value)
    (known : context.memo.lookup other = some value) :
    (context.remember path result).memo.lookup other = some value := by
  -- A failure is not remembered, and what was found is kept under its own path.
  cases result with
  | error failure => exact known
  | ok found =>
    have different : other ≠ path := by
      rintro rfl
      rw [new] at known
      cases known
    rw [remember, List.lookup_cons, beq_false_of_ne different]
    exact known

/-- What a context remembers after a lookup is what it remembered, or what was found. -/
theorem lookup_remember_cases {context : Context} {path other : Text} {value : Value}
    {result : Except Failure Value}
    (known : (context.remember path result).memo.lookup other = some value) :
    other = path ∧ result = .ok value ∨ context.memo.lookup other = some value := by
  -- Only a value that was found is new in the memory.
  cases result with
  | error failure => exact .inr known
  | ok found =>
    rw [remember, List.lookup_cons] at known
    by_cases same : other = path
    · -- It is the path just looked up, and what was found is in front of all else.
      subst same
      rw [beq_self_eq_true] at known
      cases known
      exact .inl ⟨rfl, rfl⟩
    · rw [beq_false_of_ne same] at known
      exact .inr known

/-- To find the value of a path in a context, for which nothing is remembered. -/
def find (host : Host σ) (id : Nat) (path : Text) : Render σ Value :=
  Render.inContext id fun scope => scope.find host path

end Context

/-- A session whose contexts have all been made one by one. -/
def Session.Grown (host : Host σ) (s : Session σ) : Prop :=
  ∃ start : Session σ, start.contextCount = 0 ∧ Context.Steps host start s

/-- A session from which another one is reached by calling functions and nothing else. -/
structure Session.Asked (s t : Session σ) : Prop where
  /-- What the steps go by is the same, apart from the host. -/
  stage : t.stage = s.stage.hosting t.host
  /-- The number of contexts is the same. -/
  count : t.contextCount = s.contextCount

instance : Session.Calling (Session.Asked : Session σ → Session σ → Prop) where
  refl := fun _ => ⟨rfl, rfl⟩
  trans := by
    intro s t u first second
    refine ⟨?_, second.count.trans first.count⟩
    rw [second.stage, first.stage]
    rfl
  hosting := fun _ _ => ⟨rfl, rfl⟩
  called := fun _ _ _ _ => ⟨rfl, rfl⟩
  refused := fun _ _ _ => ⟨rfl, rfl⟩

namespace Scope

/-- A path that is remembered is not resolved again. -/
theorem lookup_of_memo (host : Host σ) (scope : Scope) {s : Session σ} {path : Text}
    (several : path ≠ ['.']) {value : Value} (known : s.memo.lookup path = some value) :
    scope.lookup host path s = some (.ok value, s) := by
  rw [lookup, if_neg several, Render.get_bind, known]
  rfl

/-- A path that is not remembered is resolved, and a value that it stands for is remembered. -/
theorem lookup_of_new (host : Host σ) (scope : Scope) {s : Session σ} {path : Text}
    (several : path ≠ ['.']) (new : s.memo.lookup path = none) :
    scope.lookup host path s = (scope.find host path s).map fun o => (o.1,
      match o.1 with
      | .ok value => { o.2 with memo := (path, value) :: o.2.memo }
      | .error _ => o.2) := by
  rw [lookup, if_neg several, Render.get_bind, new, find, if_neg several]
  dsimp only
  -- What comes of the path decides whether it is remembered.
  rw [Render.bind_apply]
  cases scope.resolvePath host path s with
  -- The same session comes out, whatever the result is.
  | none => rfl
  | some outcome =>
    obtain ⟨result, t⟩ := outcome
    cases result <;> rfl

/-- To find the value of a path leads along every relation that calls of functions lead along. -/
theorem leads_find {R : Session σ → Session σ → Prop} [Session.Calling R] (host : Host σ)
    (scope : Scope) (path : Text) : Leads R (scope.find host path) := by
  -- A single dot asks nobody; any other path is resolved.
  unfold find
  split
  · exact .pure _
  · exact .resolvePath host scope path

end Scope

namespace Context

section Lookup

variable {s : Session σ} {id : Nat} {path : Text}

/-- Nothing changes when the scope of a context is left as it was entered. -/
theorem leaving_knowing (s : Session σ) (id : Nat) :
    (s.onStage (s.stage.knowing (s.contexts id).memo)).onStage
      ((s.onStage (s.stage.knowing (s.contexts id).memo)).stage.leaving id (s.contexts id) s.memo)
      = s := by
  -- Each part of the session is put back; only for the contexts is there something to see.
  have same : (fun n => if n = id then s.contexts id else s.contexts n) = s.contexts := by
    funext n
    split
    · rename_i same
      rw [same]
    · rfl
  unfold Session.onStage Session.stage Stage.leaving Stage.knowing
  simp only [same]

/-- A single dot stands for the innermost value, and nothing happens when it is looked up. -/
theorem lookup_dot (host : Host σ) (s : Session σ) (id : Nat) :
    lookup host id ['.'] s = some (.ok (s.contexts id).scope.view, s) := by
  -- The scope is entered and left without a change in between.
  rw [lookup, Render.inContext_apply]
  change some (_, _) = _
  rw [leaving_knowing]

/-- A path that is remembered stands for the value remembered, and nothing happens. -/
theorem lookup_of_memo (host : Host σ) (several : path ≠ ['.']) {value : Value}
    (known : (s.contexts id).memo.lookup path = some value) :
    lookup host id path s = some (.ok value, s) := by
  rw [lookup, Render.inContext_apply, Scope.lookup_of_memo host _ several known, Option.map_some,
    leaving_knowing]

/-- A path that is not remembered is resolved, and a value that it stands for is remembered. -/
theorem lookup_of_new (host : Host σ) (several : path ≠ ['.'])
    (new : (s.contexts id).memo.lookup path = none) :
    lookup host id path s =
      ((s.contexts id).scope.find host path (s.onStage (s.stage.knowing (s.contexts id).memo))).map
        fun o => (o.1, { o.2 with
          memo := s.memo
          contexts := fun n => if n = id then (s.contexts id).remember path o.1 else s.contexts n }) := by
  rw [lookup, Render.inContext_apply, Scope.lookup_of_new host _ several new, Option.map_map]
  -- Nothing but the host changes while the path is resolved.
  refine Option.map_congr fun o found => ?_
  obtain ⟨result, t⟩ := o
  have asked : Session.Asked _ t := Scope.leads_find host _ path _ _ _ found
  have memo : t.memo = (s.contexts id).memo := congrArg Stage.memo asked.stage
  have contexts : t.contexts = s.contexts := congrArg Stage.contexts asked.stage
  cases result with
  -- Whatever was found, the other contexts are kept as they were.
  | error failure =>
    simp only [Function.comp_apply, Session.onStage, Session.stage, Stage.leaving, remember, memo,
      contexts]
  | ok value =>
    simp only [Function.comp_apply, Session.onStage, Session.stage, Stage.leaving, remember, memo,
      contexts]

/-- A lookup changes nothing, or it resolves the path for the first time. -/
theorem lookup_cases {t : Session σ} {result : Except Failure Value}
    (looked : lookup host id path s = some (result, t)) :
    (t = s ∧ ∃ value, result = .ok value
        ∧ (path = ['.'] ∨ (s.contexts id).memo.lookup path = some value))
      ∨ path ≠ ['.'] ∧ (s.contexts id).memo.lookup path = none
        ∧ t.edits = s.edits ∧ t.contextCount = s.contextCount
        ∧ (t.contexts = fun n => if n = id then (s.contexts id).remember path result else s.contexts n)
        ∧ ∃ u found : Session σ, u.edits = s.edits
          ∧ (s.contexts id).scope.find host path u = some (result, found) := by
  by_cases several : path = ['.']
  · -- A single dot is never remembered.
    subst several
    rw [lookup_dot] at looked
    cases looked
    exact .inl ⟨rfl, _, rfl, .inl rfl⟩
  · cases known : (s.contexts id).memo.lookup path with
    | some value =>
      rw [lookup_of_memo host several known] at looked
      cases looked
      exact .inl ⟨rfl, value, rfl, .inr rfl⟩
    | none =>
      rw [lookup_of_new host several known] at looked
      -- What the path was resolved to is all that is put into the context.
      obtain ⟨⟨outcome, found⟩, resolved, same⟩ := Option.map_eq_some_iff.mp looked
      have asked : Session.Asked _ found := Scope.leads_find host _ path _ _ _ resolved
      cases same
      have edits : found.edits = s.edits := congrArg Stage.edits asked.stage
      refine .inr ⟨several, rfl, edits, asked.count, rfl,
        s.onStage (s.stage.knowing (s.contexts id).memo), found, rfl, resolved⟩

end Lookup

/-- A session from which another one is reached while the contexts that there are stay the same. -/
structure Grows (s t : Session σ) : Prop where
  /-- There are no fewer contexts. -/
  count : s.contextCount ≤ t.contextCount
  /-- What was written into shared values is the same. -/
  edits : t.edits = s.edits
  /-- Each context has the same scope. -/
  scope {id : Nat} (there : id < s.contextCount) : (t.contexts id).scope = (s.contexts id).scope
  /-- Each context has the same context around it. -/
  parent {id : Nat} (there : id < s.contextCount) : (t.contexts id).parent = (s.contexts id).parent
  /-- What a context remembers it goes on to remember. -/
  memo {id : Nat} {path : Text} {value : Value} (there : id < s.contextCount)
    (known : (s.contexts id).memo.lookup path = some value) :
    (t.contexts id).memo.lookup path = some value

namespace Grows

instance : IsPreorder (Session σ) Grows where
  refl := fun _ => ⟨Nat.le_refl _, rfl, fun _ => rfl, fun _ => rfl, fun _ known => known⟩
  trans := by
    intro s t u first second
    have still {id : Nat} (there : id < s.contextCount) : id < t.contextCount :=
      Nat.lt_of_lt_of_le there first.count
    refine ⟨Nat.le_trans first.count second.count, second.edits.trans first.edits, fun there => ?_,
      fun there => ?_, fun there known => ?_⟩
    · rw [second.scope (still there), first.scope there]
    · rw [second.parent (still there), first.parent there]
    · exact second.memo (still there) (first.memo there known)

/-- A new context leaves the others as they are. -/
theorem of_keep {s t : Session σ} {context : Context} {id : Nat}
    (made : Render.keep context s = some (.ok id, t)) : Grows s t := by
  cases made
  have other {id : Nat} (there : id < s.contextCount) :
      (if id = s.contextCount then context else s.contexts id) = s.contexts id :=
    if_neg (Nat.ne_of_lt there)
  -- Contexts that were there have a smaller number than the new one.
  refine ⟨Nat.le_succ _, rfl, fun there => ?_, fun there => ?_, fun there known => ?_⟩
  · exact congrArg Context.scope (other there)
  · exact congrArg Context.parent (other there)
  · rw [← other there] at known
    exact known

/-- A lookup leaves all contexts as they are, except that one may remember more. -/
theorem of_lookup {s t : Session σ} {id : Nat} {path : Text} {result : Except Failure Value}
    (looked : Context.lookup host id path s = some (result, t)) : Grows s t := by
  rcases lookup_cases looked with ⟨rfl, -⟩ | ⟨-, new, edits, count, contexts, -⟩
  · -- Nothing was looked up, or only remembered.
    exact Std.Refl.refl t
  · have other {id' : Nat} (different : id' ≠ id) : t.contexts id' = s.contexts id' := by
      rw [contexts]
      exact if_neg different
    have same : t.contexts id = (s.contexts id).remember path result := by
      rw [contexts]
      exact if_pos rfl
    -- The context that was asked may remember more; all others are the same.
    refine ⟨Nat.le_of_eq count.symm, edits, fun {id'} _ => ?_, fun {id'} _ => ?_,
      fun {id' path' value} _ known => ?_⟩
    all_goals by_cases different : id' = id
    · rw [different, same, remember_scope]
    · rw [other different]
    · rw [different, same, remember_parent]
    · rw [other different]
    · rw [different] at known
      rw [different, same]
      exact lookup_remember new result known
    · rwa [other different]

end Grows

/-- A step leaves the contexts that there are as they are. -/
theorem Step.grows {s t : Session σ} (step : Step host s t) : Grows s t := by
  -- Each kind of step was shown to leave the contexts alone.
  cases step with
  | root view made => exact .of_keep made
  | push there pushed => exact .of_keep pushed
  | lookup there looked => exact .of_lookup looked

/-- Any number of steps leave the contexts that there are as they are. -/
theorem Steps.grows {s t : Session σ} (steps : Steps host s t) : Grows s t := by
  -- What two rounds of steps leave alone their sequence leaves alone.
  induction steps with
  | refl => exact Std.Refl.refl s
  | tail _ step ih => exact IsTrans.trans _ _ _ ih step.grows

end Context

/-- A session whose contexts are put inside each other, and remember what was found in them. -/
structure Session.Kept (host : Host σ) (s : Session σ) : Prop where
  /-- The context around another one was made before. -/
  inner {id parent : Nat} (there : id < s.contextCount)
    (around : (s.contexts id).parent = some parent) : parent < id
  /-- The scope of a context has the values along the contexts around each other. -/
  chain {id : Nat} (there : id < s.contextCount) :
    Context.Chain s.contexts id (s.contexts id).scope.views
  /-- What a context remembers was found in its scope. -/
  found {id : Nat} {path : Text} {value : Value} (there : id < s.contextCount)
    (known : (s.contexts id).memo.lookup path = some value) :
    ∃ u t : Session σ, u.edits = s.edits
      ∧ (s.contexts id).scope.find host path u = some (.ok value, t)

namespace Session.Kept

variable {s t : Session σ}

/-- The values along contexts stay the same while others are made. -/
theorem chain_of_grows (kept : s.Kept host) (grows : Context.Grows s t) {id : Nat}
    {views : List Value} (chain : Context.Chain s.contexts id views) (there : id < s.contextCount) :
    Context.Chain t.contexts id views := by
  -- The induction goes outwards along the chain, whose contexts have smaller and smaller numbers.
  induction chain with
  | root outermost =>
    rw [← grows.scope there]
    exact .root ((grows.parent there).trans outermost)
  | inside around _ ih =>
    have before := Nat.lt_trans (kept.inner there around) there
    rw [← grows.scope there]
    exact .inside ((grows.parent there).trans around) (ih before)

/-- Contexts that were there before are still kept when others remember no less. -/
theorem found_of_grows (kept : s.Kept host) (grows : Context.Grows s t) {id : Nat} {path : Text}
    {value : Value} (there : id < s.contextCount)
    (known : (s.contexts id).memo.lookup path = some value) :
    ∃ u v : Session σ, u.edits = t.edits
      ∧ (t.contexts id).scope.find host path u = some (.ok value, v) := by
  -- It was found once, and neither the scope nor what was written into values has changed since.
  rw [grows.edits, grows.scope there]
  exact kept.found there known

/-- Contexts are still kept after a new one is made whose scope has the values around it. -/
theorem of_keep (kept : s.Kept host) {context : Context} {id : Nat} (fresh : context.memo = [])
    (placed : context.parent = none ∧ context.scope.outer = []
      ∨ ∃ parent < s.contextCount, context.parent = some parent
        ∧ context.scope.outer = (s.contexts parent).scope.views)
    (made : Render.keep context s = some (.ok id, t)) : t.Kept host := by
  have grows := Context.Grows.of_keep made
  obtain ⟨count, newest, other⟩ : t.contextCount = s.contextCount + 1
      ∧ t.contexts s.contextCount = context
      ∧ ∀ id < s.contextCount, t.contexts id = s.contexts id := by
    cases made
    exact ⟨rfl, if_pos rfl, fun id there => if_neg (Nat.ne_of_lt there)⟩
  have cases {id : Nat} (there : id < t.contextCount) :
      id < s.contextCount ∨ id = s.contextCount := by
    omega
  -- A context was there before, or it is the new one.
  refine ⟨fun there around => ?_, fun there => ?_, fun there known => ?_⟩
  · -- A context that was there keeps its outer one, and the new one was made inside one of them.
    rcases cases there with before | rfl
    · exact kept.inner before ((grows.parent before).symm.trans around)
    · rw [newest] at around
      rcases placed with ⟨none, -⟩ | ⟨parent', before, around', -⟩
      · rw [none] at around
        cases around
      · rw [around'] at around
        cases around
        exact before
  · rcases cases there with before | rfl
    · rw [grows.scope before]
      exact kept.chain_of_grows grows (kept.chain before) before
    · have views : (t.contexts s.contextCount).scope.views
          = (t.contexts s.contextCount).scope.view :: context.scope.outer := by
        rw [newest]
        rfl
      rw [views]
      rcases placed with ⟨none, outer⟩ | ⟨parent, before, around, outer⟩
      · rw [outer]
        exact .root (newest ▸ none)
      · rw [outer]
        exact .inside (newest ▸ around) (kept.chain_of_grows grows (kept.chain before) before)
  · -- The new context remembers nothing yet.
    rcases cases there with before | rfl
    · rw [other _ before] at known
      exact kept.found_of_grows grows before known
    · rw [newest, fresh] at known
      cases known

/-- Contexts are still kept after a lookup in one of them. -/
theorem of_lookup (kept : s.Kept host) {id : Nat} {path : Text} {result : Except Failure Value}
    (looked : Context.lookup host id path s = some (result, t)) : t.Kept host := by
  have grows := Context.Grows.of_lookup looked
  rcases Context.lookup_cases looked with
    ⟨rfl, -⟩ | ⟨-, -, -, count, contexts, u, found, edits, resolved⟩
  · exact kept
  · -- Scopes stay as they are, so that only what is remembered has to be looked at.
    have still {id : Nat} (there : id < t.contextCount) : id < s.contextCount := count ▸ there
    refine ⟨fun there around => ?_, fun there => ?_, fun {id' path' value} there known => ?_⟩
    · exact kept.inner (still there) ((grows.parent (still there)).symm.trans around)
    · rw [grows.scope (still there)]
      exact kept.chain_of_grows grows (kept.chain (still there)) (still there)
    · by_cases same : id' = id
      · subst same
        have after : t.contexts id' = (s.contexts id').remember path result := by
          rw [contexts]
          exact if_pos rfl
        rw [after] at known
        -- What is remembered was remembered before, or has just been found.
        rcases Context.lookup_remember_cases known with ⟨rfl, rfl⟩ | before
        · exact ⟨u, found, edits.trans grows.edits.symm, by rwa [grows.scope (still there)]⟩
        · exact kept.found_of_grows grows (still there) before
      · -- Another context than the one asked remembers what it did.
        have after : t.contexts id' = s.contexts id' := by
          rw [contexts]
          exact if_neg same
        rw [after] at known
        exact kept.found_of_grows grows (still there) known

/-- Contexts are still kept after a step. -/
theorem of_step (kept : s.Kept host) (step : Context.Step host s t) : t.Kept host := by
  -- A context is made at the outermost level, inside of another one, or only asked.
  cases step with
  | root view made => exact kept.of_keep rfl (.inl ⟨rfl, rfl⟩) made
  | push there pushed => exact kept.of_keep rfl (.inr ⟨_, there, rfl, rfl⟩) pushed
  | lookup there looked => exact kept.of_lookup looked

end Session.Kept

/-- Contexts that have been made one by one are kept. -/
theorem Session.Grown.kept {s : Session σ} (grown : s.Grown host) : s.Kept host := by
  obtain ⟨start, none, steps⟩ := grown
  -- The induction is on the steps, each of which keeps the contexts.
  induction steps with
  | refl =>
    -- There is no context at first.
    have nowhere {id : Nat} (there : id < start.contextCount) : False := by omega
    exact ⟨fun there => (nowhere there).elim, fun there => (nowhere there).elim,
      fun there => (nowhere there).elim⟩
  | tail _ step ih => exact ih.of_step step

end Mustache
