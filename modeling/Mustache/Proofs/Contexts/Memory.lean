import Mustache.Proofs.Contexts

/-!
The memory of contexts does not show.

A lookup gives what the path stands for, whatever was looked up before, and a value that was given
once is given ever after without anything being called.
-/

namespace Mustache

variable {σ : Type} {host : Host σ}

namespace Context

variable {s t : Session σ} {id : Nat} {path : Text}

/-- A path that always stands for the same in the scope of a context is looked up as that. -/
theorem lookup_of_fixed (kept : s.Kept host) (there : id < s.contextCount)
    {result : Except Failure Value}
    (fixed : Fixed s.edits ((s.contexts id).scope.find host path) result) :
    ∃ after, lookup host id path s = some (result, after) := by
  -- A single dot is never looked up: it stands for the view itself.
  by_cases several : path = ['.']
  · subst several
    obtain ⟨_, ran, -⟩ := fixed s rfl
    cases ran
    exact ⟨s, lookup_dot host s id⟩
  · cases known : (s.contexts id).memo.lookup path with
    | some value =>
      -- What is remembered was found at some time, when the path stood for the same.
      obtain ⟨u, v, edits, found⟩ := kept.found there known
      obtain ⟨_, ran, -⟩ := fixed u edits
      rw [found] at ran
      cases ran
      exact ⟨s, lookup_of_memo host several known⟩
    | none =>
      obtain ⟨found, ran, -⟩ := fixed (s.onStage (s.stage.knowing (s.contexts id).memo)) rfl
      rw [lookup_of_new host several known, ran]
      exact ⟨_, rfl⟩

/-- A path that was found in a context is looked up as the same value ever after. -/
theorem lookup_of_found {value : Value} (there : id < s.contextCount)
    (looked : lookup host id path s = some (.ok value, t)) {u : Session σ} (grows : Grows t u) :
    lookup host id path u = some (.ok value, u) := by
  have whole := IsTrans.trans _ _ _ (Grows.of_lookup looked) grows
  -- A dot stands for the view of the context, and that one stays.
  by_cases several : path = ['.']
  · subst several
    rw [lookup_dot] at looked
    cases looked
    rw [lookup_dot, grows.scope there]
  · refine lookup_of_memo host several ?_
    rcases lookup_cases looked with ⟨rfl, _, given, only | known⟩ | ⟨-, -, -, count, contexts, -⟩
    · exact absurd only several
    · cases given
      exact grows.memo there known
    · -- The value has been remembered.
      refine grows.memo (count ▸ there) ?_
      rw [contexts]
      dsimp only
      rw [if_pos rfl, remember, List.lookup_cons, beq_self_eq_true]

/-- What can be seen of an outcome: the result, the state of the host, and what has happened. -/
def seen (outcome : Except Failure Value × Session σ) : Except Failure Value × σ × List Event :=
  (outcome.1, outcome.2.host, outcome.2.journal)

/-- A path is looked up in a context just as if nothing were ever remembered. -/
def Walked (host : Host σ) (id : Nat) (path : Text) (s : Session σ) : Prop :=
  (lookup host id path s).map seen = (find host id path s).map seen

/-- A path that is not remembered is looked up as if nothing were ever remembered. -/
theorem walked_of_new (host : Host σ) (several : path ≠ ['.'])
    (new : (s.contexts id).memo.lookup path = none) : Walked host id path s := by
  rw [Walked, lookup_of_new host several new, find, Render.inContext_apply, Option.map_map,
    Option.map_map]
  -- Only what is remembered differs.
  rfl

/-- A path is still not remembered after some steps, unless a lookup of it has given a value. -/
theorem new_or_found (there : id < s.contextCount)
    (new : (s.contexts id).memo.lookup path = none) (steps : Steps host s t) :
    (t.contexts id).memo.lookup path = none
      ∨ ∃ before after value, Steps host s before
        ∧ lookup host id path before = some (.ok value, after) ∧ Steps host after t := by
  -- The induction is on the steps; once the path was found it stays so.
  induction steps with
  | refl => exact .inl new
  | @tail u t earlier step ih =>
    rcases ih with new | ⟨before, after, value, steps, looked, later⟩
    · have there' : id < u.contextCount := Nat.lt_of_lt_of_le there (Steps.grows earlier).count
      have kept (context : Context) (number : Nat)
          (made : Render.keep context u = some (.ok number, t)) :
          (t.contexts id).memo.lookup path = none := by
        cases made
        have same : (if id = u.contextCount then context else u.contexts id) = u.contexts id :=
          if_neg (Nat.ne_of_lt there')
        rw [← same] at new
        exact new
      -- A new context leaves the memory of the others alone.
      cases step with
      | root view made => exact .inl (kept _ _ made)
      | push _ pushed => exact .inl (kept _ _ pushed)
      | lookup _ looked =>
        rcases lookup_cases looked with ⟨rfl, -⟩ | ⟨-, -, -, -, contexts, -⟩
        · exact .inl new
        · cases remembered : (t.contexts id).memo.lookup path with
          | none => exact .inl rfl
          | some value =>
            -- Only the lookup itself can have remembered the path.
            rw [contexts] at remembered
            dsimp only at remembered
            split at remembered
            · rename_i same
              subst same
              rcases lookup_remember_cases remembered with ⟨rfl, rfl⟩ | known
              · exact .inr ⟨u, t, value, earlier, looked, .refl⟩
              · rw [new] at known
                cases known
            · rw [new] at remembered
              cases remembered
    · exact .inr ⟨before, after, value, steps, looked, later.tail step⟩

/--
The memory of a context does not show, except that less is done.

Among values that give fixed answers every lookup gives what the path stands for along the contexts
around each other, whatever was looked up before. A value that was given once is given ever after,
and nothing at all happens then. A lookup that fails leaves all contexts as they are, and the path
is resolved again until a lookup of it gives a value.
-/
theorem lookup_of_grown (host : Host σ) {s : Session σ} (grown : s.Grown host) {id : Nat}
    (there : id < s.contextCount) (path : Text) :
    ∃ scope : Scope, Chain s.contexts id scope.views
      ∧ ((∀ view ∈ scope.views, view.Steady host s.edits) →
        ∃ result after, lookup host id path s = some (result, after)
          ∧ Fixed s.edits (scope.find host path) result)
      ∧ (∀ value after, lookup host id path s = some (.ok value, after) →
        ∀ later, Steps host after later → lookup host id path later = some (.ok value, later))
      ∧ ∀ failure after, lookup host id path s = some (.error failure, after) →
        after.contexts = s.contexts
          ∧ ∀ later, Steps host after later → Walked host id path later
            ∨ ∃ before next value, Steps host after before
              ∧ lookup host id path before = some (.ok value, next) ∧ Steps host next later := by
  have kept := grown.kept
  -- Contexts that have come about as the library makes them remember only what they have found.
  refine ⟨(s.contexts id).scope, kept.chain there, fun steady => ?_, fun value after looked later
    steps => ?_, fun failure after looked => ?_⟩
  · -- Among steady values the path has one result, which a memory can only repeat.
    obtain ⟨result, fixed⟩ := Scope.fixed_find_of_steady s rfl steady path
    obtain ⟨after, looked⟩ := lookup_of_fixed kept there fixed
    exact ⟨result, after, looked, fixed⟩
  · exact lookup_of_found there looked (Steps.grows steps)
  · rcases lookup_cases looked with ⟨-, _, given, -⟩ | ⟨several, new, -, count, contexts, -⟩
    · cases given
    · -- A failure is not remembered, so that nothing in the contexts is new.
      have same : after.contexts = s.contexts := by
        rw [contexts]
        funext n
        split
        · rename_i same
          rw [same]
          rfl
        · rfl
      refine ⟨same, fun later steps => ?_⟩
      -- The path stays new until some lookup of it gives a value.
      rw [← same] at new
      rcases new_or_found (count ▸ there) new steps with new' | found
      · exact .inl (walked_of_new host several new')
      · exact .inr found

/--
A value inside a provider that answers every name with the name, refuses one of them, and counts how
often it is asked.
-/
theorem lookup_of_grown_provider :
    let host : Host Nat := ⟨fun _ call asked => match call with
      | .resolve (.text name) =>
        (if name = ['x'] then .error (.raised ['n', 'o']) else .ok (.text name), asked + 1)
      | _ => (.ok .null, asked), fun _ _ asked => .value .null asked⟩
    let provider : Value := .object 0 ['P'] ['p']
      [(.ofString "resolve", .function (.hosted 0 ['F'] ['f'] (.exactly 1)))] none
    ∃ s : Session Nat, s.Grown host ∧ 1 < s.contextCount ∧ (s.contexts 0).scope.view = provider
      ∧ (∃ scope : Scope, Chain s.contexts 1 scope.views
        ∧ ∃ result after, lookup host 1 ['a'] s = some (result, after)
          ∧ Fixed s.edits (scope.find host ['a']) result)
      ∧ (∃ after, lookup host 1 ['a'] s = some (.ok (.text ['a']), after) ∧ after.host = 1
        ∧ ∀ later, Steps host after later →
          lookup host 1 ['a'] later = some (.ok (.text ['a']), later))
      ∧ ∃ failure after, lookup host 1 ['x'] s = some (.error failure, after) ∧ after.host = 1
        ∧ after.contexts = s.contexts := by
  intro host provider
  let root : Context := { scope := { view := provider } }
  let inner : Context := { scope := root.scope.push (.mapping []), parent := some 0 }
  let start : Session Nat := { host := 0 }
  let first : Session Nat := { start with
    contexts := fun n => if n = 0 then root else start.contexts n
    contextCount := 1 }
  let s : Session Nat := { first with
    contexts := fun n => if n = 1 then inner else first.contexts n
    contextCount := 2 }
  -- There are two contexts, one inside the other.
  have made : Render.keep root start = some (.ok 0, first) := rfl
  have pushed : Context.push 0 (.mapping []) first = some (.ok 1, s) := rfl
  have grown : s.Grown host :=
    ⟨start, rfl, .tail (.tail .refl (.root provider made)) (.push (by decide) pushed)⟩
  have constant : host.Constant := fun _ _ _ _ => rfl
  -- The provider is asked once for either name.
  have found : (lookup host 1 ['a'] s).map (fun o => (o.1, o.2.host))
      = some (.ok (.text ['a']), 1) := by
    with_unfolding_all rfl
  have failed : (lookup host 1 ['x'] s).map (fun o => (o.1, o.2.host))
      = some (.error (.raised ['n', 'o']), 1) := by
    with_unfolding_all rfl
  have there : 1 < s.contextCount := Nat.one_lt_two
  obtain ⟨scope, chain, gives, again, -⟩ := lookup_of_grown host grown there ['a']
  obtain ⟨_, -, -, -, fails⟩ := lookup_of_grown host grown there ['x']
  obtain ⟨⟨result, after⟩, looked, same⟩ := Option.map_eq_some_iff.mp found
  obtain ⟨⟨result', after'⟩, looked', same'⟩ := Option.map_eq_some_iff.mp failed
  obtain ⟨rfl, count⟩ := Prod.mk.inj same
  obtain ⟨rfl, count'⟩ := Prod.mk.inj same'
  refine ⟨s, grown, there, rfl, ⟨scope, chain, gives fun view _ => constant.steady 0 view⟩,
    ⟨after, looked, count, again _ _ looked⟩, _, after', looked', count', (fails _ _ looked').1⟩

end Context

end Mustache
