import Mustache.Proofs.Keeping.Operations
import Mustache.Proofs.Serving

/-!
The cache of parsed templates does not show.

A session with a faithful cache and one without a cache stay alike from one operation to the next.
-/

namespace Mustache

variable {σ : Type}

/-- Two sessions in which the same has been seen, one with a faithful cache and one with none. -/
structure Session.Alike (s s' : Session σ) : Prop where
  /-- The steps of rendering go by the same. -/
  stage : s.stage = s'.stage
  /-- The same has been seen. -/
  seen : s.seen = s'.seen
  /-- What the first session keeps is what parsing would give. -/
  faithful : s.Faithful
  /-- The second session keeps nothing. -/
  uncached : s'.cache = none

namespace Session.Alike

/-- Sessions stay alike after what is about parsing and the cache only. -/
theorem served {s s' t t' : Session σ} (alike : Alike s s') (first : s.Served t)
    (second : s'.Served t') : Alike t t' where
  stage := by rw [first.stage, second.stage, alike.stage]
  seen := by rw [first.seen, second.seen, alike.seen]
  faithful := first.faithful alike.faithful
  uncached := second.uncached alike.uncached

/-- Sessions stay alike when the same goes on in both of them. -/
theorem stable : Stable (Alike : Session σ → Session σ → Prop) where
  stage := Alike.stage
  onStage := fun _ alike => ⟨rfl, alike.seen, alike.faithful, alike.uncached⟩
  reported := by
    intro s s' event shows alike
    refine ⟨alike.stage, ?_, alike.faithful, alike.uncached⟩
    -- The event is seen in both sessions, before what was seen already.
    have seen := alike.seen
    simp only [Session.seen] at seen
    simp [Session.seen, Session.reported, shows, seen]
  accounted := by
    intro s s' note _ alike
    exact alike.served (.accounted s note) (.accounted s' note)

/-- Requests for texts give the same in sessions that are alike, which they stay. -/
theorem keepsRequests : KeepsRequests (Alike : Session σ → Session σ → Prop) := by
  intro t delimiters s s' alike
  have without : s'.Faithful := by
    intro cache there
    rw [alike.uncached] at there
    cases there
  -- Both sessions give what parsing gives, one of them from its cache.
  obtain ⟨after, given, served⟩ := Template.request_text t delimiters alike.faithful
  obtain ⟨after', given', served'⟩ := Template.request_text t delimiters without
  -- What is asked for as delimiters is the same in both sessions.
  have edits : s.edits = s'.edits := congrArg Stage.edits alike.stage
  rw [given, given', edits]
  exact .both (alike.served served served')

/-- Steps that only parsing and the cache are about agree where they have the same result. -/
theorem agree_of_serves {α : Type} {s s' : Session σ} (alike : Alike s s') {step step' : Render σ α}
    {result : Except Failure α} (serves : Serves step result) (serves' : Serves step' result) :
    Agree Alike (step s) (step' s') := by
  -- Both steps give this result, in sessions that are still alike.
  obtain ⟨after, given, served⟩ := serves s
  obtain ⟨after', given', served'⟩ := serves' s'
  rw [given, given']
  exact .both (alike.served served served')

end Session.Alike

namespace Operation

/-- Whether all partials of an operation are texts. -/
def HoldsTexts (host : Host σ) : Operation → Prop
  | .render _ _ partials _ => partials.HoldsTexts host
  | .renderTokens _ _ partials _ _ => partials.HoldsTexts host
  | .renderRecords _ _ partials _ _ => partials.HoldsTexts host
  | _ => True

/-- Texts are templates of one kind. -/
theorem HoldsTexts.holds {host : Host σ} {operation : Operation}
    (texts : operation.HoldsTexts host) :
    operation.Holds (fun template => ∃ t, template = .text t) host := by
  -- Each operation asks for the same, or for nothing.
  cases operation <;> exact texts

/-- To empty the cache is about nothing else, and does nothing where there is no cache. -/
theorem serves_clearCache (host : Host σ) :
    Serves (Operation.clearCache.perform host) (.ok .nothing) := by
  have cleared : Serves (Engine.clearCache : Render σ Unit) (.ok ()) := by
    intro s
    rw [Engine.clearCache, Render.get_bind]
    cases there : s.cache with
    -- Without a cache nothing happens at all.
    | none => exact ⟨s, rfl, .refl s⟩
    | some cache =>
      have hidden : Event.isInternal .cacheCleared = true := rfl
      obtain ⟨t, told, served⟩ := Serves.reportUse cache hidden s
      refine ⟨{ t with cache := some cache.clear }, ?_, served.stage, served.seen, ?_, ?_⟩
      · change (Template.reportUse cache .cacheCleared >>= _) s = _
        rw [Render.bind_apply, told]
        rfl
      · -- Nothing is kept any more.
        intro _ other same
        cases same
        exact Cache.faithful_of_entries_nil rfl
      · intro without
        rw [there] at without
        cases without
  exact cleared.bind (Serves.pure _)

/-- An operation agrees with the same one without a cache, in sessions that are alike. -/
theorem perform_alike (host : Host σ) {operation : Operation} (texts : operation.HoldsTexts host)
    {s s' : Session σ} (alike : s.Alike s') :
    Agree Session.Alike (operation.perform host s) (operation.withoutCache.perform host s') := by
  have keeps (leaves : operation.LeavesCache) : Keeps Session.Alike (operation.perform host) :=
    perform_keeps Session.Alike.stable (Session.Alike.keepsRequests.templates host) leaves
      texts.holds
  cases operation with
  | clearCache => exact alike.agree_of_serves (serves_clearCache host) (serves_clearCache host)
  | replaceCache reported =>
    -- A new cache keeps nothing yet.
    refine .both ⟨alike.stage, alike.seen, ?_, rfl⟩
    intro cache there
    obtain ⟨flag, -, rfl⟩ := Option.map_eq_some_iff.mp there
    exact Cache.faithful_of_entries_nil rfl
  -- Parsing and rendering are the same operations without a cache.
  | _ => exact keeps trivial s s' alike

/-- Operations agree one by one with the same ones without a cache. -/
theorem performAll_alike (host : Host σ) {operations : List Operation}
    (texts : ∀ operation ∈ operations, operation.HoldsTexts host) {s s' : Session σ}
    (alike : s.Alike s') :
    Option.Rel (fun run run' => run.1 = run'.1 ∧ run.2.Alike run'.2)
      (performAll host operations s) (performAll host (operations.map withoutCache) s') := by
  -- One operation after the other, each beside itself without a cache.
  have tracks : ∀ operation ∈ operations,
      Tracks Session.Alike (operation.perform host) (operation.withoutCache.perform host) :=
    fun operation member s s' alike => perform_alike host (texts operation member) alike
  exact performAll_tracks Session.Alike.seen tracks alike

/--
Operations have the same outcomes with a cache, which is empty at first, and without one.

The cache keeps only texts that can be parsed, each with the tokens that parsing gives.
-/
theorem performAll_withoutCache (host : Host σ) (operations : List Operation)
    (texts : ∀ operation ∈ operations, operation.HoldsTexts host) (s : Session σ) (cache : Cache)
    (empty : cache.entries = []) :
    let run := performAll host operations { s with cache := some cache }
    let plain := performAll host (operations.map withoutCache) { s with cache := none }
    run.map (·.1) = plain.map (·.1) ∧
      (∀ outcomes last, plain = some (outcomes, last) → last.cache = none) ∧
      ∀ outcomes last kept, run = some (outcomes, last) → last.cache = some kept →
        kept.Faithful ∧ ∀ t pair fault, Template.parse t pair = .error fault →
          kept.find? (.text t) pair = none := by
  intro run plain
  -- An empty cache is faithful, whatever else there is in the session.
  have alike : Session.Alike { s with cache := some cache } { s with cache := none } := by
    refine ⟨rfl, rfl, ?_, rfl⟩
    intro first same
    cases same
    exact Cache.faithful_of_entries_nil empty
  have runs : Option.Rel (fun run run' => run.1 = run'.1 ∧ run.2.Alike run'.2) run plain :=
    performAll_alike host texts alike
  generalize run = run at runs ⊢
  generalize plain = plain at runs ⊢
  cases runs with
  | none => simp
  | @some first second same =>
    obtain ⟨outcomes, last⟩ := same
    refine ⟨congrArg some outcomes, ?_, ?_⟩
    · intro _ _ there
      cases there
      exact last.uncached
    · intro _ _ kept there found
      cases there
      -- The cache is faithful in the end, whatever was kept in it on the way.
      have faithful := last.faithful kept found
      exact ⟨faithful, fun _ _ _ fails => faithful.find?_eq_none fails⟩

/-- A text that cannot be parsed, and one that is rendered twice and includes another one. -/
theorem performAll_withoutCache_twice :
    let host : Host Unit := ⟨fun _ _ state => (.ok .null, state), fun _ _ state => .value .null state⟩
    let partials : Value := .mapping [(.text ['p'], .text ['b'])]
    let render := Operation.render (.text (.ofString "a\x7b\x7b>p\x7d\x7d")) (.value .null) partials
      (.value .null)
    let operations := [.parse (.ofString "\x7b\x7b#a\x7d\x7d") .null, render, render, .clearCache]
    (∀ operation ∈ operations, operation.HoldsTexts host) ∧
      (performAll host operations { host := (), cache := some {} }).map (·.1) =
        (performAll host (operations.map withoutCache) { host := (), cache := none }).map (·.1) ∧
      (performAll host operations { host := (), cache := some {} }).isSome := by
  intro host partials render operations
  -- The one partial is a text.
  have holds : partials.HoldsTexts host := by
    refine Value.holdsTexts_mapping host fun entry there => ⟨['b'], ?_⟩
    rw [List.mem_singleton.mp there]
  -- Only the renderings have partials.
  have texts : ∀ operation ∈ operations, operation.HoldsTexts host := by
    simp [operations, render, HoldsTexts, holds]
  have same := (performAll_withoutCache host operations texts { host := () } {} rfl).1
  exact ⟨texts, same, by decide +kernel⟩

end Operation

end Mustache
