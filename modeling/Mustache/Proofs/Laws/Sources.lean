import Mustache.Proofs.Laws.Rendering
import Mustache.Proofs.Laws.Requests

/-!
The source of a template is at hand wherever a section function needs it.

What is no text has no tokens, and every text is written with itself at hand, so that only tokens
that are given on their own can be without a source.
-/

namespace Mustache

variable {σ : Type}

/-- A session since which no section function was told that the source of a template is missing. -/
def Session.Untold (s t : Session σ) : Prop :=
  s.Told (· ≠ .answered (.error .missingSource)) t

/-- What keeps a sound session sound leaves a sound session. -/
theorem Keeps.sound {α : Type} {step : Render σ α} (keeps : Keeps Session.Twin step)
    {s t : Session σ} {result : Except Failure α} (sound : s.Sound)
    (ran : step s = some (result, t)) : t.Sound := by
  -- The step is run beside itself.
  have agree := keeps s s ⟨rfl, sound⟩
  rw [ran] at agree
  cases agree with
  | both twin => exact twin.sound

/-- The law that the source of a template is never missing, as long as the cache is sound. -/
def Law.sourced : Law σ := fun s failure t =>
  s.Sound → t.Sound ∧ failure ≠ some .missingSource ∧ s.Untold t

namespace Law

/-- What the steps of rendering go by may change. -/
theorem sourced_onStage (s : Session σ) (stage : Stage σ) : sourced s none (s.onStage stage) :=
  -- The cache is not on the stage.
  fun sound => ⟨sound, (Option.some_ne_none _).symm, .of_journal_eq rfl⟩

/-- An event by which nobody is told that a source is missing may happen. -/
theorem sourced_reported (s : Session σ) {event : Event}
    (other : event ≠ .answered (.error .missingSource)) : sourced s none (s.reported event) :=
  fun sound => ⟨sound, (Option.some_ne_none _).symm, .reported s other⟩

/-- A note may be made in an account. -/
theorem sourced_accounted (s : Session σ) (note : Profile → Profile) :
    sourced s none (s.accounted note) :=
  fun sound => ⟨sound.accounted note, (Option.some_ne_none _).symm, .accounted s note⟩

instance : (sourced : Law σ).Dividing where
  done := fun s => sourced_onStage s s.stage
  next := by
    intro s t u failure first second sound
    obtain ⟨sound', -, untold⟩ := first sound
    obtain ⟨sound', other, untold'⟩ := second sound'
    exact ⟨sound', other, untold.trans untold'⟩
  failed := fun s _ other sound => ⟨sound, fun same => other (Option.some.inj same),
    .of_journal_eq rfl⟩
  hosting := fun s _ => sourced_onStage s _
  called := fun s _ _ _ => sourced_reported s nofun
  refused := fun s _ _ => sourced_reported s nofun
  taken := fun s _ => sourced_onStage s _
  remembered := fun s _ _ _ => sourced_onStage s _
  inScope := fun inside => inside
  inContext := fun _ inside => inside
  written := fun s _ => sourced_onStage s _

/-- A request for a template does not fail because a source is missing. -/
theorem sourced_request (template delimiters : Value) :
    Obeys sourced (Template.request template delimiters : Render σ (List Token)) := by
  intro s result t ran sound
  obtain ⟨other, fetched⟩ := Obeys.request template delimiters s result t ran
  -- What a request tells is internal, and that a source is missing is not.
  have untold : s.Untold t := fetched.told.mono fun event internal => by
    rintro rfl
    cases internal
  exact ⟨(Template.keeps_request template delimiters).sound sound ran, other, untold⟩

/-- A request for what is no text gives no tokens, if it gives any in a sound session. -/
theorem sourced_vacant {template : Value} (noText : ∀ t, template ≠ .text t) (delimiters : Value)
    {write : List Token → Render σ (List Chunk)} (nothing : Obeys sourced (write [])) :
    Obeys sourced (Template.request template delimiters >>= write) := by
  intro s result t ran
  rw [Render.bind_apply] at ran
  obtain ⟨⟨outcome, middle⟩, requested, ended⟩ := Option.bind_eq_some_iff.mp ran
  -- The request itself is allowed, whatever comes of it.
  have allowed := sourced_request template delimiters s outcome middle requested
  cases outcome with
  | error failure =>
    cases ended
    exact allowed
  | ok tokens =>
    intro sound
    -- Either the delimiters are refused, or parsing gives no tokens.
    have empty : tokens = [] := by
      cases accepted : Template.delimitersOf (delimiters.settled s.edits) with
      | error failure =>
        rw [Template.request_of_refused accepted] at requested
        cases requested
      | ok pair =>
        have parses := (Template.request_sound sound accepted requested).2 tokens rfl
        rw [Value.parsed_eq_nil noText] at parses
        cases parses
        rfl
    subst empty
    exact Sequential.next allowed (nothing middle result t ended) sound

instance : (sourced : Law σ).Rendering where
  requested := sourced_request
  vacant := fun noText delimiters _ nothing _ => sourced_vacant noText delimiters nothing
  entered := fun s _ => sourced_reported s nofun
  left := by
    intro s t failure inside sound
    obtain ⟨sound', other, untold⟩ := inside sound
    exact ⟨sound', other, untold.trans (.reported t nofun)⟩
  missing := by
    intro s name
    have noted : sourced s none (s.reported (.noted (.missingTemplate name))) :=
      sourced_reported s nofun
    exact Sequential.next noted (sourced_accounted _ _)
  applied := fun s _ _ => Sequential.next (sourced_accounted s _) (sourced_reported _ nofun)
  rejected := fun s _ => Sequential.next (sourced_accounted s _) (sourced_reported _ nofun)
  asked := fun s _ => sourced_reported s nofun
  rendered := fun s _ => Sequential.next (sourced_accounted s _) (sourced_reported _ nofun)
  caught := by
    intro s t failure inside sound
    obtain ⟨sound', other, untold⟩ := inside sound
    refine ⟨sound', (Option.some_ne_none _).symm, untold.trans (.reported t ?_)⟩
    rintro ⟨⟩
    exact other rfl
  passed := by
    intro s t failure inside sound
    obtain ⟨sound', other, untold⟩ := inside sound
    refine ⟨sound', other, untold.trans (.reported t ?_)⟩
    rintro ⟨⟩
    exact other rfl

/-- What comes of a rendering is not that a source is missing, and nobody was told so. -/
theorem Ends.sourced {s t : Session σ} {result : Except Failure Text}
    (ends : (Law.sourced : Law σ).Ends s t result) (sound : s.Sound) :
    result ≠ .error .missingSource ∧ s.Untold t := by
  -- The note that ends a rendering tells nobody anything.
  cases result with
  | error failure =>
    obtain ⟨-, other, untold⟩ := ends sound
    exact ⟨fun same => other (congrArg some (Except.error.inj same)), untold⟩
  | ok output =>
    obtain ⟨u, inside, rfl⟩ := ends
    exact ⟨nofun, (inside sound).2.2.trans (.accounted u _)⟩

end Law

end Mustache
