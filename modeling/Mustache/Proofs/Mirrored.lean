import Mustache.Proofs.Escaping
import Mustache.Proofs.Inert

/-!
Pairs of steps of which the second one does the same as the first one.

What makes the steps differ is known only of the templates that they enter, so the second step is
known to follow the first one only where these templates turn out to be fine.
-/

namespace Mustache

variable {σ : Type}

namespace Session

/-- A session from which another one is reached without any template being entered. -/
structure Quiet (s t : Session σ) : Prop where
  /-- What was written into each list and mapping that is shared is the same. -/
  edits : t.edits = s.edits
  /-- The same is remembered. -/
  memo : t.memo = s.memo
  /-- A sound cache stays sound. -/
  sound : s.Sound → t.Sound
  /-- What has happened is not that a template was entered. -/
  journal : ∃ events, t.journal = events ++ s.journal ∧ ∀ template, .entered template ∉ events

namespace Quiet

/-- Something may change that is neither remembered nor written nor in the cache. -/
theorem of_journal_eq {s t : Session σ} (edits : t.edits = s.edits) (memo : t.memo = s.memo)
    (cache : t.cache = s.cache) (journal : t.journal = s.journal) : s.Quiet t :=
  -- Nothing is told, and so no template is entered.
  ⟨edits, memo, fun sound => sound.of_cache_eq cache, [], journal, nofun⟩

/-- An event may be reported that is not that a template is entered. -/
theorem reported (s : Session σ) {event : Event} (quiet : ∀ template, event ≠ .entered template) :
    s.Quiet (s.reported event) where
  edits := rfl
  memo := rfl
  sound := id
  journal := ⟨[event], rfl, fun template member =>
    quiet template (List.mem_singleton.mp member).symm⟩

/-- A note may be made in an account. -/
theorem accounted (s : Session σ) (note : Profile → Profile) : s.Quiet (s.accounted note) := by
  -- There may be no account.
  unfold Session.accounted
  split <;> exact of_journal_eq rfl rfl rfl rfl

instance : Calling (Quiet : Session σ → Session σ → Prop) where
  refl := fun _ => of_journal_eq rfl rfl rfl rfl
  trans := by
    intro s t u first second
    obtain ⟨events, journal, none⟩ := first.journal
    obtain ⟨events', journal', none'⟩ := second.journal
    refine ⟨second.edits.trans first.edits, second.memo.trans first.memo,
      fun sound => second.sound (first.sound sound), events' ++ events, ?_, fun template => ?_⟩
    · rw [journal', journal, List.append_assoc]
    · rw [List.mem_append, not_or]
      exact ⟨none' template, none template⟩
  hosting := fun _ _ => of_journal_eq rfl rfl rfl rfl
  called := fun s _ _ _ => reported s nofun
  refused := fun s _ _ => reported s nofun

/-- An event may be reported as a step. -/
theorem report {event : Event} (quiet : ∀ template, event ≠ .entered template) :
    Leads Quiet (Render.report event : Render σ Unit) := .modify fun s => reported s quiet

/-- A note may be made as a step. -/
theorem account (note : Profile → Profile) :
    Leads Quiet (Render.account note : Render σ Unit) := .modify fun s => accounted s note

/-- The next item may be taken from a stream. -/
theorem next? (id : Nat) (items : List Value) :
    Leads Quiet (Render.next? id items : Render σ (Option Value)) := by
  intro s result t ran
  rw [Render.next?, Render.get_bind] at ran
  -- There is an item or not.
  cases there : items[s.taken id]? with
  | none =>
    simp only [there] at ran
    cases ran
    exact Std.Refl.refl s
  | some item =>
    -- To take one leaves no entry in the journal.
    simp only [there] at ran
    cases ran
    exact of_journal_eq rfl rfl rfl rfl

/-- Uses of the cache may be reported. -/
theorem reportUse (cache : Cache) {event : Event} (quiet : ∀ template, event ≠ .entered template) :
    Leads Quiet (Template.reportUse cache event : Render σ Unit) := by
  -- Without a listener nothing is reported.
  unfold Template.reportUse
  split
  · exact report quiet
  · exact .pure ()

/-- A text may be parsed. -/
theorem parseText (t : Text) (pair : Delimiters) :
    Leads Quiet (Template.parseText t pair : Render σ (List Token)) := by
  -- The outcome is known, and with it all that happens.
  intro s result after ran
  rw [Template.parseText_apply] at ran
  cases ran
  refine ⟨rfl, rfl, id, Template.switched t pair, rfl, fun template member => ?_⟩
  -- All that is told is changes of delimiters.
  obtain ⟨other, start, same⟩ := Template.exists_of_mem_switched member
  cases same

/-- A source may be kept with the tokens that parsing it gives. -/
theorem insert {source : Source} {pair : Delimiters} {tokens : List Token}
    (parses : source.parsed pair = .ok tokens) :
    Leads Quiet (modify fun s => { s with cache := s.cache.map (·.insert source pair tokens) }
      : Render σ Unit) := by
  refine .modify fun s => ⟨rfl, rfl, fun sound cache there => ?_, [], rfl, nofun⟩
  -- There is a cache only if there was one, and it has one entry more.
  obtain ⟨before, had, rfl⟩ := Option.map_eq_some_iff.mp there
  exact (sound before had).insert parses

end Quiet

end Session

/-- A session in which only inert values are remembered, given what was written into others. -/
structure Session.Calm (edits : Nat → Edits) (s : Session σ) : Prop where
  /-- Nothing else was written into shared values. -/
  unwritten : s.edits = edits
  /-- The cache is sound. -/
  sound : s.Sound
  /-- The values that are remembered are inert. -/
  remembered : ∀ path value, (path, value) ∈ s.memo → value.Inert

/-- A calm session stays so where no template is entered. -/
theorem Session.Calm.quiet {edits : Nat → Edits} {s t : Session σ} (calm : s.Calm edits)
    (quiet : s.Quiet t) : t.Calm edits :=
  -- Neither edits nor what is remembered are others than before.
  ⟨quiet.edits.trans calm.unwritten, quiet.sound calm.sound, quiet.memo ▸ calm.remembered⟩

/--
A step that another one mirrors, in sessions that are calm and stay so.

The step gives only values with a property and enters only templates that can be reached.
If all that it enters are fine, the other step does exactly the same.
-/
def Mirrors (edits : Nat → Edits) (reached fine : Text → Prop) {α : Type}
    (step step' : Render σ α) (P : α → Prop) : Prop :=
  ∀ s : Session σ, s.Calm edits → ∀ result t, step s = some (result, t) →
    t.Calm edits ∧ (∀ value, result = .ok value → P value)
      ∧ ∃ events, t.journal = events ++ s.journal
        ∧ (∀ template, .entered template ∈ events → reached template)
        ∧ ((∀ template, .entered template ∈ events → fine template) →
          step' s = some (result, t))

namespace Mirrors

variable {edits : Nat → Edits} {reached fine : Text → Prop} {α β : Type} {P : α → Prop}

/-- A step that enters no template mirrors itself. -/
theorem of_quiet {step : Render σ α} (quiet : Leads Session.Quiet step)
    (gives : ∀ s : Session σ, s.Calm edits → ∀ value t, step s = some (.ok value, t) → P value) :
    Mirrors edits reached fine step step P := by
  intro s calm result t ran
  have led := quiet s result t ran
  -- Since nothing is entered, both sides are one and the same run.
  obtain ⟨events, journal, none⟩ := led.journal
  refine ⟨calm.quiet led, ?_, events, journal, fun template member => ?_, fun _ => ran⟩
  · rintro value rfl
    exact gives s calm value t ran
  · exact absurd member (none template)

/-- To give a value mirrors itself. -/
theorem pure {value : α} (holds : P value) :
    Mirrors edits reached fine (Pure.pure value : Render σ α) (Pure.pure value) P := by
  refine .of_quiet (.pure value) fun s _ other t ran => ?_
  -- Nothing happens but that the value is given.
  cases ran
  exact holds

/-- A result that needs no session mirrors itself. -/
theorem ofExcept {result : Except Failure α} (holds : ∀ value, result = .ok value → P value) :
    Mirrors edits reached fine (Render.ofExcept result : Render σ α) (Render.ofExcept result) P := by
  refine .of_quiet (.ofExcept result) fun s _ value t ran => ?_
  -- A failure gives no value, of which something would have to hold.
  cases result with
  | error failure => cases ran
  | ok given =>
    cases ran
    exact holds value rfl

/-- What has no outcome is mirrored by anything. -/
theorem tooDeep (step' : Render σ α) :
    Mirrors edits reached fine (Render.tooDeep : Render σ α) step' P := by
  -- There is no run to be mirrored.
  rintro s _ _ _ ⟨⟩

/-- Two steps are mirrored when the second one is for all that the first one gives. -/
theorem bind {step step' : Render σ α} {next next' : α → Render σ β} {Q : β → Prop}
    (first : Mirrors edits reached fine step step' P)
    (second : ∀ value, P value → Mirrors edits reached fine (next value) (next' value) Q) :
    Mirrors edits reached fine (step >>= next) (step' >>= next') Q := by
  intro s calm result t ran
  rw [Render.bind_apply] at ran
  obtain ⟨⟨outcome, middle⟩, stepped, ended⟩ := Option.bind_eq_some_iff.mp ran
  obtain ⟨calm', holds, events, journal, reaches, same⟩ := first s calm outcome middle stepped
  -- A failure ends both, and a value is handed on to the second step.
  cases outcome with
  | error failure =>
    cases ended
    refine ⟨calm', nofun, events, journal, reaches, fun fits => ?_⟩
    rw [Render.bind_apply, same fits]
    rfl
  | ok value =>
    obtain ⟨calm'', holds', events', journal', reaches', same'⟩ :=
      second value (holds value rfl) middle calm' result t ended
    refine ⟨calm'', holds', events' ++ events, ?_, fun template member => ?_, fun fits => ?_⟩
    · rw [journal', journal, List.append_assoc]
    -- What was entered was entered in one of the two steps.
    · exact (List.mem_append.mp member).elim (reaches' template) (reaches template)
    · rw [Render.bind_apply,
        same fun template member => fits template (List.mem_append_right _ member)]
      exact same' fun template member => fits template (List.mem_append_left _ member)

/-- To look at the session and go by what it is mirrors what is mirrored then. -/
theorem read {next next' : Session σ → Render σ β} {Q : β → Prop}
    (second : ∀ s, s.Calm edits → Mirrors edits reached fine (next s) (next' s) Q) :
    Mirrors edits reached fine (get >>= next) (get >>= next') Q :=
  -- The next step begins in the session that was looked at.
  fun s calm => second s calm s calm

/-- To remember an inert value for a name mirrors itself. -/
theorem remember {path : Text} {value : Value} (inert : value.Inert) :
    Mirrors edits reached fine
      (modify fun s => { s with memo := (path, value) :: s.memo } : Render σ Unit)
      (modify fun s => { s with memo := (path, value) :: s.memo }) fun _ => True := by
  rintro s calm _ _ ⟨⟩
  -- Neither what was written nor the cache is another one.
  refine ⟨⟨calm.unwritten, calm.sound, ?_⟩, fun _ _ => trivial, [], rfl, nofun, fun _ => rfl⟩
  intro other found member
  -- It stands before those that are remembered already.
  rcases List.mem_cons.mp member with same | before
  · cases same
    exact inert
  · exact calm.remembered other found before

/-- What is mirrored is so in a scope of its own. -/
theorem inNewScope {action action' : Render σ α}
    (inside : Mirrors edits reached fine action action' P) :
    Mirrors edits reached fine (Render.inNewScope action) (Render.inNewScope action') P := by
  intro s calm result t ran
  rw [Render.inNewScope_apply, Option.map_eq_some_iff] at ran
  obtain ⟨⟨outcome, after⟩, acted, ⟨⟩⟩ := ran
  -- The scope begins with nothing remembered.
  have begun : (s.onStage (s.stage.knowing [])).Calm edits := ⟨calm.unwritten, calm.sound, nofun⟩
  obtain ⟨calm', holds, events, journal, reaches, same⟩ := inside _ begun _ _ acted
  refine ⟨⟨calm'.unwritten, calm'.sound, calm.remembered⟩, holds, events, journal, reaches,
    fun fits => ?_⟩
  -- The other step runs in a scope of its own as well.
  rw [Render.inNewScope_apply, same fits]
  rfl

/-- What is written of a template that can be reached is mirrored if it is where that is fine. -/
theorem inTemplate {template : Text} {action action' : Render σ α} (reaches : reached template)
    (inside : Mirrors edits reached fine action action P)
    (fits : fine template → Mirrors edits reached fine action action' P) :
    Mirrors edits reached fine (Render.inTemplate template action)
      (Render.inTemplate template action') P := by
  intro s calm result t ran
  rw [Render.inTemplate_apply, Option.map_eq_some_iff] at ran
  obtain ⟨⟨outcome, after⟩, acted, ⟨⟩⟩ := ran
  -- To enter a template leaves the session calm.
  have begun : (s.reported (.entered template)).Calm edits :=
    ⟨calm.unwritten, calm.sound, calm.remembered⟩
  obtain ⟨calm', holds, events, journal, within, -⟩ := inside _ begun _ _ acted
  refine ⟨⟨calm'.unwritten, calm'.sound, calm'.remembered⟩, holds,
    .left :: (events ++ [.entered template]), ?_, fun other member => ?_, fun all => ?_⟩
  · change .left :: after.journal = _
    rw [journal, List.cons_append, List.append_assoc]
    rfl
  · rcases List.mem_append.mp ((List.mem_cons.mp member).resolve_left nofun) with earlier | this
    · exact within other earlier
    · cases List.mem_singleton.mp this
      exact reaches
  · -- The template itself is among those that are entered.
    have proper := fits (all template (by simp))
    obtain ⟨-, -, events', journal', -, same⟩ := proper _ begun _ _ acted
    obtain rfl : events' = events := List.append_cancel_right (journal'.symm.trans journal)
    rw [Render.inTemplate_apply, same fun other member => all other (by simp [member])]
    rfl

/-- Steps that mirror each other have the same outcome if all that is entered is fine. -/
theorem agree {step step' : Render σ α} (mirrored : Mirrors edits reached fine step step' P)
    (mirrors : Mirrors edits reached fine step' step P) {s : Session σ} (calm : s.Calm edits)
    (fits : ∀ template, reached template → (∀ result after, step s = some (result, after) →
      ∃ events, after.journal = events ++ s.journal ∧ .entered template ∈ events) →
      fine template) :
    step' s = step s := by
  cases ran : step s with
  | some outcome =>
    obtain ⟨result, after⟩ := outcome
    -- The other step follows the run, since all that the run enters is fine.
    obtain ⟨-, -, events, journal, reaches, same⟩ := mirrored s calm result after ran
    refine same fun template entered => fits template (reaches template entered) ?_
    rintro _ _ this
    cases ran.symm.trans this
    exact ⟨events, journal, entered⟩
  | none =>
    -- An outcome of the other step would be one of the first step as well.
    cases ran' : step' s with
    | none => rfl
    | some outcome =>
      obtain ⟨result, after⟩ := outcome
      obtain ⟨-, -, events, journal, reaches, same⟩ := mirrors s calm result after ran'
      have fine_all (template : Text) (entered : .entered template ∈ events) : fine template :=
        fits template (reaches template entered) fun _ _ this => nomatch ran.symm.trans this
      exact (same fine_all).symm.trans ran

section Requests

variable {pair : Delimiters}

/-- To do something of which nothing has to be known mirrors itself if no template is entered. -/
theorem idle {step : Render σ α} (quiet : Leads Session.Quiet step) :
    Mirrors edits reached fine step step fun _ => True :=
  -- Nothing is asked of what it gives.
  .of_quiet quiet fun _ _ _ _ _ => trivial

/-- To parse a text gives its tokens. -/
theorem parseText (t : Text) (pair : Delimiters) :
    Mirrors edits reached fine (Template.parseText t pair : Render σ (List Token))
      (Template.parseText t pair) (Template.parse t pair = .ok ·) := by
  -- The tokens are asked of the parser, and no template is entered for that.
  refine .of_quiet (.parseText t pair) fun s _ tokens after ran => ?_
  rw [Template.parseText_apply] at ran
  exact Template.parse_of_parsed (Prod.mk.inj (Option.some.inj ran)).1

/-- To ask a sound cache for a text gives its tokens. -/
theorem requestSource {cache : Cache} (sound : cache.Sound) (t : Text) (pair : Delimiters) :
    Mirrors edits reached fine
      (Template.requestSource cache (.text t) (.text t) pair : Render σ (List Token))
      (Template.requestSource cache (.text t) (.text t) pair) (Template.parse t pair = .ok ·) := by
  refine .bind (.idle (.reportUse cache nofun)) fun _ _ => ?_
  split
  · -- What was kept is what parsing gives.
    rename_i tokens found
    exact .bind (.idle (.account _)) fun _ _ =>
      .pure (Template.parse_of_parsed (sound.parsed_of_find? found))
  · -- A text that is new is parsed, and put into the cache with its tokens.
    refine .bind (.idle (.report nofun)) fun _ _ => .bind (parseText t pair) fun tokens parses => ?_
    have parsed : Source.parsed (.text t) pair = .ok tokens := Template.parsed_of_parse parses
    exact .bind (.idle (.insert parsed)) fun _ _ =>
      .bind (.idle (.reportUse cache nofun)) fun _ _ =>
        .bind (.idle (.account _)) fun _ _ => .pure parses

/-- To ask for a text gives its tokens. -/
theorem request (t : Text) {delimiters : Value}
    (accepted : Template.delimitersOf (delimiters.settled edits) = .ok pair) :
    Mirrors edits reached fine (Template.request (.text t) delimiters : Render σ (List Token))
      (Template.request (.text t) delimiters) (Template.parse t pair = .ok ·) := by
  -- The delimiters are accepted in a calm session as they are in the one given.
  refine .read fun s calm => ?_
  rw [calm.unwritten, accepted, Render.ok_bind]
  refine .read fun s calm => ?_
  -- With a cache the text is taken from there, and without one it is parsed at once.
  cases there : s.cache with
  | some cache => exact requestSource (calm.sound cache there) t pair
  | none => exact .bind (.idle (.account _)) fun _ _ => parseText t pair

end Requests

end Mirrors

end Mustache
