import Mustache.Proofs.Plain
import Mustache.Proofs.Sound

/-!
Steps that succeed, and names that are looked up in plain data.

A name that no value in scope knows is a miss, but no failure. Only what is too large may be the
reason for one, and not even that where all that is given is moderate.
-/

namespace Mustache

variable {σ : Type} {moderate : Prop}

/-- A session in which only plain data was looked up, given what was written into shared values. -/
structure Session.Ready (moderate : Prop) (edits : Nat → Edits) (s : Session σ) : Prop where
  /-- Nothing else was written into shared values. -/
  unwritten : s.edits = edits
  /-- The cache is sound. -/
  sound : s.Sound
  /-- The values that are remembered are plain. -/
  remembered : ∀ path value, (path, value) ∈ s.memo → value.Fits moderate

namespace Session.Ready

variable {edits : Nat → Edits} {s : Session σ}

/-- It does not matter what happens. -/
theorem reported (ready : s.Ready moderate edits) (event : Event) :
    (s.reported event).Ready moderate edits :=
  ⟨ready.unwritten, ready.sound, ready.remembered⟩

/-- It does not matter what is noted in an account. -/
theorem accounted (ready : s.Ready moderate edits) (note : Profile → Profile) :
    (s.accounted note).Ready moderate edits := by
  -- There may be no account.
  unfold Session.accounted
  split
  · exact ready
  · exact ⟨ready.unwritten, ready.sound, ready.remembered⟩

/-- Plain values may be remembered instead of others. -/
theorem knowing (unwritten : s.edits = edits) (sound : s.Sound) {memo : Memo}
    (fits : ∀ path value, (path, value) ∈ memo → value.Fits moderate) :
    (s.onStage (s.stage.knowing memo)).Ready moderate edits :=
  ⟨unwritten, sound, fits⟩

end Session.Ready

/--
A step that has an outcome wherever plain data can be rendered.

The outcome is a value with a property, or a failure that is due to size, and only where not all
that is given is moderate.
-/
def Copes (moderate : Prop) (edits : Nat → Edits) {α : Type} (step : Render σ α) (P : α → Prop) :
    Prop :=
  ∀ s : Session σ, s.Ready moderate edits →
    ∃ result t, step s = some (result, t) ∧ t.Ready moderate edits ∧ Conclusive moderate P result

/-- A step that gives a value with a property wherever moderate plain data can be rendered. -/
abbrev Succeeds (edits : Nat → Edits) {α : Type} (step : Render σ α) (P : α → Prop) : Prop :=
  Copes True edits step P

namespace Copes

variable {edits : Nat → Edits} {α β : Type} {P : α → Prop}

/-- To give a value is to cope. -/
theorem pure {value : α} (holds : P value) :
    Copes moderate edits (Pure.pure value : Render σ α) P :=
  fun s ready => ⟨.ok value, s, rfl, ready, holds⟩

/-- A result that is a value, or a failure that is due to size, is an outcome in any session. -/
theorem ofExcept {result : Except Failure α} (concludes : Conclusive moderate P result) :
    Copes moderate edits (Render.ofExcept result : Render σ α) P := by
  intro s ready
  -- The session stays ready, for it stays the same.
  refine ⟨result, s, ?_, ready, concludes⟩
  cases result <;> rfl

/-- Two steps cope when the second one does with all that the first one gives. -/
theorem bind {step : Render σ α} {next : α → Render σ β} {Q : β → Prop}
    (first : Copes moderate edits step P)
    (second : ∀ value, P value → Copes moderate edits (next value) Q) :
    Copes moderate edits (step >>= next) Q := by
  intro s ready
  obtain ⟨outcome, t, stepped, ready', concludes⟩ := first s ready
  cases outcome with
  -- A failure of the first step is one that may happen, and it ends both.
  | error failure =>
    refine ⟨.error failure, t, ?_, ready', concludes⟩
    rw [Render.bind_apply, stepped]
    rfl
  | ok value =>
    -- The second step begins where the first one ends.
    obtain ⟨last, u, ended, ready'', concludes'⟩ := second value concludes t ready'
    refine ⟨last, u, ?_, ready'', concludes'⟩
    rw [Render.bind_apply, stepped]
    exact ended

/-- To look at the session and go by what it is copes where that does. -/
theorem read {next : Session σ → Render σ β} {Q : β → Prop}
    (second : ∀ s, s.Ready moderate edits → Copes moderate edits (next s) Q) :
    Copes moderate edits (get >>= next) Q := by
  intro s ready
  exact second s ready s ready

/-- A step that only changes the session copes. -/
theorem of_change {step : Render σ Unit} (change : Session σ → Session σ)
    (same : ∀ s, step s = some (.ok (), change s))
    (kept : ∀ s, s.Ready moderate edits → (change s).Ready moderate edits) :
    Copes moderate edits step fun _ => True :=
  fun s ready => ⟨.ok (), change s, same s, kept s ready, trivial⟩

/-- To report an event is to cope. -/
theorem report (event : Event) :
    Copes moderate edits (Render.report event : Render σ Unit) fun _ => True :=
  of_change (·.reported event) (fun _ => rfl) fun _ ready => ready.reported event

/-- To make a note in an account is to cope. -/
theorem account (note : Profile → Profile) :
    Copes moderate edits (Render.account note : Render σ Unit) fun _ => True :=
  of_change (·.accounted note) (fun _ => rfl) fun _ ready => ready.accounted note

/-- To remember a plain value for a name is to cope. -/
theorem remember {path : Text} {value : Value} (fits : value.Fits moderate) :
    Copes moderate edits
      (modify fun s => { s with memo := (path, value) :: s.memo } : Render σ Unit)
      fun _ => True := by
  refine of_change _ (fun _ => rfl) fun s ready => ⟨ready.unwritten, ready.sound, ?_⟩
  intro other found member
  -- It stands before those that are remembered already.
  rcases List.mem_cons.mp member with same | before
  · cases same
    exact fits
  · exact ready.remembered other found before

/-- Plain data is settled already. -/
theorem settled {value : Value} (fits : value.Fits moderate) :
    Copes moderate edits (Render.settled value : Render σ Value) (Value.Fits moderate) := by
  refine fun s ready => ⟨_, s, rfl, ready, ?_⟩
  -- There is nothing shared in it that could have been written to.
  change (value.settled s.edits).Fits moderate
  rw [fits.plain.settled_eq]
  exact fits

/-- What copes does so in a scope of its own, whatever was remembered before. -/
theorem inNewScope_of_sound {action : Render σ α} (inside : Copes moderate edits action P)
    {s : Session σ} (unwritten : s.edits = edits) (sound : s.Sound) :
    ∃ result t, Render.inNewScope action s = some (result, t) ∧ t.edits = edits ∧ t.Sound
      ∧ t.memo = s.memo ∧ Conclusive moderate P result := by
  -- The scope begins with nothing remembered.
  have begun : (s.onStage (s.stage.knowing [])).Ready moderate edits :=
    .knowing unwritten sound nofun
  obtain ⟨result, t, ran, ready, concludes⟩ := inside _ begun
  -- What was remembered before comes back, and it was plain.
  refine ⟨result, t.onStage (t.stage.knowing s.memo), ?_, ready.unwritten, ready.sound, rfl,
    concludes⟩
  rw [Render.inNewScope_apply, ran]
  rfl

/-- What copes does so in a scope of its own. -/
theorem inNewScope {action : Render σ α} (inside : Copes moderate edits action P) :
    Copes moderate edits (Render.inNewScope action) P := by
  intro s ready
  obtain ⟨result, t, ran, unwritten, sound, memo, concludes⟩ :=
    inside.inNewScope_of_sound ready.unwritten ready.sound
  -- Behind the scope the same is remembered as before it.
  exact ⟨result, t, ran, ⟨unwritten, sound, memo ▸ ready.remembered⟩, concludes⟩

/-- What copes does so in a template. -/
theorem inTemplate {action : Render σ α} (template : Text)
    (inside : Copes moderate edits action P) :
    Copes moderate edits (Render.inTemplate template action) P := by
  intro s ready
  -- To enter and to leave are told, and nothing else changes.
  obtain ⟨result, t, ran, ready', concludes⟩ := inside _ (ready.reported (.entered template))
  refine ⟨result, t.reported .left, ?_, ready'.reported _, concludes⟩
  rw [Render.inTemplate_apply, ran]
  rfl

/-- To ask for a template that parses gives its tokens. -/
theorem request {source : Text} {pair : Delimiters} {tokens : List Token}
    (parses : Template.parse source pair = .ok tokens) {delimiters : Value}
    (accepted : Template.delimitersOf (delimiters.settled edits) = .ok pair) :
    Copes moderate edits (Template.request (.text source) delimiters : Render σ (List Token))
      (· = tokens) := by
  intro s ready
  rw [← ready.unwritten] at accepted
  obtain ⟨t, ran, served⟩ := Template.request_served parses accepted
  obtain ⟨sound, parsed⟩ := Template.request_sound ready.sound accepted ran
  -- A request changes nothing but the cache, the accounts and the journal.
  refine ⟨_, t, ran, ⟨?_, sound, ?_⟩, ?_⟩
  · exact (congrArg Stage.edits served.stage).trans ready.unwritten
  · have memo : t.memo = s.memo := congrArg Stage.memo served.stage
    exact memo ▸ ready.remembered
  · -- What a sound cache has kept is what parsing gives.
    have same : Template.parsed source pair = .ok _ := parsed _ rfl
    rw [Template.parsed_of_parse parses] at same
    exact (Except.ok.inj same).symm

section Names

variable {value : Value} {name : Text}

/-- Plain data answers names. -/
theorem resolve (host : Host σ) (fits : value.Fits moderate)
    (readable : moderate → Value.isReadable name = true) :
    Copes moderate edits (value.resolve host name) (Value.Answer moderate) := by
  -- There is nothing to be asked, so that the entries and items decide.
  rw [Value.resolve, fits.plain.opened, pure_bind, fits.plain.resolver?_eq_none]
  exact .ofExcept (fits.member readable)

/-- A name is looked for in plain data from the inside out. -/
theorem resolveAmong (host : Host σ) (readable : moderate → Value.isReadable name = true)
    {views : List Value} (fits : ∀ view ∈ views, view.Fits moderate) :
    Copes moderate edits (Scope.resolveAmong host name views) (Value.Answer moderate) := by
  -- The induction goes from the innermost value outwards.
  induction views with
  | nil => exact .pure (.inl rfl)
  | cons view outer ih =>
    refine .bind (.resolve host (fits view List.mem_cons_self) readable) fun found answer => ?_
    -- What this one does not know the ones around it may.
    split
    · exact ih fun other member => fits other (List.mem_cons_of_mem view member)
    · exact .pure answer

/-- Behind the first name of a path the others are looked for in plain data, if there is any. -/
theorem resolveWithin (host : Host σ) {names : List Text}
    (readable : moderate → names.all Value.isReadable = true) {value : Value}
    (answer : value.Answer moderate) :
    Copes moderate edits (Scope.resolveWithin host value names) (Value.Fits moderate) := by
  -- From the first name on that has no value there is nothing, which is no failure.
  induction names generalizing value with
  | nil =>
    unfold Scope.resolveWithin
    split
    · exact .pure (.of_isModerate .null rfl)
    · exact .pure (answer.resolve_left ‹_›)
    · contradiction
  | cons name rest ih =>
    simp only [List.all_cons, Bool.and_eq_true] at readable
    unfold Scope.resolveWithin
    split
    · exact .pure (.of_isModerate .null rfl)
    · contradiction
    · -- The rest is looked for in what the value answers.
      rename_i known same
      cases same
      exact .bind (.resolve host (answer.resolve_left known) fun size => (readable size).1)
        fun found answer => ih (fun size => (readable size).2) answer

/-- Paths are resolved in plain data. -/
theorem resolvePath (host : Host σ) {scope : Scope}
    (fits : ∀ view ∈ scope.views, view.Fits moderate) {path : Text}
    (legible : moderate → Text.isLegible path = true) :
    Copes moderate edits (scope.resolvePath host path) (Value.Fits moderate) := by
  have readable (size : moderate) : Value.isReadable (Text.pieces '.' path).1 = true
      ∧ (Text.pieces '.' path).2.all Value.isReadable = true := by
    have all : ((Text.pieces '.' path).1 :: (Text.pieces '.' path).2).all Value.isReadable = true :=
      legible size
    rw [List.all_cons, Bool.and_eq_true] at all
    exact all
  -- The first name is looked for in all values, and the others in what is found.
  exact .bind (.resolveAmong host (fun size => (readable size).1) fits) fun found answer =>
    .resolveWithin host (fun size => (readable size).2) answer

/-- Paths are looked up in plain data, and what is found is plain. -/
theorem lookup (host : Host σ) {scope : Scope}
    (fits : ∀ view ∈ scope.views, view.Fits moderate) {path : Text}
    (legible : moderate → Text.isLegible path = true) :
    Copes moderate edits (scope.lookup host path) (Value.Fits moderate) := by
  unfold Scope.lookup
  split
  · -- A single dot stands for the view, which is plain.
    exact .pure (fits scope.view List.mem_cons_self)
  · refine .read fun s ready => ?_
    cases known : s.memo.lookup path with
    | some value =>
      -- Only plain values were remembered.
      obtain ⟨before, behind, memo, -⟩ := List.lookup_eq_some_iff.mp known
      exact .pure (ready.remembered path value (by simp [memo]))
    | none =>
      -- The path is resolved, and what was found is remembered from then on.
      exact .bind (.resolvePath host fits legible) fun value found =>
        .bind (.remember found) fun _ _ => .pure found

end Names

end Copes

/-- Among the entries of a mapping a template is looked for by its name. -/
theorem Scene.template_of_mapping {scene : Scene} {entries : List (Value × Value)}
    (partials : scene.partials = .mapping entries) (host : Host σ) (name : Text) :
    (scene.template host (.text name) : Render σ Value)
      = pure ((Value.named? entries name).getD .null) := by
  -- A mapping is looked through without asking anybody.
  rw [Scene.template, partials]
  rfl

end Mustache
