import Mustache.Proofs.Keeping

/-!
Faithful caches, which keep what parsing would give again.

A request for a text gives the same with a faithful cache and without one, and leaves the cache
faithful.
-/

namespace Mustache

variable {σ : Type}

/-- What comes of parsing a text with given delimiters. -/
def Template.parsed (t : Text) (pair : Delimiters) : Except Failure (List Token) :=
  (Template.parse t pair).mapError fun fault => .parse (fault.toError t)

/-- Parsing that succeeds gives its tokens. -/
theorem Template.parsed_of_parse {t : Text} {pair : Delimiters} {tokens : List Token}
    (parses : Template.parse t pair = .ok tokens) : Template.parsed t pair = .ok tokens := by
  rw [parsed, parses]
  rfl

namespace Template

/-- What is told of the changes of delimiters in a text, the latest first. -/
def switched (t : Text) (pair : Delimiters) : List Event :=
  ((switches t pair).map fun switch => .noted (.switched switch.pair switch.start)).reverse

/-- Nothing else is told of them. -/
theorem exists_of_mem_switched {t : Text} {pair : Delimiters} {event : Event}
    (member : event ∈ switched t pair) : ∃ other start, event = .noted (.switched other start) := by
  obtain ⟨switch, -, rfl⟩ := List.mem_map.mp (List.mem_reverse.mp member)
  exact ⟨switch.pair, switch.start, rfl⟩

/-- Events are reported one after the other. -/
theorem forM_report {γ : Type} (events : γ → Event) (items : List γ) (s : Session σ) :
    (items.forM fun item => (Render.report (events item) : Render σ Unit)) s
      = some (.ok (), { s with journal := (items.map events).reverse ++ s.journal }) := by
  -- The latest event stands first in the journal.
  induction items generalizing s with
  | nil => rfl
  | cons item items ih =>
    change (Render.report (events item) >>= fun _ => items.forM fun item =>
      (Render.report (events item) : Render σ Unit)) s = _
    rw [Render.bind_apply]
    refine (ih _).trans ?_
    simp

/-- To parse a text tells of the changes of delimiters in it, and gives what comes of parsing it. -/
theorem parseText_apply (t : Text) (pair : Delimiters) (s : Session σ) :
    (parseText t pair : Render σ (List Token)) s
      = some (parsed t pair, { s with journal := switched t pair ++ s.journal }) := by
  have told := forM_report (fun switch : Switch => .noted (.switched switch.pair switch.start))
    (switches t pair) s
  unfold parseText parsed
  rw [Render.bind_apply, told]
  -- What is told does not depend on whether parsing succeeds.
  cases parse t pair <;> rfl

end Template

/-- A cache that keeps only texts, each with the tokens that parsing it gives. -/
def Cache.Faithful (cache : Cache) : Prop :=
  ∀ source pair tokens, ((source, pair), tokens) ∈ cache.entries →
    ∃ t, source = .text t ∧ Template.parse t pair = .ok tokens

namespace Cache

/-- A cache in which nothing is kept is faithful. -/
theorem faithful_of_entries_nil {cache : Cache} (empty : cache.entries = []) : cache.Faithful := by
  intro source pair tokens kept
  simp [empty] at kept

/-- The tokens that a faithful cache has for a text are those that parsing it gives. -/
theorem Faithful.parse_of_find? {cache : Cache} (faithful : cache.Faithful) {t : Text}
    {pair : Delimiters} {tokens : List Token} (found : cache.find? (.text t) pair = some tokens) :
    Template.parse t pair = .ok tokens := by
  obtain ⟨before, behind, entries, -⟩ := List.lookup_eq_some_iff.mp found
  -- The tokens stand among the entries, under that text and those delimiters.
  obtain ⟨t', same, parses⟩ := faithful (.text t) pair tokens (by simp [entries])
  cases same
  exact parses

/-- A faithful cache has nothing for a text that cannot be parsed. -/
theorem Faithful.find?_eq_none {cache : Cache} (faithful : cache.Faithful) {t : Text}
    {pair : Delimiters} {fault : Fault} (fails : Template.parse t pair = .error fault) :
    cache.find? (.text t) pair = none := by
  -- If there were tokens, parsing would give them.
  cases found : cache.find? (.text t) pair with
  | none => rfl
  | some tokens =>
    have parses := faithful.parse_of_find? found
    rw [fails] at parses
    cases parses

/-- A faithful cache stays so when a text is put into it with the tokens that parsing it gives. -/
theorem Faithful.insert {cache : Cache} (faithful : cache.Faithful) {t : Text} {pair : Delimiters}
    {tokens : List Token} (parses : Template.parse t pair = .ok tokens) :
    (cache.insert (.text t) pair tokens).Faithful := by
  intro source pair' tokens' kept
  -- The tokens that are kept were there before, or are the new ones.
  simp only [Cache.insert, List.mem_append, List.mem_singleton] at kept
  rcases kept with before | new
  · exact faithful source pair' tokens' before
  · cases new
    exact ⟨t, rfl, parses⟩

end Cache

namespace Session

/-- Whether the cache, if there is one, is faithful. -/
def Faithful (s : Session σ) : Prop := ∀ cache, s.cache = some cache → cache.Faithful

/-- A session after something in it that only parsing and the cache are about. -/
structure Served (s after : Session σ) : Prop where
  /-- The steps of rendering go by the same as before. -/
  stage : after.stage = s.stage
  /-- Nothing was seen to happen. -/
  seen : after.seen = s.seen
  /-- A cache that was faithful still is. -/
  faithful : s.Faithful → after.Faithful
  /-- Where there was no cache there is none. -/
  uncached : s.cache = none → after.cache = none

namespace Served

/-- Nothing at all is about parsing and the cache only. -/
theorem refl (s : Session σ) : Served s s := ⟨rfl, rfl, id, id⟩

/-- One thing after the other is about parsing and the cache only if both are. -/
theorem trans {s t u : Session σ} (first : Served s t) (second : Served t u) : Served s u where
  stage := second.stage.trans first.stage
  seen := second.seen.trans first.seen
  faithful := fun kept => second.faithful (first.faithful kept)
  uncached := fun without => second.uncached (first.uncached without)

/-- An internal event is about parsing or the cache only. -/
theorem reported (s : Session σ) {event : Event} (hidden : event.isInternal = true) :
    Served s (s.reported event) where
  stage := rfl
  seen := by simp [Session.seen, Session.reported, hidden]
  faithful := id
  uncached := id

/-- A note in an account changes nothing else. -/
theorem accounted (s : Session σ) (note : Profile → Profile) : Served s (s.accounted note) := by
  -- Without an account there is nothing to note.
  unfold Session.accounted
  cases s.profiles with
  | nil => exact refl s
  | cons innermost outer => exact ⟨rfl, rfl, id, id⟩

/-- The cache is made use of when a text is kept in it with the tokens that parsing it gives. -/
theorem kept (s : Session σ) {t : Text} {pair : Delimiters} {tokens : List Token}
    (parses : Template.parse t pair = .ok tokens) :
    Served s { s with cache := s.cache.map (·.insert (.text t) pair tokens) } where
  stage := rfl
  seen := rfl
  faithful := by
    intro faithful cache same
    -- There is a cache only if there was one, and it has one entry more.
    obtain ⟨before, there, rfl⟩ := Option.map_eq_some_iff.mp same
    exact (faithful before there).insert parses
  -- Where there is no cache nothing is kept.
  uncached := by
    intro without
    simp [without]

end Served

end Session

/-- A step that always has the same result, and that only parsing and the cache are about. -/
def Serves {α : Type} (step : Render σ α) (result : Except Failure α) : Prop :=
  ∀ s, ∃ after, step s = some (result, after) ∧ s.Served after

namespace Serves

variable {α β : Type}

/-- To give a value is about nothing. -/
theorem pure (value : α) : Serves (Pure.pure value : Render σ α) (.ok value) :=
  fun s => ⟨s, rfl, .refl s⟩

/-- Two steps one after the other, the first of which gives a value. -/
theorem bind {step : Render σ α} {next : α → Render σ β} {value : α} {result : Except Failure β}
    (first : Serves step (.ok value)) (second : Serves (next value) result) :
    Serves (step >>= next) result := by
  intro s
  -- The second step begins where the first one has led.
  obtain ⟨t, stepped, served⟩ := first s
  obtain ⟨u, ended, servedAgain⟩ := second t
  refine ⟨u, ?_, served.trans servedAgain⟩
  rw [Render.bind_apply, stepped]
  exact ended

/-- Where the first of two steps fails, the second one is not taken. -/
theorem bind_error {step : Render σ α} {next : α → Render σ β} {failure : Failure}
    (first : Serves step (.error failure)) : Serves (step >>= next) (.error failure) := by
  intro s
  -- The failure of the first step is that of both.
  obtain ⟨t, stepped, served⟩ := first s
  refine ⟨t, ?_, served⟩
  rw [Render.bind_apply, stepped]
  rfl

/-- To report an internal event is about parsing or the cache only. -/
theorem report {event : Event} (hidden : event.isInternal = true) :
    Serves (Render.report event : Render σ Unit) (.ok ()) :=
  fun s => ⟨s.reported event, rfl, .reported s hidden⟩

/-- To make a note in an account is about nothing else. -/
theorem account (note : Profile → Profile) : Serves (Render.account note : Render σ Unit) (.ok ()) :=
  fun s => ⟨s.accounted note, rfl, .accounted s note⟩

/-- To tell of a use of the cache is about the cache only. -/
theorem reportUse (cache : Cache) {event : Event} (hidden : event.isInternal = true) :
    Serves (Template.reportUse cache event : Render σ Unit) (.ok ()) := by
  -- Without a listener nothing is reported.
  unfold Template.reportUse
  split
  · exact report hidden
  · exact Serves.pure ()

/-- To parse a text gives its tokens or what is wrong with it, whatever the session. -/
theorem parseText (t : Text) (pair : Delimiters) :
    Serves (Template.parseText t pair : Render σ (List Token)) (Template.parsed t pair) := by
  intro s
  refine ⟨_, Template.parseText_apply t pair s, rfl, ?_, id, id⟩
  -- No change of delimiters is seen.
  have hidden : (Template.switched t pair).filter (!·.isInternal) = [] := by
    refine List.filter_eq_nil_iff.mpr fun event member => ?_
    obtain ⟨other, start, rfl⟩ := Template.exists_of_mem_switched member
    exact Bool.false_ne_true
  -- What is seen is as before, as all that is told is hidden.
  rw [Session.seen, List.filter_append, hidden]
  rfl

/-- To ask a cache for a text that can be parsed gives what was kept for it, or else its tokens. -/
theorem requestSource_of_parse (cache : Cache) {t : Text} {pair : Delimiters} {tokens : List Token}
    (parses : Template.parse t pair = .ok tokens) :
    Serves (Template.requestSource cache (.text t) (.text t) pair : Render σ (List Token))
      (.ok ((cache.find? (.text t) pair).getD tokens)) := by
  -- A text that was kept is taken from the cache, and any other one is parsed and put into it.
  refine bind (reportUse cache rfl) ?_
  cases cache.find? (.text t) pair with
  | some kept => exact bind (account _) (Serves.pure kept)
  | none =>
    have parsed : Serves (Template.parseText t pair : Render σ (List Token)) _ := parseText t pair
    rw [Template.parsed_of_parse parses] at parsed
    have kept : Serves (modify fun s => { s with
        cache := s.cache.map (·.insert (.text t) pair tokens) } : Render σ Unit) (.ok ()) :=
      fun s => ⟨_, rfl, .kept s parses⟩
    -- The tokens are reported, kept and noted, and then they are given.
    refine bind (report rfl) (bind parsed (bind kept (bind (reportUse cache rfl) ?_)))
    exact bind (account _) (Serves.pure tokens)

/-- To ask a faithful cache for a text gives what parsing the text would give. -/
theorem requestSource {cache : Cache} (faithful : cache.Faithful) (t : Text) (pair : Delimiters) :
    Serves (Template.requestSource cache (.text t) (.text t) pair : Render σ (List Token))
      (Template.parsed t pair) := by
  cases parses : Template.parse t pair with
  | ok tokens =>
    -- What was kept is what parsing gives, even if it is no tokens at all.
    have same : (cache.find? (.text t) pair).getD tokens = tokens := by
      cases found : cache.find? (.text t) pair with
      | none => rfl
      | some kept => exact Except.ok.inj ((faithful.parse_of_find? found).symm.trans parses)
    have served := requestSource_of_parse (σ := σ) cache parses
    rwa [same, ← Template.parsed_of_parse parses] at served
  | error fault =>
    refine bind (reportUse cache rfl) ?_
    rw [faithful.find?_eq_none parses]
    refine bind (report rfl) ?_
    have parsed : Serves (Template.parseText t pair : Render σ (List Token)) _ := parseText t pair
    -- A failure is handed on before anything is kept.
    rw [Template.parsed, parses] at parsed ⊢
    exact bind_error parsed

end Serves

/-- A request for a text gives what parsing it gives, unless the delimiters are refused. -/
theorem Template.request_text (t : Text) (delimiters : Value) {s : Session σ}
    (faithful : s.Faithful) :
    ∃ after, Template.request (.text t) delimiters s =
      some ((delimitersOf (delimiters.settled s.edits)).bind (parsed t), after) ∧
        s.Served after := by
  -- The delimiters are settled and then accepted, or refused.
  rw [request, Render.bind_apply]
  change ∃ after, (Render.ofExcept (delimitersOf (delimiters.settled s.edits)) >>= _) s = _ ∧ _
  cases delimitersOf (delimiters.settled s.edits) with
  | error failure => exact ⟨s, rfl, .refl s⟩
  | ok pair =>
    -- All delimiters that are accepted have become a pair before the cache is looked at.
    rw [Render.ok_bind, Render.get_bind]
    cases there : s.cache with
    | some cache => exact Serves.requestSource (faithful cache there) t pair s
    | none => exact Serves.bind (Serves.account _) (Serves.parseText t pair) s

/-- A request for a text that can be parsed gives what was kept for it, or else its tokens. -/
theorem Template.request_served {t : Text} {pair : Delimiters} {tokens : List Token}
    (parses : parse t pair = .ok tokens) {delimiters : Value} {s : Session σ}
    (accepted : delimitersOf (delimiters.settled s.edits) = .ok pair) :
    ∃ after, request (.text t) delimiters s
      = some (.ok ((s.cache.bind (·.find? (.text t) pair)).getD tokens), after)
        ∧ s.Served after := by
  -- The delimiters are accepted, so that only the cache is left to look at.
  rw [request, Render.bind_apply]
  change ∃ after, (Render.ofExcept (delimitersOf (delimiters.settled s.edits)) >>= _) s = _ ∧ _
  rw [accepted, Render.ok_bind, Render.get_bind]
  -- Without a cache the text is parsed.
  cases s.cache with
  | some cache => exact Serves.requestSource_of_parse (σ := σ) cache parses s
  | none =>
    have served : Serves (Render.account (·.addParse false) >>= fun _ => parseText t pair
        : Render σ (List Token)) (parsed t pair) := .bind (.account _) (.parseText t pair)
    rw [parsed_of_parse parses] at served
    exact served s

/-- A request for a text that can be parsed succeeds. -/
theorem Template.request_of_parse {t : Text} {pair : Delimiters} {tokens : List Token}
    (parses : parse t pair = .ok tokens) {delimiters : Value} {s : Session σ}
    (accepted : delimitersOf (delimiters.settled s.edits) = .ok pair) :
    ∃ after, request (.text t) delimiters s
      = some (.ok ((s.cache.bind (·.find? (.text t) pair)).getD tokens), after) := by
  obtain ⟨after, ran, -⟩ := request_served parses accepted
  exact ⟨after, ran⟩

end Mustache
