import Mustache.Proofs.Keeping.Operations
import Mustache.Proofs.Serving

/-!
Sound caches, in which every source has the tokens that parsing it gives.

Whatever operations are performed, and whatever templates they are given, a cache that is sound
stays so.
-/

namespace Mustache

variable {σ : Type}

/-- What comes of parsing a source with given delimiters. -/
def Source.parsed (source : Source) (pair : Delimiters) : Except Failure (List Token) :=
  match source with
  | .text t => Template.parsed t pair
  | .vacant _ => .ok []

/-- What comes of parsing a value with given delimiters, unless it is refused. -/
def Value.parsed (template : Value) (pair : Delimiters) : Except Failure (List Token) :=
  match template with
  | .text t => Template.parsed t pair
  | _ => .ok []

/-- What is no text has no tokens. -/
theorem Value.parsed_eq_nil {template : Value} (other : ∀ t, template ≠ .text t)
    (pair : Delimiters) : template.parsed pair = .ok [] := by
  -- Only texts are parsed.
  unfold parsed
  split
  · exact absurd rfl (other _)
  · rfl

/-- Only a text is kept as a text. -/
theorem Source.eq_text_of_ofValue? {template : Value} {t : Text}
    (same : ofValue? template = some (.text t)) : template = .text t := by
  unfold ofValue? at same
  -- Every other value is vacant or no source at all.
  split at same
  case h_4 => split at same <;> cases same
  all_goals cases same
  rfl

/-- A value is parsed as the source that it is. -/
theorem Source.parsed_eq {template : Value} {source : Source}
    (same : ofValue? template = some source) (pair : Delimiters) :
    template.parsed pair = source.parsed pair := by
  -- A source knows whether it was a text.
  cases source with
  | text t =>
    rw [eq_text_of_ofValue? same]
    rfl
  | vacant kind =>
    refine Value.parsed_eq_nil ?_ pair
    rintro t rfl
    cases same

/-- A cache in which every source has the tokens that parsing it gives. -/
def Cache.Sound (cache : Cache) : Prop :=
  ∀ source pair tokens, ((source, pair), tokens) ∈ cache.entries → source.parsed pair = .ok tokens

namespace Cache

/-- A cache in which nothing is kept is sound. -/
theorem sound_of_entries_nil {cache : Cache} (empty : cache.entries = []) : cache.Sound := by
  -- There is no entry that something would be asked of.
  intro source pair tokens kept
  simp [empty] at kept

/-- What a sound cache has for a source is what parsing the source gives. -/
theorem Sound.parsed_of_find? {cache : Cache} (sound : cache.Sound) {source : Source}
    {pair : Delimiters} {tokens : List Token} (found : cache.find? source pair = some tokens) :
    source.parsed pair = .ok tokens := by
  -- The tokens stand among the entries, under that source and those delimiters.
  obtain ⟨before, behind, entries, -⟩ := List.lookup_eq_some_iff.mp found
  exact sound source pair tokens (by simp [entries])

/-- A sound cache stays so when a source is put into it with the tokens that parsing it gives. -/
theorem Sound.insert {cache : Cache} (sound : cache.Sound) {source : Source} {pair : Delimiters}
    {tokens : List Token} (parses : source.parsed pair = .ok tokens) :
    (cache.insert source pair tokens).Sound := by
  intro source' pair' tokens' kept
  -- What is kept was there before, or is new.
  simp only [Cache.insert, List.mem_append, List.mem_singleton] at kept
  rcases kept with before | new
  · exact sound source' pair' tokens' before
  · cases new
    exact parses

end Cache

namespace Session

/-- Whether the cache, if there is one, is sound. -/
def Sound (s : Session σ) : Prop := ∀ cache, s.cache = some cache → cache.Sound

/-- A session with the same cache is sound if the other one is. -/
theorem Sound.of_cache_eq {s t : Session σ} (sound : s.Sound) (cache : t.cache = s.cache) :
    t.Sound := fun kept there => sound kept (cache ▸ there)

/-- A note in an account leaves the cache as it is. -/
theorem Sound.accounted {s : Session σ} (note : Profile → Profile) (sound : s.Sound) :
    (s.accounted note).Sound := by
  -- There is an account in which the note is made, or none.
  unfold Session.accounted
  split <;> exact sound

/-- One and the same session, which is sound. -/
structure Twin (s s' : Session σ) : Prop where
  /-- There is only one session. -/
  same : s = s'
  /-- Its cache is sound. -/
  sound : s.Sound

/-- A session that is changed in any way, but for its cache, stays sound. -/
theorem Twin.stable : Stable (Twin : Session σ → Session σ → Prop) where
  stage := fun twin => congrArg Session.stage twin.same
  onStage := fun stage twin => ⟨congrArg (onStage · stage) twin.same, twin.sound⟩
  reported := fun _ twin => ⟨congrArg (reported · _) twin.same, twin.sound⟩
  accounted := fun _ twin => ⟨congrArg (accounted · _) twin.same, twin.sound.accounted _⟩

end Session

/-- A step that leaves sound sessions sound, and gives only values with a property there. -/
def Safe {α : Type} (step : Render σ α) (P : α → Prop) : Prop :=
  ∀ s : Session σ, s.Sound → ∀ result after, step s = some (result, after) →
    after.Sound ∧ ∀ value, result = .ok value → P value

namespace Safe

variable {α β : Type} {P : α → Prop}

/-- To give a value with a property is safe. -/
theorem pure {value : α} (holds : P value) : Safe (Pure.pure value : Render σ α) P := by
  rintro s sound _ _ ran
  -- The session stays as it is.
  cases ran
  refine ⟨sound, fun _ same => ?_⟩
  cases same
  exact holds

/-- To fail is safe. -/
theorem throw (failure : Failure) : Safe (throw failure : Render σ α) P := by
  rintro s sound _ _ ran
  -- There is no value of which something would have to hold.
  cases ran
  exact ⟨sound, fun _ same => nomatch same⟩

/-- Two steps are safe when the second one is for all that the first one gives. -/
theorem bind {step : Render σ α} {next : α → Render σ β} {Q : β → Prop} (first : Safe step P)
    (second : ∀ value, P value → Safe (next value) Q) : Safe (step >>= next) Q := by
  intro s sound result after ran
  rw [Render.bind_apply] at ran
  cases stepped : step s with
  | none =>
    rw [stepped] at ran
    cases ran
  | some outcome =>
    obtain ⟨given, t⟩ := outcome
    -- The first step leaves a sound session, in which the second one begins.
    obtain ⟨sound', holds⟩ := first s sound given t stepped
    rw [stepped] at ran
    -- A failure ends both, and a value is handed on to the second step.
    cases given with
    | error failure =>
      cases ran
      exact ⟨sound', fun _ same => nomatch same⟩
    | ok value => exact second value (holds value rfl) t sound' result after ran

/-- A step that only changes the session is safe if it leaves sound sessions sound. -/
theorem of_change {step : Render σ Unit} (change : Session σ → Session σ)
    (same : ∀ s, step s = some (.ok (), change s)) (sound : ∀ s, s.Sound → (change s).Sound) :
    Safe step fun _ => True := by
  intro s before result after ran
  -- The change is all that happens.
  rw [same] at ran
  cases ran
  exact ⟨sound s before, fun _ _ => trivial⟩

/-- To report an event is safe. -/
theorem report (event : Event) : Safe (Render.report event : Render σ Unit) fun _ => True :=
  -- The cache is not touched by it.
  of_change (·.reported event) (fun _ => rfl) fun _ => id

/-- To make a note in an account is safe. -/
theorem account (note : Profile → Profile) :
    Safe (Render.account note : Render σ Unit) fun _ => True :=
  of_change (·.accounted note) (fun _ => rfl) fun _ => Session.Sound.accounted note

/-- To tell of a use of a cache is safe. -/
theorem reportUse (cache : Cache) (event : Event) :
    Safe (Template.reportUse cache event : Render σ Unit) fun _ => True := by
  -- Without a listener nothing is reported.
  unfold Template.reportUse
  split
  · exact report event
  · exact Safe.pure trivial

/-- To keep a source with the tokens that parsing it gives is safe. -/
theorem insert {source : Source} {pair : Delimiters} {tokens : List Token}
    (parses : source.parsed pair = .ok tokens) :
    Safe (modify fun s => { s with cache := s.cache.map (·.insert source pair tokens) }
      : Render σ Unit) fun _ => True := by
  refine of_change _ (fun _ => rfl) fun s sound cache there => ?_
  -- There is a cache only if there was one, and it has one entry more.
  obtain ⟨before, had, rfl⟩ := Option.map_eq_some_iff.mp there
  exact (sound before had).insert parses

/-- To replace the cache by none, or by one that is sound, is safe. -/
theorem replace {cache : Option Cache} (sound : ∀ kept, cache = some kept → kept.Sound) :
    Safe (modify fun s => { s with cache := cache } : Render σ Unit) fun _ => True :=
  of_change _ (fun _ => rfl) fun _ _ => sound

/-- What is safe keeps a sound session sound. -/
theorem keeps {step : Render σ α} (safe : Safe step P) : Keeps Session.Twin step := by
  rintro s _ ⟨rfl, sound⟩
  -- The step is run once, for both sessions are the same.
  cases ran : step s with
  | none => exact .tooDeep
  | some outcome => exact .both ⟨rfl, (safe s sound _ _ ran).1⟩

end Safe

namespace Template

/-- To parse a text is safe. -/
theorem safe_parseText (t : Text) (pair : Delimiters) :
    Safe (parseText t pair : Render σ (List Token)) (parsed t pair = .ok ·) := by
  intro s sound result after ran
  -- Parsing a text tells of its changes of delimiters, and the result is that of the parser.
  rw [parseText_apply] at ran
  cases ran
  exact ⟨sound, fun _ => id⟩

/-- To parse a value is safe. -/
theorem safe_parseValue (template : Value) (pair : Delimiters) :
    Safe (parseValue template pair : Render σ (List Token)) (template.parsed pair = .ok ·) := by
  unfold parseValue
  split
  · exact safe_parseText _ pair
  · -- A vacant value has no tokens, and any other one is refused.
    split
    · exact .pure (Value.parsed_eq_nil ‹_› pair)
    · exact .throw _

/-- To ask a sound cache for a source is safe. -/
theorem safe_requestSource {cache : Cache} (sound : cache.Sound) (template : Value)
    (source : Source) (pair : Delimiters) :
    Safe (requestSource cache template source pair : Render σ (List Token))
      (source.parsed pair = .ok ·) := by
  refine .bind (.reportUse cache _) fun _ _ => ?_
  split
  · -- What was kept is what parsing gives.
    rename_i tokens found
    exact .bind (.account _) fun _ _ => .pure (sound.parsed_of_find? found)
  · have parsed : Safe (parseSource source pair : Render σ (List Token))
        (source.parsed pair = .ok ·) := by
      cases source with
      | text t => exact safe_parseText t pair
      | vacant kind => exact .pure rfl
    -- The source is new, and it is kept with what parsing it gives.
    refine .bind (.report _) fun _ _ => .bind parsed fun tokens parses => ?_
    exact .bind (.insert parses) fun _ _ => .bind (.reportUse cache _) fun _ _ =>
      .bind (.account _) fun _ _ => .pure parses

/-- To refuse a template is safe. -/
theorem safe_refuse (cache : Cache) (template : Value) (pair : Delimiters) :
    Safe (refuse cache template pair : Render σ (List Token)) (template.parsed pair = .ok ·) := by
  -- Whoever listens is told, and the request fails either way.
  unfold refuse
  split
  · refine .bind (.reportUse cache _) fun _ _ => ?_
    split
    · exact .bind (.report _) fun _ _ => .throw _
    · exact .throw _
  · exact .throw _

/-- Where its delimiters are refused, a request does nothing. -/
theorem request_of_refused {template delimiters : Value} {s : Session σ} {failure : Failure}
    (refused : delimitersOf (delimiters.settled s.edits) = .error failure) :
    request template delimiters s = some (.error failure, s) := by
  rw [request, Render.bind_apply]
  -- The delimiters are looked at before anything else.
  change (Render.ofExcept (delimitersOf (delimiters.settled s.edits)) >>= _) s = _
  rw [refused]
  rfl

/-- A request in a sound session leaves it sound and gives what parsing the template gives. -/
theorem request_sound {template delimiters : Value} {pair : Delimiters} {s after : Session σ}
    {result : Except Failure (List Token)} (sound : s.Sound)
    (accepted : delimitersOf (delimiters.settled s.edits) = .ok pair)
    (ran : request template delimiters s = some (result, after)) :
    after.Sound ∧ ∀ tokens, result = .ok tokens → template.parsed pair = .ok tokens := by
  -- The delimiters are accepted, so that the template is asked for.
  rw [request, Render.bind_apply] at ran
  change (Render.ofExcept (delimitersOf (delimiters.settled s.edits)) >>= _) s = _ at ran
  rw [accepted, Render.ok_bind, Render.get_bind] at ran
  -- With a cache a template has to be a source, and without one it is parsed at once.
  cases there : s.cache with
  | some cache =>
    rw [there] at ran
    cases known : Source.ofValue? template with
    | some source =>
      simp only [known] at ran
      obtain ⟨sound', parses⟩ :=
        safe_requestSource (sound cache there) template source pair s sound result after ran
      exact ⟨sound', fun tokens same => (Source.parsed_eq known pair).trans (parses tokens same)⟩
    | none =>
      simp only [known] at ran
      exact safe_refuse cache template pair s sound result after ran
  | none =>
    rw [there] at ran
    exact Safe.bind (.account _) (fun _ _ => safe_parseValue template pair) s sound result after ran

/-- Requests for templates of any type keep a sound session sound. -/
theorem keeps_request (template delimiters : Value) :
    Keeps (Session.Twin : Session σ → Session σ → Prop) (request template delimiters) := by
  rintro s _ ⟨rfl, sound⟩
  -- Either the delimiters are refused, or the request was shown to be sound.
  cases accepted : delimitersOf (delimiters.settled s.edits) with
  | error failure =>
    rw [request_of_refused accepted]
    exact .both ⟨rfl, sound⟩
  | ok pair =>
    cases ran : request template delimiters s with
    | none => exact .tooDeep
    | some outcome => exact .both ⟨rfl, (request_sound sound accepted ran).1⟩

end Template

namespace Session.Twin

/-- Templates of any type keep a sound session sound. -/
theorem templates (host : Host σ) :
    KeepsTemplates (Twin : Session σ → Session σ → Prop) host fun _ => True :=
  -- Requests are safe for templates of any type.
  .ofRequests stable host Template.keeps_request

end Session.Twin

namespace Operation

/-- To empty the cache is safe. -/
theorem safe_clearCache : Safe (Engine.clearCache : Render σ Unit) fun _ => True := by
  intro s sound
  rw [Engine.clearCache, Render.get_bind]
  cases s.cache with
  | some cache =>
    -- Nothing is kept any more.
    refine Safe.bind (.reportUse cache _) (fun _ _ => .replace fun kept there => ?_) s sound
    cases there
    exact Cache.sound_of_entries_nil rfl
  -- Without a cache there is nothing to empty.
  | none => exact Safe.pure trivial s sound

/-- Every operation keeps a sound session sound. -/
theorem perform_sound (host : Host σ) (operation : Operation) :
    Keeps Session.Twin (operation.perform host) := by
  -- What leaves the cache to requests keeps it sound, as these do.
  have keeps (leaves : operation.LeavesCache) : Keeps Session.Twin (operation.perform host) :=
    perform_keeps Session.Twin.stable (Session.Twin.templates host) leaves
      (operation.holds_true host)
  cases operation with
  | clearCache => exact safe_clearCache.keeps.bind fun _ => Keeps.pure _
  | replaceCache reported =>
    -- A new cache keeps nothing yet.
    refine (Safe.replace fun kept there => ?_).keeps.bind fun _ => Keeps.pure _
    obtain ⟨flag, -, rfl⟩ := Option.map_eq_some_iff.mp there
    exact Cache.sound_of_entries_nil rfl
  | _ => exact keeps trivial

/-- Operations keep a sound session sound, whether or not they fail. -/
theorem performAll_sound (host : Host σ) {operations : List Operation} {outcomes : List Outcome}
    {s last : Session σ} (sound : s.Sound)
    (ran : performAll host operations s = some (outcomes, last)) : last.Sound := by
  have seen {u u' : Session σ} (twin : Session.Twin u u') : u.seen = u'.seen :=
    congrArg Session.seen twin.same
  -- Each operation is run beside itself, so that one session is enough.
  have keeps : ∀ operation ∈ operations, Keeps Session.Twin (operation.perform host) :=
    fun operation _ => perform_sound host operation
  -- The session is beside itself at the beginning, and so it is in the end.
  have twin : Session.Twin s s := ⟨rfl, sound⟩
  obtain ⟨_, -, twin⟩ := performAll_keeps seen keeps twin ran
  exact twin.sound

end Operation

end Mustache
