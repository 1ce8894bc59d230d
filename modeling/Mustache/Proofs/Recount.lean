import Mustache.Proofs.Course
import Mustache.Proofs.Overheard
import Mustache.Proofs.Transparency

/-!
Requests for templates, counted with a cache and without one.

Without a cache a request is counted before its template is parsed, and with a cache afterwards.
So the counts differ by the requests for texts that cannot be parsed.
-/

namespace Mustache

variable {σ : Type}

/-- The number of templates that were parsed or found in the cache. -/
def Profile.requests (p : Profile) : Nat := p.parses + p.cacheHits

/-- One more request is counted, wherever the template comes from. -/
theorem Profile.requests_addParse (p : Profile) (cached : Bool) :
    (p.addParse cached).requests = p.requests + 1 := by
  -- A request is a parsing or a hit, and either is counted once.
  cases cached <;> simp only [requests, addParse, Bool.false_eq_true, if_true, if_false] <;> omega

/-- A neutral note says nothing about requests. -/
theorem Profile.Neutral.requests {note : Profile → Profile} (neutral : Neutral note) (p : Profile) :
    (note p).requests = p.requests := by
  -- Requests are parses and hits, which stay as they are.
  rw [Profile.requests, (neutral p).1, (neutral p).2, Profile.requests]

/-- Whether an event tells that a text was asked for which cannot be parsed. -/
def Event.isVain : Event → Bool
  | .cacheRead (.text t) pair _ => !(Template.parse t pair).isOk
  | _ => false

/-- How often a text was asked for which cannot be parsed, as far as that is told. -/
def Session.vain (s : Session σ) : Nat := s.journal.countP Event.isVain

namespace Template

/-- No text is asked for while another one is parsed. -/
theorem countP_switched (t : Text) (pair : Delimiters) :
    (switched t pair).countP Event.isVain = 0 := by
  -- While a text is parsed nothing but changes of delimiters is told.
  refine List.countP_eq_zero.mpr fun event member => ?_
  obtain ⟨other, start, rfl⟩ := exists_of_mem_switched member
  exact Bool.false_ne_true

/-- With a faithful cache a request for a text is counted, or it is vain. -/
theorem requestSource_recounted {cache : Cache} (faithful : cache.Faithful)
    (reported : cache.reported = true) (t : Text) (pair : Delimiters) {s : Session σ}
    (there : s.cache = some cache) {p : Profile} {outer : List Profile}
    (account : s.profiles = p :: outer) :
    ∃ after p', requestSource cache (.text t) (.text t) pair s = some (parsed t pair, after)
      ∧ (∃ later, after.cache = some later ∧ later.reported = true)
      ∧ after.profiles = p' :: outer ∧ p'.requests + after.vain = p.requests + s.vain + 1 := by
  obtain ⟨host, taken, edits, memo, _, _, journal, contexts, count⟩ := s
  subst there account
  have told (event : Event) :
      (reportUse cache event : Render σ Unit) = Render.report event := if_pos reported
  rw [requestSource, told, told]
  cases found : cache.find? (.text t) pair with
  | some tokens =>
    -- What is in the cache can be parsed.
    have parses := faithful.parse_of_find? found
    rw [parsed_of_parse parses]
    refine ⟨_, p.addParse true, rfl, ⟨cache, rfl, reported⟩, rfl, ?_⟩
    simp [Session.vain, Event.isVain, parses, Except.isOk, Except.toBool,
      Profile.requests_addParse]
    omega
  | none =>
    -- The text is parsed before anything is kept or counted.
    let missed : List Event :=
      .noted (.cacheMiss t.length) :: .cacheRead (.text t) pair false :: journal
    let middle : Session σ :=
      ⟨host, taken, edits, memo, some cache, p :: outer, missed, contexts, count⟩
    have parsing := parseText_apply t pair middle
    cases parses : parse t pair with
    | ok tokens =>
      rw [parsed_of_parse parses] at parsing ⊢
      refine ⟨⟨host, taken, edits, memo, some (cache.insert (.text t) pair tokens),
        p.addParse false :: outer,
        .cacheWritten (.text t) pair :: (switched t pair ++ missed), contexts, count⟩,
        p.addParse false, ?_, ⟨_, rfl, reported⟩, rfl, ?_⟩
      · change (parseText t pair >>= _) middle = _
        rw [Render.bind_apply, parsing]
        rfl
      · simp [Session.vain, missed, Event.isVain, parses, Except.isOk, Except.toBool,
          Profile.requests_addParse, countP_switched]
        omega
    | error fault =>
      rw [parsed, parses] at parsing ⊢
      refine ⟨⟨host, taken, edits, memo, some cache, p :: outer, switched t pair ++ missed,
        contexts, count⟩, p, ?_, ⟨_, rfl, reported⟩, rfl, ?_⟩
      · change (parseText t pair >>= _) middle = _
        rw [Render.bind_apply, parsing]
        rfl
      · simp [Session.vain, missed, Event.isVain, parses, Except.isOk, Except.toBool,
          countP_switched]
        omega

/-- A text is asked for in the cache, if there is one. -/
theorem request_of_cached {t : Text} {delimiters : Value} {pair : Delimiters} {s : Session σ}
    (accepted : delimitersOf (delimiters.settled s.edits) = .ok pair) {cache : Cache}
    (there : s.cache = some cache) :
    request (.text t) delimiters s = requestSource cache (.text t) (.text t) pair s := by
  rw [request, Render.bind_apply]
  -- The delimiters are accepted before the cache is looked at.
  change (Render.ofExcept (delimitersOf (delimiters.settled s.edits)) >>= _) s = _
  rw [accepted, Render.ok_bind, Render.get_bind, there]
  rfl

/-- A text is counted and parsed, if there is no cache. -/
theorem request_of_uncached {t : Text} {delimiters : Value} {pair : Delimiters} {s : Session σ}
    (accepted : delimitersOf (delimiters.settled s.edits) = .ok pair) (without : s.cache = none) :
    request (.text t) delimiters s = parseText t pair (s.accounted (·.addParse false)) := by
  rw [request, Render.bind_apply]
  -- The delimiters are accepted before the text is counted.
  change (Render.ofExcept (delimitersOf (delimiters.settled s.edits)) >>= _) s = _
  rw [accepted, Render.ok_bind, Render.get_bind, without]
  rfl

end Template

/--
Two sessions that are alike, in the first of which all uses of the cache are told.

As many requests are counted in the second one as are counted or vain in the first one, apart from
those that were vain when the accounts began.
-/
structure Session.Recounted (base : Nat) (s s' : Session σ) : Prop where
  /-- The sessions are alike. -/
  alike : s.Alike s'
  /-- The uses of the cache are told. -/
  told : ∃ cache, s.cache = some cache ∧ cache.reported = true
  /-- The requests that are counted differ by those that are vain. -/
  counts : ∃ p outer q outer', s.profiles = p :: outer ∧ s'.profiles = q :: outer'
    ∧ q.requests + base = p.requests + s.vain

namespace Session.Recounted

variable {base : Nat}

/-- The counts go on to differ by what is vain when the same goes on in both sessions. -/
theorem stable : Stable (Recounted base : Session σ → Session σ → Prop) where
  stage := fun related => related.alike.stage
  onStage := fun stage related =>
    ⟨Alike.stable.onStage stage related.alike, related.told, related.counts⟩
  reported := by
    intro s s' event shows related
    refine ⟨Alike.stable.reported shows related.alike, related.told, ?_⟩
    -- What goes on is no request, so that it is not vain.
    have vain : event.isVain = false := by
      cases event <;> first | rfl | cases shows
    obtain ⟨p, outer, q, outer', account, account', counts⟩ := related.counts
    refine ⟨p, outer, q, outer', account, account', ?_⟩
    rw [counts, Session.vain, Session.vain, Session.reported, List.countP_cons, vain]
    rfl
  accounted := by
    intro s s' note neutral related
    have alike := Alike.stable.accounted neutral related.alike
    obtain ⟨p, outer, q, outer', account, account', counts⟩ := related.counts
    -- A note that is neutral leaves the counts of requests alone in both accounts.
    have noted : s.accounted note = { s with profiles := note p :: outer } := by
      rw [Session.accounted, account]
    have noted' : s'.accounted note = { s' with profiles := note q :: outer' } := by
      rw [Session.accounted, account']
    rw [noted, noted'] at alike ⊢
    refine ⟨alike, related.told, note p, outer, note q, outer', rfl, rfl, ?_⟩
    rw [neutral.requests, neutral.requests]
    exact counts

/-- A request for a text is counted in the second session, and counted or vain in the first. -/
theorem keepsRequests : KeepsRequests (Recounted base : Session σ → Session σ → Prop) := by
  intro t delimiters s s' related
  obtain ⟨cache, there, reported⟩ := related.told
  obtain ⟨p, outer, q, outer', account, account', counts⟩ := related.counts
  have agree := Alike.keepsRequests t delimiters s s' related.alike
  have edits : s.edits = s'.edits := congrArg Stage.edits related.alike.stage
  cases accepted : Template.delimitersOf (delimiters.settled s.edits) with
  | error failure =>
    -- Delimiters that are refused are refused before anything is counted.
    rw [Template.request_of_refused accepted, Template.request_of_refused (edits ▸ accepted)]
    exact .both related
  | ok pair =>
    -- With a cache the request counts one if it succeeds, and without one it always counts.
    obtain ⟨after, p', ran, told, profiles, counted⟩ :=
      Template.requestSource_recounted (related.alike.faithful cache there) reported t pair there
        account
    have ran' := Template.parseText_apply t pair (s'.accounted (·.addParse false))
    rw [← Template.request_of_cached accepted there] at ran
    rw [← Template.request_of_uncached (edits ▸ accepted) related.alike.uncached] at ran'
    rw [ran, ran'] at agree ⊢
    cases agree with
    | both alike =>
      have account' : (s'.accounted (·.addParse false)).profiles = q.addParse false :: outer' := by
        rw [Session.accounted, account']
      refine .both ⟨alike, told, p', outer, _, outer', profiles, account', ?_⟩
      rw [Profile.requests_addParse]
      omega

end Session.Recounted

/-- One and the same session, in which what had happened at first is not forgotten. -/
structure Session.Since (base : List Event) (s s' : Session σ) : Prop where
  /-- There is only one session. -/
  same : s = s'
  /-- What had happened at first is not forgotten. -/
  suffix : base <:+ s.journal

namespace Session.Since

variable {base : List Event}

/-- Whatever goes on, what had happened at first is not forgotten. -/
theorem stable : Stable (Since base : Session σ → Session σ → Prop) where
  stage := fun since => congrArg Session.stage since.same
  onStage := fun stage since => ⟨congrArg (onStage · stage) since.same, since.suffix⟩
  reported := fun _ since =>
    ⟨congrArg (reported · _) since.same, since.suffix.trans (List.suffix_cons ..)⟩
  accounted := by
    rintro s _ note _ ⟨rfl, suffix⟩
    refine ⟨rfl, ?_⟩
    rwa [Occasion.journal_accounted]

/-- No template that is asked for makes anything forgotten. -/
theorem keepsTemplates (host : Host σ) :
    KeepsTemplates (Since base : Session σ → Session σ → Prop) host fun _ => True := by
  -- Whatever is asked for only adds to what has happened.
  refine .ofRequests stable host fun template delimiters => ?_
  rintro s _ ⟨rfl, suffix⟩
  cases ran : Template.request template delimiters s with
  | none => exact .tooDeep
  | some outcome => exact .both ⟨rfl, suffix.trans (Template.request_suffix ran)⟩

end Session.Since

namespace Operation

/-- Operations do not make anything forgotten. -/
theorem performAll_suffix (host : Host σ) {operations : List Operation}
    (leave : ∀ operation ∈ operations, operation.LeavesCache) {s t : Session σ}
    {outcomes : List Outcome} (ran : performAll host operations s = some (outcomes, t)) :
    s.journal <:+ t.journal := by
  have seen {u u' : Session σ} (since : Session.Since s.journal u u') : u.seen = u'.seen :=
    congrArg Session.seen since.same
  -- Each operation is run beside itself, so that one session is enough.
  have keeps : ∀ operation ∈ operations,
      Keeps (Session.Since s.journal) (operation.perform host) := fun operation member =>
    perform_keeps Session.Since.stable (Session.Since.keepsTemplates host) (leave operation member)
      (operation.holds_true host)
  -- At the beginning the session is beside itself.
  have since : Session.Since s.journal s s := ⟨rfl, List.suffix_rfl⟩
  obtain ⟨_, -, since⟩ := performAll_keeps seen keeps since ran
  exact since.suffix

/--
Requests are counted differently with a faithful cache and without one.

Without a cache those for texts that cannot be parsed are counted too, and no others.
-/
theorem performAll_recounted (host : Host σ) {operations : List Operation}
    (leave : ∀ operation ∈ operations, operation.LeavesCache)
    (texts : ∀ operation ∈ operations, operation.HoldsTexts host) (s : Session σ) {cache : Cache}
    (faithful : cache.Faithful) {count count' : Nat} {begun bare after : Session σ}
    (begins : Engine.beginProfile { s with cache := some cache } = some (.ok count, begun))
    (begins' : Engine.beginProfile { s with cache := none } = some (.ok count', bare))
    {outcomes : List Outcome} (ran : performAll host operations begun = some (outcomes, after)) :
    ∃ (p q : Profile) (heard last ended ended' : Session σ) (told : List Event),
      Engine.endProfile after = some (.ok (some p), ended)
        ∧ performAll host operations bare = some (outcomes, last)
        ∧ Engine.endProfile last = some (.ok (some q), ended')
        ∧ performAll host operations begun.overheard = some (outcomes, heard)
        ∧ after.Overheard heard
        ∧ heard.journal = told ++ s.journal
        ∧ q.parses + q.cacheHits = p.parses + p.cacheHits + told.countP Event.isVain := by
  obtain rfl := Engine.begun_of_beginProfile begins
  obtain rfl := Engine.begun_of_beginProfile begins'
  let begun : Session σ := { s with cache := some cache, profiles := {} :: s.profiles }
  let bare : Session σ := { s with cache := none, profiles := {} :: s.profiles }
  -- The same happens where all uses of the cache are told, and there requests can be compared.
  obtain ⟨heard, ran', same⟩ := performAll_overheard host leave ran
  have kept : begun.overheard.Faithful := by
    rintro _ ⟨⟩
    exact faithful
  have related : Session.Recounted s.vain begun.overheard bare :=
    ⟨⟨rfl, rfl, kept, rfl⟩, ⟨_, rfl, rfl⟩, {}, _, {}, _, rfl, rfl, rfl⟩
  have keeps : ∀ operation ∈ operations,
      Keeps (Session.Recounted s.vain) (operation.perform host) := fun operation member =>
    perform_keeps Session.Recounted.stable (Session.Recounted.keepsRequests.templates host)
      (leave operation member) (texts operation member).holds
  obtain ⟨last, plain, related⟩ :=
    performAll_keeps (fun related => related.alike.seen) keeps related ran'
  obtain ⟨told, journal⟩ := performAll_suffix host leave ran'
  obtain ⟨p, outer, q, outer', account, account', counts⟩ := related.counts
  have account := same.profiles.trans account
  refine ⟨p, q, heard, last, _, _, told, Engine.endProfile_of_cons account, plain,
    Engine.endProfile_of_cons account', ran', same, journal.symm, ?_⟩
  -- What was vain before the accounts began is not counted.
  have vain : heard.vain = told.countP Event.isVain + s.vain := by
    rw [Session.vain, ← journal, List.countP_append]
    rfl
  rw [vain] at counts
  simp only [Profile.requests] at counts
  omega

/-- A text that cannot be parsed is counted without a cache only, and others in both cases. -/
theorem performAll_recounted_vain :
    let host : Host Unit :=
      ⟨fun _ _ state => (.ok .null, state), fun _ _ state => .value .null state⟩
    let render := Operation.render (.text ['a']) (.value .null) (.mapping []) (.value .null)
    let operations := [.parse (.ofString "\x7b\x7b#x\x7d\x7d") .null, render, render]
    let s : Session Unit := { host := () }
    let begun : Session Unit := { s with cache := some {}, profiles := [{}] }
    let bare : Session Unit := { s with cache := none, profiles := [{}] }
    (∀ operation ∈ operations, operation.LeavesCache)
      ∧ (∀ operation ∈ operations, operation.HoldsTexts host)
      ∧ Cache.Faithful {}
      ∧ Engine.beginProfile { s with cache := some {} } = some (.ok 1, begun)
      ∧ Engine.beginProfile { s with cache := none } = some (.ok 1, bare)
      ∧ ∃ outcomes after last p q heard told,
        performAll host operations begun = some (outcomes, after)
        ∧ performAll host operations bare = some (outcomes, last)
        ∧ after.profiles = [p] ∧ p.parses = 1 ∧ p.cacheHits = 1
        ∧ last.profiles = [q] ∧ q.parses = 3 ∧ q.cacheHits = 0
        ∧ performAll host operations begun.overheard = some (outcomes, heard)
        ∧ heard.journal = told ∧ told.countP Event.isVain = 1 := by
  intro host render operations s begun bare
  have leave : ∀ operation ∈ operations, operation.LeavesCache := by
    simp [operations, render, LeavesCache]
  have none : (Value.mapping []).HoldsTexts host := Value.holdsTexts_mapping host nofun
  have texts : ∀ operation ∈ operations, operation.HoldsTexts host := by
    simp [operations, render, HoldsTexts, none]
  have faithful : Cache.Faithful {} := Cache.faithful_of_entries_nil rfl
  -- Of three texts one is taken from the cache, and one cannot be parsed.
  have accounts : (performAll host operations begun).map (·.2.profiles)
      = some [{ renders := 2, outputLength := 2, parses := 1, cacheHits := 1 }] := by
    decide +kernel
  have accounts' : (performAll host operations bare).map (·.2.profiles)
      = some [{ renders := 2, outputLength := 2, parses := 3 }] := by decide +kernel
  obtain ⟨⟨outcomes, after⟩, ran, account⟩ := Option.map_eq_some_iff.mp accounts
  obtain ⟨p, q, heard, last, _, _, told, ends, ran', ends', hears, _, journal, counts⟩ :=
    performAll_recounted host leave texts s faithful rfl rfl ran
  have account' : last.profiles = [{ renders := 2, outputLength := 2, parses := 3 }] := by
    rw [ran'] at accounts'
    exact Option.some.inj accounts'
  -- The accounts in the end are those that are kept until then.
  rw [Engine.endProfile_of_cons account] at ends
  rw [Engine.endProfile_of_cons account'] at ends'
  cases ends
  cases ends'
  refine ⟨leave, texts, faithful, rfl, rfl, outcomes, after, last, _, _, heard, told, ran, ran',
    account, rfl, rfl, account', rfl, rfl, hears, ?_, ?_⟩
  · rw [journal]
    exact List.append_nil _
  · simp only at counts
    omega

end Operation

end Mustache
