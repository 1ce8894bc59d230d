import Mustache.Proofs.Leading.Engine
import Mustache.Proofs.Overheard
import Mustache.Proofs.Reckoning

/-!
The account of a session is exact.

Each thing that a rendering does on its own leaves the account exact, and so do renderings and
operations as a whole, whether or not they fail.
-/

namespace Mustache

variable {σ : Type}

namespace Session

/-- A session with a cache, from which another one is reached by work whose account is exact. -/
structure Worked (s : Session σ) (cache : Cache) (work : Work) (t : Session σ) : Prop where
  /-- The cache gains what the work says. -/
  kept : ∃ later, t.cache = some later ∧ cache.Gains work.gained later
  /-- The innermost account gains what the work says, if one is kept. -/
  profiles : t.profiles = s.profiles.modifyHead (·.add work.account)
  /-- What the work says has happened. -/
  journal : t.journal = work.events ++ s.journal
  /-- The account of the work is exact. -/
  exact : work.Exact cache.reported

/-- One work after the other is work. -/
theorem Worked.append {s t u : Session σ} {cache later : Cache} {work more : Work}
    (first : s.Worked cache work t) (there : t.cache = some later)
    (second : t.Worked later more u) : s.Worked cache (work.append more) u := by
  -- The cache at the end of the first work is that at the beginning of the second.
  obtain ⟨_, there', gains⟩ := first.kept
  obtain rfl := Option.some.inj (there.symm.trans there')
  obtain ⟨last, there'', gains'⟩ := second.kept
  have reported : later.reported = cache.reported := by rw [gains.entries]
  -- Cache, account and journal have each grown by one work and then by the other.
  refine ⟨⟨last, there'', gains.append gains'⟩, ?_, ?_, ?_⟩
  · rw [second.profiles, first.profiles, List.modifyHead_modifyHead]
    congr 1
    funext p
    exact p.add_assoc _ _
  · rw [second.journal, first.journal]
    exact (List.append_assoc ..).symm
  · exact first.exact.append (reported ▸ second.exact)

/-- A session whose account is exact in another one, given the outputs of which nobody was told. -/
def Reckoned (outputs : List Text) (s t : Session σ) : Prop :=
  ∀ cache, s.cache = some cache → ∃ work : Work, work.outputs = outputs ∧ s.Worked cache work t

namespace Reckoned

/-- The account is exact of one thing after the other. -/
theorem append {outputs more : List Text} {s t u : Session σ} (first : s.Reckoned outputs t)
    (second : t.Reckoned more u) : s.Reckoned (outputs ++ more) u := by
  intro cache there
  -- A cache that is there at first is there in between.
  obtain ⟨work, rfl, worked⟩ := first cache there
  obtain ⟨later, there', -⟩ := worked.kept
  obtain ⟨work', rfl, worked'⟩ := second later there'
  exact ⟨work.append work', rfl, worked.append there' worked'⟩

/-- The account is exact of what leaves the cache as it is, if it is exact of the work. -/
theorem counted (work : Work) {s t : Session σ} (same : t.cache = s.cache)
    (profiles : t.profiles = s.profiles.modifyHead (·.add work.account))
    (journal : t.journal = work.events ++ s.journal) (nothing : work.gained = [])
    (exact : ∀ cache, s.cache = some cache → work.Exact cache.reported) :
    s.Reckoned work.outputs t := by
  intro cache there
  -- Nothing is gained, so that the cache is what it was.
  refine ⟨work, rfl, ⟨cache, same.trans there, ?_⟩, profiles, journal, exact cache there⟩
  rw [nothing]
  exact .nothing cache

/-- Events that come into no account may happen, while other things change. -/
theorem idle {events : List Event} (idle : ∀ event ∈ events, event.IsIdle) {s t : Session σ}
    (cache : t.cache = s.cache) (profiles : t.profiles = s.profiles)
    (journal : t.journal = events ++ s.journal) : s.Reckoned [] t := by
  -- Nothing is added to the account, if there is any.
  refine counted { events := events } cache ?_ journal rfl fun _ _ => .idle idle _
  rw [profiles]
  cases s.profiles with
  | nil => rfl
  | cons p outer => rw [List.modifyHead_cons, Profile.add_empty]

/-- Something may be noted in the account, while what the note is about happens. -/
theorem noted (s : Session σ) {note : Profile → Profile} (work : Work)
    (adds : ∀ p, note p = p.add work.account) (nothing : work.gained = [])
    (exact : ∀ told, work.Exact told) :
    s.Reckoned work.outputs
      { s.accounted note with journal := work.events ++ (s.accounted note).journal } := by
  -- What is noted is what the work comes to.
  rw [Session.accounted_eq]
  refine .counted work rfl ?_ rfl nothing fun cache _ => exact cache.reported
  rw [show note = (·.add work.account) from funext adds]

/-- An event that comes into no account may be reported. -/
theorem reported (s : Session σ) {event : Event} (idle : event.IsIdle) :
    s.Reckoned [] (s.reported event) := by
  -- One event is a row of events.
  have events : ∀ other ∈ [event], other.IsIdle := by
    intro other member
    rw [List.mem_singleton.mp member]
    exact idle
  exact .idle events rfl rfl rfl

end Reckoned

/-- A session in which nothing but events that come into no account has happened. -/
def Passed (s t : Session σ) : Prop :=
  ∃ events, (∀ event ∈ events, event.IsIdle) ∧ t = { s with journal := events ++ s.journal }

namespace Passed

instance : IsPreorder (Session σ) Passed where
  refl := fun _ => ⟨[], nofun, rfl⟩
  trans := by
    rintro s _ _ ⟨events, idle, rfl⟩ ⟨events', idle', rfl⟩
    refine ⟨events' ++ events, fun event member => ?_, ?_⟩
    · rcases List.mem_append.mp member with late | early
      · exact idle' event late
      · exact idle event early
    · rw [List.append_assoc]

/-- An event that comes into no account may be reported. -/
theorem report {event : Event} (idle : event.IsIdle) :
    Leads Passed (Render.report event : Render σ Unit) := by
  refine .modify fun s => ⟨[event], fun other member => ?_, rfl⟩
  -- There is one event, which comes into no account.
  rw [List.mem_singleton.mp member]
  exact idle

/-- An event about the cache that comes into no account may be reported or not. -/
theorem reportUse (cache : Cache) {event : Event} (idle : event.IsIdle) :
    Leads Passed (Template.reportUse cache event : Render σ Unit) := by
  -- Without a listener nothing is reported.
  unfold Template.reportUse
  split
  · exact report idle
  · exact .pure ()

/-- A source may be parsed. -/
theorem parseSource (source : Source) (pair : Delimiters) :
    Leads Passed (Template.parseSource source pair : Render σ (List Token)) := by
  cases source with
  | text t =>
    -- Parsing tells of changes of delimiters, which come into no account.
    intro s result after ran
    change Template.parseText t pair s = some (result, after) at ran
    rw [Template.parseText_apply] at ran
    cases ran
    refine ⟨Template.switched t pair, fun event member => ?_, rfl⟩
    obtain ⟨other, start, rfl⟩ := Template.exists_of_mem_switched member
    exact ⟨rfl, rfl, rfl, rfl⟩
  | vacant kind => exact .pure _

/-- A template may be refused. -/
theorem refuse (cache : Cache) (template : Value) (pair : Delimiters) :
    Leads Passed (Template.refuse cache template pair : Render σ (List Token)) := by
  -- Whoever listens is told, and no account says so.
  unfold Template.refuse
  split
  · refine .bind (reportUse cache ⟨rfl, rfl, rfl, rfl⟩) fun _ => ?_
    split
    · exact .bind (report ⟨rfl, rfl, rfl, rfl⟩) fun _ => .throw _
    · exact .throw _
  · exact .throw _

/-- The account is exact of events that come into none. -/
theorem reckoned {s t : Session σ} (passed : s.Passed t) : s.Reckoned [] t := by
  -- Nothing comes into the account, and nothing into the cache.
  obtain ⟨events, idle, rfl⟩ := passed
  exact .idle idle rfl rfl rfl

end Passed

end Session

namespace Template

/-- What is told of a use of a cache. -/
def used (cache : Cache) (event : Event) : List Event := if cache.reported then [event] else []

/-- A use of a cache is told if its uses are. -/
theorem reportUse_apply (cache : Cache) (event : Event) (s : Session σ) :
    (reportUse cache event : Render σ Unit) s
      = some (.ok (), { s with journal := used cache event ++ s.journal }) := by
  -- It depends on the cache whether its uses are told.
  unfold reportUse used
  split <;> rfl

/-- The account is exact when a source is had from the cache. -/
theorem reckoned_hit {cache : Cache} (template : Value) (pair : Delimiters) {s : Session σ}
    (there : s.cache = some cache) :
    s.Reckoned [] ({ s with journal := used cache (.cacheRead template pair true)
      ++ s.journal }.accounted (·.addParse true)) := by
  let work : Work :=
    { account := { cacheHits := 1 }, events := used cache (.cacheRead template pair true) }
  -- The hit is told only if somebody listens, and the account is judged by that.
  have exact : work.Exact cache.reported := by
    unfold work used
    cases cache.reported with
    | false => exact ⟨rfl, rfl, rfl, nofun, rfl, rfl⟩
    | true => exact ⟨rfl, rfl, rfl, fun _ => rfl, rfl, rfl⟩
  rw [Session.accounted_eq]
  -- The one parsing that was saved is what the account has gained.
  refine .counted work rfl ?_ rfl rfl fun other there' => ?_
  · simp only [Profile.addParse_true, work]
  · rw [there] at there'
    cases there'
    exact exact

/-- The account is exact when the tokens of a source are put into the cache. -/
theorem reckoned_kept {cache : Cache} (template : Value) {source : Source} {pair : Delimiters}
    (missed : cache.find? source pair = none) (tokens : List Token) {s : Session σ}
    (there : s.cache = some cache) :
    s.Reckoned [] ({ s with
      cache := some (cache.insert source pair tokens)
      journal := used cache (.cacheWritten template pair) ++ s.journal }.accounted
        (·.addParse false)) := by
  let work : Work :=
    { account := { parses := 1 }
      events := used cache (.cacheWritten template pair)
      gained := [((source, pair), tokens)] }
  -- The miss is told only if somebody listens, and the account is judged by that.
  have exact : work.Exact cache.reported := by
    unfold work used
    cases cache.reported with
    | false => exact ⟨rfl, rfl, rfl, nofun, rfl, rfl⟩
    | true => exact ⟨rfl, rfl, rfl, fun _ => rfl, rfl, rfl⟩
  -- The only entry the cache has gained is that of the source.
  intro other there'
  rw [there] at there'
  cases there'
  rw [Session.accounted_eq]
  refine ⟨work, rfl, ⟨_, rfl, .insert missed tokens⟩, ?_, rfl, exact⟩
  simp only [Profile.addParse_false, work]

/-- The account is exact when a source is asked for. -/
theorem reckoned_requestSource {cache : Cache} (template : Value) (source : Source)
    (pair : Delimiters) {s t : Session σ} {result : Except Failure (List Token)}
    (there : s.cache = some cache)
    (ran : requestSource cache template source pair s = some (result, t)) : s.Reckoned [] t := by
  cases found : cache.find? source pair with
  | some tokens =>
    rw [requestSource, found, Render.bind_apply, reportUse_apply] at ran
    cases ran
    exact reckoned_hit template pair there
  | none =>
    -- Before the tokens are put into the cache nothing comes into the account.
    let first : Render σ (List Token) :=
      reportUse cache (.cacheRead template pair false) >>= fun _ =>
        Render.report (.noted (.cacheMiss source.length)) >>= fun _ => parseSource source pair
    have passes : Leads Session.Passed first :=
      .bind (.reportUse cache ⟨rfl, rfl, rfl, rfl⟩) fun _ =>
        .bind (.report ⟨rfl, rfl, rfl, rfl⟩) fun _ => .parseSource source pair
    let keeping (tokens : List Token) : Render σ Unit :=
      modify fun s => { s with cache := s.cache.map (·.insert source pair tokens) }
    have same : requestSource cache template source pair = first >>= fun tokens =>
        keeping tokens >>= fun _ => reportUse cache (.cacheWritten template pair) >>= fun _ =>
          Render.account (·.addParse false) >>= fun _ => pure tokens := by
      rw [requestSource, found]
      simp only [first, bind_assoc]
      rfl
    rw [same, Render.bind_apply] at ran
    obtain ⟨⟨outcome, middle⟩, parsed, ended⟩ := Option.bind_eq_some_iff.mp ran
    have passed := passes s outcome middle parsed
    cases outcome with
    | error failure =>
      cases ended
      exact passed.reckoned
    | ok tokens =>
      -- Parsing left the cache as it was.
      have there' : middle.cache = some cache := by
        obtain ⟨events, -, rfl⟩ := passed
        exact there
      change (reportUse cache (.cacheWritten template pair) >>= _)
        { middle with cache := middle.cache.map (·.insert source pair tokens) } = _ at ended
      rw [Render.bind_apply, reportUse_apply, there'] at ended
      cases ended
      exact passed.reckoned.append (reckoned_kept template found tokens there')

/-- The account is exact when a template is asked for. -/
theorem leads_request (template delimiters : Value) :
    Leads (Session.Reckoned []) (request template delimiters : Render σ (List Token)) := by
  intro s result t ran cache there
  rw [request, Render.bind_apply] at ran
  change (Render.ofExcept (delimitersOf (delimiters.settled s.edits)) >>= _) s = _ at ran
  -- A request that is refused passes without work.
  have unchanged : s.Passed s := ⟨[], nofun, rfl⟩
  cases accepted : delimitersOf (delimiters.settled s.edits) with
  | error failure =>
    rw [accepted] at ran
    cases ran
    exact unchanged.reckoned cache there
  | ok pair =>
    rw [accepted, Render.ok_bind, Render.get_bind, there] at ran
    cases known : Source.ofValue? template with
    | some source =>
      simp only [known] at ran
      -- What has a source is looked for in the cache.
      exact reckoned_requestSource template source pair there ran cache there
    | none =>
      simp only [known] at ran
      exact (Session.Passed.refuse cache template pair s result t ran).reckoned cache there

end Template

namespace Session

/-- All that a rendering does on its own leaves the account exact. -/
instance : Rendering (Reckoned [] : Session σ → Session σ → Prop) where
  refl := fun s => Passed.reckoned (Std.Refl.refl s)
  trans := fun _ _ _ first second => first.append second
  hosting := fun s _ => Reckoned.idle (List.forall_mem_nil _) rfl rfl rfl
  called := fun s _ _ _ => .reported s ⟨rfl, rfl, rfl, rfl⟩
  refused := by
    intro s f call
    refine .reported s ⟨rfl, ?_, rfl, rfl⟩
    -- No function that answers on its own is given two arguments.
    cases call <;> rfl
  staged := fun s _ _ => Reckoned.idle (List.forall_mem_nil _) rfl rfl rfl
  written := fun s _ => Reckoned.idle (List.forall_mem_nil _) rfl rfl rfl
  requested := Template.leads_request
  entered := fun s _ => .reported s ⟨rfl, rfl, rfl, rfl⟩
  left := fun s => .reported s ⟨rfl, rfl, rfl, rfl⟩
  missing := by
    intro s name
    let work : Work :=
      { account := { missing := [name.display] }, events := [.noted (.missingTemplate name)] }
    have exact (told : Bool) : work.Exact told := ⟨rfl, rfl, rfl, fun _ => rfl, rfl, rfl⟩
    have noted := Reckoned.noted s work (fun p => p.addMissing_eq name.display) rfl exact
    -- It does not matter whether the note or the event comes first.
    rw [accounted_eq] at noted ⊢
    exact noted
  applied := by
    intro s f source
    let work : Work := { account := { sectionCalls := 1 }, events := [.applied f source] }
    have exact (told : Bool) : work.Exact told := ⟨rfl, rfl, rfl, fun _ => rfl, rfl, rfl⟩
    exact .noted s work Profile.addSectionCall_eq rfl exact
  rejected := by
    intro s f
    let work : Work := { account := { sectionCalls := 1 }, events := [.refused f 2] }
    have exact (told : Bool) : work.Exact told := ⟨rfl, rfl, rfl, fun _ => rfl, rfl, rfl⟩
    exact .noted s work Profile.addSectionCall_eq rfl exact
  asked := fun s _ => .reported s ⟨rfl, rfl, rfl, rfl⟩
  rendered := by
    intro s output
    let work : Work :=
      { account := { renders := 1, outputLength := output.length }
        events := [.answered (.ok output)] }
    have length : work.account.outputLength = (work.allOutputs.map List.length).sum := by
      simp [work, Work.allOutputs, Event.output?]
    have exact (told : Bool) : work.Exact told := ⟨rfl, length, rfl, fun _ => rfl, rfl, rfl⟩
    exact .noted s work (fun p => p.addRender_eq output.length) rfl exact
  failed := fun s _ => .reported s ⟨rfl, rfl, rfl, rfl⟩

end Session

end Mustache
