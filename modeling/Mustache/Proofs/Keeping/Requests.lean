import Mustache.Proofs.Keeping.Rendering

/-!
Requests keep every relation that whatever is told, noted and cached keeps.

The caches of related sessions keep the same templates, and may tell of that in ways of their own.
-/

namespace Mustache

variable {σ : Type}

/-- Whether an event tells of a use of the cache. -/
def Event.isUse : Event → Bool
  | .cacheRead _ _ _ => true
  | .cacheWritten _ _ => true
  | .cacheCleared => true
  | _ => false

/-- A relation between sessions with caches beside each other, in which the same is requested. -/
structure Thorough (R : Session σ → Session σ → Prop) (beside : Cache → Cache) : Prop
    extends Stable R where
  /-- Any event may happen in both sessions. -/
  told {s s' : Session σ} (event : Event) : R s s' → R (s.reported event) (s'.reported event)
  /-- Any note may be made in both sessions. -/
  noted {s s' : Session σ} (note : Profile → Profile) :
    R s s' → R (s.accounted note) (s'.accounted note)
  /-- There are caches beside each other, or none. -/
  caches {s s' : Session σ} : R s s' → s'.cache = s.cache.map beside
  /-- Any other caches beside each other may take their places. -/
  cached {s s' : Session σ} (cache : Option Cache) :
    R s s' → R { s with cache := cache } { s' with cache := cache.map beside }
  /-- The same is found in caches beside each other. -/
  find? (cache : Cache) (source : Source) (pair : Delimiters) :
    (beside cache).find? source pair = cache.find? source pair
  /-- The same may be put into caches beside each other. -/
  insert (cache : Cache) (source : Source) (pair : Delimiters) (tokens : List Token) :
    (beside cache).insert source pair tokens = beside (cache.insert source pair tokens)
  /-- A use of the cache may be told of in the way of each of them. -/
  uses (cache : Cache) {event : Event} (use : event.isUse = true) :
    Tracks R (Template.reportUse cache event) (Template.reportUse (beside cache) event)

namespace Thorough

variable {R : Session σ → Session σ → Prop} {beside : Cache → Cache} {α : Type}

/-- To report any event keeps the relation. -/
theorem report (thorough : Thorough R beside) (event : Event) :
    Keeps R (Render.report event : Render σ Unit) :=
  -- Both sessions are told the same event.
  fun _ _ related => .both (thorough.told event related)

/-- To make any note keeps the relation. -/
theorem account (thorough : Thorough R beside) (note : Profile → Profile) :
    Keeps R (Render.account note : Render σ Unit) :=
  -- The same note is made in both sessions.
  fun _ _ related => .both (thorough.noted note related)

/-- To report events one after the other keeps the relation. -/
theorem reports (thorough : Thorough R beside) (events : α → Event) (items : List α) :
    Keeps R (items.forM fun item => (Render.report (events item) : Render σ Unit)) := by
  -- Each event is reported in related sessions, and leaves related ones for the others.
  induction items with
  | nil => exact Keeps.pure _
  | cons item items ih => exact Keeps.bind (thorough.report _) fun _ => ih

/-- To parse a text keeps the relation. -/
theorem parseText (thorough : Thorough R beside) (t : Text) (pair : Delimiters) :
    Keeps R (Template.parseText t pair : Render σ (List Token)) := by
  refine Keeps.bind (thorough.reports _ _) fun _ => ?_
  -- Whether the text can be parsed does not depend on the session.
  split
  · exact Keeps.pure _
  · exact Keeps.throw _

/-- To put the tokens of a source into the caches keeps the relation. -/
theorem inserted (thorough : Thorough R beside) (source : Source) (pair : Delimiters)
    (tokens : List Token) :
    Keeps R (modify fun s => { s with cache := s.cache.map (·.insert source pair tokens) } :
      Render σ Unit) := by
  intro s s' related
  -- What is put into caches beside each other leaves them so.
  have same : s'.cache.map (·.insert source pair tokens)
      = (s.cache.map (·.insert source pair tokens)).map beside := by
    rw [thorough.caches related, Option.map_map, Option.map_map]
    exact congrArg (s.cache.map ·) (funext fun cache => thorough.insert cache source pair tokens)
  -- The new caches are kept instead of the old ones.
  have kept := thorough.cached (s.cache.map (·.insert source pair tokens)) related
  rw [← same] at kept
  exact .both kept

/-- To ask caches beside each other for a source keeps the relation. -/
theorem requestSource (thorough : Thorough R beside) (cache : Cache) (template : Value)
    (source : Source) (pair : Delimiters) :
    Tracks R (Template.requestSource cache template source pair)
      (Template.requestSource (beside cache) template source pair) := by
  rw [Template.requestSource, Template.requestSource, thorough.find?]
  refine .bind (thorough.uses cache rfl) fun _ => ?_
  -- The source is found in both caches, or it is parsed and kept in both.
  cases cache.find? source pair with
  | some tokens => exact Keeps.bind (thorough.account _) fun _ => Keeps.pure _
  | none =>
    have parsed : Keeps R (Template.parseSource source pair : Render σ (List Token)) := by
      cases source with
      | text t => exact thorough.parseText t pair
      | vacant kind => exact Keeps.pure _
    -- That the source is new is reported, and both caches take in the tokens it gives.
    refine .bind (thorough.report _) fun _ => .bind parsed fun tokens => ?_
    exact .bind (thorough.inserted source pair tokens) fun _ => .bind (thorough.uses cache rfl)
      fun _ => .bind (thorough.account _) fun _ => Keeps.pure _

/-- To refuse a template keeps the relation. -/
theorem refuse (thorough : Thorough R beside) (cache : Cache) (template : Value)
    (pair : Delimiters) :
    Tracks R (Template.refuse cache template pair : Render σ (List Token))
      (Template.refuse (beside cache) template pair) := by
  unfold Template.refuse
  -- Whether the template is looked up before it is refused depends on the template only.
  split
  · refine .bind (thorough.uses cache rfl) fun _ => ?_
    split
    · exact .bind (thorough.report _) fun _ => Keeps.throw _
    · exact Keeps.throw _
  · exact Keeps.throw _

/-- To ask for a template of any type keeps the relation. -/
theorem request (thorough : Thorough R beside) (template delimiters : Value) :
    Keeps R (Template.request template delimiters : Render σ (List Token)) := by
  -- The delimiters are settled before the caches are asked.
  refine Keeps.bind (Keeps.settled thorough.toStable delimiters) fun value =>
    Keeps.bind (Keeps.ofExcept _) fun pair => ?_
  intro s s' related
  rw [Render.get_bind, Render.get_bind, thorough.caches related]
  -- There is a cache in both sessions or in neither.
  cases s.cache with
  | some cache =>
    rw [Option.map_some]
    cases Source.ofValue? template with
    | some source => exact thorough.requestSource cache template source pair s s' related
    | none => exact thorough.refuse cache template pair s s' related
  -- Without a cache a text is parsed at once, and anything else is refused.
  | none =>
    refine Keeps.bind (thorough.account _) (fun _ => ?_) s s' related
    unfold Template.parseValue
    split
    · exact thorough.parseText _ pair
    · split
      · exact Keeps.pure _
      · exact Keeps.throw _

/-- All templates can be indented and asked for as the relation is kept. -/
theorem templates (thorough : Thorough R beside) (host : Host σ) :
    KeepsTemplates R host fun _ => True :=
  -- A thorough relation keeps requests for templates of any type.
  .ofRequests thorough.toStable host thorough.request

end Thorough

end Mustache
