import Mustache.Proofs.Leading
import Mustache.Proofs.Sound

/-!
The course of a rendering: what it does, one thing after the other.

Whatever is to be shown of renderings can be shown of each of the few things that they consist of.
-/

namespace Mustache

variable {σ : Type}

mutual

/-- Whether a token writes the value of a name as it is, itself or inside. -/
def Token.isBare : Token → Bool
  | .variable escaped _ _ => !escaped
  | .block _ _ _ children _ => anyBare children
  | _ => false

/-- Whether one of some tokens does. -/
def Token.anyBare : List Token → Bool
  | [] => false
  | token :: tokens => token.isBare || anyBare tokens

end

mutual

/-- The texts in a token, itself or inside. -/
def Token.texts : Token → List Text
  | .text value _ => [value]
  | .block _ _ _ children _ => textsAll children
  | _ => []

/-- The texts in a row of tokens. -/
def Token.textsAll : List Token → List Text
  | [] => []
  | token :: tokens => token.texts ++ textsAll tokens

end

/-- A session from which another one is reached by asking for a template. -/
structure Session.Filled (template : Value) (pair : Delimiters) (s t : Session σ) : Prop where
  /-- What was written into each list and mapping that is shared is the same. -/
  edits : t.edits = s.edits
  /-- What has happened before is not forgotten. -/
  suffix : s.journal <:+ t.journal
  /-- There is a cache if there was one. -/
  present : t.cache.isSome = s.cache.isSome
  /-- There is a cache only if there was one, and only the template may be new in it. -/
  cache : ∀ cache', t.cache = some cache' → ∃ cache, s.cache = some cache
    ∧ ∀ source other tokens, ((source, other), tokens) ∈ cache'.entries →
      ((source, other), tokens) ∈ cache.entries
        ∨ other = pair ∧ Source.ofValue? template = some source

namespace Session.Filled

variable {template : Value} {pair : Delimiters}

/-- A change of the session that leaves what was written and the cache alone, and adds events. -/
theorem of_cache_eq {s t : Session σ} (edits : t.edits = s.edits) (suffix : s.journal <:+ t.journal)
    (cache : t.cache = s.cache) : s.Filled template pair t where
  edits := edits
  suffix := suffix
  present := by rw [cache]
  -- Every entry was there before.
  cache := fun kept there => ⟨kept, cache ▸ there, fun _ _ _ member => .inl member⟩

instance : IsPreorder (Session σ) (Filled template pair) where
  refl := fun _ => of_cache_eq rfl List.suffix_rfl rfl
  trans := by
    intro _ _ _ first second
    refine ⟨second.edits.trans first.edits, first.suffix.trans second.suffix,
      second.present.trans first.present, fun cache'' there => ?_⟩
    obtain ⟨cache', there', kept'⟩ := second.cache cache'' there
    obtain ⟨cache, there, kept⟩ := first.cache cache' there'
    refine ⟨cache, there, fun source other tokens member => ?_⟩
    -- What is in the cache at the end was put there at one time or the other.
    rcases kept' source other tokens member with earlier | new
    · exact kept source other tokens earlier
    · exact .inr new

/-- An event may be reported. -/
theorem report (event : Event) :
    Leads (Filled template pair) (Render.report event : Render σ Unit) :=
  -- One event more is told, and the cache is not touched.
  .modify fun _ => of_cache_eq rfl ⟨[event], rfl⟩ rfl

/-- A note may be made in an account. -/
theorem account (note : Profile → Profile) :
    Leads (Filled template pair) (Render.account note : Render σ Unit) := by
  refine .modify fun s => ?_
  -- There may be no account.
  split
  · exact Std.Refl.refl s
  · exact of_cache_eq rfl List.suffix_rfl rfl

/-- Uses of the cache may be reported. -/
theorem reportUse (cache : Cache) (event : Event) :
    Leads (Filled template pair) (Template.reportUse cache event : Render σ Unit) := by
  -- Without a listener nothing is reported.
  unfold Template.reportUse
  split
  · exact report event
  · exact .pure ()

/-- A text may be parsed. -/
theorem parseText (t : Text) (other : Delimiters) :
    Leads (Filled template pair) (Template.parseText t other : Render σ (List Token)) := by
  intro s result after ran
  -- Parsing a text reports the changes of delimiters and does nothing else.
  rw [Template.parseText_apply] at ran
  cases ran
  exact of_cache_eq rfl ⟨Template.switched t other, rfl⟩ rfl

/-- The template may be put into the cache. -/
theorem insert {source : Source} (known : Source.ofValue? template = some source)
    (tokens : List Token) :
    Leads (Filled template pair) (modify fun s => { s with
      cache := s.cache.map (·.insert source pair tokens) } : Render σ Unit) := by
  -- A cache is there afterwards if there was one before.
  refine .modify fun s => ⟨rfl, List.suffix_rfl, Option.isSome_map, fun cache' there => ?_⟩
  obtain ⟨cache, held, rfl⟩ := Option.map_eq_some_iff.mp there
  refine ⟨cache, held, fun source' other tokens' member => ?_⟩
  -- The cache has one more entry.
  rcases List.mem_append.mp member with earlier | new
  · exact .inl earlier
  · cases List.mem_singleton.mp new
    exact .inr ⟨rfl, known⟩

/-- A value may be parsed. -/
theorem parseValue (value : Value) (other : Delimiters) :
    Leads (Filled template pair) (Template.parseValue value other : Render σ (List Token)) := by
  unfold Template.parseValue
  split
  · exact parseText _ other
  · -- A vacant value has no tokens, and any other one is refused.
    split
    · exact .pure _
    · exact .throw _

/-- A source may be parsed. -/
theorem parseSource (source : Source) (other : Delimiters) :
    Leads (Filled template pair) (Template.parseSource source other : Render σ (List Token)) := by
  -- What is no text has no tokens, and nothing happens.
  cases source with
  | text t => exact parseText t other
  | vacant kind => exact .pure _

/-- The cache may be asked for the template. -/
theorem requestSource (cache : Cache) {source : Source}
    (known : Source.ofValue? template = some source) :
    Leads (Filled template pair)
      (Template.requestSource cache template source pair : Render σ (List Token)) := by
  -- The use of the cache is reported whether it has the source or not.
  refine .bind (reportUse cache _) fun _ => ?_
  split
  · exact .bind (account _) fun _ => .pure _
  · -- The tokens are put into the cache once the source is parsed.
    refine .bind (report _) fun _ => .bind (parseSource source pair) fun tokens => ?_
    exact .bind (insert known tokens) fun _ => .bind (reportUse cache _) fun _ =>
      .bind (account _) fun _ => .pure _

/-- A template may be refused. -/
theorem refuse (cache : Cache) (value : Value) (other : Delimiters) :
    Leads (Filled template pair) (Template.refuse cache value other : Render σ (List Token)) := by
  -- A value that is no template is refused with and without a cache alike.
  unfold Template.refuse
  split
  · refine .bind (reportUse cache _) fun _ => ?_
    split
    · exact .bind (report _) fun _ => .throw _
    · exact .throw _
  · exact .throw _

end Session.Filled

/-- A request leads only to sessions in which its template is new in the cache, if anything is. -/
theorem Template.request_filled {template delimiters : Value} {pair : Delimiters} {s t : Session σ}
    {result : Except Failure (List Token)}
    (accepted : delimitersOf (delimiters.settled s.edits) = .ok pair)
    (ran : request template delimiters s = some (result, t)) : s.Filled template pair t := by
  rw [request, Render.bind_apply] at ran
  change (Render.ofExcept (delimitersOf (delimiters.settled s.edits)) >>= _) s = _ at ran
  -- The delimiters are accepted, so that only the template decides.
  rw [accepted, Render.ok_bind, Render.get_bind] at ran
  -- With a cache a template has to be a source, and without one it is parsed at once.
  cases there : s.cache with
  | none =>
    rw [there] at ran
    exact Leads.bind (Session.Filled.account _)
      (fun _ => Session.Filled.parseValue template pair) s result t ran
  | some cache =>
    rw [there] at ran
    cases known : Source.ofValue? template with
    | some source =>
      simp only [known] at ran
      exact Session.Filled.requestSource cache known s result t ran
    | none =>
      simp only [known] at ran
      exact Session.Filled.refuse cache template pair s result t ran

/-- What has happened before a request is not forgotten. -/
theorem Template.request_suffix {template delimiters : Value} {s t : Session σ}
    {result : Except Failure (List Token)}
    (ran : request template delimiters s = some (result, t)) :
    s.journal <:+ t.journal := by
  cases accepted : delimitersOf (delimiters.settled s.edits) with
  | error failure =>
    -- Nothing happens where the delimiters are refused.
    rw [request_of_refused accepted] at ran
    cases ran
    exact List.suffix_rfl
  | ok pair => exact (request_filled accepted ran).suffix

/-- A session from which another one is reached by letting an object divide itself into lines. -/
structure Session.Divided (s t : Session σ) : Prop where
  /-- The cache is the same. -/
  cache : t.cache = s.cache
  /-- What has happened before is not forgotten. -/
  suffix : s.journal <:+ t.journal

namespace Session.Divided

instance : Session.Dividing (Divided : Session σ → Session σ → Prop) where
  refl := fun _ => ⟨rfl, List.suffix_rfl⟩
  trans := fun _ _ _ first second =>
    ⟨second.cache.trans first.cache, first.suffix.trans second.suffix⟩
  hosting := fun _ _ => ⟨rfl, List.suffix_rfl⟩
  called := fun _ _ _ _ => ⟨rfl, List.suffix_cons ..⟩
  refused := fun _ _ _ => ⟨rfl, List.suffix_cons ..⟩
  staged := fun _ _ _ => ⟨rfl, List.suffix_rfl⟩
  written := fun _ _ => ⟨rfl, List.suffix_rfl⟩

/-- A template may be indented as its tag asks for, or taken as it is. -/
theorem indented (host : Host σ) (line : LinePrefix) (template : Value) :
    Leads Divided (Scene.indented host line template) :=
  Leads.indented host line template

end Session.Divided

/-- What stays the same throughout a rendering. -/
structure Occasion (σ : Type) where
  /-- The host. -/
  host : Host σ
  /-- The other templates, by name. -/
  partials : Value
  /-- The configuration. -/
  config : Config
  /-- The template that is rendered. -/
  root : Text
  /-- What had happened before. -/
  base : List Event

namespace Occasion

variable (o : Occasion σ)

/-- How a rendering comes from one session to another in which it asks for a template. -/
inductive Given : Session σ → Value → Session σ → Prop
  /-- It is the template that is rendered. -/
  | root {s : Session σ} : Given s (.text o.root) s
  /-- The template was found under a name, and indented as its tag asks for. -/
  | brought {s t u : Session σ} {scene : Scene} {name : Text} {line : LinePrefix}
      {found template : Value} (same : scene.partials = o.partials)
      (looked : scene.template o.host (.text name) s = some (.ok found, t))
      (present : found ≠ .null)
      (indented : Scene.indented o.host line found t = some (.ok template, u)) : Given s template u
  /-- A section function has asked for it. -/
  | asked {s : Session σ} {source : Text} {events : List Event}
      (since : s.journal = events ++ o.base) (told : .asked (.text source) ∈ events) :
      Given s (.text source) s

/--
The course of a part of a rendering: it comes from one session to another, and writes some chunks.

What texts it writes, and whether it writes names as they are, goes by the tokens of the template at
hand.
-/
inductive Course : List Token → Session σ → List Chunk → Session σ → Prop
  /-- Nothing is done. -/
  | nothing {all : List Token} {s : Session σ} : Course all s [] s
  /-- One thing is done after the other. -/
  | append {all : List Token} {s t u : Session σ} {chunks others : List Chunk}
      (first : Course all s chunks t) (second : Course all t others u) :
      Course all s (chunks ++ others) u
  /-- The host or the values at hand are consulted. -/
  | consulted {all : List Token} {s t : Session σ} (consulted : s.Consulted t) : Course all s [] t
  /-- A text of the template is written. -/
  | literal {all : List Token} {s : Session σ} {value : Text} (own : value ∈ Token.textsAll all) :
      Course all s [.literal value] s
  /-- A value is escaped and written. -/
  | escaped {all : List Token} {s t : Session σ} {scene : Scene} {value : Value} {chunk : Chunk}
      (same : scene.config = o.config)
      (ran : scene.escape o.host value s = some (.ok chunk, t)) : Course all s [chunk] t
  /-- A value is written as it is. -/
  | unescaped {all : List Token} {s : Session σ} (bare : Token.anyBare all = true) (value : Text) :
      Course all s [.value value] s
  /-- There is no template of a name. -/
  | missing {all : List Token} {s : Session σ} (name : Value) : Course all s []
      ((s.reported (.noted (.missingTemplate name))).accounted (·.addMissing name.display))
  /-- A template that was found is not indented. -/
  | undivided {all : List Token} {s t u : Session σ} {scene : Scene} {name : Text} {line : LinePrefix}
      {found : Value} {failure : Failure} (same : scene.partials = o.partials)
      (looked : scene.template o.host (.text name) s = some (.ok found, t))
      (present : found ≠ .null)
      (indented : Scene.indented o.host line found t = some (.error failure, u)) :
      Course all s [] u
  /-- A template is asked for and cannot be had. -/
  | refused {all : List Token} {s t u : Session σ} {template : Value} {failure : Failure}
      (given : o.Given s template t)
      (requested : Template.request template o.config.delimiters t = some (.error failure, u)) :
      Course all s [] u
  /-- A text is asked for, and its tokens are written. -/
  | entered {all : List Token} {s t u v : Session σ} {source : Text} {tokens : List Token}
      {chunks : List Chunk} (given : o.Given s (.text source) t)
      (requested : Template.request (.text source) o.config.delimiters t = some (.ok tokens, u))
      (inside : Course tokens (u.reported (.entered source)) chunks v) :
      Course all s chunks (v.reported .left)
  /-- A template that is no text is asked for, and what are its tokens is written. -/
  | vacant {all : List Token} {s t u v : Session σ} {template : Value} {tokens : List Token}
      {chunks : List Chunk} (given : o.Given s template t)
      (other : ∀ source, template ≠ .text source)
      (requested : Template.request template o.config.delimiters t = some (.ok tokens, u))
      (inside : Course tokens u chunks v) : Course all s chunks v
  /-- A rendering succeeds with what is written. -/
  | rendered {all : List Token} {s t : Session σ} {chunks : List Chunk} {output : Text}
      (inside : Course all s chunks t) (joined : Chunk.joinAll chunks = some output) :
      Course all s chunks (t.accounted (·.addRender output.length))
  /-- The function of a section is about to be called. -/
  | counted {all : List Token} {s : Session σ} : Course all s [] (s.accounted (·.addSectionCall))
  /-- The function of a section is called, and what it gives is written. -/
  | applied {all : List Token} {s t : Session σ} {f : Function} {source : Text}
      {passed chunks : List Chunk} (inside : Course all (s.reported (.applied f source)) passed t)
      (given : ∀ chunk ∈ chunks, ∃ value, chunk = .value value) : Course all s chunks t
  /-- The function of a section asks for a template, and is told what came of it. -/
  | asks {all inner : List Token} {s t : Session σ} {template : Value} {passed : List Chunk}
      {result : Except Failure Text}
      (inside : Course inner (s.reported (.asked template)) passed t) :
      Course all s [] (t.reported (.answered result))

variable {o}

/-- To ask for a template does not make anything forgotten. -/
theorem Given.suffix {s t : Session σ} {template : Value} (given : o.Given s template t) :
    s.journal <:+ t.journal := by
  cases given with
  | root => exact List.suffix_rfl
  | brought same looked present indented =>
    -- The template is looked for and then indented.
    exact ((Leads.template o.host _ _ : Consults _) _ _ _ looked).suffix.trans
      (Session.Divided.indented o.host _ _ _ _ _ indented).suffix
  -- What was asked since then is told behind it.
  | asked since told => exact List.suffix_rfl

/-- An account does not say what has happened. -/
theorem journal_accounted (s : Session σ) (note : Profile → Profile) :
    (s.accounted note).journal = s.journal := by
  -- There may be no account.
  unfold Session.accounted
  split <;> rfl

/-- What has happened before a part of a rendering is not forgotten. -/
theorem Course.suffix {all : List Token} {s t : Session σ} {chunks : List Chunk}
    (course : o.Course all s chunks t) : s.journal <:+ t.journal := by
  -- Each of the few things only adds to what has happened.
  induction course with
  | nothing | literal _ | unescaped _ _ => exact List.suffix_rfl
  | append _ _ ih ih' => exact ih.trans ih'
  | consulted consulted => exact consulted.suffix
  | escaped _ ran => exact ((Leads.escape o.host _ _ : Consults _) _ _ _ ran).suffix
  | missing name =>
    rw [journal_accounted]
    exact List.suffix_cons ..
  | undivided _ looked _ indented =>
    exact ((Leads.template o.host _ _ : Consults _) _ _ _ looked).suffix.trans
      (Session.Divided.indented o.host _ _ _ _ _ indented).suffix
  | refused given requested => exact given.suffix.trans (Template.request_suffix requested)
  | entered given requested _ ih =>
    -- The template is entered and left again.
    exact (given.suffix.trans (Template.request_suffix requested)).trans
      (((List.suffix_cons ..).trans ih).trans (List.suffix_cons ..))
  | vacant given _ requested _ ih =>
    exact (given.suffix.trans (Template.request_suffix requested)).trans ih
  | rendered _ _ ih => rwa [journal_accounted]
  | counted => exact ⟨[], (journal_accounted _ _).symm⟩
  | applied _ _ ih => exact (List.suffix_cons ..).trans ih
  | asks _ ih => exact ((List.suffix_cons ..).trans ih).trans (List.suffix_cons ..)

end Occasion

end Mustache
