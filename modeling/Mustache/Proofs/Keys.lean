import Mustache.Proofs.Course.Rendering
import Mustache.Proofs.Keeping.Rendering

/-!
What a rendering may put into the cache.

Only templates are parsed and never the values of names, and always with the configured delimiters.
-/

namespace Mustache

variable {σ : Type}

namespace Value

/-- The function that partials ask for a template by its name, if they have one. -/
def loader? (partials : Value) : Option Function :=
  match partials with
  | .function f => some f
  | other =>
    match find? other.attributes (.ofString "get") with
    | some (.function f) => some f
    | _ => none

/-- A text that partials supply while some events happen. -/
inductive Supplies (events : List Event) : Value → Text → Prop
  /-- The text is an entry of a mapping. -/
  | held {entries : List (Value × Value)} {key : Value} {t : Text}
      (member : (key, .text t) ∈ entries) : Supplies events (.mapping entries) t
  /-- The function has given the text for a name. -/
  | loaded {partials : Value} {f : Function} {name t : Text} (loader : partials.loader? = some f)
      (told : .called f (.load (.text name)) (.ok (.text t)) ∈ events) : Supplies events partials t
  /-- The function is the escape of this library, which gives for a name the name escaped. -/
  | escaped {partials : Value} {name : Text} (loader : partials.loader? = some .html) :
      Supplies events partials (Html.escape name)

/-- What is supplied stays so when more happens. -/
theorem Supplies.mono {events others : List Event} {partials : Value} {t : Text}
    (more : events ⊆ others) (supplies : partials.Supplies events t) :
    partials.Supplies others t := by
  -- Only what a loader was told refers to what has happened.
  cases supplies with
  | held member => exact .held member
  | loaded loader told => exact .loaded loader (more told)
  | escaped loader => exact .escaped loader

end Value

/-- Where a text comes from that is asked for as a template in a rendering. -/
inductive Template.Origin (template : Text) (partials : Value) (events : List Event) : Text → Prop
  /-- It is the template that is rendered. -/
  | root : Origin template partials events template
  /-- The partials supply it. -/
  | supplied {t : Text} (supplies : partials.Supplies events t) :
      Origin template partials events t
  /-- The partials supply a text that is indented. -/
  | indented {t indentation : Text} {continuesText : Bool}
      (supplies : partials.Supplies events t) :
      Origin template partials events (Indentation.indent t indentation continuesText)
  /-- A section function asks for it. -/
  | asked {t : Text} (told : .asked (.text t) ∈ events) : Origin template partials events t

/-- The origin of a text stays the same when more happens. -/
theorem Template.Origin.mono {template t : Text} {partials : Value} {events others : List Event}
    (more : events ⊆ others) (origin : Origin template partials events t) :
    Origin template partials others t := by
  -- What is supplied stays supplied, and what was asked for stays told.
  cases origin with
  | root => exact .root
  | supplied supplies => exact .supplied (supplies.mono more)
  | indented supplies => exact .indented (supplies.mono more)
  | asked told => exact .asked (more told)

section Supplying

variable {host : Host σ} {s after : Session σ}

/-- A function gives a value only if it takes as many arguments as it is given. -/
theorem Function.checked_of_call {f : Function} {call : Call} {value : Value}
    (ran : f.call host call s = some (.ok value, after)) :
    (f.checkCount call.arguments.length : Render σ Unit) = Render.ofExcept (.ok ()) := by
  unfold Function.checkCount
  split
  · rfl
  · -- A function that refuses its arguments gives nothing.
    rename_i refuses
    unfold Function.call Function.checkCount at ran
    rw [if_neg refuses] at ran
    cases ran

/-- What a function gives is seen, unless it is the escape of this library. -/
theorem Function.call_ok {f : Function} {call : Call} {value : Value}
    (ran : f.call host call s = some (.ok value, after)) :
    (f = .html ∧ ∃ shown, call.arguments.mapM Value.shown = .ok shown
        ∧ value = .text (shown.flatMap Html.escape))
      ∨ after.journal = .called f call (.ok value) :: s.journal := by
  have checked := checked_of_call ran
  cases f with
  | html =>
    unfold Function.call at ran
    rw [checked, Render.ok_bind] at ran
    -- The escape gives something only if all that it is given can be shown.
    cases shows : call.arguments.mapM Value.shown with
    | error failure =>
      rw [shows] at ran
      cases ran
    | ok shown =>
      rw [shows] at ran
      cases ran
      exact .inl ⟨rfl, shown, rfl, rfl⟩
  | hosted id className label arity =>
    have answered : host.ask id call s = some (.ok (host.answer id call s.host).1,
      { s with host := (host.answer id call s.host).2 }) := rfl
    rw [Function.call_hosted, checked, Render.ok_bind, Render.bind_apply, answered] at ran
    -- The host answers with a value or fails.
    generalize (host.answer id call s.host).1 = answer at ran
    cases answer with
    | error failure => cases ran
    | ok given =>
      cases ran
      exact .inr rfl

/-- A text that is loaded is supplied by the partials whose function is asked for it. -/
theorem Value.supplies_of_call {partials : Value} {f : Function} {name t : Text}
    (loader : partials.loader? = some f)
    (ran : f.call host (.load (.text name)) s = some (.ok (.text t), after)) :
    ∃ events, after.journal = events ++ s.journal ∧ partials.Supplies events t := by
  -- The function is that of the library, which escapes the name, or one of the host.
  rcases Function.call_ok ran with ⟨rfl, shown, shows, given⟩ | told
  · have consulted : s.Consulted after := Leads.call host .html (.load (.text name)) s _ _ ran
    obtain ⟨events, journal, -⟩ := consulted.journal
    -- A name is a text, which is shown as it is.
    cases shows
    cases given
    refine ⟨events, journal, ?_⟩
    rw [List.reverse_singleton, List.flatMap_singleton]
    exact .escaped loader
  · exact ⟨[_], told, .loaded loader (List.mem_singleton.mpr rfl)⟩

/-- A template that is found under a name is supplied by the partials. -/
theorem Scene.supplies_of_template {scene : Scene} {name t : Text}
    (ran : scene.template host (.text name) s = some (.ok (.text t), after)) :
    ∃ events, after.journal = events ++ s.journal
      ∧ (scene.partials.openedIn s.edits).Supplies events t := by
  rw [template, Render.bind_apply, Render.opened_apply] at ran
  dsimp only [Option.bind_some] at ran
  generalize scene.partials.openedIn s.edits = partials at ran ⊢
  -- What there is to look in decides how the template is looked for.
  split at ran
  · cases ran
  · exact Value.supplies_of_call rfl ran
  · cases ran
  · rename_i entries
    cases found : entries.find? (·.1.isNamed name) with
    | none =>
      rw [templateIn, Value.named?, found] at ran
      cases ran
    | some entry =>
      rw [templateIn, Value.named?, found] at ran
      obtain ⟨key, template⟩ := entry
      cases ran
      exact ⟨[], rfl, .held (List.mem_of_find?_eq_some found)⟩
  · rename_i noFunction _ _
    cases has : Value.find? partials.attributes (.ofString "get") with
    | none =>
      simp only [has] at ran
      cases ran
    | some way =>
      simp only [has] at ran
      -- What is called has to be a function.
      cases way with
      | function f =>
        have loader : partials.loader? = some f := by
          unfold Value.loader?
          split
          · exact absurd rfl (noFunction _)
          · rw [has]
        exact Value.supplies_of_call loader ran
      | _ => cases ran

end Supplying

/-- A template that is a text is still one when it is indented, and nothing happens meanwhile. -/
theorem Scene.indented_text {host : Host σ} {line : LinePrefix} {t : Text} {s after : Session σ}
    {result : Except Failure Value}
    (ran : Scene.indented host line (.text t) s = some (result, after)) :
    after = s ∧ (result = .ok (.text t)
      ∨ result = .ok (.text (Indentation.indent t line.indentation line.hasText))) := by
  unfold indented at ran
  -- The template is indented or taken as it is.
  split at ran
  · cases ran
    exact ⟨rfl, .inr rfl⟩
  · cases ran
    exact ⟨rfl, .inl rfl⟩

namespace Occasion

variable {o : Occasion σ} {edits : Nat → Edits} {pair : Delimiters} {s t u : Session σ}

/-- Where a text comes from that is asked for as a template up to a session. -/
def Traces (o : Occasion σ) (edits : Nat → Edits) (s : Session σ) (source : Text) : Prop :=
  ∃ events, s.journal = events ++ o.base
    ∧ Template.Origin o.root (o.partials.openedIn edits) events source

/-- What can be traced stays so when more happens. -/
theorem Traces.mono {source : Text} (more : s.journal <:+ t.journal)
    (traces : o.Traces edits s source) : o.Traces edits t source := by
  obtain ⟨events, journal, origin⟩ := traces
  obtain ⟨later, journal'⟩ := more
  -- What has happened since is told in addition.
  refine ⟨later ++ events, ?_, origin.mono (List.subset_append_right later events)⟩
  rw [← journal', journal, List.append_assoc]

/-- A session whose cache has only templates that were asked for, with the configured delimiters. -/
structure Keyed (o : Occasion σ) (edits : Nat → Edits) (pair : Delimiters) (s : Session σ) :
    Prop where
  /-- Nothing was written into what is shared. -/
  unwritten : s.edits = edits
  /-- What had happened before is not forgotten. -/
  based : o.base <:+ s.journal
  /-- There is a cache. -/
  present : s.cache.isSome
  /-- Each of its templates can be traced. -/
  traced : ∀ cache, s.cache = some cache → ∀ key tokens, (key, tokens) ∈ cache.entries →
    ∃ source, key = (.text source, pair) ∧ o.Traces edits s source

namespace Keyed

/-- It does not matter what else happens as long as the cache stays the same. -/
theorem of_cache_eq (keyed : o.Keyed edits pair s) (same : t.edits = s.edits)
    (more : s.journal <:+ t.journal) (cache : t.cache = s.cache) : o.Keyed edits pair t where
  unwritten := same.trans keyed.unwritten
  based := keyed.based.trans more
  present := cache ▸ keyed.present
  traced := by
    -- A key traced to an event stays so when there are more of them.
    intro kept there key tokens member
    obtain ⟨source, same, traces⟩ := keyed.traced kept (cache ▸ there) key tokens member
    exact ⟨source, same, traces.mono more⟩

/-- To consult the host or the values does not change the cache. -/
theorem consulted (keyed : o.Keyed edits pair s) (consulted : s.Consulted t) :
    o.Keyed edits pair t :=
  keyed.of_cache_eq consulted.edits consulted.suffix consulted.cache

/-- A note in an account does not change the cache. -/
theorem accounted (keyed : o.Keyed edits pair s) (note : Profile → Profile) :
    o.Keyed edits pair (s.accounted note) := by
  -- There may be no account.
  unfold Session.accounted
  split
  · exact keyed
  · exact keyed.of_cache_eq rfl List.suffix_rfl rfl

/-- An event does not change the cache. -/
theorem reported (keyed : o.Keyed edits pair s) (event : Event) :
    o.Keyed edits pair (s.reported event) :=
  -- The event stands in front of the journal, and the cache is as it was.
  keyed.of_cache_eq rfl (List.suffix_cons ..) rfl

/-- A request for a template that can be traced adds nothing else to the cache. -/
theorem request (keyed : o.Keyed edits pair s) {source : Text} (traces : o.Traces edits s source)
    {delimiters : Value} (accepted : Template.delimitersOf (delimiters.settled edits) = .ok pair)
    {result : Except Failure (List Token)}
    (ran : Template.request (.text source) delimiters s = some (result, t)) :
    o.Keyed edits pair t := by
  -- The cache has one more entry at most, whose key is the source that was asked for.
  rw [← keyed.unwritten] at accepted
  have filled := Template.request_filled accepted ran
  refine ⟨filled.edits.trans keyed.unwritten, keyed.based.trans filled.suffix, ?_, ?_⟩
  · rw [filled.present]
    exact keyed.present
  · intro cache' there key tokens member
    obtain ⟨cache, held, kept⟩ := filled.cache cache' there
    -- The entry was there before, or it is that of the request.
    rcases kept key.1 key.2 tokens member with earlier | ⟨same, known⟩
    · obtain ⟨other, same, traced⟩ := keyed.traced cache held key tokens earlier
      exact ⟨other, same, traced.mono filled.suffix⟩
    · exact ⟨source, Prod.ext (Option.some.inj known).symm same, traces.mono filled.suffix⟩

/-- A template found among texts is a text, and it can be traced as well as when it is indented. -/
theorem brought (keyed : o.Keyed edits pair s) (texts : o.partials.HoldsTexts o.host)
    {scene : Scene} (same : scene.partials = o.partials) {name : Text} {found : Value}
    (looked : scene.template o.host (.text name) s = some (.ok found, t)) (present : found ≠ .null)
    {line : LinePrefix} {result : Except Failure Value}
    (indented : Scene.indented o.host line found t = some (result, u)) :
    o.Keyed edits pair u ∧ ∃ source, result = .ok (.text source) ∧ o.Traces edits u source := by
  -- What is found is a text that the partials supply.
  have consulted : s.Consulted t := Leads.template o.host scene (.text name) s _ _ looked
  obtain ⟨source, rfl⟩ : ∃ source, found = .text source :=
    (texts scene same (.text name) s t found looked).resolve_left present
  obtain ⟨later, journal, supplies⟩ := Scene.supplies_of_template looked
  rw [same, keyed.unwritten] at supplies
  obtain ⟨rfl, given⟩ := Scene.indented_text indented
  obtain ⟨events, journal'⟩ := keyed.based
  have since : u.journal = (later ++ events) ++ o.base := by
    rw [journal, ← journal', List.append_assoc]
  have supplies' := supplies.mono (List.subset_append_left later events)
  -- The text is left as it is, or indented by the margin of its tag.
  refine ⟨keyed.consulted consulted, ?_⟩
  rcases given with rfl | rfl
  · exact ⟨source, rfl, later ++ events, since, .supplied supplies'⟩
  · exact ⟨_, rfl, later ++ events, since, .indented supplies'⟩

/-- What is asked for as a template is a text that can be traced. -/
theorem given (keyed : o.Keyed edits pair s) (texts : o.partials.HoldsTexts o.host)
    {template : Value} (given : o.Given s template t) :
    o.Keyed edits pair t ∧ ∃ source, template = .text source ∧ o.Traces edits t source := by
  -- A template is that of the rendering, or was brought, or a function asked for it.
  cases given with
  | root =>
    obtain ⟨events, journal⟩ := keyed.based
    exact ⟨keyed, o.root, rfl, events, journal.symm, .root⟩
  | brought same looked present indented =>
    obtain ⟨keyed', source, result, traces⟩ := keyed.brought texts same looked present indented
    cases result
    exact ⟨keyed', source, rfl, traces⟩
  | asked since told => exact ⟨keyed, _, rfl, _, since, .asked told⟩

end Keyed

/-- A rendering puts only templates into the cache, with the configured delimiters. -/
theorem Course.keyed (texts : o.partials.HoldsTexts o.host)
    (accepted : Template.delimitersOf (o.config.delimiters.settled edits) = .ok pair)
    {all : List Token} {chunks : List Chunk} (course : o.Course all s chunks t) (keyed : o.Keyed edits pair s) :
    o.Keyed edits pair t := by
  -- The induction is on the course; only requests change the cache.
  induction course with
  | nothing | literal _ | unescaped _ _ => exact keyed
  | append _ _ ih ih' => exact ih' (ih keyed)
  | consulted consulted => exact keyed.consulted consulted
  | escaped _ ran => exact keyed.consulted (Leads.escape o.host _ _ _ _ _ ran)
  | missing name => exact (keyed.reported _).accounted _
  | undivided same looked present indented =>
    exact (keyed.brought texts same looked present indented).1
  | refused given requested =>
    obtain ⟨keyed', source, rfl, traces⟩ := keyed.given texts given
    exact keyed'.request traces accepted requested
  | entered given requested _ ih =>
    obtain ⟨keyed', source, same, traces⟩ := keyed.given texts given
    cases same
    exact (ih ((keyed'.request traces accepted requested).reported _)).reported _
  | vacant given other =>
    obtain ⟨-, source, same, -⟩ := keyed.given texts given
    exact absurd same (other source)
  | rendered _ _ ih => exact (ih keyed).accounted _
  | counted => exact keyed.accounted _
  | applied _ _ ih => exact ih (keyed.reported _)
  | asks _ ih => exact (ih (keyed.reported _)).reported _

end Occasion

/--
After a rendering that begins with an empty cache only templates are in the cache, each parsed with
the configured delimiters: the one that is rendered, those that the partials supply, as they are or
indented, and those that section functions ask for.
-/
theorem Engine.origin_of_renderUpTo (depth : Nat) (host : Host σ) (template : Value) (view : View)
    {partials : Value} (texts : partials.HoldsTexts host) {setting : Setting} {config : Config}
    {s configured after : Session σ} {cache : Cache} (there : s.cache = some cache)
    (empty : cache.entries = []) (settles : Config.ofSetting setting s = some (.ok config, configured))
    {pair : Delimiters}
    (accepted : Template.delimitersOf (config.delimiters.settled s.edits) = .ok pair)
    {result : Except Failure Text}
    (ran : renderUpTo depth host template view partials setting s = some (result, after)) :
    ∃ events cache', after.journal = events ++ s.journal ∧ after.cache = some cache'
      ∧ ∀ key tokens, (key, tokens) ∈ cache'.entries → ∃ source root, template = .text root
        ∧ key = (.text source, pair)
        ∧ Template.Origin root (partials.openedIn s.edits) events source := by
  cases template with
  | text root =>
    obtain ⟨chunks, course, -⟩ := course_renderUpTo settles ran []
    -- To begin with there is nothing in the cache that would have to be traced.
    have keyed : (occasion host root partials config s).Keyed s.edits pair s := by
      refine ⟨rfl, List.suffix_rfl, by rw [there]; rfl, fun kept same key tokens member => ?_⟩
      rw [there] at same
      cases same
      simp [empty] at member
    have keyed' : (occasion host root partials config s).Keyed s.edits pair after :=
      Occasion.Course.keyed texts accepted course keyed
    obtain ⟨events, journal⟩ := course.suffix
    obtain ⟨cache', kept⟩ := Option.isSome_iff_exists.mp keyed'.present
    refine ⟨events, cache', journal.symm, kept, fun key tokens member => ?_⟩
    -- What has happened since is what the origins refer to.
    obtain ⟨source, same, events', journal', origin⟩ := keyed'.traced cache' kept key tokens member
    have events_eq : events' = events := by
      rw [← journal] at journal'
      exact (List.append_cancel_right journal').symm
    rw [events_eq] at origin
    exact ⟨source, root, rfl, same, origin⟩
  | _ =>
    -- What is no text is refused at once.
    obtain ⟨-, rfl⟩ := Prod.mk.inj (Option.some.inj ran)
    refine ⟨[], cache, rfl, there, fun key tokens member => ?_⟩
    simp [empty] at member

/--
A template that changes its delimiters, calls a section function that asks for a text, and includes
another template, where the value of a name looks like tags.
-/
theorem Engine.origin_of_renderUpTo_switched :
    let host : Host Unit := ⟨fun _ _ state => (.ok .null, state), fun _ _ state =>
      .render (.text (.ofString "\x7b\x7bv\x7d\x7d")) state (fun _ => false)
        fun _ state => .value .null state⟩
    let partials : Value := .mapping [(.text ['p'], .text (.ofString "\x7b\x7b&v\x7d\x7d"))]
    let view : Value := .mapping [(.text ['v'], .text (.ofString "\x7b\x7bw\x7d\x7d")),
      (.text ['f'], .function (.hosted 0 ['F'] ['f'] .any))]
    let template := Text.ofString "\x7b\x7b=<% %>=\x7d\x7d<%#f%><%/f%>\n <%>p%>"
    let run := renderUpTo 2 host (.text template) (.value view) partials (.value .null)
      { host := () }
    ∃ result after, run = some (result, after) ∧ (after.cache.map Cache.size) = some 3
      ∧ ∃ events cache', after.journal = events ∧ after.cache = some cache'
        ∧ ∀ key tokens, (key, tokens) ∈ cache'.entries → ∃ source,
          key = (.text source, Delimiters.default)
          ∧ Template.Origin template partials events source := by
  intro host partials view template run
  -- The only partial is a text.
  have holds : partials.HoldsTexts host := by
    refine Value.holdsTexts_mapping host fun entry there =>
      ⟨.ofString "\x7b\x7b&v\x7d\x7d", ?_⟩
    rw [List.mem_singleton.mp there]
  -- The template, the text that the function asks for and the included one are kept.
  have kept : run.map (·.2.cache.map Cache.size) = some (some 3) := by decide +kernel
  obtain ⟨⟨result, after⟩, ran, size⟩ := Option.map_eq_some_iff.mp kept
  obtain ⟨events, cache', journal, there, origins⟩ := origin_of_renderUpTo 2 host (.text template)
    (.value view) holds rfl rfl rfl rfl ran
  refine ⟨result, after, ran, size, events, cache', ?_, there, fun key tokens member => ?_⟩
  · rw [journal]
    exact List.append_nil events
  · obtain ⟨source, root, same, key_eq, origin⟩ := origins key tokens member
    cases same
    exact ⟨source, key_eq, origin⟩

end Mustache
