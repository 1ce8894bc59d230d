import Mustache.Proofs.Course.Rendering
import Mustache.Proofs.Harmless

/-!
What is written for names is escaped, whatever their values are.

Without a configured escape only the texts of templates bring reserved characters into the output.
-/

namespace Mustache

variable {σ : Type}

namespace Chunk

/-- The text of a template that a part of the output is, which is empty for other parts. -/
def literalPart : Chunk → Text
  | .literal t => t
  | _ => []

/-- A part of the output that is the text of a template, or harmless. -/
def Harmless : Chunk → Prop
  | .value t => Html.Harmless t
  | _ => True

/-- Of harmless parts only the texts of templates bring reserved characters into the output. -/
theorem filter_joinAll {chunks : List Chunk} {output : Text}
    (harmless : ∀ chunk ∈ chunks, chunk.Harmless) (joined : joinAll chunks = some output) :
    output.filter (· ∈ Html.reserved)
      = (chunks.flatMap literalPart).filter (· ∈ Html.reserved) := by
  -- The induction is on the parts; each one brings its own reserved characters, if any.
  induction chunks generalizing output with
  | nil =>
    cases joined
    rfl
  | cons chunk chunks ih =>
    have rest := fun other member => harmless other (List.mem_cons_of_mem chunk member)
    rw [List.flatMap_cons, List.filter_append]
    cases chunk with
    | literal t =>
      obtain ⟨behind, joined', rfl⟩ := Option.map_eq_some_iff.mp joined
      rw [List.filter_append, ih rest joined']
      rfl
    | value t =>
      obtain ⟨behind, joined', rfl⟩ := Option.map_eq_some_iff.mp joined
      -- A value that is harmless has none.
      have none : t.filter (· ∈ Html.reserved) = [] := by
        rw [List.filter_eq_nil_iff]
        intro c member
        simpa using (harmless _ List.mem_cons_self : Html.Harmless t).unreserved c member
      rw [List.filter_append, ih rest joined', none]
      rfl
    | foreign => cases joined

end Chunk

namespace Session

/-- Whether all that happens from one session to another has a property. -/
def Between (P : Event → Prop) (s t : Session σ) : Prop :=
  ∀ events, t.journal = events ++ s.journal → ∀ event ∈ events, P event

namespace Between

variable {P : Event → Prop} {s t u : Session σ}

/-- What happens from a later session on has the property too. -/
theorem later (between : Between P s u) (more : s.journal <:+ t.journal) : Between P t u := by
  intro events journal event member
  obtain ⟨before, same⟩ := more
  -- What happens from the later session on is a part of all that happens.
  refine between (events ++ before) ?_ event (List.mem_append_left before member)
  rw [journal, ← same, List.append_assoc]

/-- What happens up to an earlier session has the property too. -/
theorem earlier (between : Between P s u) (more : t.journal <:+ u.journal) : Between P s t := by
  intro events journal event member
  obtain ⟨behind, same⟩ := more
  -- What happens up to the earlier session is a part of all that happens.
  refine between (behind ++ events) ?_ event (List.mem_append_right behind member)
  rw [← same, journal, List.append_assoc]

/-- An event that is reported first has the property. -/
theorem first {event : Event} (between : Between P s t)
    (more : (s.reported event).journal <:+ t.journal) : P event := by
  obtain ⟨behind, same⟩ := more
  -- The event that is reported first is the last one in the journal behind the old one.
  refine between (behind ++ [event]) ?_ event (by simp)
  rw [← same, List.append_assoc]
  rfl

end Between

/-- Whether a template is entered on the way from one session to another. -/
def Entered (source : Text) (s t : Session σ) : Prop :=
  ∃ events, t.journal = events ++ s.journal ∧ .entered source ∈ events

/-- It is entered where this is reported. -/
theorem Entered.reported (source : Text) (s : Session σ) :
    Entered source s (s.reported (.entered source)) :=
  -- The report itself is the event.
  ⟨[.entered source], rfl, List.mem_singleton_self _⟩

/-- It is also entered on a longer way. -/
theorem Entered.widen {source : Text} {r s t u : Session σ} (entered : Entered source s t)
    (before : r.journal <:+ s.journal) (after : t.journal <:+ u.journal) : Entered source r u := by
  obtain ⟨events, journal, member⟩ := entered
  obtain ⟨earlier, first⟩ := before
  obtain ⟨later, last⟩ := after
  -- What happens in between stays among what happens.
  refine ⟨later ++ (events ++ earlier), ?_, by simp [member]⟩
  rw [← last, journal, ← first]
  simp only [List.append_assoc]

end Session

/-- A value is escaped as this library does it, or by a call of a custom escape. -/
theorem Scene.escape_eq (host : Host σ) (scene : Scene) (value : Value) :
    scene.escape host value = (do return .value (← Render.ofExcept (escapedText value)))
      ∨ ∃ custom : Value, scene.escape host value = (do
        match ← custom.call host (.escape value) with
        | .text t => pure (.value t)
        | _ => pure .foreign) := by
  -- Without an escape, and with that of HTML, the library escapes by itself.
  unfold Scene.escape
  split
  · exact .inl rfl
  · exact .inl rfl
  · exact .inr ⟨_, rfl⟩

/-- What an escape gives is not the text of a template. -/
theorem Scene.ne_literal_of_escape {host : Host σ} {scene : Scene} {value : Value} {chunk : Chunk}
    {s t : Session σ} (ran : scene.escape host value s = some (.ok chunk, t)) (text : Text) :
    chunk ≠ .literal text := by
  rcases scene.escape_eq host value with library | ⟨custom, called⟩
  · -- The escape of this library gives the text of a value, where there is one.
    rw [library] at ran
    cases shows : escapedText value with
    | error failure =>
      rw [shows] at ran
      cases ran
    | ok shown =>
      rw [shows] at ran
      cases ran
      nofun
  · -- A custom escape gives a text, which is taken for that of a value, or something else.
    rw [called, Render.bind_apply] at ran
    obtain ⟨⟨outcome, middle⟩, called, ended⟩ := Option.bind_eq_some_iff.mp ran
    cases outcome with
    | error failure => cases ended
    | ok given =>
      dsimp only at ended
      split at ended <;>
        · cases ended
          nofun

/-- What a text gives when it is parsed with failures in the form of a rendering is its tokens. -/
theorem Template.parse_of_parsed {source : Text} {pair : Delimiters} {tokens : List Token}
    (parses : parsed source pair = .ok tokens) : parse source pair = .ok tokens := by
  rw [parsed] at parses
  -- A fault would have failed.
  cases parsing : parse source pair with
  | error fault =>
    rw [parsing] at parses
    cases parses
  | ok others =>
    rw [parsing] at parses
    cases parses
    rfl

/-- A template that is had in a sound session is what parsing it with some configured pair gives. -/
theorem Template.parsed_of_request {template delimiters : Value} {s t : Session σ}
    {result : Except Failure (List Token)} (sound : s.Sound)
    (ran : request template delimiters s = some (result, t)) :
    t.Sound ∧ ∀ tokens, result = .ok tokens → ∃ edits pair,
      delimitersOf (delimiters.settled edits) = .ok pair ∧ template.parsed pair = .ok tokens := by
  cases accepted : delimitersOf (delimiters.settled s.edits) with
  | error failure =>
    -- Nothing is had where the delimiters are refused.
    rw [request_of_refused accepted] at ran
    cases ran
    exact ⟨sound, fun _ same => nomatch same⟩
  | ok pair =>
    obtain ⟨sound', parses⟩ := request_sound sound accepted ran
    exact ⟨sound', fun tokens same => ⟨s.edits, pair, accepted, parses tokens same⟩⟩

namespace Occasion

variable {o : Occasion σ} {s t : Session σ}

/--
An event of a rendering in which nothing is written as it is.

No section function is called, and no template is entered in which a name is written unescaped.
-/
def Escapes (o : Occasion σ) : Event → Prop
  | .applied _ _ => False
  | .entered source => ∀ edits pair tokens,
    Template.delimitersOf (o.config.delimiters.settled edits) = .ok pair →
    Template.parse source pair = .ok tokens → Token.anyBare tokens = false
  | _ => True

/-- To ask for a template keeps a sound session sound. -/
theorem Given.sound {template : Value} (given : o.Given s template t) (sound : s.Sound) :
    t.Sound := by
  cases given with
  | root => exact sound
  | brought same looked present indented =>
    -- The template is looked for and then indented.
    have consulted := (Leads.template o.host _ _ : Consults _) _ _ _ looked
    have divided := Session.Divided.indented o.host _ _ _ _ _ indented
    exact (sound.of_cache_eq consulted.cache).of_cache_eq divided.cache
  | asked since told => exact sound

/-- A course keeps a sound session sound. -/
theorem Course.sound {all : List Token} {chunks : List Chunk} (course : o.Course all s chunks t)
    (sound : s.Sound) : t.Sound := by
  -- Only what asks for templates puts something into the cache, which is what parsing gives.
  induction course with
  | nothing | literal _ | unescaped _ _ => exact sound
  | append _ _ ih ih' => exact ih' (ih sound)
  | consulted consulted => exact sound.of_cache_eq consulted.cache
  | escaped _ ran =>
    have consulted := (Leads.escape o.host _ _ : Consults _) _ _ _ ran
    exact sound.of_cache_eq consulted.cache
  | missing name => exact Session.Sound.accounted _ (sound.of_cache_eq rfl)
  | undivided _ looked _ indented =>
    -- The template is looked for and then indented.
    have consulted := (Leads.template o.host _ _ : Consults _) _ _ _ looked
    have divided := Session.Divided.indented o.host _ _ _ _ _ indented
    exact (sound.of_cache_eq consulted.cache).of_cache_eq divided.cache
  | refused given requested =>
    exact (Template.parsed_of_request (given.sound sound) requested).1
  | entered given requested _ ih =>
    exact ih (Template.parsed_of_request (given.sound sound) requested).1
  | vacant given _ requested _ ih =>
    exact ih (Template.parsed_of_request (given.sound sound) requested).1
  | rendered _ _ ih => exact (ih sound).accounted _
  | counted => exact sound.accounted _
  | applied _ _ ih => exact ih (sound.of_cache_eq rfl)
  | asks _ ih => exact ih (sound.of_cache_eq rfl)

/-- In a course where nothing is written as it is all parts of the output are harmless. -/
theorem Course.harmless (unset : o.config.escape = .null) {all : List Token}
    {chunks : List Chunk} (course : o.Course all s chunks t) (sound : s.Sound)
    (escapes : Session.Between o.Escapes s t) (clean : Token.anyBare all = false) :
    ∀ chunk ∈ chunks, chunk.Harmless := by
  -- The induction is on the course; a template that is entered is clean itself.
  induction course with
  | nothing | consulted _ | missing _ | undivided _ _ _ _ | refused _ _ | counted | asks _ _ => nofun
  | append first second ih ih' =>
    have harmless := ih sound (escapes.earlier second.suffix) clean
    have harmless' := ih' (first.sound sound) (escapes.later first.suffix) clean
    exact List.forall_mem_append.mpr ⟨harmless, harmless'⟩
  | literal own => exact List.forall_mem_singleton.mpr trivial
  | @escaped _ _ _ scene value _ same ran =>
    refine List.forall_mem_singleton.mpr ?_
    -- Without a configured escape that of this library is taken.
    rw [Scene.escape, same, unset] at ran
    cases escaped : Scene.escapedText value with
    | error failure =>
      rw [escaped] at ran
      cases ran
    | ok text =>
      rw [escaped] at ran
      cases ran
      exact Scene.harmless_escapedText escaped
  | unescaped bare value =>
    rw [bare] at clean
    cases clean
  | entered given requested inside ih =>
    obtain ⟨sound', parsed⟩ := Template.parsed_of_request (given.sound sound) requested
    obtain ⟨edits, pair, accepted, parses⟩ := parsed _ rfl
    have during := (escapes.earlier (List.suffix_cons ..)).later
      (given.suffix.trans (Template.request_suffix requested))
    have clean := during.first inside.suffix edits pair _ accepted (Template.parse_of_parsed parses)
    exact ih (sound'.of_cache_eq rfl) (during.later (List.suffix_cons ..)) clean
  | vacant given other requested inside ih =>
    obtain ⟨sound', parsed⟩ := Template.parsed_of_request (given.sound sound) requested
    obtain ⟨edits, pair, accepted, parses⟩ := parsed _ rfl
    -- What is no text has no tokens.
    rw [Value.parsed_eq_nil other] at parses
    cases parses
    exact ih sound' (escapes.later (given.suffix.trans (Template.request_suffix requested))) rfl
  | rendered inside joined ih =>
    have escapes' : Session.Between o.Escapes _ _ := fun events journal =>
      escapes events ((journal_accounted _ _).trans journal)
    exact ih sound escapes' clean
  | applied inside given ih => exact (escapes.first inside.suffix).elim

/-- Whether a text is one of those in a template, which is parsed as the occasion asks for. -/
def HasText (o : Occasion σ) (source value : Text) : Prop :=
  ∃ edits pair tokens, Template.delimitersOf (o.config.delimiters.settled edits) = .ok pair
    ∧ Template.parse source pair = .ok tokens ∧ value ∈ Token.textsAll tokens

/-- What is written as the text of a template is a text of one that is at hand or entered. -/
theorem Course.text_of_literal {all : List Token} {chunks : List Chunk}
    (course : o.Course all s chunks t) (sound : s.Sound) {value : Text}
    (member : .literal value ∈ chunks) :
    value ∈ Token.textsAll all ∨ ∃ source, Session.Entered source s t ∧ o.HasText source value := by
  induction course with
  | nothing | consulted _ | missing _ | undivided _ _ _ _ | refused _ _ | counted | asks _ _ =>
    cases member
  | append first second ih ih' =>
    rcases List.mem_append.mp member with there | there
    · exact (ih sound there).imp_right fun ⟨source, during, has⟩ =>
        ⟨source, during.widen List.suffix_rfl second.suffix, has⟩
    · exact (ih' (first.sound sound) there).imp_right fun ⟨source, during, has⟩ =>
        ⟨source, during.widen first.suffix List.suffix_rfl, has⟩
  | literal own =>
    cases List.mem_singleton.mp member
    exact .inl own
  | escaped same ran =>
    -- What an escape gives is the text of a value, or no text at all.
    exact absurd (List.mem_singleton.mp member).symm (Scene.ne_literal_of_escape ran value)
  | unescaped bare other => cases List.mem_singleton.mp member
  | entered given requested inside ih =>
    obtain ⟨sound', parsed⟩ := Template.parsed_of_request (given.sound sound) requested
    obtain ⟨edits, pair, accepted, parses⟩ := parsed _ rfl
    have before := given.suffix.trans (Template.request_suffix requested)
    rcases ih (sound'.of_cache_eq rfl) member with own | ⟨source, during, has⟩
    · -- The text is one of the template that is entered here.
      exact .inr ⟨_, (Session.Entered.reported _ _).widen before
        (inside.suffix.trans (List.suffix_cons ..)), edits, pair, _, accepted,
        Template.parse_of_parsed parses, own⟩
    · exact .inr ⟨source, during.widen (before.trans (List.suffix_cons ..)) (List.suffix_cons ..),
        has⟩
  | vacant given other requested inside ih =>
    obtain ⟨sound', parsed⟩ := Template.parsed_of_request (given.sound sound) requested
    obtain ⟨edits, pair, accepted, parses⟩ := parsed _ rfl
    -- What is no text has no tokens.
    rw [Value.parsed_eq_nil other] at parses
    cases parses
    rcases ih sound' member with own | ⟨source, during, has⟩
    · cases own
    · exact .inr ⟨source, during.widen
        (given.suffix.trans (Template.request_suffix requested)) List.suffix_rfl, has⟩
  | rendered inside joined ih =>
    -- The account has no part in what is told.
    refine (ih sound member).imp_right fun ⟨source, during, has⟩ =>
      ⟨source, during.widen List.suffix_rfl ?_, has⟩
    simp only [journal_accounted, List.suffix_rfl]
  | applied inside given ih =>
    obtain ⟨other, same⟩ := given _ member
    cases same

/-- What tokens write as the text of a template is one of their texts, or one of those entered. -/
theorem text_of_writeAll {nested : Nested σ} {scene : Scene} (nests : o.Nests nested)
    (sets : o.Sets scene) (based : o.base <:+ s.journal) (sound : s.Sound) {tokens : List Token}
    {chunks : List Chunk}
    (ran : Token.writeAll o.host nested scene tokens s = some (.ok chunks, t)) {value : Text}
    (member : .literal value ∈ chunks) :
    value ∈ Token.textsAll tokens
      ∨ ∃ source, Session.Entered source s t ∧ o.HasText source value := by
  -- The tokens themselves are those at hand in the course that they take.
  obtain ⟨others, course, same⟩ :=
    unfolds_writeAll nests sets tokens id (List.Subset.refl _) s based (.ok chunks) t ran
  rw [same chunks rfl] at course
  exact course.text_of_literal sound member

end Occasion

/-- What was written is put together in the same way when what steps go by has changed. -/
theorem Scene.outcome_onStage (change : Stage σ → Stage σ)
    (written : Except Failure (List Chunk) × Session σ) :
    outcome (written.1, written.2.onStage (change written.2.stage))
      = ((outcome written).1, (outcome written).2.onStage (change (outcome written).2.stage)) := by
  obtain ⟨result, s⟩ := written
  cases result with
  -- Nothing is put together after a failure, nor if the chunks cannot be.
  | error failure => rfl
  | ok chunks =>
    dsimp only [outcome]
    cases Chunk.output chunks with
    | error failure => rfl
    | ok output =>
      -- The length of the output is put into the account, if one is kept.
      have accounts (note : Profile → Profile) :
          (s.onStage (change s.stage)).accounted note
            = (s.accounted note).onStage (change (s.accounted note).stage) := by
        unfold Session.accounted
        cases profiles : s.profiles <;> simp only [Session.onStage, Session.stage, profiles]
      exact congrArg (Prod.mk _) (accounts _)

namespace Engine

variable {host : Host σ} {source : Text} {partials : Value} {setting : Setting}

/-- What is written in the scope of a view may be put together there or afterwards. -/
theorem within_outcome {writes : Scope → Render σ (List Chunk)} {renders : Scope → Render σ Text}
    (same : ∀ scope s, renders scope s = (writes scope s).map Scene.outcome) (view : View)
    (s : Session σ) : view.within renders s = (view.within writes s).map Scene.outcome := by
  -- What is put together at the end is the same in both scopes, which are left in their own way.
  cases view with
  | value root =>
    -- A plain view is left with the memory the session had before.
    rw [View.within, View.within, Render.inNewScope_apply, Render.inNewScope_apply, same,
      Option.map_map, Option.map_map]
    congr 1
    funext written
    exact (Scene.outcome_onStage (·.knowing s.memo) written).symm
  | context id =>
    -- A context is left with what it has come to remember.
    rw [View.within, View.within, Render.inContext_apply, Render.inContext_apply, same,
      Option.map_map, Option.map_map]
    congr 1
    funext written
    exact (Scene.outcome_onStage (·.leaving id (s.contexts id) s.memo) written).symm

/-- A text is rendered by writing it, and by putting together what is written. -/
theorem renderUpTo_text (depth : Nat) (view : View) (s : Session σ) :
    renderUpTo depth host (.text source) view partials setting s
      = (writtenUpTo depth host (.text source) view partials setting s).map Scene.outcome := by
  -- Templates inside are rendered in the same way, at whatever depth is left.
  have nested (scene : Scene) (t : Session σ) :
      (Nested.upTo host depth).render scene (.text source) t
        = ((Nested.upTo host depth).inclusion scene (.text source) t).map Scene.outcome := by
    cases depth with
    | zero => rfl
    | succ depth => exact Scene.renderTemplate_text host _ scene source t
  -- The configuration is settled first, in the same way on both sides.
  rw [renderUpTo, writtenUpTo, Render.bind_apply, Render.bind_apply]
  cases Config.ofSetting setting s with
  | none => rfl
  | some settled =>
    obtain ⟨config, t⟩ := settled
    cases config with
    | error failure => rfl
    | ok config =>
      exact within_outcome (fun scope t => nested ⟨scope, partials, config, none⟩ t) view t

/--
Without a configured escape nothing that is written for a name gets around escaping.

Where no section function is called, and no template is entered in which a name is written
unescaped, the reserved characters of the output are those of the texts of the templates, and all
other parts of the output have the mark of an entity only where the entity follows. What counts as
the text of a template is a text in one that is entered.
-/
theorem escaped_of_renderUpTo (depth : Nat) {template : Value} (view : View) {s after : Session σ}
    (sound : s.Sound) {config : Config} {configured : Session σ}
    (settles : Config.ofSetting setting s = some (.ok config, configured))
    (unset : config.escape = .null) {output : Text} {events : List Event}
    (ran : renderUpTo depth host template view partials setting s = some (.ok output, after))
    (since : after.journal = events ++ s.journal)
    (uncalled : ∀ f inside, .applied f inside ∉ events)
    (escapes : ∀ source, .entered source ∈ events → ∀ edits pair tokens,
      Template.delimitersOf (config.delimiters.settled edits) = .ok pair →
      Template.parse source pair = .ok tokens → Token.anyBare tokens = false) :
    ∃ chunks written,
      writtenUpTo depth host template view partials setting s = some (.ok chunks, written)
      ∧ Chunk.joinAll chunks = some output
      ∧ output.filter (· ∈ Html.reserved)
        = (chunks.flatMap Chunk.literalPart).filter (· ∈ Html.reserved)
      ∧ (∀ t, .value t ∈ chunks → Html.Harmless t)
      ∧ ∀ t, .literal t ∈ chunks → ∃ source, .entered source ∈ events ∧ ∃ edits pair tokens,
        Template.delimitersOf (config.delimiters.settled edits) = .ok pair
        ∧ Template.parse source pair = .ok tokens ∧ t ∈ Token.textsAll tokens := by
  cases template with
  | text source =>
    rw [renderUpTo_text, Option.map_eq_some_iff] at ran
    obtain ⟨⟨result, written⟩, wrote, same⟩ := ran
    cases result with
    | error failure => cases same
    | ok chunks =>
      cases joined : Chunk.joinAll chunks with
      | none =>
        simp only [Scene.outcome, Chunk.output, joined] at same
        cases same
      | some text =>
        simp only [Scene.outcome, Chunk.output, joined] at same
        cases same
        have course : (occasion host source partials config s).Course [] s chunks written := by
          obtain ⟨others, course, same⟩ := course_writtenUpTo settles wrote []
          rwa [same chunks rfl] at course
        -- What happens in the course is what happens in the rendering.
        have events_eq {others : List Event} (journal : written.journal = others ++ s.journal) :
            others = events := by
          rw [Occasion.journal_accounted, journal] at since
          exact List.append_cancel_right since
        have between : Session.Between (occasion host source partials config s).Escapes s written := by
          intro others journal event member
          rw [events_eq journal] at member
          cases event with
          | applied f inside => exact uncalled f inside member
          | entered source => exact escapes source member
          | _ => trivial
        have harmless := course.harmless unset sound between rfl
        refine ⟨chunks, written, wrote, joined, Chunk.filter_joinAll harmless joined,
          fun t member => harmless _ member, fun t member => ?_⟩
        -- No template is at hand before the first one is entered.
        rcases course.text_of_literal sound member with own | ⟨source, ⟨others, journal, there⟩, has⟩
        · cases own
        · exact ⟨source, events_eq journal ▸ there, has⟩
  | _ => cases ran

/-- Texts, numbers, a list and a function that try to end an attribute, in two templates. -/
theorem escaped_of_renderUpTo_attribute :
    let host : Host Unit := ⟨fun _ _ state => (.ok (.text ['\x60', '=']), state),
      fun _ _ state => .value .null state⟩
    let part := Text.ofString "</a>\x7b\x7bf\x7d\x7d\x7b\x7bl\x7d\x7d"
    let partials : Value := .mapping [(.text ['p'], .text part)]
    let template := Text.ofString "<a b=\"\x7b\x7bt\x7d\x7d\">\x7b\x7b#l\x7d\x7d/\x7b\x7b.\x7d\x7d"
      ++ .ofString "\x7b\x7b/l\x7d\x7d\x7b\x7b>p\x7d\x7d"
    let view : Value := .mapping [(.text ['t'], .text (.ofString "\"><c d='&'")),
      (.text ['l'], .list [.int (-7), .bool true, .text ['<']]),
      (.text ['f'], .function (.hosted 0 ['F'] ['f'] .any))]
    let run := renderUpTo 2 host (.text template) (.value view) partials (.value .null)
      { host := () }
    ∃ output after chunks written, run = some (.ok output, after)
      ∧ writtenUpTo 2 host (.text template) (.value view) partials (.value .null) { host := () }
        = some (.ok chunks, written)
      ∧ Chunk.joinAll chunks = some output
      ∧ output.filter (· ∈ Html.reserved)
        = (chunks.flatMap Chunk.literalPart).filter (· ∈ Html.reserved)
      ∧ (∀ t, .value t ∈ chunks → Html.Harmless t)
      ∧ ∀ t, .literal t ∈ chunks → ∃ source, .entered source ∈ after.journal ∧ ∃ edits pair tokens,
        Template.delimitersOf (({} : Config).delimiters.settled edits) = .ok pair
        ∧ Template.parse source pair = .ok tokens ∧ t ∈ Token.textsAll tokens := by
  intro host part partials template view run
  let entered := fun (event : Event) => match event with
    | .entered source => some source
    | _ => none
  let applied := fun (event : Event) => match event with
    | .applied _ _ => true
    | _ => false
  -- Both templates are entered and no section function is called.
  have shown : run.map (fun run =>
      (run.1.toOption.isSome, run.2.journal.filterMap entered, run.2.journal.any applied))
      = some (true, [part, template], false) := by decide +kernel
  obtain ⟨⟨result, after⟩, ran, shows⟩ := Option.map_eq_some_iff.mp shown
  obtain ⟨succeeds, sources, calls⟩ : result.toOption.isSome = true
      ∧ after.journal.filterMap entered = [part, template]
      ∧ after.journal.any applied = false := by
    simpa using shows
  cases result with
  | error failure => cases succeeds
  | ok output =>
    have uncalled : ∀ f inside, .applied f inside ∉ after.journal := by
      intro f inside member
      simpa [applied] using List.any_eq_false.mp calls _ member
    -- No name is written unescaped in either of the two.
    have clean : ∀ source ∈ [part, template],
        ((Template.parse source Delimiters.default).toOption.any Token.anyBare) = false := by
      decide +kernel
    have escapes : ∀ source, .entered source ∈ after.journal → ∀ edits pair tokens,
        Template.delimitersOf (({} : Config).delimiters.settled edits) = .ok pair →
        Template.parse source pair = .ok tokens → Token.anyBare tokens = false := by
      intro source member edits pair tokens accepted parses
      cases accepted
      have listed : source ∈ after.journal.filterMap entered :=
        List.mem_filterMap.mpr ⟨_, member, rfl⟩
      rw [sources] at listed
      have cleanly := clean source listed
      rw [parses] at cleanly
      exact cleanly
    have sound : ({ host := () } : Session Unit).Sound := by
      rintro _ ⟨⟩
      exact Cache.sound_of_entries_nil rfl
    obtain ⟨chunks, written, wrote, joined, reserved, harmless, texts⟩ :=
      escaped_of_renderUpTo 2 (.value view) sound rfl rfl ran (List.append_nil _).symm uncalled
        escapes
    exact ⟨output, after, chunks, written, ran, wrote, joined, reserved, harmless, texts⟩

end Engine

end Mustache
