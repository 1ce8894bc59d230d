import Mustache.Proofs.Keeping.Operations
import Mustache.Proofs.Keeping.Requests
import Mustache.Proofs.Unescaping

/-!
Numbers are written as they are, since escaping them makes no difference.

So a rendering without an escape of its own does the same as one that calls a function which escapes
whatever it is given for HTML.
-/

namespace Mustache

variable {σ : Type}

/-- A text without marks and reserved characters is escaped as it is. -/
theorem Html.escape_of_plain {t : Text} (plain : ∀ c ∈ t, c ∉ '&' :: reserved) : escape t = t := by
  -- Each character stands for itself.
  induction t with
  | nil => rfl
  | cons c t ih =>
    have first := escapeChar_eq_self_iff.mpr (plain c List.mem_cons_self)
    have rest := ih fun other member => plain other (List.mem_cons_of_mem _ member)
    rw [escape] at rest ⊢
    rw [List.flatMap_cons, first, rest]
    rfl

namespace Value

/-- There are neither marks nor reserved characters in an integer as it is displayed. -/
theorem plain_display_int (n : Int) : ∀ c ∈ (int n).display, c ∉ '&' :: Html.reserved := by
  -- An integer is displayed by its digits.
  rw [display, literal]
  · exact (Text.numeric_ofInt n).plain
  · exact nofun

/-- There are neither marks nor reserved characters in any other number as it is displayed. -/
theorem plain_display_float (x : Binary64) :
    ∀ c ∈ (float x).display, c ∉ '&' :: Html.reserved := by
  -- Such a number is displayed as a decimal.
  rw [display, literal]
  · exact (Binary64.numeric_toText x).plain
  · exact nofun

end Value

/-- What is shown of a value without marks and reserved characters is escaped as it is. -/
theorem Value.map_escape_shown {value : Value} (plain : ∀ c ∈ value.display, c ∉ '&' :: Html.reserved) :
    value.shown.map Html.escape = value.shown := by
  -- Only what can be shown is there to be escaped.
  unfold shown
  split
  · exact congrArg Except.ok (Html.escape_of_plain plain)
  · rfl

/-- Without an escape every value is written as escaping it for HTML gives it, numbers included. -/
theorem Scene.escapedText_eq (value : Value) :
    escapedText value = value.shown.map Html.escape := by
  -- Only numbers are written in a way of their own.
  cases value with
  | int n => exact (Value.map_escape_shown (Value.plain_display_int n)).symm
  | float x => exact (Value.map_escape_shown (Value.plain_display_float x)).symm
  | _ => rfl

/-- Whether an event is the call of an escape. -/
def Event.isEscape : Event → Bool
  | .called _ (.escape _) _ => true
  | _ => false

/-- Two sessions that are the same but for calls of escapes. -/
structure Session.ButEscapes (s s' : Session σ) : Prop where
  /-- The steps of rendering go by the same. -/
  stage : s.stage = s'.stage
  /-- The accounts are the same. -/
  profiles : s.profiles = s'.profiles
  /-- The caches are the same. -/
  cache : s.cache = s'.cache
  /-- As many contexts are kept. -/
  contextCount : s.contextCount = s'.contextCount
  /-- Apart from calls of escapes the same has happened, in the same order. -/
  journal : s.journal.filter (!·.isEscape) = s'.journal.filter (!·.isEscape)

namespace Session.ButEscapes

/-- Any event may happen in both sessions. -/
theorem reported {s s' : Session σ} (same : s.ButEscapes s') (event : Event) :
    (s.reported event).ButEscapes (s'.reported event) where
  stage := same.stage
  profiles := same.profiles
  cache := same.cache
  contextCount := same.contextCount
  journal := by
    simp only [Session.reported, List.filter_cons]
    rw [same.journal]

/-- The call of an escape may happen in the second session only. -/
theorem escaped {s s' : Session σ} (same : s.ButEscapes s') {event : Event}
    (escape : event.isEscape = true) : s.ButEscapes (s'.reported event) where
  stage := same.stage
  profiles := same.profiles
  cache := same.cache
  contextCount := same.contextCount
  journal := by simpa [Session.reported, escape] using same.journal

/-- Any note may be made in both sessions. -/
theorem accounted {s s' : Session σ} (same : s.ButEscapes s') (note : Profile → Profile) :
    (s.accounted note).ButEscapes (s'.accounted note) := by
  unfold Session.accounted
  rw [← same.profiles]
  -- There is an account in both sessions or in neither.
  cases s.profiles with
  | nil => exact same
  | cons innermost outer => exact ⟨same.stage, rfl, same.cache, same.contextCount, same.journal⟩

/-- The same goes on in both sessions. -/
theorem stable : Stable (ButEscapes : Session σ → Session σ → Prop) where
  stage := ButEscapes.stage
  onStage := fun _ same => ⟨rfl, same.profiles, same.cache, same.contextCount, same.journal⟩
  reported := fun _ same => same.reported _
  accounted := fun _ same => same.accounted _

/-- Whatever is told, noted and cached in one of the sessions is so in the other one. -/
theorem thorough : Thorough (ButEscapes : Session σ → Session σ → Prop) id where
  toStable := stable
  -- Sessions that only differ in calls of the escape have the same account and the same cache.
  told := fun event same => same.reported event
  noted := fun note same => same.accounted note
  caches := fun same => by rw [Option.map_id_fun, id, same.cache]
  cached := fun cache same =>
    ⟨same.stage, same.profiles, by rw [Option.map_id_fun, id], same.contextCount, same.journal⟩
  find? := fun _ _ _ => rfl
  insert := fun _ _ _ _ => rfl
  uses := by
    intro cache event _
    rw [id]
    -- A use of the cache is told in both sessions, or in neither.
    unfold Template.reportUse
    split
    · exact fun _ _ same => .both (same.reported event)
    · exact Keeps.pure _

end Session.ButEscapes

/--
A function that gives every value as it is displayed, escaped for HTML, and does nothing else.

It fails where a value cannot be shown.
-/
inductive Function.EscapesHtml (host : Host σ) : Function → Prop
  /-- The escape of this library is such a function. -/
  | html : EscapesHtml host .html
  /-- A function of the host is such a function if the host answers so, in whatever state it is. -/
  | hosted {id : Nat} {className label : Text} {arity : Arity}
      (accepts : (Function.hosted id className label arity).accepts 1 = true)
      (answers : ∀ value state, host.answer id (.escape value) state
        = (if value.canBeShown then .ok (.text (Html.escape value.display))
          else .error .numeralTooLong, state)) :
      EscapesHtml host (.hosted id className label arity)

/-- A function of the host that takes a call is heard of, and gives what the host answers. -/
theorem Function.call_of_answers {host : Host σ} {id : Nat} {className label : Text} {arity : Arity}
    {call : Call} {answer : Except HostFailure Value} {s : Session σ}
    (accepts : (hosted id className label arity).accepts call.arguments.length = true)
    (answers : host.answer id call s.host = (answer, s.host)) :
    (hosted id className label arity).call host call s = some (answer.mapError HostFailure.toFailure,
      s.reported (.called (.hosted id className label arity) call answer)) := by
  -- The state of the host is as it was, since it answers so.
  have asked : host.ask id call s = some (.ok answer, s) := by
    change some (Except.ok (host.answer id call s.host).1,
      { s with host := (host.answer id call s.host).2 }) = _
    rw [answers]
  rw [Function.call_hosted, checkCount, if_pos accepts, pure_bind, Render.bind_apply, asked]
  -- The answer is a value or a failure.
  cases answer <;> rfl

/-- The same scene where values are escaped by a function. -/
def Scene.escapedBy (scene : Scene) (f : Function) : Scene :=
  { scene with config := { scene.config with escape := .function f } }

/-- Nested renderings that do the same whether a function escapes values for HTML or none does. -/
structure Nested.EscapedBy (f : Function) (nested : Nested σ) : Prop where
  /-- Included templates write the same. -/
  inclusion {scene : Scene} (without : scene.config.escape = .null) (template : Value) :
    Tracks Session.ButEscapes (nested.inclusion scene template)
      (nested.inclusion (scene.escapedBy f) template)
  /-- Templates are rendered alike. -/
  render {scene : Scene} (without : scene.config.escape = .null) (template : Value) :
    Tracks Session.ButEscapes (nested.render scene template)
      (nested.render (scene.escapedBy f) template)

namespace Tracks

section

variable {host : Host σ} {f : Function} {nested : Nested σ} {scene : Scene}

/-- A value is escaped alike by a function that escapes it for HTML. -/
theorem escapedBy (escapes : f.EscapesHtml host) (without : scene.config.escape = .null)
    (value : Value) :
    Tracks Session.ButEscapes (scene.escape host value) ((scene.escapedBy f).escape host value) := by
  have plain : (scene.escape host value : Render σ Chunk)
      = Render.ofExcept (value.shown.map Html.escape) >>= fun t => pure (.value t) := by
    rw [Scene.escape, without, ← Scene.escapedText_eq]
  rw [plain]
  cases escapes with
  | html =>
    -- The escape of this library takes the same way as none does.
    have alike : (scene.escapedBy .html).escape host value
        = Render.ofExcept (value.shown.map Html.escape) >>= fun t => pure (.value t) := by
      rw [← Scene.escapedText_eq]
      rfl
    rw [alike]
    exact Keeps.bind (Keeps.ofExcept _) fun t => Keeps.pure _
  | @hosted id className label arity accepts answers =>
    intro s s' same
    change Agree _ _
      (((Function.hosted id className label arity).call host (.escape value) >>= _) s')
    rw [Render.bind_apply, Render.bind_apply,
      Function.call_of_answers accepts (answers value s'.host), Value.shown]
    -- Only the second session tells of a call, and the text or the failure is the same.
    split <;> exact .both (same.escaped rfl)

/-- A name writes the same. -/
theorem writeVariableEscapedBy (escapes : f.EscapesHtml host)
    (without : scene.config.escape = .null) (escaped : Bool) (path : Text) :
    Tracks Session.ButEscapes (scene.writeVariable host escaped path)
      ((scene.escapedBy f).writeVariable host escaped path) := by
  have stable : Stable (Session.ButEscapes : Session σ → Session σ → Prop) :=
    Session.ButEscapes.stable
  refine bind (Keeps.interpolated stable host scene path) fun found => ?_
  split
  · -- A name that stands for nothing is written as nothing.
    exact Keeps.pure _
  · -- The name stands for the same value in both sessions, which is escaped or not.
    refine bind (Keeps.settled stable _) fun value => ?_
    split
    · exact bind (escapedBy escapes without value) fun chunk => Keeps.pure _
    · exact bind (Keeps.ofExcept _) fun shown => Keeps.pure _

/-- What a section function gives is written alike, whatever it asks for. -/
theorem writeAppliedEscapedBy (nests : nested.EscapedBy f) (without : scene.config.escape = .null)
    (g : Function) (part : Text → Except Failure Text) :
    Tracks Session.ButEscapes (scene.writeApplied host nested g part)
      ((scene.escapedBy f).writeApplied host nested g part) := by
  have stable : Stable (Session.ButEscapes : Session σ → Session σ → Prop) :=
    Session.ButEscapes.stable
  have same : (scene.escapedBy f).source = scene.source := rfl
  unfold Scene.writeApplied
  -- Without a source both fail in the same way.
  rw [same]
  split
  · exact Keeps.throw _
  · have counted : Profile.Neutral (·.addSectionCall) := fun _ => ⟨rfl, rfl⟩
    refine bind (Keeps.account stable counted) fun _ => bind (Keeps.ofExcept _) fun inside => ?_
    -- The function may ask for any template, which is rendered with the same configuration.
    refine bind (apply stable host (nests.render without) g inside) fun given => ?_
    split
    · exact Keeps.pure _
    · exact bind (Keeps.settled stable _) fun value =>
        bind (Keeps.ofExcept _) fun shown => Keeps.pure _

mutual

/-- A token writes the same. -/
theorem writeTokenEscapedBy (escapes : f.EscapesHtml host) (nests : nested.EscapedBy f)
    {scene : Scene} (without : scene.config.escape = .null) (token : Token) :
    Tracks Session.ButEscapes (Token.write host nested scene token)
      (Token.write host nested (scene.escapedBy f) token) := by
  -- Two sessions that differ in calls of the escape are written to by the same steps.
  have stable : Stable (Session.ButEscapes : Session σ → Session σ → Prop) :=
    Session.ButEscapes.stable
  match token with
  | .text value span => exact Keeps.pure _
  | .variable escaped path span => exact writeVariableEscapedBy escapes without escaped path
  | .comment body span => exact Keeps.pure _
  | .switch pair span => exact Keeps.pure _
  | .inclusion name span line =>
    -- An inclusion asks the same partials, and renders what it finds alike.
    have templates := Session.ButEscapes.thorough.templates host
    have same : (scene.escapedBy f).partials = scene.partials := rfl
    exact writeInclusion stable same (scene.partials.holds_true host) _
      (fun _ => Keeps.indented templates line) (fun _ => Keeps.indented_gives templates line)
      fun template _ => nests.inclusion without template
  | .block inverted name span children closeStart =>
    refine bind (Keeps.subject stable host scene name) fun value => ?_
    split
    · split
      · exact writeTokensEscapedBy escapes nests without children
      · exact Keeps.pure _
    · -- The children are written with the same configuration, over whatever value.
      have pushed (item : Value) : (scene.push item).config.escape = .null := without
      exact writeSection stable value (writeTokensEscapedBy escapes nests without children)
        (fun item => writeTokensEscapedBy escapes nests (pushed item) children)
        fun g => writeAppliedEscapedBy nests without g _

/-- A row of tokens writes the same. -/
theorem writeTokensEscapedBy (escapes : f.EscapesHtml host) (nests : nested.EscapedBy f)
    {scene : Scene} (without : scene.config.escape = .null) (tokens : List Token) :
    Tracks Session.ButEscapes (Token.writeAll host nested scene tokens)
      (Token.writeAll host nested (scene.escapedBy f) tokens) := by
  -- The first token is written in both scenes, and then the others are.
  match tokens with
  | [] => exact Keeps.pure _
  | token :: tokens =>
    exact bind (writeTokenEscapedBy escapes nests without token) fun first =>
      bind (writeTokensEscapedBy escapes nests without tokens) fun others => Keeps.pure _

end

/-- A template is rendered alike. -/
theorem renderTemplateEscapedBy (escapes : f.EscapesHtml host) (nests : nested.EscapedBy f)
    (without : scene.config.escape = .null) (template : Value) :
    Tracks Session.ButEscapes (scene.renderTemplate host nested template)
      ((scene.escapedBy f).renderTemplate host nested template) := by
  have stable : Stable (Session.ButEscapes : Session σ → Session σ → Prop) :=
    Session.ButEscapes.stable
  -- Only a text can be rendered; both scenes parse it with the same delimiters.
  cases template with
  | text source =>
    refine bind (Session.ButEscapes.thorough.request _ _) fun tokens => ?_
    refine bind (inTemplate stable source ?_) fun output => ?_
    · have without : { scene with source := some source }.config.escape = .null := without
      exact bind (writeTokensEscapedBy escapes nests without tokens) fun _ => Keeps.ofExcept _
    · -- The output has the same length in both sessions.
      exact bind (Session.ButEscapes.thorough.account _) fun _ => Keeps.pure _
  | _ => exact Keeps.throw _

/-- An included template writes the same. -/
theorem includeTemplateEscapedBy (escapes : f.EscapesHtml host) (nests : nested.EscapedBy f)
    (without : scene.config.escape = .null) (template : Value) :
    Tracks Session.ButEscapes (scene.includeTemplate host nested template)
      ((scene.escapedBy f).includeTemplate host nested template) := by
  have stable : Stable (Session.ButEscapes : Session σ → Session σ → Prop) :=
    Session.ButEscapes.stable
  -- With another source the scene has the same escape.
  have without (source : Option Text) : { scene with source }.config.escape = .null := without
  refine bind (Session.ButEscapes.thorough.request _ _) fun tokens => ?_
  -- What is no text writes its tokens all the same, without a source.
  split
  · exact inTemplate stable _ (writeTokensEscapedBy escapes nests (without _) tokens)
  · exact writeTokensEscapedBy escapes nests (without _) tokens

end

end Tracks

/-- Templates may be nested to any depth. -/
theorem Nested.upTo_escapedBy {host : Host σ} {f : Function} (escapes : f.EscapesHtml host)
    (depth : Nat) : (Nested.upTo host depth).EscapedBy f := by
  -- Templates that may be nested one time less do the same already.
  induction depth with
  | zero => exact ⟨fun _ _ => Keeps.tooDeep, fun _ _ => Keeps.tooDeep⟩
  | succ depth nests =>
    exact ⟨fun without => Tracks.includeTemplateEscapedBy escapes nests without,
      fun without => Tracks.renderTemplateEscapedBy escapes nests without⟩

/-- A setting that asks for no escape, and one that asks for the same and for an escape. -/
structure Setting.Adds (σ : Type) (escape : Value) (setting other : Setting) : Prop where
  /-- The first one asks for no escape. -/
  without : Gives (Config.ofSetting setting : Render σ Config) fun config => config.escape = .null
  /-- The other one asks for the same configuration with the escape. -/
  adds : (Config.ofSetting other : Render σ Config)
    = Config.ofSetting setting >>= fun config => pure { config with escape }

/-- An entry under another name makes no difference to what a name stands for. -/
theorem Value.named?_cons_of_ne {key name : Text} (other : key ≠ name) (value : Value)
    (entries : List (Value × Value)) :
    named? ((.text key, value) :: entries) name = named? entries name := by
  -- The entry in front is passed over.
  have others : isNamed name (.text key) = false := by simpa [isNamed] using other
  rw [named?, List.find?_cons_of_neg (by simp [others]), ← named?]

/-- Entries without an escape may be given one more entry that asks for one. -/
theorem Setting.Adds.entries {entries : List (Value × Value)}
    (without : Value.named? entries (.ofString "escape") = none) (escape : Value) :
    Adds σ escape (.value (.mapping entries))
      (.value (.mapping ((.text (.ofString "escape"), escape) :: entries))) := by
  -- The new entry is found by its name, and hides neither name of the delimiters.
  have asked : Value.named? ((.text (.ofString "escape"), escape) :: entries) (.ofString "escape")
      = some escape := by simp [Value.named?, Value.isNamed]
  have delimiters : Config.delimitersIn? ((.text (.ofString "escape"), escape) :: entries)
      = Config.delimitersIn? entries := by
    have others : Text.ofString "escape" ≠ .ofString "delimiters"
        ∧ Text.ofString "escape" ≠ .ofString "tags" := by decide +kernel
    rw [Config.delimitersIn?, Value.named?_cons_of_ne others.1, Value.named?_cons_of_ne others.2]
    rfl
  constructor
  · change Gives (Config.ofEntries entries : Render σ Config) _
    unfold Config.ofEntries
    rw [without]
    -- There are delimiters among the entries or not, and no escape.
    split
    · exact .bind fun items => by rintro s t config ⟨⟩; rfl
    · rintro s t config ⟨⟩
      rfl
  · -- With the new entry the same delimiters are read, and then the function is set.
    change Config.ofEntries _ = Config.ofEntries entries >>= _
    unfold Config.ofEntries
    rw [asked, delimiters]
    cases Config.delimitersIn? entries with
    | none => rfl
    | some value =>
      dsimp only
      rw [bind_assoc]
      rfl

/--
Numbers are written as they are, and a rendering does what it does when every value is escaped.

Without an escape it gives the same output or failure as with a function that escapes for HTML
whatever it is given. In both cases the same is called, asked for and told of, in the same order,
apart from the calls of that function. No number as it is displayed has characters to escape.
-/
theorem Engine.renderUpTo_escapedBy {host : Host σ} {f : Function} (escapes : f.EscapesHtml host)
    {setting other : Setting} (adds : setting.Adds σ (.function f) other) (depth : Nat)
    (template : Value) (view : View) (partials : Value) :
    Tracks Session.ButEscapes (renderUpTo depth host template view partials setting)
        (renderUpTo depth host template view partials other)
      ∧ (∀ n : Int, ∀ c ∈ (Value.int n).display, c ∉ Html.entities.map (·.1))
      ∧ ∀ x : Binary64, ∀ c ∈ (Value.float x).display, c ∉ Html.entities.map (·.1) := by
  -- The characters of a number are none of those that have an entity.
  rw [Html.map_entities]
  refine ⟨?_, Value.plain_display_int, Value.plain_display_float⟩
  have stable : Stable (Session.ButEscapes : Session σ → Session σ → Prop) :=
    Session.ButEscapes.stable
  cases template with
  | text source =>
    rw [renderUpTo, renderUpTo, adds.adds, bind_assoc]
    -- The first setting is read in both sessions, and then the escape is added in the second one.
    refine Tracks.bind_of_gives (Keeps.ofSetting stable setting) adds.without
      fun config without => ?_
    rw [pure_bind]
    have nests := Nested.upTo_escapedBy escapes depth
    refine Tracks.within stable view fun scope => ?_
    have without : (⟨scope, partials, config, none⟩ : Scene).config.escape = .null := without
    exact nests.render without _
  | _ => exact Keeps.throw _

/-- Numbers, a truth value and a text in a section, in a partial and in what a function asks for. -/
theorem Engine.renderUpTo_escapedBy_section :
    let host : Host Unit := ⟨fun _ call state => match call with
      | .escape value => (if value.canBeShown then .ok (.text (Html.escape value.display))
          else .error .numeralTooLong, state)
      | _ => (.ok .null, state), fun _ inside state => .render (.text inside) state
        (fun _ => false) fun output state => .value (.text (output.toOption.getD [])) state⟩
    let f : Function := .hosted 0 [] [] (.exactly 1)
    let template : Value := .text (.ofString
      "\x7b\x7b#s\x7d\x7d\x7b\x7b.\x7d\x7d \x7b\x7b/s\x7d\x7d\x7b\x7b>p\x7d\x7d")
    let view : View := .value (.mapping [
      (.text ['s'], .list [.int (-5), .float (.finite true 0 0), .bool true, .text ['<']]),
      (.text ['f'], .function (.hosted 1 [] [] (.exactly 2))), (.text ['n'], .float .nan)])
    let partials : Value := .mapping [(.text ['p'],
      .text (.ofString "\x7b\x7b#f\x7d\x7d\x7b\x7bn\x7d\x7d\x7b\x7b/f\x7d\x7d"))]
    let setting : Setting := .value (.mapping [])
    let other : Setting := .value (.mapping [(.text (.ofString "escape"), .function f)])
    let calls := fun run : Except Failure Text × Session Unit =>
      (run.1.toOption, run.2.journal.countP Event.isEscape)
    f.EscapesHtml host ∧ setting.Adds Unit (.function f) other
      ∧ ∃ outcome outcome',
        renderUpTo 3 host template view partials setting { host := () } = some outcome
          ∧ renderUpTo 3 host template view partials other { host := () } = some outcome'
          ∧ outcome.1 = outcome'.1 ∧ outcome.2.ButEscapes outcome'.2
          ∧ calls outcome = (some (.ofString "-5 -0.0 True &lt; nan"), 0)
          ∧ calls outcome' = (some (.ofString "-5 -0.0 True &lt; nan"), 5) := by
  intro host f template view partials setting other calls
  have escapes : f.EscapesHtml host := .hosted rfl fun _ _ => rfl
  have adds : setting.Adds Unit (.function f) other := .entries rfl _
  have agree := (renderUpTo_escapedBy escapes adds 3 template view partials).1
    { host := () } { host := () } ⟨rfl, rfl, rfl, rfl, rfl⟩
  -- Five values are escaped, each by a call in the second rendering.
  have first : (renderUpTo 3 host template view partials setting { host := () }).map calls
      = some (some (.ofString "-5 -0.0 True &lt; nan"), 0) := by decide +kernel
  have second : (renderUpTo 3 host template view partials other { host := () }).map calls
      = some (some (.ofString "-5 -0.0 True &lt; nan"), 5) := by decide +kernel
  refine ⟨escapes, adds, ?_⟩
  -- The runs are only known by what they give, so that they need not be computed again.
  generalize renderUpTo 3 host template view partials setting { host := () } = run at *
  generalize renderUpTo 3 host template view partials other { host := () } = run' at *
  cases agree with
  | tooDeep => cases first
  | both same => exact ⟨_, _, rfl, rfl, rfl, same, Option.some.inj first, Option.some.inj second⟩

end Mustache
