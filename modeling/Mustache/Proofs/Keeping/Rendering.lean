import Mustache.Engine
import Mustache.Proofs.Keeping.Functions

/-!
Rendering keeps every stable relation between sessions that requests for templates keep.

The templates that are included may be restricted to a kind, such as that of texts.
-/

namespace Mustache

variable {σ : Type} {R : Session σ → Session σ → Prop}

/-- The templates among some partials are texts: under a name there is one, or nothing at all. -/
def Value.HoldsTexts (host : Host σ) (partials : Value) : Prop :=
  ∀ scene : Scene, scene.partials = partials → ∀ name,
    Gives (scene.template host name) fun found => found = .null ∨ ∃ t, found = .text t

/-- What is found among texts is a text, and otherwise nothing is found. -/
theorem Value.text_of_find {entries : List (Value × Value)}
    (texts : ∀ entry ∈ entries, ∃ t, entry.2 = .text t) (wanted : Value × Value → Bool) :
    let found := ((entries.find? wanted).map (·.2)).getD .null
    found = .null ∨ ∃ t, found = .text t := by
  -- What is found stands among the entries.
  cases there : entries.find? wanted with
  | none => exact .inl rfl
  | some entry => exact .inr (texts entry (List.mem_of_find?_eq_some there))

/-- The templates of a mapping whose values are texts are texts. -/
theorem Value.holdsTexts_mapping (host : Host σ) {entries : List (Value × Value)}
    (texts : ∀ entry ∈ entries, ∃ t, entry.2 = .text t) : (mapping entries).HoldsTexts host := by
  intro scene same name s after value gives
  unfold Scene.template at gives
  -- The partials are entries, among which the name is looked for.
  rw [same] at gives
  change (Render.ofExcept (Scene.templateIn entries name) : Render σ Value) s = _ at gives
  -- A name is looked for among the names, and any other key among all keys.
  unfold Scene.templateIn at gives
  split at gives
  · cases gives
    exact text_of_find texts _
  · split at gives
    · cases gives
      exact text_of_find texts _
    · cases gives

/-- The templates among some partials are of a kind: under a name there is one, or nothing at all. -/
def Value.Holds (kind : Value → Prop) (host : Host σ) (partials : Value) : Prop :=
  ∀ scene : Scene, scene.partials = partials → ∀ name,
    Gives (scene.template host name) fun found => found = .null ∨ kind found

/-- Requests for the tokens of texts keep a relation. -/
def KeepsRequests (R : Session σ → Session σ → Prop) : Prop :=
  ∀ (t : Text) (delimiters : Value), Keeps R (Template.request (.text t) delimiters)

/-- Templates of a kind, to which texts belong, can be indented and asked for as a relation is kept. -/
structure KeepsTemplates (R : Session σ → Session σ → Prop) (host : Host σ) (kind : Value → Prop) :
    Prop where
  /-- Every text is of the kind. -/
  text (t : Text) : kind (.text t)
  /-- Requests for the tokens of such a template keep the relation. -/
  request {template : Value} (known : kind template) (delimiters : Value) :
    Keeps R (Template.request template delimiters)
  /-- To indent such a template keeps it. -/
  indent {template : Value} (known : kind template) (indentation : Value) (continuesText : Bool) :
    Keeps R (Indentation.indentValue host template indentation continuesText)
  /-- Such a template is still of the kind when it is indented. -/
  indent_gives {template : Value} (known : kind template) (indentation : Value)
      (continuesText : Bool) :
    Gives (Indentation.indentValue host template indentation continuesText) kind

/-- Texts are indented to texts, so that requests for texts are all that matters. -/
theorem KeepsRequests.templates (requests : KeepsRequests R) (host : Host σ) :
    KeepsTemplates R host fun template => ∃ t, template = .text t where
  text := fun t => ⟨t, rfl⟩
  request := by
    rintro _ ⟨t, rfl⟩ delimiters
    exact requests t delimiters
  indent := by
    rintro _ ⟨t, rfl⟩ indentation continuesText
    -- The text is indented, unless the indentation is no text.
    cases indentation with
    | text margin => exact Keeps.pure _
    | _ => exact Keeps.throw _
  indent_gives := by
    rintro _ ⟨t, rfl⟩ indentation continuesText s after value gives
    cases indentation with
    -- What was indented to a text is one.
    | text margin =>
      cases gives
      exact ⟨_, rfl⟩
    | _ => cases gives

/-- Where requests for templates of any type keep a relation, all templates are of the kind. -/
theorem KeepsTemplates.ofRequests (stable : Stable R) (host : Host σ)
    (requests : ∀ template delimiters, Keeps R (Template.request template delimiters)) :
    KeepsTemplates R host fun _ => True where
  text := fun _ => trivial
  request := fun _ delimiters => requests _ delimiters
  indent := fun _ indentation continuesText =>
    Keeps.indentValue stable host _ indentation continuesText
  indent_gives := fun _ _ _ _ _ _ _ => trivial

/-- Nested renderings keep a relation where all partials are of a kind. -/
structure Nested.Keeping (R : Session σ → Session σ → Prop) (host : Host σ) (kind : Value → Prop)
    (nested : Nested σ) : Prop where
  /-- The tokens of an included template of the kind keep it. -/
  inclusion {scene : Scene} (holds : scene.partials.Holds kind host) {template : Value}
    (known : kind template) : Keeps R (nested.inclusion scene template)
  /-- The rendering of any template keeps it. -/
  render {scene : Scene} (holds : scene.partials.Holds kind host) (template : Value) :
    Keeps R (nested.render scene template)

namespace Keeps

section Scenes

variable {host : Host σ} {kind : Value → Prop} {nested : Nested σ} {scene : Scene}

/-- To find the value of a name keeps every stable relation. -/
theorem interpolated (stable : Stable R) (host : Host σ) (scene : Scene) (path : Text) :
    Keeps R (scene.interpolated host path) := by
  -- A function is called, and any other value is taken as it is.
  refine bind (lookup stable host scene.scope path) fun found => ?_
  split
  · exact call stable host _ _
  · exact Keeps.pure _

/-- To look up what a section is over keeps every stable relation. -/
theorem subject (stable : Stable R) (host : Host σ) (scene : Scene) (name : Text) :
    Keeps R (scene.subject host name) :=
  -- The value is looked up, and its items are counted without a session.
  bind (lookup stable host scene.scope name) fun _ => ofExcept _

/-- To escape a value keeps every stable relation. -/
theorem escape (stable : Stable R) (host : Host σ) (scene : Scene) (value : Value) :
    Keeps R (scene.escape host value) := by
  -- What escapes is nothing, the function of the library, or another value.
  unfold Scene.escape
  split
  · exact bind (ofExcept _) fun shown => Keeps.pure _
  · exact bind (ofExcept _) fun shown => Keeps.pure _
  · -- Another escape than that of HTML is called.
    refine bind (callValue stable host _ _) fun escaped => ?_
    split <;> exact Keeps.pure _

/-- To write the value of a name keeps every stable relation. -/
theorem writeVariable (stable : Stable R) (host : Host σ) (scene : Scene) (escaped : Bool)
    (path : Text) : Keeps R (scene.writeVariable host escaped path) := by
  refine bind (interpolated stable host scene path) fun found => ?_
  -- A name that stands for nothing is written as nothing.
  split
  · exact Keeps.pure _
  · -- The value is written as it is when its turn comes.
    refine bind (settled stable _) fun value => ?_
    split
    · exact bind (escape stable host scene value) fun chunk => Keeps.pure _
    · exact bind (ofExcept _) fun shown => Keeps.pure _

/-- To write what a section function gives keeps a relation that nested renderings keep. -/
theorem writeApplied (stable : Stable R) (nests : nested.Keeping R host kind)
    (holds : scene.partials.Holds kind host) (f : Function) (part : Text → Except Failure Text) :
    Keeps R (scene.writeApplied host nested f part) := by
  unfold Scene.writeApplied
  -- Without a source the function cannot be given its text.
  split
  · exact Keeps.throw _
  · have counted : Profile.Neutral (·.addSectionCall) := fun _ => ⟨rfl, rfl⟩
    refine bind (account stable counted) fun _ => bind (ofExcept _) fun inside => ?_
    -- The function may ask for any template to be rendered.
    refine bind (Tracks.apply stable host (nests.render holds) f inside).keeps fun given => ?_
    split
    · exact Keeps.pure _
    · exact bind (settled stable _) fun value => bind (ofExcept _) fun shown => Keeps.pure _

/-- To look for a template keeps every stable relation. -/
theorem template (stable : Stable R) (host : Host σ) (scene : Scene) (name : Value) :
    Keeps R (scene.template host name) := by
  refine bind (opened stable _) fun partials => ?_
  -- What there is to look in decides how the template is looked for.
  split
  · exact Keeps.pure _
  · exact call stable host _ _
  · exact Keeps.throw _
  · exact ofExcept _
  · split
    · exact callValue stable host _ _
    · exact Keeps.throw _

end Scenes

end Keeps

namespace Tracks

section Inclusions

variable {host : Host σ} {kind : Value → Prop} {nested nested' : Nested σ} {scene scene' : Scene}

/-- Inclusions track each other where what is included does. -/
theorem writeInclusion (stable : Stable R) (same : scene'.partials = scene.partials)
    (holds : scene.partials.Holds kind host) (name : Value) {indent : Value → Render σ Value}
    (indents : ∀ template, kind template → Keeps R (indent template))
    (indented : ∀ template, kind template → Gives (indent template) kind)
    (includes : ∀ template, kind template →
      Tracks R (nested.inclusion scene template) (nested'.inclusion scene' template)) :
    Tracks R (scene.writeInclusion host nested name indent)
      (scene'.writeInclusion host nested' name indent) := by
  -- The two scenes have the same partials, and so they find the same template.
  have looked : scene'.template host name = scene.template host name := by
    rw [Scene.template, Scene.template, same]
  unfold Scene.writeInclusion
  rw [looked]
  refine bind_of_gives (Keeps.template stable host scene name) (holds scene rfl name)
    fun found known => ?_
  -- There may be no template, and one that there is may be indented.
  have missing : Profile.Neutral (·.addMissing name.display) := fun _ => ⟨rfl, rfl⟩
  split
  · exact bind (Keeps.report stable rfl) fun _ =>
      bind (Keeps.account stable missing) fun _ => Keeps.pure _
  · rename_i present
    have known := known.resolve_left present
    exact bind_of_gives (indents _ known) (indented _ known) includes

end Inclusions

section Sections

variable {write write' : Value → Render σ (List Chunk)}

/-- Items that are written in turn track each other where any of them does. -/
theorem writeEach (writes : ∀ item, Tracks R (write item) (write' item)) (items : List Value) :
    Tracks R (Mustache.writeEach items write) (Mustache.writeEach items write') := by
  -- The induction is on the items, which are the same on both sides.
  induction items with
  | nil => exact Keeps.pure _
  | cons item rest ih =>
    exact bind (writes item) fun first => bind ih fun others => Keeps.pure _

/-- The items of a shared list that are written in turn track each other where any of them does. -/
theorem writeShared (stable : Stable R) (writes : ∀ item, Tracks R (write item) (write' item))
    (id : Nat) (place : Nat) (items : List Value) :
    Tracks R (Mustache.writeShared id write place items)
      (Mustache.writeShared id write' place items) := by
  -- The induction is on the items; what is written into the list meanwhile is on the stage.
  induction items generalizing place with
  | nil => exact Keeps.pure _
  | cons item rest ih =>
    -- What was written into the list until now is the same in both sessions.
    refine read stable (fun s s' same => ?_) fun s => ?_
    · rw [show s.edits = s'.edits from congrArg Stage.edits same]
    · exact bind (writes _) fun first => bind (ih (place + 1)) fun others => Keeps.pure _

/-- The items that a stream hands out track each other where any of them does. -/
theorem writeStream (stable : Stable R) (writes : ∀ item, Tracks R (write item) (write' item))
    (id : Nat) (items : List Value) (most : Nat) :
    Tracks R (Mustache.writeStream id items write most)
      (Mustache.writeStream id items write' most) := by
  -- The induction is on how many items are left at most.
  induction most with
  | zero => exact Keeps.pure _
  | succ most ih =>
    -- The stream hands out the same item in both sessions, or none.
    refine bind (Keeps.next? stable id items) fun found => ?_
    cases found with
    | none => exact Keeps.pure _
    | some item => exact bind (writes item) fun first => bind ih fun others => Keeps.pure _

/-- Integers in equal steps that are written track each other where any of them does. -/
theorem writeSteps (writes : ∀ item, Tracks R (write item) (write' item)) (start step : Int)
    (count : Nat) :
    Tracks R (Mustache.writeSteps start step write count)
      (Mustache.writeSteps start step write' count) := by
  -- The induction is on the number of steps left.
  induction count generalizing start with
  | zero => exact Keeps.pure _
  | succ count ih =>
    exact bind (writes _) fun first => bind (ih (start + step)) fun others => Keeps.pure _

/-- Sections track each other where what is inside does, here and over any item. -/
theorem writeSection (stable : Stable R) (value : Value) {scene scene' : Scene}
    {inside inside' : Scene → Render σ (List Chunk)}
    {applied applied' : Function → Render σ (List Chunk)}
    (here : Tracks R (inside scene) (inside' scene'))
    (pushed : ∀ item, Tracks R (inside (scene.push item)) (inside' (scene'.push item)))
    (applies : ∀ f, Tracks R (applied f) (applied' f)) :
    Tracks R (scene.writeSection value inside applied)
      (scene'.writeSection value inside' applied') := by
  -- What is inside is written in a scope of its own for each item.
  have writes (item : Value) : Tracks R (Render.inNewScope (inside (scene.push item)))
      (Render.inNewScope (inside' (scene'.push item))) := inNewScope stable (pushed item)
  -- The value decides how often, and in which scopes, the same on both sides.
  unfold Scene.writeSection
  split
  · exact Keeps.pure _
  · split
    · exact writeStream stable writes _ _ _
    · exact writeSteps writes _ _ _
    · exact applies _
    · exact here
    · exact writeShared stable writes _ 0 _
    · split
      · exact writeEach writes _
      · exact writes _

end Sections

end Tracks

namespace Keeps

section Trees

variable {host : Host σ} {kind : Value → Prop} {nested : Nested σ}

/-- To indent a template of a kind keeps a relation that such templates keep. -/
theorem indented (templates : KeepsTemplates R host kind) (line : LinePrefix) {template : Value}
    (known : kind template) : Keeps R (Scene.indented host line template) := by
  -- The template is indented or taken as it is.
  unfold Scene.indented
  split
  · exact templates.indent known _ _
  · exact Keeps.pure _

/-- A template of a kind is still of that kind when it is indented. -/
theorem indented_gives (templates : KeepsTemplates R host kind) (line : LinePrefix)
    {template : Value} (known : kind template) :
    Gives (Scene.indented host line template) kind := by
  -- A tag that asks for no margin leaves the template as it is.
  unfold Scene.indented
  split
  · exact templates.indent_gives known _ _
  · intro s after value gives
    cases gives
    exact known

mutual

/-- To write a token keeps a relation that nested renderings keep. -/
theorem writeToken (stable : Stable R) (templates : KeepsTemplates R host kind)
    (nests : nested.Keeping R host kind) {scene : Scene}
    (holds : scene.partials.Holds kind host) (token : Token) :
    Keeps R (Token.write host nested scene token) := by
  -- The cases are the kinds of tokens; only inclusions and sections render anything else.
  match token with
  | .text value span => exact Keeps.pure _
  | .variable escaped path span => exact writeVariable stable host scene escaped path
  | .comment body span => exact Keeps.pure _
  | .switch pair span => exact Keeps.pure _
  | .inclusion name span line =>
    exact Tracks.writeInclusion stable rfl holds _ (fun _ => indented templates line)
      (fun _ => indented_gives templates line) fun _ => nests.inclusion holds
  | .block inverted name span children closeStart =>
    refine bind (subject stable host scene name) fun value => ?_
    split
    · split
      · exact writeTokens stable templates nests holds children
      · exact Keeps.pure _
    · -- The children are written with the same partials, over whatever value.
      have pushed (item : Value) : (scene.push item).partials.Holds kind host := holds
      exact Tracks.writeSection stable value (writeTokens stable templates nests holds children)
        (fun item => writeTokens stable templates nests (pushed item) children)
        fun f => writeApplied stable nests holds f _

/-- To write a row of tokens keeps a relation that nested renderings keep. -/
theorem writeTokens (stable : Stable R) (templates : KeepsTemplates R host kind)
    (nests : nested.Keeping R host kind) {scene : Scene}
    (holds : scene.partials.Holds kind host) (tokens : List Token) :
    Keeps R (Token.writeAll host nested scene tokens) := by
  -- The first token is written, and then the others are.
  cases tokens with
  | nil => exact Keeps.pure _
  | cons token tokens =>
    exact bind (writeToken stable templates nests holds token) fun first =>
      bind (writeTokens stable templates nests holds tokens) fun others => Keeps.pure _

end

end Trees

end Keeps

end Mustache
