import Mustache.Config
import Mustache.Indentation.Value
import Mustache.Lookup
import Mustache.Value.Key

/-! What a single tag writes, given how the templates inside other templates are rendered. -/

namespace Mustache

variable {σ : Type}

/-- A part of the output. -/
inductive Chunk where
  /-- The text of a template. -/
  | literal (t : Text)
  /-- What the value of a name or a section function gave. -/
  | value (t : Text)
  /-- What an escape gave that is no text. -/
  | foreign
  deriving DecidableEq, Repr

namespace Chunk

/-- The text of some parts together, if all of them are texts. -/
def joinAll : List Chunk → Option Text
  | [] => some []
  | .literal t :: rest => (joinAll rest).map (t ++ ·)
  | .value t :: rest => (joinAll rest).map (t ++ ·)
  | .foreign :: _ => none

end Chunk

/-- What holds throughout one template. -/
structure Scene where
  /-- The values in which names are looked up. -/
  scope : Scope
  /-- The other templates, by name. -/
  partials : Value
  /-- The configuration. -/
  config : Config
  /-- The source of the template, if it is known. -/
  source : Option Text

/-- The scene inside a section over a value. -/
def Scene.push (scene : Scene) (view : Value) : Scene :=
  { scene with scope := scene.scope.push view }

/-- How templates inside other templates are rendered. -/
structure Nested (σ : Type) where
  /-- Write the tokens of a template that is included in a scene. -/
  inclusion : Scene → Value → Render σ (List Chunk)
  /-- Render a template on its own, with what holds in a scene. -/
  render : Scene → Value → Render σ Text

namespace Script

/-- Let a section function do its work, rendering templates as it asks for them. -/
def run (render : Value → Render σ Text) : Script σ → Render σ Value
  | .value result state => fun s => some (.ok result, { s with host := state })
  | .raise message state => fun s => some (.error (.raised message), { s with host := state })
  | .render template state catches resume => fun s =>
    match render template { s with host := state, journal := .asked template :: s.journal } with
    | none => none
    | some (result, after) =>
      let told := { after with journal := .answered result :: after.journal }
      match result with
      | .ok _ => run render (resume result told.host) told
      | .error failure =>
        if catches failure then run render (resume result told.host) told
        else some (.error failure, told)

end Script

/-- Call a section function with the source of its section. -/
def Function.apply (host : Host σ) (render : Value → Render σ Text) (f : Function)
    (source : Text) : Render σ Value := do
  match f with
  | .html => f.refuse 2
  | .hosted id _ _ _ =>
    f.checkCount 2
    Render.report (.applied f source)
    (host.script id source (← get).host).run render

namespace Scene

/-- The value that a name stands for when it is written: a function is called for it. -/
def interpolated (host : Host σ) (scene : Scene) (path : Text) : Render σ Value := do
  match ← scene.scope.lookup host path with
  | .function f => f.call host .variable
  | value => pure value

/-- The value that a section is over, whose items can be counted if it is a collection. -/
def subject (host : Host σ) (scene : Scene) (name : Text) : Render σ Value := do
  let value ← scene.scope.lookup host name
  Render.ofExcept value.counted

/-- A value as HTML; a number is written as it is. -/
def escapedText (value : Value) : Except Failure Text :=
  match value with
  | .int _ => value.shown
  | .float _ => value.shown
  | other => other.shown.map Html.escape

/-- A value as the escape of the configuration gives it. -/
def escape (host : Host σ) (scene : Scene) (value : Value) : Render σ Chunk := do
  match scene.config.escape with
  | .null => return .value (← Render.ofExcept (escapedText value))
  | .function .html => return .value (← Render.ofExcept (escapedText value))
  | custom =>
    match ← custom.call host (.escape value) with
    | .text t => pure (.value t)
    | _ => pure .foreign

/-- What a name writes. -/
def writeVariable (host : Host σ) (scene : Scene) (escaped : Bool) (path : Text) :
    Render σ (List Chunk) := do
  match ← scene.interpolated host path with
  | .null => pure []
  | found =>
    let value ← Render.settled found
    if escaped then
      let chunk ← scene.escape host value
      pure [chunk]
    else
      let shown ← Render.ofExcept value.shown
      pure [.value shown]

/-- What a section writes whose value is a function, given which part of the source is its own. -/
def writeApplied (host : Host σ) (nested : Nested σ) (scene : Scene) (f : Function)
    (part : Text → Except Failure Text) : Render σ (List Chunk) := do
  match scene.source with
  | none => throw .missingSource
  | some source =>
    Render.account (·.addSectionCall)
    let inside ← Render.ofExcept (part source)
    match ← f.apply host (nested.render scene) inside with
    | .null => pure []
    | result =>
      let value ← Render.settled result
      let shown ← Render.ofExcept value.shown
      pure [.value shown]

/-- The template that some entries hold under a name, or null if there is none. -/
def templateIn (entries : List (Value × Value)) (name : Value) : Except Failure Value :=
  match name with
  | .text t => .ok ((Value.named? entries t).getD .null)
  | other =>
    if other.canBeKey then .ok ((Value.lookup? entries other).getD .null) else .error .notKey

/-- The template of a name, or null if there is none. -/
def template (host : Host σ) (scene : Scene) (name : Value) : Render σ Value := do
  match ← Render.opened scene.partials with
  | .null => pure .null
  | .function f => f.call host (.load name)
  | .kind _ _ => throw .notCallable
  | .mapping entries => .ofExcept (templateIn entries name)
  | other =>
    -- An object may have a way of its own to look up a template.
    match Value.find? other.attributes (.ofString "get") with
    | some way => way.call host (.load name)
    | none => throw .noTemplates

/-- A template as it is included behind a line prefix: indented if its tag is the first there. -/
def indented (host : Host σ) (line : LinePrefix) (template : Value) : Render σ Value :=
  if line.tagIndex = 0 ∧ line.indentation ≠ [] then
    Indentation.indentValue host template (.text line.indentation) line.hasText
  else pure template

/-- What the template of a name writes, given how it is indented. -/
def writeInclusion (host : Host σ) (nested : Nested σ) (scene : Scene) (name : Value)
    (indent : Value → Render σ Value) : Render σ (List Chunk) := do
  match ← scene.template host name with
  | .null =>
    Render.report (.noted (.missingTemplate name))
    Render.account (·.addMissing name.display)
    pure []
  | template => nested.inclusion scene (← indent template)

end Scene

end Mustache
