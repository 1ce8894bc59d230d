import Mustache.Proofs.Sound

/-!
A rendering in which every section has its own text with it.

It does not know the source of the template at hand, and what a cache has for a template is of no
account to it.
-/

namespace Mustache

variable {σ : Type}

/-- What a token is to a rendering in which every section has its own text with it. -/
inductive Owned where
  /-- A text, which is written as it is. -/
  | text (value : Text)
  /-- The value of a name. -/
  | variable (escaped : Bool) (path : Text)
  /-- A token that writes nothing. -/
  | silent
  /-- Another template, which is included. -/
  | inclusion (name : Text) (line : LinePrefix)
  /-- A section with its own text. -/
  | block (inverted : Bool) (name inside : Text) (children : List Owned)

mutual

/-- A token of a source, where each section has the text between its tags with it. -/
def Token.owned (source : Text) : Token → Owned
  | .text value _ => .text value
  | .variable escaped path _ => .variable escaped path
  | .comment _ _ => .silent
  | .switch _ _ => .silent
  | .inclusion name _ line => .inclusion name line
  | .block inverted name span children closeStart =>
    .block inverted name (Text.slice source span.stop closeStart) (ownedAll source children)

/-- The same for a row of tokens. -/
def Token.ownedAll (source : Text) : List Token → List Owned
  | [] => []
  | token :: tokens => token.owned source :: ownedAll source tokens

end

/--
What a section function gives to which the host hands a text.

The function has to take two arguments: the text, and the means to render templates.
-/
def Function.handed (host : Host σ) (render : Value → Render σ Text) (f : Function)
    (inside : Text) : Render σ Value := fun s =>
  match f with
  | .html => some (.error .wrongArity, s.reported (.refused f 2))
  | .hosted id _ _ _ =>
    if f.accepts 2 then
      (host.script id inside s.host).run render (s.reported (.applied f inside))
    else some (.error .wrongArity, s.reported (.refused f 2))

/-- To call a section function with a source is to hand that source to it. -/
theorem Function.apply_eq_handed (host : Host σ) (render : Value → Render σ Text) (f : Function)
    (source : Text) : f.apply host render source = f.handed host render source := by
  funext s
  cases f with
  | html => rfl
  | hosted id className label arity =>
    -- The number of arguments is checked before anything is reported.
    by_cases takes : (hosted id className label arity).accepts 2 = true
    · simp only [apply, handed, checkCount, if_pos takes]
      rfl
    · simp only [apply, handed, checkCount, if_neg takes]
      rfl

/-- What a section function writes that gets a text. -/
def Scene.writeOwn (host : Host σ) (nested : Nested σ) (scene : Scene) (f : Function)
    (inside : Text) : Render σ (List Chunk) := do
  Render.account (·.addSectionCall)
  match ← f.handed host (nested.render scene) inside with
  | .null => pure []
  | result =>
    let value ← Render.settled result
    let shown ← Render.ofExcept value.shown
    pure [.value shown]

mutual

/-- What a token writes, where a section function gets the text that its section has with it. -/
def Owned.write (host : Host σ) (nested : Nested σ) (scene : Scene) : Owned → Render σ (List Chunk)
  | .text value => pure [.literal value]
  | .variable escaped path => scene.writeVariable host escaped path
  | .silent => pure []
  | .inclusion name line =>
    scene.writeInclusion host nested (.text name) (Scene.indented host line)
  | .block inverted name inside children => do
    let value ← scene.subject host name
    if inverted then
      if value.isFalsy then Owned.writeAll host nested scene children else pure []
    else
      scene.writeSection value (fun inner => Owned.writeAll host nested inner children)
        fun f => scene.writeOwn host nested f inside

/-- What a row of tokens writes. -/
def Owned.writeAll (host : Host σ) (nested : Nested σ) (scene : Scene) :
    List Owned → Render σ (List Chunk)
  | [] => pure []
  | token :: tokens => do
    let first ← Owned.write host nested scene token
    let others ← Owned.writeAll host nested scene tokens
    pure (first ++ others)

end

/-- A request for a template, which is parsed anew whatever comes of the request. -/
def Template.requestAnew (template delimiters : Value) : Render σ (List Token) := do
  let pair ← Render.ofExcept (delimitersOf (← Render.settled delimiters))
  let _ ← request template delimiters
  Render.ofExcept (template.parsed pair)

/-- The output of a template whose sections have their own texts with them. -/
def Scene.renderOwned (host : Host σ) (nested : Nested σ) (scene : Scene) (template : Value) :
    Render σ Text := do
  match template with
  | .text source =>
    let tokens ← Template.requestAnew template scene.config.delimiters
    let output ← Render.inTemplate source do
      let chunks ← Owned.writeAll host nested scene (Token.ownedAll source tokens)
      .ofExcept (Chunk.output chunks)
    Render.account (·.addRender output.length)
    pure output
  | other => throw (.invalidTemplate other.typeName)

/-- What an included template writes whose sections have their own texts with them. -/
def Scene.includeOwned (host : Host σ) (nested : Nested σ) (scene : Scene) (template : Value) :
    Render σ (List Chunk) := do
  let tokens ← Template.requestAnew template scene.config.delimiters
  match template with
  | .text source =>
    Render.inTemplate source (Owned.writeAll host nested scene (Token.ownedAll source tokens))
  | _ => pure []

/-- Templates inside other templates whose sections have their own texts with them. -/
def Nested.ownedUpTo (host : Host σ) : Nat → Nested σ
  | 0 => ⟨fun _ _ => .tooDeep, fun _ _ => .tooDeep⟩
  | depth + 1 =>
    { inclusion := Scene.includeOwned host (Nested.ownedUpTo host depth)
      render := Scene.renderOwned host (Nested.ownedUpTo host depth) }

/-- Render a template whose sections have their own texts with them. -/
def Engine.renderOwnedUpTo (depth : Nat) (host : Host σ) (template : Value) (view : View)
    (partials : Value) (setting : Setting) : Render σ Text := do
  match template with
  | .text _ =>
    let config ← Config.ofSetting setting
    view.within fun scope =>
      (Nested.ownedUpTo host depth).render ⟨scope, partials, config, none⟩ template
  | other => throw (.invalidTemplate other.typeName)

end Mustache
