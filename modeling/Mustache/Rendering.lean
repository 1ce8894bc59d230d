import Mustache.Request
import Mustache.Scene

/-!
Rendering of token trees.

The walk over one template is by recursion on its tokens.
Included templates and the texts that section functions render are nested renderings, and how deep
these may be nested is bounded.
-/

namespace Mustache

variable {σ : Type}

/-- Do something for each item in turn, and put together what it writes. -/
def writeEach (items : List Value) (write : Value → Render σ (List Chunk)) :
    Render σ (List Chunk) :=
  match items with
  | [] => pure []
  | item :: rest => do
    let first ← write item
    let others ← writeEach rest write
    pure (first ++ others)

/--
Do something for each item of a shared list from a place on, and put together what it writes.

Each item is taken as it is when its turn comes, since what is being done may write into the list.
-/
def writeShared (id : Nat) (write : Value → Render σ (List Chunk)) :
    Nat → List Value → Render σ (List Chunk)
  | _, [] => pure []
  | place, item :: rest => do
    let first ← write (((← get).edits id).itemAt place item)
    let others ← writeShared id write (place + 1) rest
    pure (first ++ others)

/--
Do something for each item that a stream hands out, and put together what it writes.

There are at most as many as the stream ever had, since what is being done may take items too.
-/
def writeStream (id : Nat) (items : List Value) (write : Value → Render σ (List Chunk)) :
    Nat → Render σ (List Chunk)
  | 0 => pure []
  | most + 1 => do
    match ← Render.next? id items with
    | none => pure []
    | some item =>
      let first ← write item
      let others ← writeStream id items write most
      pure (first ++ others)

/--
Do something for so many integers in equal steps from a start on, and put together what it writes.

The integers of a range are not listed beforehand, since there may be more than could be.
-/
def writeSteps (start step : Int) (write : Value → Render σ (List Chunk)) :
    Nat → Render σ (List Chunk)
  | 0 => pure []
  | count + 1 => do
    let first ← write (.int start)
    let others ← writeSteps (start + step) step write count
    pure (first ++ others)

/-- What a section writes over a value, given what it writes inside a scene and for a function. -/
def Scene.writeSection (scene : Scene) (value : Value) (inside : Scene → Render σ (List Chunk))
    (applied : Function → Render σ (List Chunk)) : Render σ (List Chunk) :=
  let within := fun item => Render.inNewScope (inside (scene.push item))
  if value.isFalsy then pure []
  else
    match value with
    | .stream id items => writeStream id items within items.length
    | .range start stop step => writeSteps start step within (Value.rangeLength start stop step)
    | .function f => applied f
    | .bool _ => inside scene
    | .shared id (.list items) => writeShared id within 0 items
    | single =>
      match single.collection? with
      | some items => writeEach items within
      | none => within single

mutual

/-- What a token writes. -/
def Token.write (host : Host σ) (nested : Nested σ) (scene : Scene) :
    Token → Render σ (List Chunk)
  | .text value _ => pure [.literal value]
  | .variable escaped path _ => scene.writeVariable host escaped path
  | .comment _ _ => pure []
  | .switch _ _ => pure []
  | .inclusion name _ line =>
    scene.writeInclusion host nested (.text name) (Scene.indented host line)
  | .block inverted name span children closeStart => do
    let value ← scene.subject host name
    if inverted then
      if value.isFalsy then Token.writeAll host nested scene children else pure []
    else
      scene.writeSection value (fun inner => Token.writeAll host nested inner children)
        fun f => scene.writeApplied host nested f fun source =>
          .ok (Text.slice source span.stop closeStart)

/-- What a row of tokens writes. -/
def Token.writeAll (host : Host σ) (nested : Nested σ) (scene : Scene) :
    List Token → Render σ (List Chunk)
  | [] => pure []
  | token :: tokens => do
    let first ← Token.write host nested scene token
    let others ← Token.writeAll host nested scene tokens
    pure (first ++ others)

end

/-- The text of some parts of the output, all of which have to be texts. -/
def Chunk.output (chunks : List Chunk) : Except Failure Text :=
  match Chunk.joinAll chunks with
  | some output => .ok output
  | none => .error .notText

/-- The output of some tokens in a scene. -/
def Scene.render (host : Host σ) (nested : Nested σ) (scene : Scene) (tokens : List Token) :
    Render σ Text := do
  let chunks ← Token.writeAll host nested scene tokens
  .ofExcept (Chunk.output chunks)

/-- The output of a template, which has to be a text, with what holds in a scene. -/
def Scene.renderTemplate (host : Host σ) (nested : Nested σ) (scene : Scene) (template : Value) :
    Render σ Text := do
  match template with
  | .text source =>
    let tokens ← Template.request template scene.config.delimiters
    let output ← Render.inTemplate source
      (Scene.render host nested { scene with source := some source } tokens)
    Render.account (·.addRender output.length)
    pure output
  | other => throw (.invalidTemplate other.typeName)

/-- What a template writes that is included in a scene. -/
def Scene.includeTemplate (host : Host σ) (nested : Nested σ) (scene : Scene) (template : Value) :
    Render σ (List Chunk) := do
  let tokens ← Template.request template scene.config.delimiters
  match template with
  | .text source =>
    Render.inTemplate source
      (Token.writeAll host nested { scene with source := some source } tokens)
  | _ => Token.writeAll host nested { scene with source := none } tokens

/-- How templates inside other templates are rendered when they may be nested so many times. -/
def Nested.upTo (host : Host σ) : Nat → Nested σ
  | 0 => ⟨fun _ _ => .tooDeep, fun _ _ => .tooDeep⟩
  | depth + 1 =>
    { inclusion := Scene.includeTemplate host (Nested.upTo host depth)
      render := Scene.renderTemplate host (Nested.upTo host depth) }

end Mustache
