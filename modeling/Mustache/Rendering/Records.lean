import Mustache.Json.Value
import Mustache.Rendering
import Mustache.Token.Record

/-!
Rendering of records.

The fields of a record may hold any JSON value, and each is judged only when it is needed.
-/

namespace Mustache.Record

variable {σ : Type}

/-- The path in a field: what cannot be a key fails before what is no text. -/
def pathOf (field : Json) : Except Failure Text :=
  match field with
  | .text t => .ok t
  | .array _ => .error .notKey
  | .object _ => .error .notKey
  | _ => .error .notPath

/-- The end of a slice in a field, which null leaves open; a truth value counts as an integer. -/
def boundOf (field : Json) : Except Failure (Option Int) :=
  match field with
  | .null => .ok none
  | .bool b => .ok (some (if b then 1 else 0))
  | .int n => .ok (some n)
  | _ => .error .notOffset

/-- The part of a source between two fields. -/
def partOf (start stop : Json) (source : Text) : Except Failure Text := do
  let start ← boundOf start
  let stop ← boundOf stop
  .ok (Text.slice source (start.getD 0) (stop.getD source.length))

/-- A template as it is included behind a line prefix in fields. -/
def indented (host : Host σ) (indentation tagIndex hasText : Json) (template : Value) :
    Render σ Value :=
  if tagIndex.toValue.sameNumber (.int 0) && !indentation.toValue.isVacant then
    Indentation.indentValue host template indentation.toValue (!hasText.toValue.isVacant)
  else pure template

mutual

/-- What a record writes. -/
def write (host : Host σ) (nested : Nested σ) (scene : Scene) : Record → Render σ (List Chunk)
  | .text (.text value) _ _ => pure [.literal value]
  | .text _ _ _ => pure [.foreign]
  | .variable escaped path _ _ => do
    let path ← .ofExcept (pathOf path)
    scene.writeVariable host escaped path
  | .comment _ _ _ => pure []
  | .switch _ _ _ => pure []
  | .inclusion name _ _ indentation tagIndex hasText =>
    scene.writeInclusion host nested name.toValue (indented host indentation tagIndex hasText)
  | .block inverted name _ stop children closeStart => do
    let name ← .ofExcept (pathOf name)
    let value ← scene.subject host name
    if inverted then
      if value.isFalsy then writeAll host nested scene children else pure []
    else
      scene.writeSection value (fun inner => writeAll host nested inner children)
        fun f => scene.writeApplied host nested f (partOf stop closeStart)

/-- What a row of records writes. -/
def writeAll (host : Host σ) (nested : Nested σ) (scene : Scene) :
    List Record → Render σ (List Chunk)
  | [] => pure []
  | record :: records => do
    let first ← write host nested scene record
    let others ← writeAll host nested scene records
    pure (first ++ others)

end

/-- The output of some records in a scene. -/
def render (host : Host σ) (nested : Nested σ) (scene : Scene) (records : List Record) :
    Render σ Text := do
  let chunks ← writeAll host nested scene records
  .ofExcept (Chunk.output chunks)

end Mustache.Record
