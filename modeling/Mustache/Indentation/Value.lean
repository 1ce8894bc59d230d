import Mustache.Indentation
import Mustache.Session

/-! Indenting templates of any type: texts, and objects that divide themselves into lines. -/

namespace Mustache.Indentation

variable {σ : Type}

/-- A value as a line, which has to be a text. -/
def lineOf (value : Value) : Except Failure Text :=
  match value with
  | .text t => .ok t
  | _ => .error .notText

/-- Values as lines, put together. -/
def joinItems (items : List Value) : Except Failure Text := do
  match ← items.mapM lineOf with
  | [] => .ok []
  | first :: others => .ok (Text.join '\n' first others)

/-- The indented line that takes the place of a line, unless that stays as a vacant one does. -/
def indentedLine? (margin : Text) (continuesText : Bool) (place : Nat) (line : Value) :
    Except Failure (Option Text) :=
  if line.isVacant || (place = 0 && continuesText) then .ok none
  else (lineOf line).map fun t => some (margin ++ t)

/-- How writing at a place fails: lists allow it, and mappings that have the place as a key. -/
def obstacle? (lines : Value) (place : Nat) : Option Failure :=
  match lines with
  | .list _ => none
  | .mapping entries =>
    if (Value.lookup? entries (.int place)).isSome then none else some .changedWhileRead
  | _ => some .notText

/-- The lines that take the places of others from a place on, up to the first failure. -/
def indentItems (lines : Value) (margin : Text) (continuesText : Bool) :
    Nat → List Value → Edits × Option Failure
  | _, [] => ([], none)
  | place, line :: rest =>
    match indentedLine? margin continuesText place line with
    | .error failure => ([], some failure)
    | .ok none => indentItems lines margin continuesText (place + 1) rest
    | .ok (some t) =>
      match obstacle? lines place with
      | some failure => ([(place, t)], some failure)
      | none =>
        let (later, failure) := indentItems lines margin continuesText (place + 1) rest
        ((place, t) :: later, failure)

/-- Take all lines from a stream, which all have to stay as they are. -/
def passStream (id : Nat) (items : List Value) (margin : Text) (continuesText : Bool) :
    Nat → Nat → Render σ Unit
  | _, 0 => pure ()
  | place, most + 1 => do
    match ← Render.next? id items with
    | none => pure ()
    | some line =>
      match indentedLine? margin continuesText place line with
      | .ok none => passStream id items margin continuesText (place + 1) most
      | _ => throw .notText

/-- The lines into which an object divides itself, indented where they stand and put together. -/
def joinDivided (lines : Value) (margin : Text) (continuesText : Bool) : Render σ Text := do
  match ← Render.opened lines with
  | .stream id items =>
    -- To look at the lines of a stream leaves none to be put together.
    passStream id items margin continuesText 0 items.length
    pure []
  | opened =>
    match opened.items? with
    | none => throw .notIterable
    | some items =>
      let (edits, failure) := indentItems opened margin continuesText 0 items
      Render.write lines edits
      match failure with
      | some failure => throw failure
      | none => .ofExcept (joinItems (((opened.edited edits).items?).getD []))

/--
A template of any type with its lines indented by a value of any type.

The indentation has to be a text, which is looked at first.
-/
def indentValue (host : Host σ) (template indentation : Value) (continuesText : Bool) :
    Render σ Value :=
  match indentation, template with
  | .text indentation, .text template => pure (.text (indent template indentation continuesText))
  -- Bytes have lines too, but none that a text could stand before.
  | .text _, .bytes _ => throw .notTemplate
  | .text _, .buffer _ => throw .notTemplate
  | .text indentation, other =>
    -- An object may have a way of its own to divide itself.
    match Value.find? other.attributes (.ofString "split") with
    | some way => do
      let lines ← way.call host (.divide ['\n'])
      let joined ← joinDivided lines (margin indentation) continuesText
      pure (.text joined)
    | none => throw .notIndentable
  | _, _ => throw .notText

end Mustache.Indentation
