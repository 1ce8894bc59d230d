import Mustache.Value.Key

/-!
Lists and mappings that several places share, and what becomes of them when lines are written back.

The texts written into one are kept apart from it, by place, in the order in which the places were
first written.
-/

namespace Mustache

/-- The texts written into a shared list or mapping, by place. -/
abbrev Edits := List (Nat × Text)

namespace Edits

/-- The edits after a text is written: a place that was written before keeps its turn. -/
def write (place : Nat) (t : Text) : Edits → Edits
  | [] => [(place, t)]
  | (other, old) :: rest =>
    if other = place then (place, t) :: rest else (other, old) :: write place t rest

/-- The edits after some others. -/
def writeAll (edits later : Edits) : Edits :=
  later.foldl (fun edits edit => edits.write edit.1 edit.2) edits

/-- The item at a place: the text written there, or the item that was there. -/
def itemAt (edits : Edits) (place : Nat) (item : Value) : Value :=
  match edits.lookup place with
  | some t => .text t
  | none => item

end Edits

namespace Value

/-- A list or a mapping after some edits, of which a mapping takes the places as keys. -/
def edited (edits : Edits) (value : Value) : Value :=
  match edits, value with
  | [], _ => value
  | _, .list items => .list (items.mapIdx edits.itemAt)
  | _, .mapping entries =>
    .mapping (edits.foldl (fun entries edit => insert entries (.int edit.1) (.text edit.2)) entries)
  | _, _ => value

mutual

/-- A value with everything in it that is shared as the edits have made it. -/
def settled (edits : Nat → Edits) : Value → Value
  | .list items => .list (settledItems edits items)
  | .tuple items => .tuple (settledItems edits items)
  | .mapping entries => .mapping (settledEntries edits entries)
  | .shared id content => edited (edits id) (settled edits content)
  | other => other

/-- The items of a collection as the edits have made them. -/
def settledItems (edits : Nat → Edits) : List Value → List Value
  | [] => []
  | item :: items => settled edits item :: settledItems edits items

/-- The entries of a mapping as the edits have made them. -/
def settledEntries (edits : Nat → Edits) : List (Value × Value) → List (Value × Value)
  | [] => []
  | (key, value) :: entries => (key, settled edits value) :: settledEntries edits entries

end

/-- Without edits a value stays as it is. -/
theorem edited_nil (value : Value) : edited [] value = value := by
  -- Nothing was written that could take the place of anything.
  rw [edited]

end Value

end Mustache
