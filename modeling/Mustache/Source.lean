import Mustache.Value.Truth

/-! What a parsed template is kept under. -/

namespace Mustache

/-- A value without content that never changes, told apart from others by its kind or its number. -/
inductive Vacancy where
  /-- The empty tuple. -/
  | tuple
  /-- The empty set. -/
  | frozenSet
  /-- Any range without integers, all of which are the same. -/
  | range
  /-- The empty string of bytes. -/
  | bytes
  /-- An object without items. -/
  | object (id : Nat)
  deriving DecidableEq, Repr

/-- What can be parsed and kept: a text, or a value that stands for a template without tokens. -/
inductive Source where
  /-- A text. -/
  | text (t : Text)
  /-- A value without content. -/
  | vacant (kind : Vacancy)
  deriving DecidableEq, Repr

namespace Source

/-- The source that a value is, if it can be parsed and kept. -/
def ofValue? : Value → Option Source
  | .text t => some (.text t)
  | .tuple [] => some (.vacant .tuple)
  | .frozenSet [] => some (.vacant .frozenSet)
  | .range start stop step =>
    if Value.rangeLength start stop step = 0 then some (.vacant .range) else none
  | .bytes [] => some (.vacant .bytes)
  | .object id _ _ _ (some []) => some (.vacant (.object id))
  | _ => none

/-- The length of a source. -/
def length : Source → Nat
  | .text t => t.length
  | .vacant _ => 0

end Source

end Mustache
