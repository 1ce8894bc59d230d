import Mustache.Failure
import Mustache.Scanner
import Mustache.Value.Truth

/-! A scanner over a source of any type, whose place may be set to any integer. -/

namespace Mustache

/-- What is left of a sequence from an index on, which counts from the end when it is negative. -/
def Value.suffix? (value : Value) (start : Int) : Option Value :=
  match value with
  | .text t => some (.text (t.drop (Text.bound t.length start)))
  | .list items => some (.list (items.drop (Text.bound items.length start)))
  | .tuple items => some (.tuple (items.drop (Text.bound items.length start)))
  | .bytes data => some (.bytes (data.drop (Text.bound data.length start)))
  | .buffer data => some (.buffer (data.drop (Text.bound data.length start)))
  | .range first stop step =>
    let length := Value.rangeLength first stop step
    some (.range (first + Text.bound length start * step) (first + length * step) step)
  | _ => none

/-- A source with a length, and a place in it. -/
structure FreeScanner where
  /-- The source, in which forms are found if it is a text. -/
  source : Value
  /-- The number of items of the source. -/
  length : Nat
  /-- The place, which may be outside the source. -/
  pos : Int

namespace FreeScanner

/-- The start of a source, which has to have a length. -/
def ofValue (source : Value) : Except Failure FreeScanner :=
  match source.size? with
  | some length => .ok ⟨source, length, 0⟩
  | none => .error (if source.isUncountable then .uncountable else .notSized)

/-- Whether the place is at the end or past it. -/
def atEnd (s : FreeScanner) : Bool := s.length ≤ s.pos

/-- What is left from the place on; a negative place counts from the end. -/
def tail (s : FreeScanner) : Except Failure Value :=
  match s.source.suffix? s.pos with
  | some tail => .ok tail
  | none => .error .notSliceable

/-- The same source with another place. -/
def seek (s : FreeScanner) (pos : Int) : FreeScanner := { s with pos := pos }

/-- The scanner from which forms are sought: a negative place is before all of them. -/
def sought (s : FreeScanner) : Except Failure Scanner :=
  match s.source with
  | .text t => .ok ((Scanner.ofSource t).seek s.pos.toNat)
  | _ => .error .notText

/-- Read a form of text that stands right here; a negative place moves by the length of it. -/
def scan (s : FreeScanner) (pattern : Pattern) : Except Failure (Text × FreeScanner) := do
  let found := (← s.sought).scan pattern
  .ok (found.1, s.seek (s.pos + found.1.length))

/-- Read up to the first place where a form occurs; a negative place counts from the end. -/
def scanUntil (s : FreeScanner) (pattern : Pattern) : Except Failure (Text × FreeScanner) := do
  let sought ← s.sought
  let found := sought.scanUntil pattern
  .ok (Text.slice sought.source s.pos found.2.pos, s.seek found.2.pos)

/-- The place and the length of the source. -/
def toText (s : FreeScanner) : Text :=
  .ofString "Scanner(pos=" ++ Text.ofInt s.pos ++ .ofString ", len=" ++ Text.ofInt s.length ++ [')']

end FreeScanner

end Mustache
