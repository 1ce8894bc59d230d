import Mustache.Pattern

/-! A place in a source text that moves forward over forms of text. -/

namespace Mustache

/-- A source text and a place in it. -/
structure Scanner where
  /-- The text being read. -/
  source : Text
  /-- The number of characters before the place. -/
  pos : Nat
  /-- The characters from the place on. -/
  tail : Text
  /-- What is left is the source without the characters before the place. -/
  tail_eq : tail = source.drop pos

namespace Scanner

/-- The start of a source. -/
def ofSource (source : Text) : Scanner := ⟨source, 0, source, rfl⟩

/-- Whether nothing is left. -/
def atEnd (s : Scanner) : Bool := s.tail.isEmpty

/-- The place at an offset, which may be past the end. -/
def seek (s : Scanner) (pos : Nat) : Scanner := ⟨s.source, pos, s.source.drop pos, rfl⟩

/-- The place some characters further on. -/
def advance (s : Scanner) (count : Nat) : Scanner :=
  ⟨s.source, s.pos + count, s.tail.drop count, by rw [s.tail_eq, List.drop_drop]⟩

/-- Read a form of text that stands right here; without it nothing is read. -/
def scan (s : Scanner) (pattern : Pattern) : Text × Scanner :=
  match pattern.length? s.tail with
  | some length => (s.tail.take length, s.advance length)
  | none => ([], s)

/-- Read up to the first place where a form occurs, or up to the end. -/
def scanUntil (s : Scanner) (pattern : Pattern) : Text × Scanner :=
  match s.tail with
  -- From past the end the place returns to the end.
  | [] => ([], s.seek s.source.length)
  | _ =>
    let count := pattern.distance s.tail
    (s.tail.take count, s.advance count)

end Scanner

end Mustache
