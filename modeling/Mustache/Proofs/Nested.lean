import Mustache.Template.Nesting

/-! Nesting loses nothing: the elements of the tree are those it was made of, in their order. -/

namespace Mustache

/-- Elements whose closing tags name the open sections, given the names of those from inside out. -/
inductive Flat.Matched : List Text → List Flat → Prop
  /-- All sections are closed at the end. -/
  | nil : Matched [] []
  /-- A token that is no section comes first. -/
  | leaf {names : List Text} {token : Token} {rest : List Flat}
      (single : token.flatten = [.leaf token]) (later : Matched names rest) :
      Matched names (.leaf token :: rest)
  /-- A section is opened. -/
  | opening {names : List Text} {inverted : Bool} {name : Text} {span : Span} {rest : List Flat}
      (later : Matched (name :: names) rest) : Matched names (.opening inverted name span :: rest)
  /-- The innermost open section is closed. -/
  | closing {names : List Text} {name : Text} {start : Int} {rest : List Flat}
      (later : Matched names rest) : Matched (name :: names) (.closing name start :: rest)

namespace Token

/-- The elements of two rows of tokens. -/
theorem flattenAll_append (left right : List Token) :
    flattenAll (left ++ right) = flattenAll left ++ flattenAll right := by
  -- Each token contributes its own elements.
  induction left with
  | nil => rfl
  | cons token left ih => simp only [List.cons_append, flattenAll, ih, List.append_assoc]

/-- The elements of a single token. -/
theorem flattenAll_singleton (token : Token) : flattenAll [token] = token.flatten := by
  -- No other token adds any.
  simp only [flattenAll, List.append_nil]

end Token

namespace Flat

/-- The elements that come before a place inside some open sections. -/
def passed : List Frame → List Token → List Flat
  | [], siblings => Token.flattenAll siblings.reverse
  | frame :: outer, siblings =>
    passed outer frame.before ++ .opening frame.inverted frame.name frame.span
      :: Token.flattenAll siblings.reverse

/-- A token that is complete adds its elements. -/
theorem passed_cons (frames : List Frame) (token : Token) (siblings : List Token) :
    passed frames (token :: siblings) = passed frames siblings ++ token.flatten := by
  -- It is the last one inside the innermost open section.
  cases frames <;>
    simp [passed, Token.flattenAll_append, Token.flattenAll_singleton]

/-- The tree inside some open sections has the elements before the place and those to come. -/
theorem flattenAll_nestInside {flats : List Flat} {names : List Text}
    (matched : Matched names flats) {frames : List Frame} (siblings : List Token)
    (named : frames.map Frame.name = names) :
    Token.flattenAll (nestInside frames siblings flats) = passed frames siblings ++ flats := by
  -- The induction moves one element after the other to those before the place.
  induction matched generalizing frames siblings with
  | nil =>
    obtain rfl := List.map_eq_nil_iff.mp named
    simp [nestInside, Frame.outermost, passed]
  | leaf single _ ih =>
    rw [nestInside, ih _ named, passed_cons, single, List.append_assoc, List.singleton_append]
  | opening _ ih =>
    rw [nestInside, ih [] (by simp [named])]
    simp [passed, Token.flattenAll]
  | closing _ ih =>
    obtain ⟨frame, outer, rfl, rfl, around⟩ := List.map_eq_cons_iff.mp named
    -- The section is complete, and its elements are those that it was made of.
    rw [nestInside, ih _ around, passed_cons]
    simp [passed, Token.flatten]

/-- The elements of the tree of some elements are these elements. -/
theorem flattenAll_nest {flats : List Flat} (matched : Matched [] flats) :
    Token.flattenAll (nest flats) = flats :=
  -- Nothing comes before the first element.
  flattenAll_nestInside matched [] rfl

end Flat

end Mustache
