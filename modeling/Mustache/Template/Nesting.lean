import Mustache.Template.Line

/-! Sections: whether their tags match, and the tree that they make. -/

namespace Mustache

namespace Piece

/--
The opening tags that are still open after a row of pieces, the innermost first.

Closing tags have to name the innermost open section; the first one that does not is a fault.
-/
def openAfter : List Tag → List Piece → Except Fault (List Tag)
  | stack, [] => .ok stack
  | stack, .char _ _ :: rest => openAfter stack rest
  | stack, .tag t :: rest =>
    match t.sigil, stack with
    | .opener, _ => openAfter (t :: stack) rest
    | .inverter, _ => openAfter (t :: stack) rest
    | .closer, [] => .error (.unopenedSection t.body t.start)
    | .closer, innermost :: outer =>
      if innermost.body = t.body then openAfter outer rest
      else .error (.unclosedSection innermost.body t.start)
    | _, _ => openAfter stack rest

end Piece

/-- A section whose closing tag has not come yet. -/
structure Frame where
  /-- Whether the section is inverted. -/
  inverted : Bool
  /-- The name of the section. -/
  name : Text
  /-- The offsets of its opening tag. -/
  span : Span
  /-- The tokens before the section among its siblings, the last first. -/
  before : List Token

/-- The tokens that were complete before the outermost of some open sections, the last first. -/
def Frame.outermost : List Frame → List Token → List Token
  | [], siblings => siblings
  | frame :: frames, _ => outermost frames frame.before

/--
The tree of the elements to come, inside some open sections.

The tokens already complete inside the innermost section are given with the last first.
A closing tag outside all sections is passed over, and a section that is never closed is left out
with its children; neither happens where the tags match.
-/
def Flat.nestInside (frames : List Frame) (siblings : List Token) : List Flat → List Token
  | [] => (Frame.outermost frames siblings).reverse
  | .leaf token :: rest => nestInside frames (token :: siblings) rest
  | .opening inverted name span :: rest =>
    nestInside (⟨inverted, name, span, siblings⟩ :: frames) [] rest
  | .closing _ start :: rest =>
    match frames with
    | [] => nestInside [] siblings rest
    | frame :: outer =>
      let closed := Token.block frame.inverted frame.name frame.span siblings.reverse start
      nestInside outer (closed :: frame.before) rest

/-- The tree of a row of elements. -/
def Flat.nest (flats : List Flat) : List Token := nestInside [] [] flats

mutual

/-- The elements of a token: a section is its opening tag, its children and its closing tag. -/
def Token.flatten : Token → List Flat
  | .block inverted name span children closeStart =>
    .opening inverted name span :: flattenAll children ++ [.closing name closeStart]
  | token => [.leaf token]

/-- The elements of a row of tokens. -/
def Token.flattenAll : List Token → List Flat
  | [] => []
  | token :: tokens => token.flatten ++ flattenAll tokens

end

end Mustache
