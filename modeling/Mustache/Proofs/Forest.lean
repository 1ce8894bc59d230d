import Mustache.Proofs.TagForm
import Mustache.Proofs.Unlined

/-!
Templates as they are written: a forest of texts, tags and sections between default delimiters.

Writing a forest gives its text, and beside it the pieces and the token tree that belong to it.
-/

namespace Mustache

/-- The blanks in a tag. -/
structure Padding where
  /-- The blanks behind the opening delimiter. -/
  lead : Text := []
  /-- The blanks behind the mark. -/
  gap : Text := []
  /-- The blanks behind the body. -/
  trail : Text := []
  /-- There is nothing but blanks. -/
  blank : lead.Blank ∧ gap.Blank ∧ trail.Blank := by decide

/-- What is written in a template. -/
inductive Node where
  /-- A text. -/
  | text (value : Text)
  /-- A tag that neither opens nor closes a section. -/
  | tag (sigil : Sigil) (body : Text) (padding : Padding)
  /-- A section, inverted or not, with the blanks in its opening and in its closing tag. -/
  | block (inverted : Bool) (name : Text) (opening closing : Padding) (children : List Node)

/-- The tag that opens a section, inverted or not. -/
def Sigil.ofInverted (inverted : Bool) : Sigil := if inverted then .inverter else .opener

/-- What stands behind the body of a tag: a brace where there is one in front. -/
def Sigil.ending : Sigil → Text
  | .brace => ['\x7d']
  | _ => []

/-- A tag as it is written between the default delimiters. -/
def Sigil.written (sigil : Sigil) (body : Text) (padding : Padding) : Text :=
  Delimiters.default.opening ++ (padding.lead ++ (sigil.mark ++ (padding.gap
    ++ (body ++ (padding.trail ++ (sigil.ending ++ Delimiters.default.closing))))))

namespace Node

/-- Whether a node is a text. -/
def isText : Node → Bool
  | .text _ => true
  | _ => false

mutual

/-- A node as it is written. -/
def written : Node → Text
  | .text value => value
  | .tag sigil body padding => sigil.written body padding
  | .block inverted name opening closing children =>
    (Sigil.ofInverted inverted).written name opening ++ writtenAll children
      ++ Sigil.closer.written name closing

/-- The text of a forest. -/
def writtenAll : List Node → Text
  | [] => []
  | node :: nodes => node.written ++ writtenAll nodes

end

mutual

/-- The pieces of a node that is written at an offset. -/
def pieces (offset : Nat) : Node → List Piece
  | .text value => Piece.ofText offset value
  | .tag sigil body padding =>
    [.tag ⟨sigil, body, offset, offset + (sigil.written body padding).length⟩]
  | .block inverted name opening closing children =>
    let inside := offset + ((Sigil.ofInverted inverted).written name opening).length
    let close := inside + (writtenAll children).length
    .tag ⟨Sigil.ofInverted inverted, name, offset, inside⟩ :: piecesAll inside children
      ++ [.tag ⟨.closer, name, close, close + (Sigil.closer.written name closing).length⟩]

/-- The pieces of a forest that is written at an offset. -/
def piecesAll (offset : Nat) : List Node → List Piece
  | [] => []
  | node :: nodes => node.pieces offset ++ piecesAll (offset + node.written.length) nodes

end

/-- The token of a tag that neither opens nor closes a section, and is no change of delimiters. -/
def leaf (sigil : Sigil) (body : Text) (span : Span) : Token :=
  match sigil with
  | .plain => .variable true body span
  | .inclusion => .inclusion body span {}
  | .comment => .comment body span
  | _ => .variable false body span

mutual

/-- The token of a node that is written at an offset. -/
def token (offset : Nat) : Node → Token
  | .text value => .text value ⟨offset, ↑(offset + value.length)⟩
  | .tag sigil body padding =>
    leaf sigil body ⟨offset, ↑(offset + (sigil.written body padding).length)⟩
  | .block inverted name opening _ children =>
    let inside := offset + ((Sigil.ofInverted inverted).written name opening).length
    .block inverted name ⟨offset, inside⟩ (tokensAll inside children)
      ↑(inside + (writtenAll children).length)

/-- The token tree of a forest that is written at an offset. -/
def tokensAll (offset : Nat) : List Node → List Token
  | [] => []
  | node :: nodes => node.token offset :: tokensAll (offset + node.written.length) nodes

end

/-- A sigil of a tag that may stand in a forest by itself. -/
def Single : Sigil → Prop
  | .plain | .ampersand | .brace | .inclusion | .comment => True
  | _ => False

instance : DecidablePred Single
  | .plain | .ampersand | .brace | .inclusion | .comment => .isTrue trivial
  | .opener | .inverter | .closer | .switch => .isFalse id

/-- A body that a tag with a sigil may have. -/
structure Fits (sigil : Sigil) (body : Text) : Prop where
  /-- There is no brace in it. -/
  braceless : '\x7b' ∉ body ∧ '\x7d' ∉ body
  /-- It does not begin with a blank. -/
  first : ∀ c ∈ body.head?, Text.isBlank c = false
  /-- It does not end with a blank. -/
  last : ∀ c ∈ body.getLast?, Text.isBlank c = false
  /-- Without a mark in front it does not begin like one. -/
  unmarked : sigil = .plain → ∀ c ∈ body.head?, c ∉ Pattern.sigils

instance (sigil : Sigil) (body : Text) : Decidable (Fits sigil body) :=
  decidable_of_iff (('\x7b' ∉ body ∧ '\x7d' ∉ body) ∧ body.head?.all (!Text.isBlank ·)
      ∧ body.getLast?.all (!Text.isBlank ·) ∧ (sigil = .plain → body.head?.all (· ∉ Pattern.sigils)))
    ⟨fun ⟨braceless, first, last, unmarked⟩ => ⟨braceless, by simpa [Option.all_eq_true] using first,
        by simpa [Option.all_eq_true] using last, by simpa [Option.all_eq_true] using unmarked⟩,
      fun fits => ⟨fits.braceless, by simpa [Option.all_eq_true] using fits.first,
        by simpa [Option.all_eq_true] using fits.last,
        by simpa [Option.all_eq_true] using fits.unmarked⟩⟩

mutual

/-- A node that is written as it should be. -/
def Proper : Node → Prop
  | .text value => value ≠ [] ∧ ¬ ['\x7b', '\x7b'] <:+: value ∧ value.getLast? ≠ some '\x7b'
  | .tag sigil body _ => Single sigil ∧ Fits sigil body
  | .block inverted name _ _ children => Fits (Sigil.ofInverted inverted) name ∧ ProperAll children

/-- A forest that is written as it should be, with no text next to another one. -/
def ProperAll : List Node → Prop
  | [] => True
  | node :: nodes =>
    node.Proper ∧ (node.isText = true → ∀ next ∈ nodes.head?, next.isText = false)
      ∧ ProperAll nodes

end

mutual

/-- Whether a node is written as it should be can be decided. -/
def decideProper : (node : Node) → Decidable node.Proper
  | .text _ => inferInstanceAs (Decidable (_ ∧ _ ∧ _))
  | .tag _ _ _ => inferInstanceAs (Decidable (_ ∧ _))
  | .block inverted name _ _ children =>
    have := decideProperAll children
    inferInstanceAs (Decidable (Fits (.ofInverted inverted) name ∧ ProperAll children))

/-- Whether a forest is written as it should be can be decided. -/
def decideProperAll : (nodes : List Node) → Decidable (ProperAll nodes)
  | [] => .isTrue trivial
  | node :: nodes =>
    have := decideProper node
    have := decideProperAll nodes
    inferInstanceAs (Decidable (_ ∧ _ ∧ ProperAll nodes))

end

instance (nodes : List Node) : Decidable (ProperAll nodes) := decideProperAll nodes

/-- Every line with a tag also has something that shows: a character or a tag that writes a value. -/
def LinesShow (nodes : List Node) : Prop :=
  ∀ line ∈ Piece.lines (piecesAll 0 nodes), line.any Piece.isTag = true →
    ∃ piece ∈ line, piece.isSilent = false

instance (nodes : List Node) : Decidable (LinesShow nodes) :=
  inferInstanceAs (Decidable (∀ line ∈ _, _ → _))

end Node

end Mustache
