import Mustache.Proofs.Part
import Mustache.Proofs.Unlined

/-!
Trees up to the blanks of their texts and the places where these stood.

Whether a line is standalone does not show any more, so that the elements are those of the pieces.
-/

namespace Mustache

mutual

/-- A token without the blanks and the offsets of its texts; nothing is left of a blank text. -/
def Token.visible? : Token → Option Token
  | .text value _ =>
    match value.filter (!Text.isBlank ·) with
    | [] => none
    | shown => some (.text shown ⟨0, 0⟩)
  | .block inverted name span children closeStart =>
    some (.block inverted name span (visibleAll children) closeStart)
  | token => some token

/-- Tokens without the blanks and the offsets of their texts. -/
def Token.visibleAll : List Token → List Token
  | [] => []
  | token :: tokens => (visible? token).toList ++ visibleAll tokens

end

/-- An element without the blanks and the offsets of texts. -/
def Flat.visible? : Flat → Option Flat
  | .leaf token => token.visible?.map .leaf
  | flat => some flat

mutual

/-- The elements of a token without blanks. -/
theorem Token.flatten_visible? (token : Token) :
    flattenAll token.visible?.toList = token.flatten.filterMap Flat.visible? := by
  match token with
  | .text value _ =>
    simp only [visible?, flatten, List.filterMap_cons, List.filterMap_nil, Flat.visible?]
    split <;> rfl
  | .variable _ _ _ | .comment _ _ | .switch _ _ | .inclusion _ _ _ => rfl
  | .block _ _ _ children _ =>
    -- The opening and the closing tag stay as they are.
    simp [visible?, flatten, Flat.visible?, Token.flattenAll_visibleAll children, flattenAll]

/-- The elements of a row of tokens without blanks. -/
theorem Token.flattenAll_visibleAll (tokens : List Token) :
    flattenAll (visibleAll tokens) = (flattenAll tokens).filterMap Flat.visible? := by
  -- Texts of blanks are left out of the row, and of the rows inside.
  match tokens with
  | [] => rfl
  | token :: tokens =>
    rw [visibleAll, flattenAll_append, Token.flatten_visible? token,
      Token.flattenAll_visibleAll tokens, flattenAll, List.filterMap_append]

end

namespace Flat

/-- An element that is no text stays, and is none afterwards. -/
theorem visible?_of_noText {flat : Flat} (noText : flat.isText = false) :
    ∃ shown, flat.visible? = some shown ∧ shown.isText = false := by
  -- Only a text may be left out.
  rcases flat with token | _ | _
  · cases token with
    | text _ _ => cases noText
    | _ => exact ⟨_, rfl, rfl⟩
  · exact ⟨_, rfl, rfl⟩
  · exact ⟨_, rfl, rfl⟩

/-- Nothing is left of a blank text. -/
theorem visible?_blank {value : Text} (blank : value.filter (!Text.isBlank ·) = []) (span : Span) :
    visible? (.leaf (.text value span)) = none := by
  -- No character is left of it.
  simp only [visible?, Token.visible?, blank, Option.map_none]

/-- The characters that show are left of a text. -/
theorem visible?_text {value : Text} (shows : value.filter (!Text.isBlank ·) ≠ []) (span : Span) :
    visible? (.leaf (.text value span))
      = some (.leaf (.text (value.filter (!Text.isBlank ·)) ⟨0, 0⟩)) := by
  -- Something of the text shows, so that it is not left out.
  rw [visible?, Token.visible?]
  split
  · next blank => exact absurd blank shows
  · rfl

/-- Elements that begin with no text do so without blanks, too. -/
theorem NoTextFirst.visible {flats : List Flat} (none : NoTextFirst flats) :
    NoTextFirst (flats.filterMap visible?) := by
  cases flats with
  -- With no elements there is no text among them.
  | nil => exact none
  | cons flat rest =>
    -- The first element stays.
    obtain ⟨shown, same, noText⟩ := visible?_of_noText (none flat rfl)
    rw [List.filterMap_cons_some same]
    exact fun flat first => Option.some.inj first ▸ noText

/-- Elements that begin with no text do so up to any of them. -/
theorem NoTextFirst.of_append {front back : List Flat} (none : NoTextFirst (front ++ back)) :
    NoTextFirst front := by
  -- If there are any elements, their first one is that of the whole row.
  cases front with
  | nil => exact noTextFirst_nil
  | cons flat rest => exact none

/-- A blank text adds nothing to what comes behind it, also where that is a text. -/
theorem visible_merge_blank {value : Text} (blank : value.filter (!Text.isBlank ·) = [])
    (span : Span) (rest : List Flat) :
    (merge (.leaf (.text value span) :: rest)).filterMap visible?
      = (merge rest).filterMap visible? := by
  rcases merge_text_cases value span rest with ⟨more, later, others, same, -, whole⟩ | ⟨-, whole⟩
  · rw [whole, same]
    have joined : (value ++ more).filter (!Text.isBlank ·) = more.filter (!Text.isBlank ·) := by
      rw [List.filter_append, blank, List.nil_append]
    -- Of the text behind it the same is left as of both together.
    by_cases blank' : more.filter (!Text.isBlank ·) = []
    · rw [List.filterMap_cons_none (visible?_blank (joined.trans blank') _),
        List.filterMap_cons_none (visible?_blank blank' _)]
    · rw [List.filterMap_cons_some (visible?_text (joined.symm ▸ blank') _),
        List.filterMap_cons_some (visible?_text blank' _), joined]
  · -- No text comes next, and the blank one is left out.
    rw [whole, List.filterMap_cons_none (visible?_blank blank span)]

/-- What shows of a text is put together with what shows of the text behind it, if there is one. -/
theorem visible_merge_text {value : Text} (shows : value.filter (!Text.isBlank ·) ≠ [])
    (span : Span) {rest : List Flat}
    (behind : (merge rest).filterMap visible? = merge (rest.filterMap visible?)) :
    (merge (.leaf (.text value span) :: rest)).filterMap visible?
      = merge (.leaf (.text (value.filter (!Text.isBlank ·)) ⟨0, 0⟩)
        :: rest.filterMap visible?) := by
  rcases merge_text_cases value span rest with
    ⟨more, later, others, same, apart, whole⟩ | ⟨none, whole⟩
  · rw [same] at behind
    rw [whole, List.filterMap_cons_some (visible?_text (by simp [List.filter_append, shows]) _)]
    by_cases blank' : more.filter (!Text.isBlank ·) = []
    · -- No text is left behind the blank one.
      rw [List.filterMap_cons_none (visible?_blank blank' _)] at behind
      rw [merge_text (behind ▸ apart.visible), ← behind, List.filter_append, blank',
        List.append_nil]
    · -- What shows of both is one text.
      rw [List.filterMap_cons_some (visible?_text blank' _)] at behind
      rw [merge, ← behind, List.filter_append]
  · rw [whole, List.filterMap_cons_some (visible?_text shows span),
      merge_text (behind ▸ none.visible), behind]

/-- Blanks may be left out before or after texts are written as one. -/
theorem merge_visible? (flats : List Flat) :
    (merge flats).filterMap visible? = merge (flats.filterMap visible?) := by
  -- The induction is on the elements; one that is no text divides those around it.
  induction flats with
  | nil => rfl
  | cons flat rest ih =>
    cases text : flat.isText with
    | false =>
      obtain ⟨shown, same, noText⟩ := visible?_of_noText text
      rw [merge_cons text, List.filterMap_cons_some same, List.filterMap_cons_some same,
        merge_cons noText, ih]
    | true =>
      -- Nothing is left of a text, or the characters that show.
      obtain ⟨value, span, rfl⟩ := eq_of_isText text
      by_cases blank : value.filter (!Text.isBlank ·) = []
      · rw [List.filterMap_cons_none (visible?_blank blank span), visible_merge_blank blank, ih]
      · rw [List.filterMap_cons_some (visible?_text blank span), visible_merge_text blank span ih]

/-- An element that is no text divides the others as they were before texts were written as one. -/
theorem merge_eq_append_cons {flats before after : List Flat} {flat : Flat}
    (noText : flat.isText = false) (same : merge flats = before ++ flat :: after) :
    ∃ front back, flats = front ++ flat :: back ∧ merge front = before ∧ merge back = after := by
  -- The induction is on the elements; texts are only ever joined in front of the divider.
  induction flats generalizing before with
  | nil => cases before <;> cases same
  | cons first rest ih =>
    cases text : first.isText with
    | false =>
      rw [merge_cons text] at same
      cases before with
      | nil =>
        obtain ⟨rfl, rfl⟩ := List.cons.inj same
        exact ⟨[], rest, rfl, rfl, rfl⟩
      | cons first' before =>
        obtain ⟨rfl, later⟩ := List.cons.inj same
        obtain ⟨front, back, rfl, rfl, rfl⟩ := ih later
        exact ⟨first :: front, back, rfl, merge_cons text front, rfl⟩
    | true =>
      obtain ⟨value, span, rfl⟩ := eq_of_isText text
      -- A text is joined to the one behind it, or stands alone.
      rcases merge_text_cases value span rest with ⟨more, later, others, next, -, whole⟩ | ⟨none, whole⟩
      · rw [whole] at same
        cases before with
        | nil =>
          obtain ⟨rfl, -⟩ := List.cons.inj same
          cases noText
        | cons first' before =>
          obtain ⟨rfl, rfl⟩ := List.cons.inj same
          -- The next text is the first element of those without this one.
          obtain ⟨front, back, rfl, front', rfl⟩ := @ih (.leaf (.text more later) :: before) next
          exact ⟨.leaf (.text value span) :: front, back, rfl, by rw [merge, front'], rfl⟩
      · rw [whole] at same
        cases before with
        | nil =>
          obtain ⟨rfl, -⟩ := List.cons.inj same
          cases noText
        | cons first' before =>
          obtain ⟨rfl, later⟩ := List.cons.inj same
          obtain ⟨front, back, rfl, rfl, rfl⟩ := ih later
          exact ⟨.leaf (.text value span) :: front, back, rfl,
            merge_text (later ▸ none).of_append value span, rfl⟩

end Flat

namespace Piece

/-- Of a silent line only the tags are left without blanks. -/
theorem visible_of_silent {line : List Piece} (silent : line.all isSilent = true) :
    ((line.filter isTag).map element).filterMap Flat.visible?
      = (line.map element).filterMap Flat.visible? := by
  -- The induction is on the line, whose characters are all blank.
  induction line with
  | nil => rfl
  | cons piece line ih =>
    obtain ⟨first, others⟩ := (Bool.and_eq_true ..).mp silent
    cases piece with
    | char c offset =>
      have blank : [c].filter (!Text.isBlank ·) = [] := by
        simpa [isSilent] using first
      -- The character is a blank.
      rw [List.filter_cons_of_neg (by simp [isTag]), ih others, List.map_cons, element,
        List.filterMap_cons_none (Flat.visible?_blank blank _)]
    | tag t =>
      rw [List.filter_cons_of_pos rfl, List.map_cons, List.map_cons, List.filterMap_cons,
        List.filterMap_cons, ih others]

/-- The element of a piece without blanks. -/
def visible? (piece : Piece) : Option Flat := piece.element.visible?

/-- Without lines and blanks the elements of some pieces are those of each piece. -/
theorem visible_flats (pieces : List Piece) :
    ((flats pieces).map Flat.unlined).filterMap Flat.visible? = pieces.filterMap visible? := by
  -- Of a line that stands alone only blanks were removed.
  have each : ∀ line ∈ lines pieces,
      ((line.filter fun piece => !standalone line || piece.isTag).map element).filterMap Flat.visible?
        = (line.map element).filterMap Flat.visible? := by
    intro line _
    cases alone : standalone line with
    | false => simp
    | true => simpa using visible_of_silent ((Bool.and_eq_true ..).mp alone).2
  -- The lines together hold all pieces.
  rw [unlined_flats, List.map_flatMap, List.filterMap_flatMap, List.flatMap_congr each,
    ← List.filterMap_flatMap, ← List.map_flatMap, List.flatMap_id', flatten_lines, List.filterMap_map]
  rfl

/-- The element of a tag is left without blanks. -/
theorem visible?_tag (tag : Tag) : visible? (.tag tag) = some (tag.toFlat {}) := by
  -- No sigil stands for a text.
  obtain ⟨sigil, body, start, stop⟩ := tag
  cases sigil <;> rfl

/-- What is left of a character without blanks is a text. -/
theorem isText_of_visible?_char {c : Char} {offset : Nat} {flat : Flat}
    (left : visible? (.char c offset) = some flat) : flat.isText = true := by
  -- A blank would have left nothing.
  by_cases blank : [c].filter (!Text.isBlank ·) = []
  · rw [visible?, element, Flat.visible?_blank blank] at left
    cases left
  · rw [visible?, element, Flat.visible?_text blank] at left
    exact Option.some.inj left ▸ rfl

/-- An element that is no text divides the pieces at the tag that it comes from. -/
theorem divided_of_merge {pieces : List Piece} {before after : List Flat} {flat : Flat}
    (noText : flat.isText = false)
    (same : Flat.merge (pieces.filterMap visible?) = before ++ flat :: after) :
    ∃ front tag behind, pieces = front ++ .tag tag :: behind ∧ tag.toFlat {} = flat
      ∧ Flat.merge (front.filterMap visible?) = before
      ∧ Flat.merge (behind.filterMap visible?) = after := by
  obtain ⟨left, right, split, rfl, rfl⟩ := Flat.merge_eq_append_cons noText same
  obtain ⟨front, rest, rfl, rfl, later⟩ := List.filterMap_eq_append_iff.mp split
  obtain ⟨passed, piece, behind, rfl, none, found, rfl⟩ := List.filterMap_eq_cons_iff.mp later
  -- The element is not that of a character, which would be a text.
  cases piece with
  | char c offset =>
    rw [isText_of_visible?_char found] at noText
    cases noText
  | tag t =>
    rw [visible?_tag, Option.some.injEq] at found
    -- Nothing is left of the pieces passed over.
    refine ⟨front ++ passed, t, behind, by rw [List.append_assoc], found, ?_, rfl⟩
    rw [List.filterMap_append, List.filterMap_eq_nil_iff.mpr none, List.append_nil]

end Piece

/-- Without lines and blanks the elements of a parsed tree are those of the pieces read. -/
theorem Template.flattenAll_visible_of_parse {source : Text} {pair : Delimiters}
    {tokens : List Token} (parsed : parse source pair = .ok tokens) :
    ∃ pieces, Reads pair 0 source ⟨pieces, none⟩
      ∧ Token.flattenAll (Token.visibleAll (Token.unlinedAll tokens))
        = Flat.merge (pieces.filterMap Piece.visible?) := by
  obtain ⟨pieces, reads, -, whole⟩ := flattenAll_of_parse parsed
  refine ⟨pieces, reads, ?_⟩
  -- Lines and blanks are left out before texts are written as one.
  rw [Token.flattenAll_visibleAll, Token.flattenAll_unlinedAll, whole, ← Flat.merge_unlined,
    Flat.merge_visible?, Piece.visible_flats]

end Mustache
