import Mustache.Proofs.Nested
import Mustache.Proofs.Tiling

/-!
The elements of a template lie in its source in their order, with at most blanks between them.

Blanks that were removed lie next to a tag, so that texts to be written as one lie side by side.
-/

namespace Mustache

/-- The token of a tag that neither opens nor closes a section. -/
inductive Token.StandsFor : Sigil → Text → Span → Token → Prop
  /-- A name without a mark is escaped. -/
  | plain {body : Text} {span : Span} : StandsFor .plain body span (.variable true body span)
  /-- A name with an ampersand is not escaped. -/
  | ampersand {body : Text} {span : Span} :
      StandsFor .ampersand body span (.variable false body span)
  /-- A name in braces is not escaped. -/
  | brace {body : Text} {span : Span} : StandsFor .brace body span (.variable false body span)
  /-- A reference to another template has what stands before it on its line. -/
  | inclusion {body : Text} {span : Span} {line : LinePrefix} :
      StandsFor .inclusion body span (.inclusion body span line)
  /-- A comment keeps its text. -/
  | comment {body : Text} {span : Span} : StandsFor .comment body span (.comment body span)
  /-- A change of delimiters keeps its text. -/
  | switch {body : Text} {span : Span} : StandsFor .switch body span (.switch body span)

/-- A tag that stands for a token neither opens nor closes a section. -/
theorem Tag.standsFor_of_toFlat {tag : Tag} {before : LinePrefix} {token : Token}
    (element : tag.toFlat before = .leaf token) :
    Token.StandsFor tag.sigil tag.body tag.span token := by
  -- Each sigil that stands for a token has one of its own.
  obtain ⟨sigil, body, start, stop⟩ := tag
  cases sigil with
  | plain => cases element; exact .plain
  | ampersand => cases element; exact .ampersand
  | brace => cases element; exact .brace
  | inclusion => cases element; exact .inclusion
  | comment => cases element; exact .comment
  | switch => cases element; exact .switch
  | _ => cases element

/-- A tag that stands for the start of a section opens one. -/
theorem Tag.opens_of_toFlat {tag : Tag} {before : LinePrefix} {inverted : Bool} {name : Text}
    {span : Span} (element : tag.toFlat before = .opening inverted name span) :
    tag.sigil = (if inverted then .inverter else .opener) ∧ tag.body = name ∧ tag.span = span := by
  -- There are two such sigils.
  obtain ⟨sigil, body, start, stop⟩ := tag
  cases sigil with
  | opener => cases element; exact ⟨rfl, rfl, rfl⟩
  | inverter => cases element; exact ⟨rfl, rfl, rfl⟩
  | _ => cases element

/-- A tag that stands for the end of a section closes one. -/
theorem Tag.closes_of_toFlat {tag : Tag} {before : LinePrefix} {name : Text} {start : Int}
    (element : tag.toFlat before = .closing name start) :
    tag.sigil = .closer ∧ tag.body = name ∧ (tag.start : Int) = start := by
  -- There is one such sigil.
  obtain ⟨sigil, body, start', stop⟩ := tag
  cases sigil with
  | closer => cases element; exact ⟨rfl, rfl, rfl⟩
  | _ => cases element

/-- The token of a tag has no elements but itself. -/
theorem Token.StandsFor.flatten {sigil : Sigil} {body : Text} {span : Span} {token : Token}
    (kind : StandsFor sigil body span token) : token.flatten = [.leaf token] := by
  -- Only sections have other elements.
  cases kind <;> rfl

/-- A tag that stands for a token neither opens nor closes a section. -/
theorem Token.StandsFor.noBracket {sigil : Sigil} {body : Text} {span : Span} {token : Token}
    (kind : StandsFor sigil body span token) :
    sigil.opensSection = false ∧ sigil ≠ .closer := by
  -- Its sigil is one of the others.
  cases kind <;> simp [Sigil.opensSection]

/-- A tag that stands for a token leaves the open sections as they are. -/
theorem Token.StandsFor.names_eq {sigil : Sigil} {body : Text} {span : Span} {token : Token}
    (kind : StandsFor sigil body span token) {names names' : List Text}
    (nests : sigil.Nests body names names') : names' = names := by
  -- Its sigil neither opens nor closes one.
  cases nests with
  | opens opens => cases kind <;> cases opens
  | closes => cases kind
  | other _ _ => rfl

/-- A tag that opens a section puts its name in front of those of the others. -/
theorem Sigil.Nests.of_opens {sigil : Sigil} {body : Text} {names names' : List Text}
    (nests : sigil.Nests body names names') {inverted : Bool}
    (opens : sigil = if inverted then .inverter else .opener) : names' = body :: names := by
  -- The sigil is one of the two that open a section.
  cases nests with
  | opens _ => rfl
  | closes => cases inverted <;> cases opens
  | other opensNone _ => cases inverted <;> cases opens <;> cases opensNone

/-- A tag that closes a section takes its name from those of the open ones. -/
theorem Sigil.Nests.of_closes {sigil : Sigil} {body : Text} {names names' : List Text}
    (nests : sigil.Nests body names names') (closes : sigil = .closer) :
    names = body :: names' := by
  -- The sigil is no other than the closing one.
  subst closes
  cases nests with
  | opens opens => cases opens
  | closes => rfl
  | other _ closesNone => contradiction

/-- A tag does not stand for a text. -/
theorem Tag.toFlat_ne_text (tag : Tag) (before : LinePrefix) (value : Text) (span : Span) :
    tag.toFlat before ≠ .leaf (.text value span) := by
  -- Each sigil has an element of another kind.
  obtain ⟨sigil, body, start, stop⟩ := tag
  cases sigil <;> simp [toFlat]

/--
Elements that lie in a source in their order, from an offset up to its end.

The delimiters and the names of the open sections are those at the offset.
-/
inductive Laid (source : Text) : Delimiters → List Text → Nat → List Flat → Prop
  /-- No element comes behind the end, where all sections are closed. -/
  | nil {pair : Delimiters} : Laid source pair [] source.length []
  /-- A text lies at the offset. -/
  | text {pair : Delimiters} {names : List Text} {start stop : Nat} {value : Text}
      {rest : List Flat} (ordered : start < stop) (inside : stop ≤ source.length)
      (shows : value = Text.slice source start stop)
      (later : Laid source pair names stop rest) :
      Laid source pair names start (.leaf (.text value ⟨start, stop⟩) :: rest)
  /-- A tag lies there, maybe between blanks that were removed. -/
  | tag {pair next : Delimiters} {names names' : List Text} {start stop : Nat} {tag : Tag}
      {before : LinePrefix} {flat : Flat} {rest : List Flat} (lead : start ≤ tag.start)
      (lead_blank : Text.Blank (Text.slice source start tag.start))
      (stands : TagAt .blanks source pair tag.sigil tag.body tag.start tag.stop)
      (follows : pair.Follows tag.sigil tag.body next)
      (nests : tag.sigil.Nests tag.body names names') (element : tag.toFlat before = flat)
      (trail : tag.stop ≤ stop) (inside : stop ≤ source.length)
      (trail_blank : Text.Blank (Text.slice source tag.stop stop))
      (later : Laid source next names' stop rest) : Laid source pair names start (flat :: rest)

/-- The closing tags among elements in a source name the open sections. -/
theorem Laid.matched {source : Text} {pair : Delimiters} {names : List Text} {start : Nat}
    {flats : List Flat} (laid : Laid source pair names start flats) :
    Flat.Matched names flats := by
  -- The induction follows the layout; a text opens and closes nothing.
  induction laid with
  | nil => exact .nil
  | text _ _ _ _ ih => exact .leaf rfl ih
  | @tag _ _ _ _ _ _ tag before flat _ _ _ _ _ nests element _ _ _ _ ih =>
    -- The names change as the kind of the element says.
    cases flat with
    | leaf token =>
      have kind := Tag.standsFor_of_toFlat element
      exact .leaf kind.flatten (kind.names_eq nests ▸ ih)
    | opening inverted name span =>
      obtain ⟨opens, rfl, -⟩ := Tag.opens_of_toFlat element
      exact .opening (nests.of_opens opens ▸ ih)
    | closing name start =>
      obtain ⟨closes, rfl, -⟩ := Tag.closes_of_toFlat element
      exact nests.of_closes closes ▸ .closing ih

/-- A tag is no text, so that it is not merged with what comes behind it. -/
theorem Flat.merge_toFlat (tag : Tag) (before : LinePrefix) (rest : List Flat) :
    Flat.merge (tag.toFlat before :: rest) = tag.toFlat before :: Flat.merge rest := by
  -- Only texts are merged.
  rw [Flat.merge]
  exact Tag.toFlat_ne_text tag before

/-- Neighbouring texts may be written as one. -/
theorem Laid.merge {source : Text} {pair : Delimiters} {names : List Text} {start : Nat}
    {flats : List Flat} (laid : Laid source pair names start flats) :
    Laid source pair names start (Flat.merge flats) := by
  -- The induction is on how the elements lie; only a text may be joined with the next one.
  induction laid with
  | nil => exact .nil
  | text ordered inside shows _ ih =>
    rw [Flat.merge]
    split
    · -- The next text lies right behind this one.
      rename_i more span others same
      rw [same] at ih
      cases ih with
      | text ordered' inside' shows' later =>
        refine .text (Nat.lt_trans ordered ordered') inside' ?_ later
        rw [shows, shows', Text.slice_append (Nat.le_of_lt ordered) (Nat.le_of_lt ordered') inside']
      | tag _ _ _ _ _ element _ _ _ _ => exact (Tag.toFlat_ne_text _ _ _ _ element).elim
    · exact .text ordered inside shows ih
  | @tag _ _ _ _ _ _ tag before flat rest lead lead_blank stands follows nests element trail inside
      trail_blank _ ih =>
    subst element
    rw [Flat.merge_toFlat]
    exact .tag lead lead_blank stands follows nests rfl trail inside trail_blank ih

section Lines

variable {source : Text} {pair : Delimiters} {names : List Text} {start : Nat}

/-- The elements of a line with its text lie side by side. -/
theorem Laid.keptLine {line later : List Piece} {flats : List Flat}
    (tiles : Tiles source pair names start (line ++ later))
    (behind : ∀ {pair names start}, Tiles source pair names start later →
      Laid source pair names start flats) (before : LinePrefix) :
    Laid source pair names start (Piece.lineFlats true before line ++ flats) := by
  -- Every piece has an element, and nothing lies between two of them.
  induction line generalizing pair names start before with
  | nil => exact behind tiles
  | cons piece line ih =>
    cases tiles with
    | char stands tiles =>
      have inside := (List.getElem?_eq_some_iff.mp stands).1
      exact .text (Nat.lt_succ_self _) inside (Text.slice_singleton stands).symm (ih tiles _)
    | tag stands follows nests tiles =>
      exact .tag (Nat.le_refl _) (by simp) stands follows nests rfl (Nat.le_refl _) stands.inside
        (by simp) (ih tiles _)

/--
The elements of the rest of a standalone line lie between blanks.

Up to the last tag the blanks so far lie in front, and behind it the blanks of the line are left.
-/
theorem Laid.standaloneLine {line later : List Piece} {flats : List Flat}
    (tiles : Tiles source pair names start (line ++ later))
    (behind : ∀ {pair names start}, Tiles source pair names start later →
      Laid source pair names start flats) (before : LinePrefix)
    (silent : line.all Piece.isSilent = true) :
    (line.any Piece.isTag = true → ∀ {place}, place ≤ start →
        Text.Blank (Text.slice source place start) →
        Laid source pair names place (Piece.lineFlats false before line ++ flats))
      ∧ (line.any Piece.isTag = false → ∃ stop, start ≤ stop ∧ stop ≤ source.length
        ∧ Text.Blank (Text.slice source start stop)
        ∧ Laid source pair names stop (Piece.lineFlats false before line ++ flats)) := by
  induction line generalizing pair names start before with
  | nil =>
    refine ⟨fun tagged => (nomatch tagged), fun _ => ?_⟩
    exact ⟨start, Nat.le_refl _, tiles.inside, by simp, behind tiles⟩
  | cons piece line ih =>
    rw [List.all_cons, Bool.and_eq_true] at silent
    cases tiles with
    | @char _ _ _ c _ stands tiles =>
      -- A blank is one more of those in front or behind.
      have inside : start + 1 ≤ source.length := (List.getElem?_eq_some_iff.mp stands).1
      have one := Text.slice_singleton stands
      have isBlank : Text.isBlank c = true := silent.1
      obtain ⟨tagged, untagged⟩ := ih tiles (before.extend (.char c start)) silent.2
      constructor
      · intro holds place ordered blank
        refine tagged holds (Nat.le_succ_of_le ordered) ?_
        rw [← Text.slice_append ordered (Nat.le_succ start) inside, one]
        simp [blank, isBlank]
      · intro none
        obtain ⟨stop, ordered, inside', blank, laid⟩ := untagged none
        refine ⟨stop, Nat.le_of_succ_le ordered, inside', ?_, laid⟩
        rw [← Text.slice_append (Nat.le_succ start) ordered inside', one, Text.blank_append]
        exact ⟨by simp [isBlank], blank⟩
    | @tag _ _ _ _ tag _ stands follows nests tiles =>
      obtain ⟨tagged, untagged⟩ := ih tiles (before.extend (.tag tag)) silent.2
      refine ⟨fun _ place ordered blank => ?_, fun none => (nomatch none)⟩
      -- The blanks behind this tag lie behind it or in front of the next one on the line.
      cases holds : line.any Piece.isTag with
      | true =>
        have laid := tagged holds (Nat.le_refl _) (by simp)
        exact .tag ordered blank stands follows nests rfl (Nat.le_refl _) stands.inside
          (by simp) laid
      | false =>
        obtain ⟨stop, ordered', inside', blank', laid⟩ := untagged holds
        exact .tag ordered blank stands follows nests rfl ordered' inside' blank' laid

/-- The elements of a row of lines lie in the source that their pieces come from. -/
theorem Laid.lines {lines : List (List Piece)}
    (tiles : Tiles source pair names start lines.flatten) :
    Laid source pair names start
      (lines.flatMap fun line => Piece.lineFlats (!Piece.standalone line) {} line) := by
  induction lines generalizing pair names start with
  | nil =>
    -- With no lines left the place is the end of the source.
    cases tiles
    exact .nil
  | cons line later ih =>
    rw [List.flatten_cons] at tiles
    rw [List.flatMap_cons]
    -- A line that stands alone loses its blanks, and any other one is kept as it is.
    cases alone : Piece.standalone line with
    | false => exact .keptLine tiles ih {}
    | true =>
      obtain ⟨tagged, silent⟩ := (Bool.and_eq_true ..).mp alone
      exact (standaloneLine tiles ih {} silent).1 tagged (Nat.le_refl _) (by simp)

end Lines

/-- The lines of a row of pieces hold these pieces. -/
theorem Piece.flatten_lines (pieces : List Piece) : (lines pieces).flatten = pieces := by
  -- Each piece is a line of its own or the first one of the line behind it.
  induction pieces with
  | nil => rfl
  | cons piece rest ih =>
    rw [lines]
    split
    · simp [ih]
    · split
      · -- There is no line behind, or the piece is put in front of the first one.
        rename_i none
        rw [none] at ih
        simp [← ih]
      · rename_i line later some
        rw [some] at ih
        simp [← ih]

/-- The elements of pieces side by side lie in the source. -/
theorem Tiles.laid {source : Text} {pair : Delimiters} {names : List Text} {start : Nat}
    {pieces : List Piece} (tiles : Tiles source pair names start pieces) :
    Laid source pair names start (Piece.flats pieces) :=
  -- The pieces are those of their lines.
  .lines ((Piece.flatten_lines pieces).symm ▸ tiles)

end Mustache
