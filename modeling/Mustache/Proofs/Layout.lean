import Mustache.Proofs.Laid
import Mustache.Template

/-!
The token tree of a template lies in its source: nothing of the source is lost but closing tags,
delimiters and blanks.
-/

namespace Mustache

/--
Tokens that take up a part of a source side by side, from one offset to another.

The delimiters are those before and behind the part.
-/
inductive Layout (slack : Slack) (source : Text) :
    Delimiters → Nat → List Token → Nat → Delimiters → Prop
  /-- No tokens take up nothing. -/
  | nil {pair : Delimiters} {offset : Nat} : Layout slack source pair offset [] offset pair
  /-- Blanks come first that were removed. -/
  | removed {pair last : Delimiters} {start middle stop : Nat} {tokens : List Token}
      (ordered : start < middle) (inside : middle ≤ source.length)
      (blank : Text.Blank (Text.slice source start middle))
      (later : Layout slack source pair middle tokens stop last) :
      Layout slack source pair start tokens stop last
  /-- A text comes first, which is written as it stands there. -/
  | text {pair last : Delimiters} {start middle stop : Nat} {value : Text} {tokens : List Token}
      (ordered : start < middle) (inside : middle ≤ source.length)
      (shows : Text.slice source start middle = value)
      (later : Layout slack source pair middle tokens stop last) :
      Layout slack source pair start (.text value ⟨start, middle⟩ :: tokens) stop last
  /-- A tag comes first, and after a change of delimiters the new ones hold. -/
  | single {pair next last : Delimiters} {start middle stop : Nat} {sigil : Sigil} {body : Text}
      {token : Token} {tokens : List Token}
      (stands : TagAt slack source pair sigil body start middle)
      (kind : Token.StandsFor sigil body ⟨start, middle⟩ token)
      (follows : pair.Follows sigil body next)
      (later : Layout slack source next middle tokens stop last) :
      Layout slack source pair start (token :: tokens) stop last
  /-- A section comes first: its opening tag, its children, and a closing tag of its name. -/
  | block {pair inner last : Delimiters} {start bodyStart closeStart middle stop : Nat}
      {inverted : Bool} {name : Text} {children tokens : List Token}
      (opens : TagAt slack source pair (if inverted then .inverter else .opener) name start
        bodyStart)
      (inside : Layout slack source pair bodyStart children closeStart inner)
      (closes : TagAt slack source inner .closer name closeStart middle)
      (later : Layout slack source inner middle tokens stop last) :
      Layout slack source pair start
        (.block inverted name ⟨start, bodyStart⟩ children closeStart :: tokens) stop last

namespace Layout

variable {slack : Slack} {source : Text} {pair last : Delimiters} {start middle stop : Nat}
  {tokens : List Token}

/-- Blanks may be removed in front of tokens. -/
theorem blanks (ordered : start ≤ middle) (inside : middle ≤ source.length)
    (blank : Text.Blank (Text.slice source start middle))
    (later : Layout slack source pair middle tokens stop last) :
    Layout slack source pair start tokens stop last := by
  -- There may be no blanks at all.
  rcases Nat.eq_or_lt_of_le ordered with rfl | shorter
  · exact later
  · exact .removed shorter inside blank later

/-- Blanks may be removed behind tokens. -/
theorem append_blanks (layout : Layout slack source pair start tokens middle last)
    (ordered : middle ≤ stop) (inside : stop ≤ source.length)
    (blank : Text.Blank (Text.slice source middle stop)) :
    Layout slack source pair start tokens stop last := by
  -- The blanks come behind the last of the tokens.
  -- The induction follows the layout up to its end.
  induction layout with
  | nil => exact blanks ordered inside blank .nil
  | removed ordered' inside' blank' _ ih =>
    exact .removed ordered' inside' blank' (ih ordered blank)
  | text ordered' inside' shows _ ih => exact .text ordered' inside' shows (ih ordered blank)
  | single stands kind follows _ ih => exact .single stands kind follows (ih ordered blank)
  | block opens inside' closes _ _ ih => exact .block opens inside' closes (ih ordered blank)

end Layout

/-- Only a change of delimiters is followed by other ones. -/
theorem Delimiters.Follows.eq_of_ne_switch {pair next : Delimiters} {sigil : Sigil} {body : Text}
    (follows : pair.Follows sigil body next) (noSwitch : sigil ≠ .switch) : next = pair := by
  -- The other case is that of a change.
  cases follows with
  | kept _ => rfl
  | switched _ => contradiction

/-- What a token takes up, and what the elements behind it take up. -/
def Laid.Splits (source : Text) (pair : Delimiters) (names : List Text) (start : Nat)
    (token : Token) (rest : List Flat) : Prop :=
  ∃ middle next, Laid source next names middle rest ∧ ∀ {tokens stop last},
    Layout .blanks source next middle tokens stop last →
      Layout .blanks source pair start (token :: tokens) stop last

/-- An element without children lies in the source as a token. -/
theorem Laid.splits_leaf {source : Text} {pair : Delimiters} {names : List Text} {start : Nat}
    {token : Token} {rest : List Flat}
    (laid : Laid source pair names start (.leaf token :: rest)) :
    Splits source pair names start token rest := by
  cases laid with
  -- A text has no blanks to be removed around it.
  | text ordered inside shows later =>
    exact ⟨_, _, later, fun layout => .text ordered inside shows.symm layout⟩
  | tag lead lead_blank stands follows nests element trail inside trail_blank later =>
    have kind := Tag.standsFor_of_toFlat element
    rw [kind.names_eq nests] at later
    refine ⟨_, _, later, fun layout => ?_⟩
    -- The tag stands between blanks that were removed.
    have behind := layout.blanks trail inside trail_blank
    exact (Layout.single stands kind follows behind).blanks lead
      (Nat.le_trans (Nat.le_of_lt stands.ordered) stands.inside) lead_blank

mutual

/-- A token whose elements lie in the source lies there itself. -/
theorem Laid.splits {source : Text} (token : Token) {pair : Delimiters} {names : List Text}
    {start : Nat} {rest : List Flat}
    (laid : Laid source pair names start (token.flatten ++ rest)) :
    Splits source pair names start token rest := by
  match token with
  | .text value span => exact laid.splits_leaf
  | .variable escaped path span => exact laid.splits_leaf
  | .comment value span => exact laid.splits_leaf
  | .switch value span => exact laid.splits_leaf
  | .inclusion name span line => exact laid.splits_leaf
  -- The opening tag lies first, and then its name is the innermost one left open.
  | .block inverted name span children closeStart =>
    rw [Token.flatten, List.append_assoc] at laid
    cases laid with
    | tag lead lead_blank stands follows nests element trail inside trail_blank later =>
      obtain ⟨opens, rfl, rfl⟩ := Tag.opens_of_toFlat element
      rw [nests.of_opens opens] at later
      -- The children take up what comes before the closing tag.
      obtain ⟨place, inner, laid', children'⟩ := Laid.layoutAll children later
      cases laid' with
      | @tag _ next' _ _ _ stop' tag' _ _ _ lead' lead_blank' stands' follows' nests' element' trail'
          inside' trail_blank' later' =>
        obtain ⟨closes, named, rfl⟩ := Tag.closes_of_toFlat element'
        have left := nests'.of_closes closes
        rw [List.cons.injEq] at left
        rw [closes] at stands' follows'
        rw [opens] at stands follows
        rw [named] at stands'
        -- Neither of the two tags changes the delimiters.
        obtain rfl := follows.eq_of_ne_switch (by cases inverted <;> simp)
        obtain rfl := follows'.eq_of_ne_switch (by simp)
        have start' := Nat.le_trans (Nat.le_of_lt stands'.ordered) stands'.inside
        have body := (children'.append_blanks lead' start' lead_blank').blanks trail inside trail_blank
        refine ⟨stop', _, left.2 ▸ later', fun layout => ?_⟩
        have behind := layout.blanks trail' inside' trail_blank'
        exact (Layout.block stands body stands' behind).blanks lead
          (Nat.le_trans (Nat.le_of_lt stands.ordered) stands.inside) lead_blank

/-- Tokens whose elements lie in the source lie there side by side. -/
theorem Laid.layoutAll {source : Text} (tokens : List Token) {pair : Delimiters}
    {names : List Text} {start : Nat} {rest : List Flat}
    (laid : Laid source pair names start (Token.flattenAll tokens ++ rest)) :
    ∃ stop next, Laid source next names stop rest
      ∧ Layout .blanks source pair start tokens stop next := by
  -- The recursion is on the row of tokens.
  match tokens with
  | [] => exact ⟨_, _, laid, .nil⟩
  | token :: tokens =>
    rw [Token.flattenAll, List.append_assoc] at laid
    -- The first token is split off, and the others lie from where it stops.
    obtain ⟨middle, next, behind, extend⟩ := Laid.splits token laid
    obtain ⟨stop, last, behind', layout⟩ := Laid.layoutAll tokens behind
    exact ⟨stop, last, behind', extend layout⟩

end

/-- What follows when nothing is found to be wrong: all is read, and the sections match. -/
theorem Template.complete_of_fault? {source : Text} {pair : Delimiters}
    (sound : fault? source pair = none) :
    (Reading.ofSource source pair).fault = none
      ∧ Piece.openAfter [] (Reading.ofSource source pair).pieces = .ok [] := by
  rw [fault?] at sound
  -- Every other case finds a fault.
  split at sound
  · cases sound
  · rename_i stack opened
    split at sound
    · cases sound
    · cases sound
    · rename_i complete
      exact ⟨complete, opened⟩

/-- What is parsed successfully has nothing wrong with it. -/
theorem Template.parse_eq_ok {source : Text} {pair : Delimiters} {tokens : List Token}
    (parsed : parse source pair = .ok tokens) :
    fault? source pair = none ∧ tokens = Template.tokens source pair := by
  -- Whatever is wrong would have been reported.
  rw [parse] at parsed
  cases found : fault? source pair with
  | none =>
    rw [found] at parsed
    exact ⟨rfl, (Except.ok.inj parsed).symm⟩
  | some fault =>
    rw [found] at parsed
    cases parsed

/-- Where nothing is wrong with a source, its tokens lie in it from its start to its end. -/
theorem Template.layout_tokens {source : Text} {pair : Delimiters}
    (sound : fault? source pair = none) :
    ∃ last, Layout .blanks source pair 0 (tokens source pair) source.length last := by
  obtain ⟨complete, matched⟩ := complete_of_fault? sound
  have reads : Reads pair 0 source _ := reads_iff.mpr rfl
  -- The pieces tile the source, so their elements lie in it, and the tree has these elements.
  have laid := (reads.tiles complete (Nat.zero_le _) rfl matched).laid.merge
  rw [Template.tokens]
  have whole := Flat.flattenAll_nest laid.matched
  rw [← whole, ← List.append_nil (Token.flattenAll _)] at laid
  obtain ⟨stop, last, rest, layout⟩ := Laid.layoutAll _ laid
  cases rest
  exact ⟨last, layout⟩

/--
The tokens of a template lie in its source side by side, from its start to its end.

Between them there are only closing tags and blanks that were removed.
-/
theorem Template.layout_of_parse {source : Text} {pair : Delimiters} {tokens : List Token}
    (parsed : parse source pair = .ok tokens) :
    ∃ last, Layout .blanks source pair 0 tokens source.length last := by
  -- A source without faults is parsed to the tokens whose layout is known.
  obtain ⟨sound, rfl⟩ := parse_eq_ok parsed
  exact layout_tokens sound

/-- A section with a text in it, whose opening tag stands alone on its line. -/
theorem Template.layout_of_parse_section :
    let source : Text := "\x7b\x7b#a\x7d\x7d \nb\x7b\x7b/a\x7d\x7d".toList
    let tokens := [Token.block false ['a'] ⟨0, 6⟩ [.text ['b'] ⟨8, 9⟩] 9]
    parse source .default = .ok tokens
      ∧ ∃ last, Layout .blanks source .default 0 tokens source.length last := by
  -- The template is parsed by evaluation, and the general statement gives its layout.
  have parsed : parse "\x7b\x7b#a\x7d\x7d \nb\x7b\x7b/a\x7d\x7d".toList .default
      = .ok [.block false ['a'] ⟨0, 6⟩ [.text ['b'] ⟨8, 9⟩] 9] := by decide +kernel
  exact ⟨parsed, layout_of_parse parsed⟩

/-- A name that is not escaped has an ampersand or stands in braces. -/
theorem Token.StandsFor.eq_of_unescaped {sigil : Sigil} {body path : Text} {span span' : Span}
    (kind : StandsFor sigil body span (.variable false path span')) :
    body = path ∧ span = span' ∧ (sigil = .ampersand ∨ sigil = .brace) := by
  -- There are two such sigils.
  cases kind with
  | ampersand => exact ⟨rfl, rfl, .inl rfl⟩
  | brace => exact ⟨rfl, rfl, .inr rfl⟩

/-- A template with a tag in braces, between delimiters of which the closing one is a blank. -/
def Template.spacedBraces : Text := ['\x7b', '\x7b', '\x7b', 'a', '\x7d', ' ', ' ']

/-- Two braces in front and a blank behind. -/
def Delimiters.blankClosing : Delimiters where
  opening := ['\x7b', '\x7b']
  closing := [' ']
  opening_ne_nil := List.cons_ne_nil _ _
  closing_ne_nil := List.cons_ne_nil _ _

/-- The closing delimiter does not always stand right behind the brace. -/
theorem Template.not_layout_none :
    ¬ ∀ source pair tokens, parse source pair = .ok tokens →
      ∃ last, Layout .none source pair 0 tokens source.length last := by
  intro every
  have parsed : parse spacedBraces .blankClosing = .ok [.variable false ['a'] ⟨0, 7⟩] := by
    decide +kernel
  obtain ⟨last, layout⟩ := every _ _ _ parsed
  generalize row : [Token.variable false ['a'] ⟨0, 7⟩] = tokens at layout
  cases layout with
  | @removed _ _ _ middle _ _ ordered inside blank _ =>
    -- The template does not begin with a blank.
    obtain ⟨more, rfl⟩ := Nat.exists_eq_add_of_lt ordered
    rw [Text.slice_ofNat _ (Nat.zero_le _) inside] at blank
    have brace : Text.isBlank '\x7b' = true := blank _ (by simp [spacedBraces])
    revert brace
    decide
  | text _ _ _ _ => cases row
  | block _ _ _ _ => cases row
  | @single _ _ _ _ middle _ sigil body token _ stands kind _ _ =>
    obtain ⟨rfl, -⟩ := List.cons.inj row
    obtain ⟨named, stop, marked⟩ := kind.eq_of_unescaped
    obtain rfl : middle = 7 := by
      have same : (middle : Int) = 7 := congrArg Span.stop stop
      omega
    subst named
    obtain ⟨lead, gap, trail, ending, parts⟩ := stands.form
    have whole := parts.whole
    rw [show Text.slice spacedBraces _ _ = spacedBraces from by decide] at whole
    rcases marked with rfl | rfl
    · -- An ampersand would stand where the third brace does.
      have lead_blank := parts.lead_blank
      cases lead with
      | nil => simp [spacedBraces, Delimiters.blankClosing, Sigil.mark] at whole
      | cons c lead =>
        simp only [spacedBraces, Delimiters.blankClosing, List.cons_append, List.nil_append,
          List.cons.injEq, true_and] at whole
        rw [← whole.1, Text.blank_cons] at lead_blank
        exact absurd lead_blank.1 (by decide)
    · -- The brace would be the last character but one.
      have ends := parts.ends
      cases ends with
      | ordinary noBrace _ _ => exact noBrace rfl
      | brace _ loose =>
        have back := congrArg List.reverse whole
        rw [show _ = [] from loose] at back
        simp [spacedBraces, Delimiters.blankClosing] at back

end Mustache
