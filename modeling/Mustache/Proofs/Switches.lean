import Mathlib.Data.List.Infix
import Mustache.Proofs.Inner
import Mustache.Proofs.LineBreak

/-!
The delimiters that are in use when a template is read, or when one of its tags cannot be.

They are those of the last change of delimiters in the document, at whatever depth it stands.
-/

namespace Mustache

mutual

/-- The bodies of the changes of delimiters in a token, in the order of the document. -/
def Token.changes : Token → List Text
  | .switch body _ => [body]
  | .block _ _ _ children _ => changesAll children
  | _ => []

/-- The bodies of the changes of delimiters in a row of tokens, in the order of the document. -/
def Token.changesAll : List Token → List Text
  | [] => []
  | token :: tokens => token.changes ++ changesAll tokens

end

/-- The body of an element that changes the delimiters. -/
def Flat.change? : Flat → Option Text
  | .leaf (.switch body _) => some body
  | _ => none

/-- The body of a tag that changes the delimiters. -/
def Tag.change? (tag : Tag) : Option Text :=
  if tag.sigil = .switch then some tag.body else none

mutual

/-- A token changes the delimiters where its elements do. -/
theorem Token.changes_eq (token : Token) :
    token.changes = token.flatten.filterMap Flat.change? := by
  match token with
  | .text _ _ | .variable _ _ _ | .comment _ _ | .switch _ _ | .inclusion _ _ _ => rfl
  | .block _ _ _ children _ =>
    -- Neither the opening nor the closing tag changes anything.
    rw [changes, flatten, Token.changesAll_eq children, List.cons_append,
      List.filterMap_cons_none rfl, List.filterMap_append, List.filterMap_cons_none rfl,
      List.filterMap_nil, List.append_nil]

/-- Tokens change the delimiters where their elements do. -/
theorem Token.changesAll_eq (tokens : List Token) :
    changesAll tokens = (flattenAll tokens).filterMap Flat.change? := by
  -- The elements of a row are those of its tokens one after the other.
  match tokens with
  | [] => rfl
  | token :: tokens =>
    rw [changesAll, flattenAll, List.filterMap_append, Token.changes_eq token,
      Token.changesAll_eq tokens]

end

/-- The element of a tag changes the delimiters if the tag does. -/
theorem Tag.change?_toFlat (tag : Tag) (before : LinePrefix) :
    (tag.toFlat before).change? = tag.change? := by
  -- Each sigil has an element of its own kind.
  obtain ⟨sigil, body, start, stop⟩ := tag
  cases sigil <;> rfl

/-- The tree of a template has the changes of delimiters that its tags make, in their order. -/
theorem Template.changes_of_parse {source : Text} {pair : Delimiters} {tokens : List Token}
    (parsed : parse source pair = .ok tokens) :
    ∃ pieces, Reads pair 0 source ⟨pieces, none⟩
      ∧ Token.changesAll tokens = (Piece.tags pieces).filterMap Tag.change? := by
  obtain ⟨pieces, reads, whole⟩ := flattenAll_visible_of_parse parsed
  refine ⟨pieces, reads, ?_⟩
  -- Texts change nothing, and neither blanks nor lines make a difference to a change.
  have each (flat : Flat) : (flat.unlined.visible?).bind (fun shown =>
      if !shown.isText then shown.change? else none) = flat.change? := by
    rcases flat with token | _ | _
    · cases token with
      | text value span =>
        have plain : (Flat.leaf (.text value span)).unlined = .leaf (.text value span) := rfl
        by_cases blank : value.filter (!Text.isBlank ·) = []
        · rw [plain, Flat.visible?_blank blank]
          rfl
        · rw [plain, Flat.visible?_text blank]
          rfl
      | _ => rfl
    · rfl
    · rfl
  -- Changes are taken from the visible elements, which those of the pieces are as well.
  calc Token.changesAll tokens
      = ((Token.flattenAll (Token.visibleAll (Token.unlinedAll tokens))).filter
          (!·.isText)).filterMap Flat.change? := by
        rw [Token.changesAll_eq, Token.flattenAll_visibleAll, Token.flattenAll_unlinedAll,
          List.filterMap_filter, List.filterMap_filterMap, List.filterMap_map]
        exact congrArg (List.filterMap · _) (funext fun flat => (each flat).symm)
    _ = ((Piece.tags pieces).map (·.toFlat {})).filterMap Flat.change? := by
        rw [whole, Flat.filter_merge, Piece.filter_visible?]
    _ = (Piece.tags pieces).filterMap Tag.change? := by
        rw [List.filterMap_map]
        exact congrArg (List.filterMap · _) (funext fun tag => tag.change?_toFlat {})

namespace Reads

variable {pair : Delimiters} {offset : Nat} {text : Text} {reading : Reading}

/-- A change of delimiters that is read has a body of two words or more, without an equals sign. -/
theorem change_tag (reads : Reads pair offset text reading) {tag : Tag}
    (member : .tag tag ∈ reading.pieces) (changes : tag.sigil = .switch) :
    (∃ next, Delimiters.ofBody? tag.body = some next) ∧ '=' ∉ tag.body := by
  -- The induction goes on to the tag, which is none of the characters in between.
  induction reads with
  | finished _ => exact absurd member Piece.tag_notMem_ofText
  | unclosed _ _ => exact absurd member Piece.tag_notMem_ofText
  | invalid _ _ _ => exact absurd member Piece.tag_notMem_ofText
  | tag opened tag' follows stops _ ih =>
    rcases List.mem_append.mp member with inText | later
    · exact absurd inText Piece.tag_notMem_ofText
    rcases List.mem_cons.mp later with same | behind
    · cases same
      dsimp only at changes
      subst changes
      obtain ⟨written, -, lead, gap, trail, ending, parts⟩ := tag'.tagForm
      -- The body ends where the first equals sign stands.
      exact ⟨⟨_, Delimiters.after?_eq_some_iff.mpr follows⟩, fun equals =>
        parts.unterminated ((List.singleton_infix_iff _ _).mpr equals)⟩
    · exact ih behind

/-- What changes of delimiters set are the first two words of their bodies. -/
theorem map_ofBody?_changes (reads : Reads pair offset text reading) :
    ((Piece.tags reading.pieces).filterMap Tag.change?).map Delimiters.ofBody?
      = (reading.pieces.filterMap Template.switch?).map fun switch => some switch.pair := by
  -- Every change among the pieces is valid, since the text was read past it.
  have valid : ∀ tag, .tag tag ∈ reading.pieces → tag.sigil = .switch →
      ∃ next, Delimiters.ofBody? tag.body = some next :=
    fun tag member changes => (reads.change_tag member changes).1
  generalize reading.pieces = pieces at valid
  induction pieces with
  | nil => rfl
  | cons piece pieces ih =>
    have later := ih fun tag member => valid tag (.tail _ member)
    cases piece with
    | char c offset => exact later
    | tag t =>
      by_cases changes : t.sigil = .switch
      · obtain ⟨next, words⟩ := valid t (.head _) changes
        have body : t.change? = some t.body := if_pos changes
        have switch : Template.switch? (.tag t) = some ⟨next, t.start⟩ := by
          obtain ⟨sigil, body, start, stop⟩ := t
          obtain rfl : sigil = .switch := changes
          exact congrArg (Option.map fun next => (⟨next, start⟩ : Template.Switch)) words
        rw [Piece.tags_tag, List.filterMap_cons_some body, List.filterMap_cons_some switch,
          List.map_cons, List.map_cons, later, words]
      · -- Any other tag sets nothing.
        have body : t.change? = none := if_neg changes
        have other : Template.switch? (.tag t) = none := by
          obtain ⟨sigil, body, start, stop⟩ := t
          cases sigil <;> first | rfl | exact absurd rfl changes
        rw [Piece.tags_tag, List.filterMap_cons_none body, List.filterMap_cons_none other, later]

/-- The text in front of an invalid change of delimiters reads to its end, where the tag is. -/
theorem before_invalid (reads : Reads pair offset text reading) {words : List Text} {start : Nat}
    (invalid : reading.fault = some (.invalidTags words start)) :
    ∃ part later body rest, text = part ++ later ∧ offset + part.length = start
      ∧ Reads pair offset part ⟨reading.pieces, none⟩
      ∧ ReadsTag (pair.last (reading.pieces.filterMap Template.switch?)) later .switch body rest
      ∧ (Text.words body).length < 2 := by
  -- The tags in front are read in the shorter text as well, which ends where the change begins.
  induction reads with
  | finished _ => cases invalid
  | unclosed _ _ => cases invalid
  | @invalid pair offset before later body rest opened tag few =>
    cases invalid
    have ends := opened.absent pair.opening_ne_nil
    refine ⟨before, later, body, rest, rfl, rfl, .finished ends, ?_, few⟩
    rw [Piece.filterMap_switch?_ofText]
    exact tag
  | @tag pair next offset stop before later body rest sigil reading opened tag' follows stops _
      ih =>
    obtain ⟨part, extra, body', rest', rfl, place, reads', tag'', few⟩ := ih invalid
    obtain ⟨later', rfl, cut⟩ := tag'.truncate
    refine ⟨before ++ later', extra, body', rest', (List.append_assoc ..).symm, ?_, ?_, ?_, few⟩
    · -- The positions are those of the longer text.
      simp only [List.length_append] at stops ⊢
      omega
    · refine .tag (opened.truncate rfl cut.opened) cut follows ?_ reads'
      simp only [List.length_append] at stops ⊢
      omega
    · -- What is in use behind the tag is what its reading goes on with.
      rw [follows.last_eq]
      exact tag''

end Reads

namespace Template

/-- The delimiters in use at the end are those that the last change sets which took effect. -/
theorem delimitersAfter_eq_last (source : Text) (pair : Delimiters) :
    delimitersAfter source pair = pair.last (switches source pair) := by
  rw [delimitersAfter, Delimiters.last]
  -- There is a last change or none.
  cases (switches source pair).getLast? <;> rfl

/-- A change of delimiters that takes effect is that of a tag. -/
theorem tag_of_mem_switches {source : Text} {pair : Delimiters} {switch : Switch}
    (member : switch ∈ switches source pair) :
    ∃ tag, .tag tag ∈ (Reading.ofSource source pair).pieces ∧ tag.sigil = .switch
      ∧ Delimiters.ofBody? tag.body = some switch.pair := by
  -- Some changes of the pieces read may be left out.
  have found : switch ∈ (Reading.ofSource source pair).pieces.filterMap switch? := by
    unfold switches at member
    dsimp only at member
    split at member
    · exact List.mem_of_mem_filter member
    · exact member
  -- Only a tag sets delimiters, and it does so by two words of its body.
  obtain ⟨piece, among, changes⟩ := List.mem_filterMap.mp found
  unfold switch? at changes
  split at changes
  · obtain ⟨next, words, rfl⟩ := Option.map_eq_some_iff.mp changes
    exact ⟨_, among, rfl, words⟩
  · cases changes

/-- All changes of delimiters that are read take effect if they come before what is wrong. -/
theorem switches_of_early {source : Text} {pair : Delimiters}
    (early : ∀ fault, fault? source pair = some fault →
      ∀ tag, .tag tag ∈ (Reading.ofSource source pair).pieces → tag.start < fault.offset) :
    switches source pair = (Reading.ofSource source pair).pieces.filterMap switch? := by
  -- Without a fault all of them count, and otherwise those in front of it.
  rw [switches]
  cases found : fault? source pair with
  | none => rfl
  | some fault =>
    refine List.filter_eq_self.mpr fun switch member => decide_eq_true ?_
    -- A change takes effect where its tag stands.
    obtain ⟨piece, among, changes⟩ := List.mem_filterMap.mp member
    obtain ⟨tag, rfl, same⟩ := start_of_switch? changes
    exact same ▸ early fault found tag among

/--
Where a change of delimiters is invalid, its tag is read with those delimiters that are in use when
the source ends in front of it.
-/
theorem delimitersAfter_of_invalid {source : Text} {pair : Delimiters} {words : List Text}
    {start : Nat} (failed : parse source pair = .error (.invalidTags words start)) :
    ∃ part later body rest, source = part ++ later ∧ part.length = start
      ∧ delimitersAfter source pair = delimitersAfter part pair
      ∧ ReadsTag (delimitersAfter part pair) later .switch body rest
      ∧ (Text.words body).length < 2 := by
  have found := parse_eq_error_iff.mp failed
  cases fault?_eq_some_iff.mp found with
  | misplaced _ bad => cases bad
  | @invalidTags stack _ _ matched invalid =>
    obtain ⟨part, later, body, rest, rfl, place, reads, tag, few⟩ :=
      (reads_iff.mpr rfl : Reads pair 0 source _).before_invalid invalid
    rw [Nat.zero_add] at place
    have within : ∀ tag, .tag tag ∈ (Reading.ofSource (part ++ later) pair).pieces →
        tag.start < part.length := by
      intro tag member
      -- The sections in front of the tag are balanced but for those still open.
      have := reads.tag_within member
      omega
    have opened := Piece.openAfter_eq_ok_iff.mpr matched
    have same : Reading.ofSource part pair
        = ⟨(Reading.ofSource (part ++ later) pair).pieces, none⟩ := (reads_iff.mp reads).symm
    -- Both sources have the same tags in front of what is wrong with them.
    have all : switches (part ++ later) pair
        = (Reading.ofSource (part ++ later) pair).pieces.filterMap switch? := by
      refine switches_of_early fun fault found' tag member => ?_
      rw [found, Option.some.injEq] at found'
      subst found'
      exact place ▸ within tag member
    have all' : switches part pair
        = (Reading.ofSource (part ++ later) pair).pieces.filterMap switch? := by
      rw [switches_of_early fun fault found' tag member => ?_, same]
      rw [fault?, same] at found'
      rw [same] at member
      simp only [opened] at found'
      -- The shorter source is a template, or has sections that are not closed.
      cases stack with
      | nil => cases found'
      | cons innermost outer =>
        cases found'
        exact within tag member
    rw [← all', ← delimitersAfter_eq_last] at tag
    exact ⟨part, later, body, rest, rfl, place,
      by rw [delimitersAfter_eq_last, delimitersAfter_eq_last, all, all'], tag, few⟩

/--
The delimiters in use follow the document.

When a template is parsed, each change in its tree has set its first two words, and those of the
last one are in use, whatever sections it stands in, or those at the beginning if there is none.
Whatever delimiters are set have no blank and no equals sign.
A change that is invalid leaves those in use with which its own tag was read.
-/
theorem delimitersAfter_follows (source : Text) (pair : Delimiters) :
    (∀ tokens, parse source pair = .ok tokens →
        (Token.changesAll tokens).map Delimiters.ofBody?
            = (switches source pair).map (fun switch => some switch.pair)
          ∧ match (Token.changesAll tokens).getLast? with
            | none => delimitersAfter source pair = pair
            | some body => ∃ more, Text.words body = (delimitersAfter source pair).opening
                :: (delimitersAfter source pair).closing :: more)
      ∧ (∀ switch ∈ switches source pair,
          switch.pair.opening ≠ [] ∧ switch.pair.closing ≠ []
            ∧ ∀ c ∈ switch.pair.opening ++ switch.pair.closing, Text.isBlank c = false ∧ c ≠ '=')
      ∧ ∀ words start, parse source pair = .error (.invalidTags words start) →
          ∃ part later body rest, source = part ++ later ∧ part.length = start
            ∧ delimitersAfter source pair = delimitersAfter part pair
            ∧ ReadsTag (delimitersAfter part pair) later .switch body rest
            ∧ (Text.words body).length < 2 := by
  have whole : Reads pair 0 source (Reading.ofSource source pair) := reads_iff.mpr rfl
  refine ⟨fun tokens parsed => ?_, fun switch member => ?_,
    fun words start => delimitersAfter_of_invalid⟩
  · -- The changes of the tree are those of the tags, in the order of the document.
    obtain ⟨pieces, reads, changes⟩ := changes_of_parse parsed
    have set := reads.map_ofBody?_changes
    rw [← changes, ← switches_of_reads reads (parse_eq_ok parsed).1] at set
    refine ⟨set, ?_⟩
    have last := congrArg List.getLast? set
    rw [List.getLast?_map, List.getLast?_map] at last
    rw [delimitersAfter_eq_last, Delimiters.last]
    -- There are as many changes in the tree as took effect.
    cases final : (Token.changesAll tokens).getLast? with
    | none =>
      rw [final, Option.map_none, eq_comm, Option.map_eq_none_iff] at last
      rw [last]
      rfl
    | some body =>
      rw [final, Option.map_some, eq_comm, Option.map_eq_some_iff] at last
      obtain ⟨switch, there, words⟩ := last
      rw [there]
      exact Delimiters.ofBody?_eq_some_iff.mp words.symm
  · -- A word of the body of a tag has no blank, and the body has no equals sign.
    obtain ⟨tag, among, changes, body⟩ := tag_of_mem_switches member
    obtain ⟨more, words⟩ := Delimiters.ofBody?_eq_some_iff.mp body
    have unequal := (whole.change_tag among changes).2
    have plain : ∀ word ∈ Text.words tag.body, ∀ c ∈ word, Text.isBlank c = false ∧ c ≠ '=' := by
      intro word there c inside
      obtain ⟨inBody, solid⟩ := Text.of_mem_words there c inside
      refine ⟨solid, ?_⟩
      rintro rfl
      exact unequal inBody
    rw [words] at plain
    refine ⟨switch.pair.opening_ne_nil, switch.pair.closing_ne_nil, fun c inside => ?_⟩
    rcases List.mem_append.mp inside with opening | closing
    · exact plain _ (.head _) c opening
    · exact plain _ (.tail _ (.head _)) c closing

/-- Behind a section the delimiters are in use that were set inside it. -/
theorem delimitersAfter_follows_inside :
    let source : Text := "\x7b\x7b#a\x7d\x7d\x7b\x7b=<% %> !=\x7d\x7d<%/a%>".toList
    let body : Text := "<% %> !".toList
    ∃ tokens, parse source .default = .ok tokens ∧ (Token.changesAll tokens).getLast? = some body
      ∧ ∃ more, Text.words body = (delimitersAfter source .default).opening
          :: (delimitersAfter source .default).closing :: more := by
  intro source body
  -- The change inside the section is the only one.
  have parsed :
      parse source .default = .ok [.block false ['a'] ⟨0, 6⟩ [.switch body ⟨6, 19⟩] 19] := by
    decide +kernel
  have last := ((delimitersAfter_follows source .default).1 _ parsed).2
  exact ⟨_, parsed, rfl, last⟩

end Template

end Mustache
