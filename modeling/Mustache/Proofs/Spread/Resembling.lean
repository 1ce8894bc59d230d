import Mustache.Proofs.Spread.Parse

/-!
What the tree of an indented template has in common with that of the template.

Sections are nested in the same way, and tags are of the same kinds and in the same order.
A margin shows in the body of a tag only behind a line break of the body.
-/

namespace Mustache

/-- Two bodies of tags that are the same if the first one has no line break. -/
def Text.KeptIfSingle (body body' : Text) : Prop := '\n' ∉ body → body' = body

/--
Tokens of one kind with the same text, the same body of one line, and children that resemble.

Offsets and what stands before a reference on its line are left aside.
-/
inductive Token.Resembles : Token → Token → Prop
  /-- Texts have the same value. -/
  | text (value : Text) (span span' : Span) : Resembles (.text value span) (.text value span')
  /-- Names are both escaped or both not. -/
  | variable {path path' : Text} (escaped : Bool) (span span' : Span)
      (kept : Text.KeptIfSingle path path') :
      Resembles (.variable escaped path span) (.variable escaped path' span')
  /-- Comments resemble. -/
  | comment {value value' : Text} (span span' : Span) (kept : Text.KeptIfSingle value value') :
      Resembles (.comment value span) (.comment value' span')
  /-- Changes of delimiters resemble. -/
  | switch {value value' : Text} (span span' : Span) (kept : Text.KeptIfSingle value value') :
      Resembles (.switch value span) (.switch value' span')
  /-- References may stand behind anything on their lines. -/
  | inclusion {name name' : Text} (span span' : Span) (line line' : LinePrefix)
      (kept : Text.KeptIfSingle name name') :
      Resembles (.inclusion name span line) (.inclusion name' span' line')
  /-- Sections are both inverted or both not, and their children resemble one by one. -/
  | block {name name' : Text} {children children' : List Token} (inverted : Bool)
      (span span' : Span) (closeStart closeStart' : Int) (kept : Text.KeptIfSingle name name')
      (inside : List.Forall₂ Resembles children children') :
      Resembles (.block inverted name span children closeStart)
        (.block inverted name' span' children' closeStart')

mutual

/-- The blanks of texts may be left out before or after what stands before references. -/
theorem Token.visible?_unlined (token : Token) :
    visible? token.unlined = (visible? token).map Token.unlined := by
  -- What stands before a reference is no text of its own.
  match token with
  | .text value span =>
    rw [unlined, visible?]
    · split <;> rfl
    all_goals simp
  | .variable _ _ _ | .comment _ _ | .switch _ _ | .inclusion _ _ _ => rfl
  | .block _ _ _ children _ => simp [unlined, visible?, Token.visibleAll_unlinedAll children]

/-- The same in a row of tokens. -/
theorem Token.visibleAll_unlinedAll (tokens : List Token) :
    visibleAll (unlinedAll tokens) = unlinedAll (visibleAll tokens) := by
  -- The recursion is on the row of tokens.
  match tokens with
  | [] => rfl
  | token :: tokens =>
    rw [unlinedAll, visibleAll, visibleAll, Token.visible?_unlined token,
      Token.visibleAll_unlinedAll tokens]
    -- Nothing or one token is left of the first one.
    cases visible? token <;> rfl

end

/-- A body of one line is kept where another body is the same but for margins. -/
theorem Text.keptIfSingle_of_spread {margin body body' : Text}
    (same : spread [] body' = spread margin body) : KeptIfSingle body body' := by
  intro single
  -- Neither body gets a margin.
  rwa [spread_nil, spread_eq_self single] at same

mutual

/-- Tokens that are the same but for margins, offsets and lines resemble. -/
theorem Token.resembles_of_spread {margin : Text} (token token' : Token)
    (same : token'.unlined.spread [] = token.unlined.spread margin) :
    Resembles token token' := by
  -- The kinds agree, and so do the bodies, up to margins behind their line breaks.
  match token with
  | .text .. => cases token' <;> cases same; exact .text ..
  | .variable .. =>
    cases token' <;> simp only [unlined, spread, variable.injEq, reduceCtorEq] at same
    obtain ⟨rfl, body, -⟩ := same
    exact .variable _ _ _ (Text.keptIfSingle_of_spread body)
  | .comment .. =>
    cases token' <;> simp only [unlined, spread, comment.injEq, reduceCtorEq] at same
    exact .comment _ _ (Text.keptIfSingle_of_spread same.1)
  | .switch .. =>
    cases token' <;> simp only [unlined, spread, switch.injEq, reduceCtorEq] at same
    exact .switch _ _ (Text.keptIfSingle_of_spread same.1)
  | .inclusion .. =>
    cases token' <;> simp only [unlined, spread, inclusion.injEq, reduceCtorEq] at same
    exact .inclusion _ _ _ _ (Text.keptIfSingle_of_spread same.1)
  | .block _ _ _ children _ =>
    cases token' <;> simp only [unlined, spread, block.injEq, reduceCtorEq] at same
    obtain ⟨rfl, name, -, inside, -⟩ := same
    exact .block _ _ _ _ _ (Text.keptIfSingle_of_spread name)
      (Token.resembleAll_of_spreadAll children _ inside)

/-- Rows of tokens that are the same but for margins, offsets and lines resemble one by one. -/
theorem Token.resembleAll_of_spreadAll {margin : Text} (tokens tokens' : List Token)
    (same : spreadAll [] (unlinedAll tokens') = spreadAll margin (unlinedAll tokens)) :
    List.Forall₂ Resembles tokens tokens' := by
  -- The rows are equally long, for no token is left out by margins.
  match tokens, tokens' with
  | [], [] => exact .nil
  | [], _ :: _ => cases same
  | _ :: _, [] => cases same
  | token :: tokens, token' :: tokens' =>
    simp only [unlinedAll, spreadAll, List.cons.injEq] at same
    exact .cons (Token.resembles_of_spread token token' same.1)
      (Token.resembleAll_of_spreadAll tokens tokens' same.2)

end

/--
A template stays one when it is indented, with tags that resemble those it had and the same texts.

Texts are compared without their blanks, and those of blanks alone are left out.
-/
theorem Template.resembling_of_parse_indent {pair : Delimiters} (solid : pair.Solid) {source : Text}
    {tokens : List Token} (parsed : parse source pair = .ok tokens) (indentation : Text)
    (continuesText : Bool) :
    ∃ tokens', parse (Indentation.indent source indentation continuesText) pair = .ok tokens'
      ∧ List.Forall₂ Token.Resembles (Token.visibleAll tokens) (Token.visibleAll tokens') := by
  -- The outline of the tree says all that is compared.
  obtain ⟨tokens', parsed', same⟩ := parse_indent solid parsed indentation continuesText
  refine ⟨tokens', parsed', ?_⟩
  rw [Token.outline, Token.outline, Token.visibleAll_unlinedAll, Token.visibleAll_unlinedAll]
    at same
  exact Token.resembleAll_of_spreadAll _ _ same

/-- Line breaks in two tags and a change of delimiters are indented and leave the tree as it was. -/
theorem Template.resembling_of_parse_indent_switched :
    let source : Text :=
      "\x7b\x7b#s\n\x7d\x7da\n\x7b\x7b=<% %>=\x7d\x7d\n <%\nb\nc%>\n<%/s%>".toList
    Indentation.indent source [' ', 'x', '\t'] true
        = "\x7b\x7b#s\n \t\x7d\x7da\n \t\x7b\x7b=<% %>=\x7d\x7d\n \t <%\n \tb\n \tc%>\n \t<%/s%>".toList
      ∧ ∃ tokens', parse (Indentation.indent source [' ', 'x', '\t'] true) .default = .ok tokens'
        ∧ List.Forall₂ Token.Resembles
          [.block false ['s'] ⟨0, 7⟩
            [.text ['a'] ⟨0, 0⟩, .switch ['<', '%', ' ', '%', '>'] ⟨9, 20⟩,
              .variable true ['b', '\n', 'c'] ⟨22, 30⟩] 31]
          (Token.visibleAll tokens') := by
  refine ⟨by decide +kernel, ?_⟩
  -- The blanks around the second tag are texts of their own, which are left out.
  have parsed : parse
      "\x7b\x7b#s\n\x7d\x7da\n\x7b\x7b=<% %>=\x7d\x7d\n <%\nb\nc%>\n<%/s%>".toList .default
      = .ok [.block false ['s'] ⟨0, 7⟩
        [.text ['a', '\n'] ⟨7, 9⟩, .switch ['<', '%', ' ', '%', '>'] ⟨9, 20⟩, .text [' '] ⟨21, 22⟩,
          .variable true ['b', '\n', 'c'] ⟨22, 30⟩, .text ['\n'] ⟨30, 31⟩] 31] := by
    decide +kernel
  exact resembling_of_parse_indent (by decide) parsed [' ', 'x', '\t'] true

end Mustache
