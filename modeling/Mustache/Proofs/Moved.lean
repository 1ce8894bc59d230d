import Mustache.Proofs.Visible

/-!
Tokens that stand further on in a source.

Whatever is left out of a token tree, it is the same whether its tags are moved before or after.
-/

namespace Mustache

/-- Offsets that are further on by a distance. -/
def Span.moved (distance : Int) (span : Span) : Span :=
  ⟨span.start + distance, span.stop + distance⟩

/-- To move offsets by a distance and back again leaves them where they are. -/
theorem Span.moved_neg (distance : Int) (span : Span) :
    (span.moved distance).moved (-distance) = span := by
  -- Both offsets are as before.
  simp only [moved, Int.add_neg_cancel_right]

mutual

/-- A token with the offsets of its tags further on by a distance. -/
def Token.moved (distance : Int) : Token → Token
  | .text value span => .text value span
  | .variable escaped path span => .variable escaped path (span.moved distance)
  | .comment value span => .comment value (span.moved distance)
  | .switch value span => .switch value (span.moved distance)
  | .inclusion name span line => .inclusion name (span.moved distance) line
  | .block inverted name span children closeStart =>
    .block inverted name (span.moved distance) (movedAll distance children) (closeStart + distance)

/-- Tokens with the offsets of their tags further on by a distance. -/
def Token.movedAll (distance : Int) : List Token → List Token
  | [] => []
  | token :: tokens => token.moved distance :: movedAll distance tokens

end

/-- An element with the offsets of its tag further on by a distance. -/
def Flat.moved (distance : Int) : Flat → Flat
  | .leaf token => .leaf (token.moved distance)
  | .opening inverted name span => .opening inverted name (span.moved distance)
  | .closing name start => .closing name (start + distance)

mutual

/-- The elements of a token are moved one by one. -/
theorem Token.flatten_moved (distance : Int) (token : Token) :
    (token.moved distance).flatten = token.flatten.map (Flat.moved distance) := by
  match token with
  | .text _ _ | .variable _ _ _ | .comment _ _ | .switch _ _ | .inclusion _ _ _ => rfl
  | .block _ _ _ children _ =>
    -- The opening and the closing tag are moved like those of the children.
    simp [moved, flatten, Flat.moved, Token.flattenAll_movedAll distance children]

/-- The elements of a row of tokens are moved one by one. -/
theorem Token.flattenAll_movedAll (distance : Int) (tokens : List Token) :
    flattenAll (movedAll distance tokens) = (flattenAll tokens).map (Flat.moved distance) := by
  -- The elements of a row are those of its tokens one after the other.
  match tokens with
  | [] => rfl
  | token :: tokens =>
    rw [movedAll, flattenAll, Token.flatten_moved distance token,
      Token.flattenAll_movedAll distance tokens, flattenAll, List.map_append]

end

namespace Flat

/-- Texts stay as they are when tags are moved. -/
theorem isText_moved (distance : Int) (flat : Flat) :
    (flat.moved distance).isText = flat.isText := by
  -- A token is of the same kind wherever it stands.
  rcases flat with token | _ | _
  · cases token <;> rfl
  · rfl
  · rfl

/-- Tags may be moved before or after texts are written as one. -/
theorem merge_moved (distance : Int) (flats : List Flat) :
    merge (flats.map (moved distance)) = (merge flats).map (moved distance) :=
  -- A text stays a text wherever it is.
  merge_map (fun _ _ => rfl) (fun flat noText => (isText_moved distance flat).trans noText) flats

end Flat

mutual

/-- Tags may be moved before or after lines are left out of a token. -/
theorem Token.unlined_moved (distance : Int) (token : Token) :
    (token.moved distance).unlined = token.unlined.moved distance := by
  match token with
  | .text _ _ | .variable _ _ _ | .comment _ _ | .switch _ _ | .inclusion _ _ _ => rfl
  | .block _ _ _ children _ =>
    -- The opening and the closing tag have no line.
    simp only [moved, unlined, Token.unlinedAll_movedAll distance children]

/-- Tags may be moved before or after lines are left out. -/
theorem Token.unlinedAll_movedAll (distance : Int) (tokens : List Token) :
    unlinedAll (movedAll distance tokens) = movedAll distance (unlinedAll tokens) := by
  -- A line of an inclusion is left out wherever its tag stands.
  match tokens with
  | [] => rfl
  | token :: tokens =>
    rw [movedAll, unlinedAll, Token.unlined_moved distance token,
      Token.unlinedAll_movedAll distance tokens, unlinedAll, movedAll]

end

/-- Tokens side by side are moved one after the other. -/
theorem Token.movedAll_append (distance : Int) (left right : List Token) :
    movedAll distance (left ++ right) = movedAll distance left ++ movedAll distance right := by
  -- Each token is moved by itself.
  induction left with
  | nil => rfl
  | cons token left ih => rw [List.cons_append, movedAll, ih, movedAll, List.cons_append]

mutual

/-- Tags may be moved before or after blanks are left out of a token. -/
theorem Token.visible?_moved (distance : Int) (token : Token) :
    (token.moved distance).visible? = token.visible?.map (moved distance) := by
  match token with
  | .text value _ =>
    -- A text is not moved.
    rw [moved, visible?]
    split <;> rfl
  | .variable _ _ _ | .comment _ _ | .switch _ _ | .inclusion _ _ _ => rfl
  | .block _ _ _ children _ =>
    -- The children of a section are looked through on their own.
    simp only [moved, visible?, Token.visibleAll_movedAll distance children, Option.map_some]

/-- Tags may be moved before or after blanks are left out. -/
theorem Token.visibleAll_movedAll (distance : Int) (tokens : List Token) :
    visibleAll (movedAll distance tokens) = movedAll distance (visibleAll tokens) := by
  -- A token is visible or not wherever it stands.
  match tokens with
  | [] => rfl
  | token :: tokens =>
    rw [movedAll, visibleAll, Token.visible?_moved distance token,
      Token.visibleAll_movedAll distance tokens, visibleAll, movedAll_append]
    cases token.visible? <;> rfl

end

mutual

/-- To move the tags of a token by a distance and back again leaves them where they are. -/
theorem Token.moved_neg (distance : Int) (token : Token) :
    (token.moved distance).moved (-distance) = token := by
  -- Both ends of every span come back to where they were.
  match token with
  | .text _ _ => rfl
  | .variable _ _ _ | .comment _ _ | .switch _ _ | .inclusion _ _ _ =>
    simp only [moved, Span.moved_neg]
  | .block _ _ _ children _ =>
    simp only [moved, Span.moved_neg, Token.movedAll_neg distance children, Int.add_neg_cancel_right]

/-- To move the tags of tokens by a distance and back again leaves them where they are. -/
theorem Token.movedAll_neg (distance : Int) (tokens : List Token) :
    movedAll (-distance) (movedAll distance tokens) = tokens := by
  -- One token after the other goes there and back.
  match tokens with
  | [] => rfl
  | token :: tokens =>
    rw [movedAll, movedAll, Token.moved_neg distance token, Token.movedAll_neg distance tokens]

end

/-- To move the tags of elements by a distance and back again leaves them where they are. -/
theorem Flat.map_moved_neg (distance : Int) (flats : List Flat) :
    (flats.map (moved distance)).map (moved (-distance)) = flats := by
  -- Each kind of element has offsets of its own kind.
  have each : ∀ flat : Flat, (flat.moved distance).moved (-distance) = flat := by
    intro flat
    rcases flat with token | _ | _
    · simp only [moved, Token.moved_neg]
    · simp only [moved, Span.moved_neg]
    · simp only [moved, Int.add_neg_cancel_right]
  rw [List.map_map]
  exact List.map_id'' each flats

end Mustache
