import Mathlib.Logic.Relation
import Mustache.Proofs.LineBefore

/-!
Collecting the elements of a template in one pass over its pieces.

Every piece becomes an element in a buffer, and the places of the blanks on the line at hand are
noted. When the line ends and turns out to be standalone, the noted places are emptied one after the
other.

A step keeps every noted place at a blank of the line at hand, and keeps what will have been
collected in the end, which are the elements of the lines.
-/

namespace Mustache

namespace Piece

/-- The element of a piece, given what its line was extended to before it. -/
def toFlat (before : LinePrefix) : Piece → Flat
  | .char c offset => .leaf (.text [c] ⟨offset, offset + 1⟩)
  | .tag t => t.toFlat before

/-- Whether a piece is a blank of the text. -/
def isBlank : Piece → Bool
  | .char c _ => Text.isBlank c
  | .tag _ => false

/-- A piece behind others is on the last line, with the last line of the others if that goes on. -/
theorem lines_concat (pieces : List Piece) (piece : Piece) :
    ∃ front line, lines (pieces ++ [piece]) = front ++ [line ++ [piece]]
      ∧ (pieces ≠ [] → (∀ last, pieces.getLast? = some last → last.endsLine = false) →
          lines pieces = front ++ [line]) := by
  -- The induction is on the pieces in front, whose first one may end a line of its own.
  induction pieces with
  | nil => exact ⟨[], [], by simp [lines], fun nonempty => absurd rfl nonempty⟩
  | cons first rest ih =>
    obtain ⟨front, line, whole, goesOn⟩ := ih
    -- Either no piece comes in between, or the last line is the one behind the first piece.
    by_cases empty : rest = []
    · subst empty
      cases ends : first.endsLine with
      | true => exact ⟨[[first]], [], by simp [lines, ends], by simp [ends]⟩
      | false => exact ⟨[], [first], by simp [lines, ends], by simp [lines, ends]⟩
    have behind : (first :: rest).getLast? = rest.getLast? := List.getLast?_cons_of_ne_nil empty
    rw [List.cons_append, lines, lines, whole, behind]
    cases ends : first.endsLine with
    | true =>
      exact ⟨[first] :: front, line, by simp, fun _ stays => by simp [goesOn empty stays]⟩
    | false =>
      cases front with
      | nil => exact ⟨[], first :: line, by simp, fun _ stays => by simp [goesOn empty stays]⟩
      | cons before front =>
        exact ⟨(first :: before) :: front, line, by simp, fun _ stays => by
          simp [goesOn empty stays]⟩

/-- The last line goes on with a piece behind it. -/
theorem getLast?_lines_concat {pieces line : List Piece}
    (goesOn : ∀ last, pieces.getLast? = some last → last.endsLine = false)
    (last : (lines pieces).getLast? = some line) (piece : Piece) :
    (lines (pieces ++ [piece])).getLast? = some (line ++ [piece]) := by
  -- There is a last line only if there is a piece.
  have nonempty : pieces ≠ [] := by
    intro empty
    simp [empty, lines] at last
  -- The piece stands behind the last line as long as that goes on.
  obtain ⟨front, before, whole, stays⟩ := lines_concat pieces piece
  rw [stays nonempty goesOn, List.getLast?_concat, Option.some.injEq] at last
  rw [whole, List.getLast?_concat, last]

/-- A piece behind others stands at the end of the last line. -/
theorem exists_getLast?_lines_concat (pieces : List Piece) (piece : Piece) :
    ∃ line, (lines (pieces ++ [piece])).getLast? = some (line ++ [piece]) := by
  -- The last line is that of the pieces in front as far as it goes on, and then the piece.
  obtain ⟨front, line, whole, -⟩ := lines_concat pieces piece
  exact ⟨line, by rw [whole, List.getLast?_concat]⟩

end Piece

/-- The elements collected so far, and what is known about the line at hand. -/
structure Buffer where
  /-- The elements, with a gap where one was removed. -/
  slots : List (Option Flat) := []
  /-- The places of the blanks of the line, the latest first. -/
  blanks : List Nat := []
  /-- Whether the line has a tag. -/
  hasTag : Bool := false
  /-- Whether something on the line shows: a character, or a tag that writes a value. -/
  shows : Bool := false
  /-- What the line is extended to. -/
  line : LinePrefix := {}

namespace Buffer

/-- The elements that were not removed. -/
def kept (b : Buffer) : List Flat := b.slots.filterMap id

/-- Whether the line at hand is standalone, as far as it goes. -/
def alone (b : Buffer) : Bool := b.hasTag && !b.shows

/-- Put the element of a piece behind the others, and note its place if it is a blank. -/
def put (b : Buffer) (piece : Piece) : Buffer where
  slots := b.slots ++ [some (piece.toFlat b.line)]
  blanks := if piece.isBlank then b.slots.length :: b.blanks else b.blanks
  hasTag := b.hasTag || piece.isTag
  shows := b.shows || !piece.isSilent
  line := b.line.extend piece

/-- The elements with the noted places emptied one after the other. -/
def emptied (b : Buffer) : List (Option Flat) :=
  b.blanks.foldl (fun slots place => slots.set place none) b.slots

/-- Empty a place, and keep note of others. -/
def drop (b : Buffer) (place : Nat) (places : List Nat) : Buffer :=
  { b with slots := b.slots.set place none, blanks := places }

/-- End the line at hand: if it is standalone all places noted are emptied. -/
def endLine (b : Buffer) : Buffer where
  slots := if b.alone then b.emptied else b.slots

/-- Nothing is emptied when a line ends that is not standalone or has no blank. -/
theorem endLine_eq {b : Buffer} (done : b.alone = true → b.blanks = []) :
    b.endLine = { slots := b.slots } := by
  -- A line that is alone has no blanks to empty, by what is given.
  cases alone : b.alone with
  | false => simp [endLine, alone]
  | true => simp [endLine, emptied, alone, done alone]

/-- Put a piece into the buffer, and end the line if the piece does. -/
def take (b : Buffer) (piece : Piece) : Buffer :=
  if piece.endsLine then (b.put piece).endLine else b.put piece

/-- All noted places are places of the buffer. -/
def Inside (b : Buffer) : Prop := ∀ place ∈ b.blanks, place < b.slots.length

/-- Emptying places leaves alone what stands behind all of them. -/
theorem foldl_set_append {slots later : List (Option Flat)} {places : List Nat}
    (inside : ∀ place ∈ places, place < slots.length) :
    places.foldl (fun slots place => slots.set place none) (slots ++ later)
      = places.foldl (fun slots place => slots.set place none) slots ++ later := by
  -- Each place that is emptied lies in front, and emptying it keeps the length.
  induction places generalizing slots with
  | nil => rfl
  | cons place places ih =>
    rw [List.forall_mem_cons] at inside
    rw [List.foldl_cons, List.foldl_cons, List.set_append_left _ _ inside.1, ih]
    simpa using inside.2

/-- The place of a piece is noted with those before if the piece is a blank. -/
theorem mem_blanks_put {b : Buffer} {piece : Piece} {place : Nat} :
    place ∈ (b.put piece).blanks
      ↔ (piece.isBlank = true ∧ place = b.slots.length) ∨ place ∈ b.blanks := by
  -- Only a blank is noted when it is put, in front of those noted before.
  cases blank : piece.isBlank <;> simp [put, blank]

/-- All places are inside when one more element is put. -/
theorem Inside.put {b : Buffer} (inside : b.Inside) (piece : Piece) : (b.put piece).Inside := by
  intro place member
  have longer : (b.put piece).slots.length = b.slots.length + 1 := by simp [Buffer.put]
  -- A blank that is noted is the one that was just put, or was noted before.
  rcases mem_blanks_put.mp member with ⟨-, rfl⟩ | before
  · omega
  · have := inside place before
    omega

/-- Of one more piece a gap is left if it is a blank, and otherwise its element. -/
theorem emptied_put {b : Buffer} (inside : b.Inside) (piece : Piece) :
    (b.put piece).emptied
      = b.emptied ++ [if piece.isBlank then none else some (piece.toFlat b.line)] := by
  cases blank : piece.isBlank with
  | true =>
    -- Its own place is emptied first.
    simp only [emptied, put, blank, if_true, List.foldl_cons]
    rw [List.set_append_right _ _ (Nat.le_refl _), foldl_set_append inside]
    simp
  | false =>
    -- Any other piece is not noted, and it stands behind all that are.
    simp only [emptied, put, blank, Bool.false_eq_true, if_false]
    exact foldl_set_append inside

/-- The rest of a line adds its elements. -/
theorem kept_foldl_put (line : List Piece) (b : Buffer) :
    (line.foldl put b).kept = b.kept ++ Piece.lineFlats true b.line line := by
  -- Whether a piece has an element depends on its kind alone.
  induction line generalizing b with
  | nil => simp [Piece.lineFlats]
  | cons piece line ih =>
    rw [List.foldl_cons, ih]
    cases piece <;> simp [kept, put, Piece.lineFlats, Piece.toFlat]

/-- The rest of a line adds the elements of its tags if its blanks are removed and nothing shows. -/
theorem emptied_foldl_put {line : List Piece} (silent : line.all Piece.isSilent = true) {b : Buffer}
    (inside : b.Inside) :
    (line.foldl put b).emptied.filterMap id
      = b.emptied.filterMap id ++ Piece.lineFlats false b.line line := by
  -- The induction is on the line, which is put piece by piece.
  induction line generalizing b with
  | nil => simp [Piece.lineFlats]
  | cons piece line ih =>
    rw [List.all_cons, Bool.and_eq_true] at silent
    rw [List.foldl_cons, ih silent.2 (inside.put piece), emptied_put inside]
    cases piece with
    | char c offset =>
      -- A character that does not show is a blank.
      have blank : Text.isBlank c = true := silent.1
      simp [put, Piece.lineFlats, Piece.isBlank, blank]
    | tag t => simp [put, Piece.lineFlats, Piece.isBlank, Piece.toFlat]

/-- What is known about a line at its end. -/
theorem alone_foldl_put (line : List Piece) (b : Buffer) :
    (line.foldl put b).alone
      = ((b.hasTag || line.any Piece.isTag) && (!b.shows && line.all Piece.isSilent)) := by
  -- What is known of the line so far is carried along as both conditions.
  induction line generalizing b with
  | nil => simp [alone]
  | cons piece line ih =>
    rw [List.foldl_cons, ih]
    simp [put, Bool.or_assoc, Bool.and_assoc]

/-- At its end a line has added its elements, without its text if it is standalone. -/
theorem kept_endLine_foldl_put (slots : List (Option Flat)) (line : List Piece) :
    (line.foldl put { slots := slots }).endLine.kept
      = slots.filterMap id ++ Piece.lineFlats (!Piece.standalone line) {} line := by
  -- Whether the line stands alone was found out while its pieces were put.
  have alone : (line.foldl put { slots := slots }).alone = Piece.standalone line := by
    simp [alone_foldl_put, Piece.standalone]
  cases standalone : Piece.standalone line with
  | false => simpa [endLine, alone, standalone, kept] using kept_foldl_put line { slots := slots }
  | true =>
    -- Every character of the line is a blank, and all of these are removed.
    have silent := ((Bool.and_eq_true ..).mp standalone).2
    simpa [endLine, alone, standalone, kept, emptied]
      using emptied_foldl_put silent (b := { slots := slots }) (fun _ => by simp)

/-- The last place that is noted is the first one to be emptied when the line ends. -/
theorem endLine_drop {b : Buffer} {place : Nat} {places : List Nat} (alone : b.alone = true)
    (noted : b.blanks = place :: places) : (b.drop place places).endLine = b.endLine := by
  -- The line is standalone with the place emptied, too.
  have alone' : (b.drop place places).alone = true := alone
  rw [endLine, endLine, if_pos alone', if_pos alone, emptied, emptied, noted]
  rfl

/-- When a line has been ended it makes no difference to end it again. -/
theorem endLine_endLine (b : Buffer) : b.endLine.endLine = b.endLine := rfl

/-- The pieces of a line that goes on are only put into the buffer. -/
theorem foldl_take_goesOn {line : List Piece} (goesOn : ∀ piece ∈ line, piece.endsLine = false)
    (b : Buffer) : line.foldl take b = line.foldl put b :=
  -- None of them ends the line.
  List.foldl_ext take put b fun b piece member => by simp [take, goesOn piece member]

/-- With the first line its pieces are put into the buffer, and its last piece ends it. -/
theorem foldl_take_line {line later : List Piece} (first : Piece.FirstLine line later)
    (b : Buffer) :
    (line.foldl take b).endLine = (line.foldl put b).endLine
      ∧ (later ≠ [] → line.foldl take b = (line.foldl put b).endLine) := by
  -- The line ends with some piece, and those before it do not end it.
  obtain ⟨front, last, rfl⟩ := (List.eq_nil_or_concat' line).resolve_left first.nonempty
  rw [List.foldl_concat, List.foldl_concat,
    foldl_take_goesOn (first.goesOn rfl (List.cons_ne_nil last []))]
  cases ends : last.endsLine with
  | true => simp [take, ends, endLine_endLine]
  | false =>
    refine ⟨by simp [take, ends], fun more => ?_⟩
    -- With pieces behind the line its last piece ends it.
    have := first.last more last (by simp)
    rw [ends] at this
    cases this

/-- In the end what has been collected are the elements of the lines. -/
theorem kept_foldl_take (slots : List (Option Flat)) (pieces : List Piece) :
    (pieces.foldl take { slots := slots }).endLine.kept
      = slots.filterMap id ++ Piece.flats pieces := by
  -- The induction is on the number of pieces: the first line is taken off.
  induction length : pieces.length using Nat.strongRecOn generalizing slots pieces with
  | ind n ih =>
    rcases Piece.lines_cases pieces with rfl | ⟨line, later, rfl, split, first⟩
    · simp [endLine, alone, kept, Piece.flats, Piece.lines]
    have same : Piece.flats (line ++ later)
        = Piece.lineFlats (!Piece.standalone line) {} line ++ Piece.flats later := by
      rw [Piece.flats, split, List.flatMap_cons]
      rfl
    have ended := kept_endLine_foldl_put slots line
    obtain ⟨ends, taken⟩ := foldl_take_line first { slots := slots }
    rw [same, List.foldl_append]
    -- The line just read is the last one, or it was ended before the others are read.
    by_cases more : later = []
    · subst more
      simpa [ends, Piece.flats, Piece.lines] using ended
    · have shorter : later.length < n := by
        have := List.length_pos_iff.mpr first.nonempty
        rw [List.length_append] at length
        omega
      rw [taken more, ← List.append_assoc, ← ended]
      exact ih _ shorter _ later rfl

end Buffer

/-- What is done next while elements are collected. -/
inductive Phase where
  /-- The next piece is taken, if there is one. -/
  | reading
  /-- The line at hand is ended, which may be the last one. -/
  | ending (last : Bool)
  /-- All elements are collected. -/
  | finished
  deriving DecidableEq, Repr

/-- How far the elements of some pieces have been collected. -/
structure Collecting where
  /-- The elements so far. -/
  buffer : Buffer
  /-- The pieces that were taken. -/
  taken : List Piece
  /-- The pieces to come. -/
  left : List Piece
  /-- What is done next. -/
  phase : Phase

namespace Collecting

/-- Nothing has been collected yet. -/
def start (pieces : List Piece) : Collecting := ⟨{}, [], pieces, .reading⟩

/-- One step of collecting elements. -/
inductive Step : Collecting → Collecting → Prop
  /-- A piece is taken, which may end its line. -/
  | take {b : Buffer} {taken left : List Piece} {piece : Piece} :
      Step ⟨b, taken, piece :: left, .reading⟩
        ⟨b.put piece, taken ++ [piece], left, if piece.endsLine then .ending false else .reading⟩
  /-- The last line ends with the source. -/
  | stop {b : Buffer} {taken : List Piece} :
      Step ⟨b, taken, [], .reading⟩ ⟨b, taken, [], .ending true⟩
  /-- The place of a blank of a standalone line is emptied. -/
  | drop {b : Buffer} {taken left : List Piece} {last : Bool} {place : Nat} {places : List Nat}
      (alone : b.alone = true) (noted : b.blanks = place :: places) :
      Step ⟨b, taken, left, .ending last⟩ ⟨b.drop place places, taken, left, .ending last⟩
  /-- Nothing is left to be emptied, and the next line begins if there is one. -/
  | close {b : Buffer} {taken left : List Piece} {last : Bool}
      (done : b.alone = true → b.blanks = []) :
      Step ⟨b, taken, left, .ending last⟩
        ⟨{ slots := b.slots }, taken, left, if last then .finished else .reading⟩

/-- How far one can come with some pieces. -/
def Reaches (pieces : List Piece) : Collecting → Prop := Relation.ReflTransGen Step (start pieces)

/-- The elements that will have been collected in the end. -/
def outcome (state : Collecting) : List Flat :=
  match state.phase with
  | .reading => (state.left.foldl Buffer.take state.buffer).endLine.kept
  | .ending false => (state.left.foldl Buffer.take state.buffer.endLine).endLine.kept
  | .ending true => state.buffer.endLine.kept
  | .finished => state.buffer.kept

/-- A step does not change what will have been collected in the end. -/
theorem Step.outcome_eq {state next : Collecting} (step : Step state next) :
    state.outcome = next.outcome := by
  -- The last line may be ended by a step already, which ends it only once.
  cases step with
  | @take b taken left piece =>
    cases ends : piece.endsLine <;> simp [outcome, Buffer.take, ends]
  | stop => rfl
  | @drop b taken left last place places alone noted =>
    cases last <;> simp [outcome, Buffer.endLine_drop alone noted]
  | @close b taken left last done =>
    cases last <;> simp [outcome, Buffer.endLine_eq done]

/-- A blank of the line at hand stands at a place that is noted. -/
def Notes (b : Buffer) (taken : List Piece) (place : Nat) : Prop :=
  ∃ (line : List Piece) (c : Char) (offset : Nat),
    (Piece.lines taken).getLast? = some line ∧ .char c offset ∈ line ∧ Text.isBlank c = true
      ∧ b.slots[place]? = some (some (.leaf (.text [c] ⟨offset, offset + 1⟩)))

/-- The places that are noted are those of blanks of the line at hand, each noted once. -/
structure Sound (state : Collecting) : Prop where
  /-- A blank stands at each place. -/
  notes : ∀ place ∈ state.buffer.blanks, Notes state.buffer state.taken place
  /-- The places go from the end to the front. -/
  ordered : state.buffer.blanks.Pairwise (· > ·)
  /-- No place is noted when a line begins. -/
  fresh : state.phase = .reading →
    (∃ last, state.taken.getLast? = some last ∧ last.endsLine = true) → state.buffer.blanks = []

/-- A place that is noted is one of the buffer. -/
theorem Notes.inside {b : Buffer} {taken : List Piece} {place : Nat} (notes : Notes b taken place) :
    place < b.slots.length := by
  -- A piece stands at the place.
  obtain ⟨_, _, _, -, -, -, stands⟩ := notes
  exact (List.getElem?_eq_some_iff.mp stands).1

/-- A place stays that of a blank of the line at hand when a piece is taken that goes on with it. -/
theorem Notes.put {b : Buffer} {taken : List Piece} {place : Nat} (notes : Notes b taken place)
    (goesOn : ∀ last, taken.getLast? = some last → last.endsLine = false) (piece : Piece) :
    Notes (b.put piece) (taken ++ [piece]) place := by
  -- The line goes on with the piece, and the elements go on with its element.
  have inside := notes.inside
  obtain ⟨line, c, offset, last, member, blank, stands⟩ := notes
  refine ⟨line ++ [piece], c, offset, ?_, List.mem_append_left _ member, blank, ?_⟩
  · exact Piece.getLast?_lines_concat goesOn last piece
  · -- The elements in front stay where they are.
    simpa [Buffer.put, List.getElem?_append_left inside] using stands

/-- Taking a piece keeps the notes sound. -/
theorem Sound.take {b : Buffer} {taken left : List Piece} {piece : Piece}
    (sound : Sound ⟨b, taken, piece :: left, .reading⟩) :
    Sound ⟨b.put piece, taken ++ [piece], left,
      if piece.endsLine then .ending false else .reading⟩ := by
  obtain ⟨notes, ordered, fresh⟩ := sound
  simp only [forall_const] at notes ordered fresh
  -- If a place is noted the line has begun before, and so the piece is on the same line.
  have earlier : ∀ place ∈ b.blanks, Notes (b.put piece) (taken ++ [piece]) place := by
    intro place member
    refine (notes place member).put (fun last ended => ?_) piece
    by_contra ends
    rw [fresh ⟨last, ended, by simpa using ends⟩] at member
    cases member
  have here : piece.isBlank = true → Notes (b.put piece) (taken ++ [piece]) b.slots.length := by
    intro blank
    cases piece with
    | tag t => cases blank
    | char c offset =>
      obtain ⟨line, last⟩ := Piece.exists_getLast?_lines_concat taken (.char c offset)
      exact ⟨line ++ [.char c offset], c, offset, last, by simp, blank, by
        simp [Buffer.put, Piece.toFlat]⟩
  refine ⟨?_, ?_, ?_⟩
  · intro place member
    rcases Buffer.mem_blanks_put.mp member with ⟨blank, rfl⟩ | before
    · exact here blank
    · exact earlier place before
  · -- The new place is behind those noted before.
    by_cases blank : piece.isBlank = true
    · simp only [Buffer.put, blank, if_true, List.pairwise_cons]
      exact ⟨fun place member => (notes place member).inside, ordered⟩
    · simpa [Buffer.put, blank] using ordered
  · intro reading ended
    obtain ⟨last, isLast, ends⟩ := ended
    obtain rfl : piece = last := by simpa using isLast
    simp [ends] at reading

/-- Emptying the last place that is noted keeps the notes sound. -/
theorem Sound.drop {b : Buffer} {taken left : List Piece} {last : Bool} {place : Nat}
    {places : List Nat} (sound : Sound ⟨b, taken, left, .ending last⟩)
    (noted : b.blanks = place :: places) :
    Sound ⟨b.drop place places, taken, left, .ending last⟩ := by
  obtain ⟨notes, ordered, -⟩ := sound
  simp only [noted, List.pairwise_cons] at notes ordered
  -- The places that are left are in order, and the one that is emptied stands behind them all.
  refine ⟨?_, ordered.2, nofun⟩
  intro other member
  obtain ⟨line, c, offset, ended, onLine, blank, stands⟩ :=
    notes other (List.mem_cons_of_mem _ member)
  refine ⟨line, c, offset, ended, onLine, blank, ?_⟩
  -- The other places are in front of the one that is emptied.
  have apart : place ≠ other := by
    have := ordered.1 other member
    omega
  simpa [Buffer.drop, List.getElem?_set_ne apart] using stands

/-- A step keeps the notes sound. -/
theorem Step.sound {state next : Collecting} (step : Step state next) (sound : state.Sound) :
    next.Sound := by
  -- A line that ends leaves no notes; other steps were shown to keep them.
  cases step with
  | take => exact sound.take
  | stop => exact ⟨sound.notes, sound.ordered, nofun⟩
  | drop _ noted => exact sound.drop noted
  | close => exact ⟨fun _ member => by simp at member, List.Pairwise.nil, fun _ _ => rfl⟩

/-- The notes are sound wherever one comes. -/
theorem Reaches.sound {pieces : List Piece} {state : Collecting} (reaches : Reaches pieces state) :
    state.Sound := by
  -- Nothing is noted at the start, and each step keeps the notes sound.
  induction reaches with
  | refl => exact ⟨fun _ member => by simp [start] at member, List.Pairwise.nil, fun _ _ => rfl⟩
  | tail _ step sound => exact step.sound sound

/-- The pieces that were taken are those in front of the ones to come. -/
theorem Reaches.taken_append_left {pieces : List Piece} {state : Collecting}
    (reaches : Reaches pieces state) : state.taken ++ state.left = pieces := by
  induction reaches with
  | refl => rfl
  | tail _ step ih =>
    rw [← ih]
    -- A step leaves both as they are, unless it takes the first of those to come.
    cases step <;> simp

/-- What has been collected at the end are the elements of the lines. -/
theorem Reaches.kept_eq {pieces : List Piece} {state : Collecting} (reaches : Reaches pieces state)
    (finished : state.phase = .finished) : state.buffer.kept = Piece.flats pieces := by
  -- No step changes what will have been collected in the end.
  have same : (start pieces).outcome = state.outcome := by
    clear finished
    induction reaches with
    | refl => rfl
    | tail _ step ih => exact ih.trans step.outcome_eq
  -- At first nothing is collected, and all pieces are left to be taken.
  have whole : (start pieces).outcome = Piece.flats pieces := by
    simpa [outcome, start] using Buffer.kept_foldl_take [] pieces
  rw [← whole, same, outcome, finished]

/-- The line at hand can be ended, whatever places are noted. -/
theorem endsLine (b : Buffer) (taken left : List Piece) (last : Bool) :
    Relation.ReflTransGen Step ⟨b, taken, left, .ending last⟩
      ⟨b.endLine, taken, left, if last then .finished else .reading⟩ := by
  cases alone : b.alone with
  | false =>
    -- A line that has more than blanks keeps them all, and is ended at once.
    have done : b.alone = true → b.blanks = [] := by simp [alone]
    rw [Buffer.endLine_eq done]
    exact .single (.close done)
  | true =>
    -- The places are emptied one after the other.
    induction noted : b.blanks generalizing b with
    | nil =>
      rw [Buffer.endLine_eq fun _ => noted]
      exact .single (.close fun _ => noted)
    | cons place places ih =>
      have rest := ih (b.drop place places) alone rfl
      rw [Buffer.endLine_drop alone noted] at rest
      exact .head (.drop alone noted) rest

/-- All elements come to be collected. -/
theorem exists_finished (pieces : List Piece) :
    ∃ state, Reaches pieces state ∧ state.phase = .finished := by
  -- The pieces are taken one after the other, whatever is in the buffer by then.
  have onward : ∀ (left : List Piece) (b : Buffer) (taken : List Piece), ∃ state,
      Relation.ReflTransGen Step ⟨b, taken, left, .reading⟩ state ∧ state.phase = .finished := by
    intro left
    induction left with
    | nil => exact fun b taken => ⟨_, .head .stop (endsLine b taken [] true), rfl⟩
    | cons piece left ih =>
      intro b taken
      cases ends : piece.endsLine with
      | false =>
        obtain ⟨state, reaches, finished⟩ := ih (b.put piece) (taken ++ [piece])
        exact ⟨state, .head .take (by simpa [ends] using reaches), finished⟩
      | true =>
        -- The line is ended before the pieces behind it are taken.
        obtain ⟨state, reaches, finished⟩ := ih (b.put piece).endLine (taken ++ [piece])
        refine ⟨state, .head .take (.trans ?_ reaches), finished⟩
        simpa [ends] using endsLine (b.put piece) (taken ++ [piece]) left false
  exact onward pieces {} []

end Collecting

end Mustache
