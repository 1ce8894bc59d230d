import Mathlib.Data.List.Nodup
import Mustache.Proofs.Json.Scalar

/-!
Written JSON values are read back.

What comes back is the same value with the entries of its objects in the order of their names.
-/

namespace Mustache

namespace Text

variable {α β : Type}

/-- An element goes in front of a row or behind its first element. -/
theorem insertBy_cases (name : α → Text) (element first : α) (rest : List α) :
    insertBy name element (first :: rest) = element :: first :: rest
      ∨ insertBy name element (first :: rest) = first :: insertBy name element rest :=
  -- This depends on how the names of the two compare.
  (Decidable.em _).imp (fun before => if_pos before) fun behind => if_neg behind

/-- A row with one more element has this element and those it had. -/
theorem perm_insertBy (name : α → Text) (element : α) (row : List α) :
    (insertBy name element row).Perm (element :: row) := by
  -- The induction goes through the row up to the place of the element.
  induction row with
  | nil => exact .refl _
  | cons first rest ih =>
    rcases insertBy_cases name element first rest with before | behind
    · rw [before]
    · -- The element goes to its place among the others.
      rw [behind]
      exact (List.Perm.cons first ih).trans (.swap element first rest)

/-- Sorting a row only changes the order. -/
theorem perm_sortBy (name : α → Text) (row : List α) : (sortBy name row).Perm row := by
  -- Each element is put somewhere among the sorted rest.
  induction row with
  | nil => exact .refl _
  | cons first rest ih => exact (perm_insertBy name first _).trans (ih.cons first)

/-- Elements may be changed before or after sorting when that leaves their names as they are. -/
theorem sortBy_map (change : α → β) {name : β → Text} {name' : α → Text}
    (same : ∀ element, name (change element) = name' element) (row : List α) :
    sortBy name (row.map change) = (sortBy name' row).map change := by
  -- To insert a single element goes along with the change.
  have insert : ∀ (element : α) (row : List α),
      insertBy name (change element) (row.map change) = (insertBy name' element row).map change := by
    intro element row
    induction row with
    | nil => rfl
    | cons first rest ih =>
      change @ite _ _ _ _ (change first :: insertBy name (change element) (rest.map change))
        = (@ite _ _ _ _ (first :: insertBy name' element rest)).map change
      -- Names are compared in the same way.
      simp only [same, ih]
      split <;> rfl
  induction row with
  | nil => rfl
  | cons first rest ih => rw [List.map_cons, sortBy, sortBy, ih, insert]

end Text

namespace Json

mutual

/-- A value with the entries of all its objects in the order of their names. -/
def sorted : Json → Json
  | .array items => .array (sortedItems items)
  | .object entries => .object (Text.sortBy (·.1) (sortedEntries entries))
  | other => other

/-- Items with the entries of all their objects in order. -/
def sortedItems : List Json → List Json
  | [] => []
  | item :: items => sorted item :: sortedItems items

/-- Entries, in the order they have, with the entries of all objects inside them in order. -/
def sortedEntries : List (Text × Json) → List (Text × Json)
  | [] => []
  | (name, value) :: entries => (name, sorted value) :: sortedEntries entries

end

/-- Items are put in order one by one. -/
theorem sortedItems_eq (items : List Json) : sortedItems items = items.map sorted := by
  -- The recursion is written out in the definition, since values are sorted along with it.
  induction items with
  | nil => rfl
  | cons item items ih => rw [sortedItems, ih, List.map_cons]

/-- The values of entries are put in order one by one. -/
theorem sortedEntries_eq (entries : List (Text × Json)) :
    sortedEntries entries = entries.map fun entry => (entry.1, sorted entry.2) := by
  induction entries with
  | nil => rfl
  | cons entry entries ih => rw [sortedEntries, ih, List.map_cons]

/-- Items are written one by one. -/
theorem writeItems_eq (indent : Option Text) (depth : Nat) (items : List Json) :
    writeItems indent depth items = items.map (write indent depth) := by
  -- The recursion is written out in the definition, since values are written along with it.
  induction items with
  | nil => rfl
  | cons item items ih => rw [writeItems, ih, List.map_cons]

/-- The values of entries are written one by one. -/
theorem writeEntries_eq (indent : Option Text) (depth : Nat) (entries : List (Text × Json)) :
    writeEntries indent depth entries
      = entries.map fun entry => (entry.1, write indent depth entry.2) := by
  induction entries with
  | nil => rfl
  | cons entry entries ih => rw [writeEntries, ih, List.map_cons]

/-- A written entry: its name, a colon, and its value at some depth. -/
def writtenEntry (indent : Option Text) (depth : Nat) (entry : Text × Json) : Text :=
  writtenText entry.1 ++ ':' :: ' ' :: write indent depth entry.2

/-- An object is written with its entries in the order of their names. -/
theorem write_object (indent : Option Text) (depth : Nat) (entries : List (Text × Json)) :
    write indent depth (.object entries)
      = bracketed indent depth '\x7b' '\x7d'
          ((Text.sortBy (·.1) entries).map (writtenEntry indent (depth + 1))) := by
  -- The names are the same before and after the values are written.
  rw [write, writeEntries_eq, Text.sortBy_map _ fun _ => rfl, List.map_map]
  rfl

/--
A value that comes back from its text.

It holds no floating-point numbers, no integers of too many digits, and no name twice in an object.
-/
inductive Exact : Json → Prop
  /-- The value that says nothing does. -/
  | null : Exact .null
  /-- Truth values do. -/
  | bool (b : Bool) : Exact (.bool b)
  /-- Integers do unless they have too many digits. -/
  | int {n : Int} (short : (Nat.toDigits 10 n.natAbs).length ≤ Text.numeralLimit) : Exact (.int n)
  /-- Texts do. -/
  | text (t : Text) : Exact (.text t)
  /-- Arrays do when their items do. -/
  | array {items : List Json} (each : ∀ item ∈ items, Exact item) : Exact (.array items)
  /-- Objects do when their values do and each name is there once. -/
  | object {entries : List (Text × Json)} (each : ∀ entry ∈ entries, Exact entry.2)
      (distinct : (entries.map (·.1)).Nodup) : Exact (.object entries)

/-- Whether an indentation consists of what may stand between the parts of a text. -/
def Spaced (indent : Option Text) : Prop := ∀ unit ∈ indent, ∀ c ∈ unit, isSpace c = true

section Gaps

variable {indent : Option Text} {gap rest : Text} {c : Char} {depth : Nat}

/-- What may stand between two parts is skipped up to the next one. -/
theorem skip_append (spaced : ∀ c ∈ gap, isSpace c = true) (solid : isSpace c = false) :
    skip (gap ++ c :: rest) = c :: rest := by
  -- All of the gap is taken, and the next character stops it.
  rw [skip, List.dropWhile_append_of_pos spaced, List.dropWhile_cons_of_neg (by simp [solid])]

/-- A part that stands right here is not skipped. -/
theorem skip_cons (solid : isSpace c = false) : skip (c :: rest) = c :: rest := by
  -- The gap in front of the part is empty.
  rw [skip, List.dropWhile_cons_of_neg (by simp [solid])]

/-- A line break and the indentation behind it may stand between two parts. -/
theorem spaced_lineBreak (spaced : Spaced indent) (depth : Nat) :
    ∀ c ∈ lineBreak indent depth, isSpace c = true := by
  cases indent with
  | none => simp [lineBreak]
  | some unit =>
    intro c member
    rcases List.mem_cons.mp member with rfl | inside
    · rfl
    · -- The indentation repeats the same unit.
      obtain ⟨copy, among, member⟩ := List.mem_flatten.mp inside
      rw [(List.mem_replicate.mp among).2] at member
      exact spaced unit rfl c member

/-- A single blank is skipped. -/
theorem isSpace_of_mem_singleton : ∀ c ∈ [' '], isSpace c = true := by
  intro c member
  -- There is one character to look at.
  rw [List.mem_singleton.mp member]
  rfl

/-- A comma and what may stand behind it come between two elements. -/
theorem separator_eq_cons (spaced : Spaced indent) (depth : Nat) :
    ∃ gap, separator indent depth = ',' :: gap ∧ ∀ c ∈ gap, isSpace c = true := by
  -- Without indentation a blank stands behind the comma, and with it a line break.
  cases indent with
  | none => exact ⟨[' '], rfl, isSpace_of_mem_singleton⟩
  | some unit => exact ⟨_, rfl, spaced_lineBreak spaced depth⟩

/-- A closing bracket may follow a value, also on a line of its own. -/
theorem follows_lineBreak (ends : endsValue c = true) :
    Follows (lineBreak indent depth ++ c :: rest) := by
  -- On a line of its own the bracket has the line break in front.
  cases indent with
  | none => simpa [lineBreak, Follows] using ends
  | some unit => simp [lineBreak, Follows, endsValue]

end Gaps

/-- A text that begins with what may not stand between two parts and closes nothing. -/
def Solid (t : Text) : Prop :=
  ∃ c rest, t = c :: rest ∧ isSpace c = false ∧ c ≠ ']' ∧ c ≠ '\x7d'

/-- A text goes on to be solid, whatever comes behind it. -/
theorem Solid.append {t : Text} (solid : Solid t) (later : Text) : Solid (t ++ later) := by
  -- The first character stays the first one.
  obtain ⟨c, rest, rfl, first⟩ := solid
  exact ⟨c, rest ++ later, rfl, first⟩

/-- Nothing of a solid text is skipped. -/
theorem Solid.skip_eq {t : Text} (solid : Solid t) : skip t = t := by
  -- The first character is none that is skipped.
  obtain ⟨c, rest, rfl, first, -⟩ := solid
  exact skip_cons first

/-- A solid text is not skipped, even behind what may stand between two parts. -/
theorem Solid.skip_append {t : Text} (solid : Solid t) {gap : Text}
    (spaced : ∀ c ∈ gap, isSpace c = true) : skip (gap ++ t) = t := by
  -- The gap ends where the text begins.
  obtain ⟨c, rest, rfl, first, -⟩ := solid
  exact Json.skip_append spaced first

/-- Elements in brackets begin with the opening one. -/
theorem bracketed_eq_cons (indent : Option Text) (depth : Nat) (opening closing : Char)
    (shown : List Text) : ∃ rest, bracketed indent depth opening closing shown = opening :: rest := by
  -- There are elements or none.
  cases shown <;> exact ⟨_, rfl⟩

/-- There is a line break behind the opening bracket and in front of the closing one. -/
theorem bracketed_append {indent : Option Text} {depth : Nat} {opening closing : Char}
    {shown : List Text} (nonempty : shown ≠ []) (rest : Text) :
    bracketed indent depth opening closing shown ++ rest
      = opening :: (lineBreak indent (depth + 1) ++ ((separator indent (depth + 1)).intercalate shown
          ++ (lineBreak indent depth ++ closing :: rest))) := by
  -- There is something to be shown, so that the brackets are not side by side.
  cases shown with
  | nil => exact absurd rfl nonempty
  | cons first others => simp [bracketed]

/-- Elements are shorter than they are between brackets. -/
theorem length_intercalate_lt (indent : Option Text) (depth : Nat) (opening closing : Char)
    {shown : List Text} (nonempty : shown ≠ []) :
    ((separator indent (depth + 1)).intercalate shown).length + 1
      < (bracketed indent depth opening closing shown).length := by
  -- The two brackets come in addition.
  cases shown with
  | nil => exact absurd rfl nonempty
  | cons first others =>
    simp only [bracketed, List.length_append, List.length_cons, List.length_nil]
    omega

/-- A digit does not stand between two parts, and it is no bracket. -/
theorem solid_toDigits (n : Nat) : Solid (Nat.toDigits 10 n) := by
  obtain ⟨c, rest, same⟩ := List.exists_cons_of_ne_nil (Nat.toDigits_ne_nil (n := n) (b := 10))
  have digit : Text.isAsciiDigit c = true := isAsciiDigit_of_mem_toDigits (n := n) (by simp [same])
  -- Neither the blanks of the format nor its closing brackets are digits.
  refine ⟨c, rest, same, ?_, ?_⟩
  · cases space : isSpace c with
    | false => rfl
    | true =>
      simp only [isSpace, Bool.or_eq_true, decide_eq_true_eq] at space
      rcases space with ((rfl | rfl) | rfl) | rfl <;> cases digit
  · constructor <;> rintro rfl <;> cases digit

/-- The text of a value that comes back is solid. -/
theorem Exact.solid_write {value : Json} (exact : Exact value) (indent : Option Text)
    (depth : Nat) : Solid (write indent depth value) := by
  -- Each kind of value has its own first character.
  cases exact with
  | null => exact ⟨'n', ['u', 'l', 'l'], by simp [write, Text.ofString], rfl, by decide⟩
  | bool b =>
    cases b with
    | true => exact ⟨'t', ['r', 'u', 'e'], by simp [write, Text.ofString], rfl, by decide⟩
    | false => exact ⟨'f', ['a', 'l', 's', 'e'], by simp [write, Text.ofString], rfl, by decide⟩
  | @int n short =>
    -- An integer begins with a digit or with its sign.
    cases n with
    | ofNat n => exact solid_toDigits n
    | negSucc n => exact ⟨'-', _, rfl, rfl, by decide⟩
  | text t => exact ⟨'"', _, rfl, rfl, by decide⟩
  | array each =>
    obtain ⟨rest, same⟩ := bracketed_eq_cons indent depth '[' ']' (writeItems indent (depth + 1) _)
    exact ⟨'[', rest, same, rfl, by decide⟩
  | object each distinct =>
    rw [write_object]
    obtain ⟨rest, same⟩ := bracketed_eq_cons indent depth '\x7b' '\x7d' _
    exact ⟨'\x7b', rest, same, rfl, by decide⟩

/-- A value comes back, written at any depth and in front of what may stand behind a value. -/
def Returns (indent : Option Text) (value : Json) : Prop :=
  ∀ depth steps rest, (write indent depth value).length < steps → Follows rest →
    readValue steps (write indent depth value ++ rest) = .ok (sorted value, rest)

/-- A step of reading that succeeds hands on what it has read. -/
theorem ok_bind {α β : Type} (value : α) (next : α → Except Unreadable β) :
    (Except.ok value >>= next) = next value := rfl

/-- Elements begin with the first of them, whatever stands between them. -/
theorem Solid.intercalate {first : Text} (solid : Solid first) (between : Text)
    (others : List Text) : Solid (between.intercalate (first :: others)) := by
  -- What stands between elements does not come before the first one.
  cases others with
  | nil => rwa [List.intercalate_singleton]
  | cons next others =>
    rw [List.intercalate_cons_cons, List.append_assoc]
    exact solid.append _

section Elements

variable {indent : Option Text} {depth : Nat}

/-- Behind the first of some elements there is a comma, and what is read next are the others. -/
theorem intercalate_separator (spaced : Spaced indent) (depth : Nat) (first : Text) {next : Text}
    (solid : Solid next) (others : List Text) :
    ∃ behind, (separator indent depth).intercalate (first :: next :: others) = first ++ ',' :: behind
      ∧ ((separator indent depth).intercalate (next :: others)).length ≤ behind.length
      ∧ ∀ rest, skip (behind ++ rest)
        = (separator indent depth).intercalate (next :: others) ++ rest := by
  obtain ⟨gap, comma, between⟩ := separator_eq_cons spaced depth
  have solid' := solid.intercalate (separator indent depth) others
  -- What is skipped is the gap behind the comma, since the next element begins with no blank.
  refine ⟨gap ++ (separator indent depth).intercalate (next :: others), ?_, ?_, fun rest => ?_⟩
  · rw [List.intercalate_cons_cons, comma]
    simp
  · rw [List.length_append]
    omega
  · rw [List.append_assoc, (solid'.append rest).skip_append between]

/-- Items that come back by themselves do so in a row, up to the closing bracket. -/
theorem readItems_write (spaced : Spaced indent) {items : List Json} (nonempty : items ≠ [])
    (each : ∀ item ∈ items, Returns indent item ∧ Exact item) {steps : Nat}
    (enough : ((separator indent (depth + 1)).intercalate
      (items.map (write indent (depth + 1)))).length + 1 < steps) (rest : Text) :
    readItems steps ((separator indent (depth + 1)).intercalate
        (items.map (write indent (depth + 1))) ++ (lineBreak indent depth ++ ']' :: rest))
      = .ok (items.map sorted, rest) := by
  induction items generalizing steps with
  | nil => exact absurd rfl nonempty
  | cons item items ih =>
    obtain ⟨steps, rfl⟩ := Nat.exists_eq_succ_of_ne_zero (Nat.ne_zero_of_lt enough)
    have returns := (each item (by simp)).1 (depth + 1) steps
    cases items with
    | nil =>
      -- The closing bracket comes behind the last item.
      simp only [List.map_cons, List.map_nil, List.intercalate_singleton] at enough ⊢
      rw [readItems, returns _ (by omega) (follows_lineBreak rfl), ok_bind]
      simp only [skip_append (spaced_lineBreak spaced depth) (c := ']') rfl]
    | cons next items =>
      obtain ⟨behind, row, shorter, skips⟩ := intercalate_separator spaced (depth + 1)
        (write indent (depth + 1) item) ((each next (by simp)).2.solid_write indent (depth + 1))
        (items.map (write indent (depth + 1)))
      have later := @ih (List.cons_ne_nil _ _) (fun item member => each item (.tail _ member)) steps
      rw [List.map_cons] at later
      rw [List.map_cons, List.map_cons, row] at enough ⊢
      simp only [List.length_append, List.length_cons] at enough
      -- Behind the comma the other items are read.
      rw [List.append_assoc, List.cons_append, readItems,
        returns _ (by omega) (by simp [Follows, endsValue]), ok_bind]
      simp only [skip_cons (c := ',') rfl, skips]
      rw [later (by omega)]
      rfl

/-- A name that is new among some entries goes behind them with its value. -/
theorem insert_of_notMem {entries : List (Text × Json)} {name : Text}
    (new : name ∉ entries.map (·.1)) (value : Json) :
    insert entries name value = entries ++ [(name, value)] := by
  -- The name is compared with that of each entry, and with none it agrees.
  induction entries with
  | nil => rfl
  | cons entry entries ih =>
    obtain ⟨other, old⟩ := entry
    simp only [List.map_cons, List.mem_cons, not_or] at new
    rw [insert, if_neg (Ne.symm new.1), ih new.2, List.cons_append]

/-- A written entry begins with the quote of its name. -/
theorem solid_writtenEntry (indent : Option Text) (depth : Nat) (entry : Text × Json) :
    Solid (writtenEntry indent depth entry) :=
  -- The first character is a quote.
  ⟨'"', _, rfl, rfl, by decide⟩

/-- The name of a written entry is read behind its quote, and its value behind the colon. -/
theorem readEntries_writtenEntry {name : Text} {value : Json} (returns : Returns indent value)
    (exact : Exact value) {before : List (Text × Json)} (new : name ∉ before.map (·.1))
    {steps : Nat} (enough : (writtenEntry indent depth (name, value)).length < steps)
    {rest : Text} (follows : Follows rest) :
    readEntries (steps + 1) before (writtenEntry indent depth (name, value) ++ rest)
      = match skip rest with
        | '\x7d' :: rest => .ok (before ++ [(name, sorted value)], rest)
        | ',' :: rest => readEntries steps (before ++ [(name, sorted value)]) (skip rest)
        | _ => .error .malformed := by
  have shown : writtenEntry indent depth (name, value) ++ rest
      = '"' :: (name.flatMap writtenChar
          ++ '"' :: ':' :: ([' '] ++ (write indent depth value ++ rest))) := by
    simp [writtenEntry, writtenText]
  have length : (write indent depth value).length < steps := by
    simp only [writtenEntry, List.length_append, List.length_cons] at enough
    omega
  -- The entry is written as its name in quotes, a colon and its value.
  -- The blank behind the colon is skipped.
  have gap := ((exact.solid_write indent depth).append rest).skip_append isSpace_of_mem_singleton
  rw [shown, readEntries, readText_written, ok_bind]
  simp only [skip_cons (c := ':') rfl, gap]
  rw [returns depth steps rest length follows, ok_bind]
  exact insert_of_notMem new (sorted value) ▸ rfl

/-- Entries whose values come back by themselves do so in a row, up to the closing brace. -/
theorem readEntries_write (spaced : Spaced indent) {entries : List (Text × Json)}
    (nonempty : entries ≠ []) (each : ∀ entry ∈ entries, Returns indent entry.2 ∧ Exact entry.2)
    {before : List (Text × Json)}
    (distinct : (before.map (·.1) ++ entries.map (·.1)).Nodup) {steps : Nat}
    (enough : ((separator indent (depth + 1)).intercalate
      (entries.map (writtenEntry indent (depth + 1)))).length + 1 < steps) (rest : Text) :
    readEntries steps before ((separator indent (depth + 1)).intercalate
        (entries.map (writtenEntry indent (depth + 1))) ++ (lineBreak indent depth ++ '\x7d' :: rest))
      = .ok (before ++ entries.map (fun entry => (entry.1, sorted entry.2)), rest) := by
  induction entries generalizing before steps with
  | nil => exact absurd rfl nonempty
  | cons entry entries ih =>
    obtain ⟨name, value⟩ := entry
    obtain ⟨steps, rfl⟩ := Nat.exists_eq_succ_of_ne_zero (Nat.ne_zero_of_lt enough)
    obtain ⟨returns, exact⟩ : Returns indent value ∧ Exact value := each (name, value) (by simp)
    have new : name ∉ before.map (·.1) := fun member =>
      (List.nodup_append.mp distinct).2.2 name member name (by simp) rfl
    cases entries with
    | nil =>
      -- The closing brace comes behind the last entry.
      simp only [List.map_cons, List.map_nil, List.intercalate_singleton] at enough ⊢
      rw [readEntries_writtenEntry returns exact new (by omega) (follows_lineBreak rfl)]
      simp only [skip_append (spaced_lineBreak spaced depth) (c := '\x7d') rfl]
    | cons next entries =>
      obtain ⟨behind, row, shorter, skips⟩ := intercalate_separator spaced (depth + 1)
        (writtenEntry indent (depth + 1) (name, value)) (solid_writtenEntry indent (depth + 1) next)
        (entries.map (writtenEntry indent (depth + 1)))
      have later := @ih (List.cons_ne_nil _ _) (fun entry member => each entry (.tail _ member))
        (before ++ [(name, sorted value)]) (by simpa using distinct) steps
      rw [List.map_cons] at later
      rw [List.map_cons, List.map_cons, row] at enough ⊢
      simp only [List.length_append, List.length_cons] at enough
      -- Behind the comma the other entries are read.
      rw [List.append_assoc, List.cons_append,
        readEntries_writtenEntry returns exact new (by omega) (by simp [Follows, endsValue])]
      simp only [skip_cons (c := ',') rfl, skips]
      rw [later (by omega), List.append_assoc]
      rfl

end Elements

/-- A name is read up to what follows it. -/
theorem readName_append (name : String) (value : Json) (rest : Text) :
    readName name value (Text.ofString name ++ rest) = .ok (value, rest) := by
  -- As many characters are dropped as the name has.
  have length : (Text.ofString name).length = name.length := by
    rw [Text.ofString, String.length_toList]
  have shown : (Text.ofString name).isPrefixOf (Text.ofString name ++ rest) = true := by simp
  rw [readName, if_pos shown, ← length, List.drop_left]

/-- What begins with a digit is read as a number. -/
theorem readValue_digit {c : Char} (digit : Text.isAsciiDigit c = true) (steps : Nat)
    (rest : Text) : readValue (steps + 1) (c :: rest) = readNumber false (c :: rest) := by
  -- A digit is none of the characters that other values begin with.
  have different : ∀ {m : Char}, Text.isAsciiDigit m = false → c ≠ m := by
    rintro mark none rfl
    simp [digit] at none
  -- No other value begins with a digit.
  unfold readValue
  simp only [different (m := '"') rfl, different (m := '[') rfl, different (m := '\x7b') rfl,
    different (m := 'n') rfl, different (m := 't') rfl, different (m := 'f') rfl,
    different (m := 'N') rfl, different (m := 'I') rfl, different (m := '-') rfl, if_false]

/-- A digit behind a sign is read as a number, too. -/
theorem readValue_sign {c : Char} (digit : Text.isAsciiDigit c = true) (steps : Nat)
    (rest : Text) : readValue (steps + 1) ('-' :: c :: rest) = readNumber true (c :: rest) := by
  -- The name of the number without digits begins with a letter.
  have letter : c ≠ 'I' := by
    rintro rfl
    cases digit
  unfold readValue
  simp [letter]

/-- An integer of not too many digits comes back. -/
theorem returns_int (indent : Option Text) {n : Int}
    (short : (Nat.toDigits 10 n.natAbs).length ≤ Text.numeralLimit) :
    Returns indent (.int n) := by
  intro depth steps rest enough follows
  obtain ⟨steps, rfl⟩ := Nat.exists_eq_succ_of_ne_zero (Nat.ne_zero_of_lt enough)
  rw [write]
  -- A sign is read first, and then the digits of what is behind it.
  cases n with
  -- Without a sign the first digit tells that a number is there.
  | ofNat n =>
    obtain ⟨c, more, same⟩ := List.exists_cons_of_ne_nil (Nat.toDigits_ne_nil (n := n) (b := 10))
    have digit : Text.isAsciiDigit c = true := isAsciiDigit_of_mem_toDigits (n := n) (by simp [same])
    have read := readNumber_toDigits false short follows
    rw [Int.natAbs_ofNat', same] at read
    rw [Text.ofInt, same, List.cons_append, readValue_digit digit]
    exact read
  | negSucc n =>
    obtain ⟨c, more, same⟩ :=
      List.exists_cons_of_ne_nil (Nat.toDigits_ne_nil (n := n + 1) (b := 10))
    have digit : Text.isAsciiDigit c = true :=
      isAsciiDigit_of_mem_toDigits (n := n + 1) (by simp [same])
    have read := readNumber_toDigits true short follows
    rw [Int.natAbs_negSucc, same] at read
    rw [Text.ofInt, same, List.cons_append, List.cons_append, readValue_sign digit]
    exact read

/-- Behind an opening bracket an array is closed right away, or it has items. -/
theorem readValue_opened (steps : Nat) (t : Text) :
    readValue (steps + 1) ('[' :: t)
      = match skip t with
        | ']' :: rest => .ok (.array [], rest)
        | rest => readItems steps rest >>= fun found => .ok (.array found.1, found.2) := rfl

/-- What stands between brackets is read as the items of an array. -/
theorem readValue_bracket {gap : Text} (spaced : ∀ c ∈ gap, isSpace c = true) {inside : Text}
    (solid : Solid inside) (steps : Nat) :
    readValue (steps + 1) ('[' :: (gap ++ inside))
      = readItems steps inside >>= fun found => .ok (.array found.1, found.2) := by
  -- The array is not closed right away.
  rw [readValue_opened, solid.skip_append spaced]
  obtain ⟨c, rest, rfl, -, different, -⟩ := solid
  split
  · next same => exact absurd (List.cons.inj same).1 different
  · rfl

/-- Behind an opening brace an object is closed right away, or it has entries. -/
theorem readValue_braced (steps : Nat) (t : Text) :
    readValue (steps + 1) ('\x7b' :: t)
      = match skip t with
        | '\x7d' :: rest => .ok (.object [], rest)
        | rest => readEntries steps [] rest >>= fun found => .ok (.object found.1, found.2) := rfl

/-- What stands between braces is read as the entries of an object. -/
theorem readValue_brace {gap : Text} (spaced : ∀ c ∈ gap, isSpace c = true) {inside : Text}
    (solid : Solid inside) (steps : Nat) :
    readValue (steps + 1) ('\x7b' :: (gap ++ inside))
      = readEntries steps [] inside >>= fun found => .ok (.object found.1, found.2) := by
  -- The object is not closed right away.
  rw [readValue_braced, solid.skip_append spaced]
  obtain ⟨c, rest, rfl, -, -, different⟩ := solid
  split
  · next same => exact absurd (List.cons.inj same).1 different
  · rfl

/-- The null value comes back. -/
theorem returns_null (indent : Option Text) : Returns indent .null := by
  intro depth steps rest enough follows
  -- At least one step is left, which reads the name.
  obtain ⟨steps, rfl⟩ := Nat.exists_eq_succ_of_ne_zero (Nat.ne_zero_of_lt enough)
  rw [write, sorted, ← readName_append "null" .null rest, Text.ofString]
  · rfl
  · nofun
  · nofun

/-- A truth value comes back. -/
theorem returns_bool (indent : Option Text) (b : Bool) : Returns indent (.bool b) := by
  intro depth steps rest enough follows
  -- At least one step is left, which reads the name.
  obtain ⟨steps, rfl⟩ := Nat.exists_eq_succ_of_ne_zero (Nat.ne_zero_of_lt enough)
  rw [write, sorted]
  -- Both names are read character by character.
  · cases b with
    | true =>
      rw [if_pos rfl, ← readName_append "true" (.bool true) rest, Text.ofString]
      rfl
    | false =>
      rw [if_neg nofun, ← readName_append "false" (.bool false) rest, Text.ofString]
      rfl
  · nofun
  · nofun

/-- A text comes back. -/
theorem returns_text (indent : Option Text) (t : Text) : Returns indent (.text t) := by
  intro depth steps rest enough follows
  -- A text is read in a single step.
  obtain ⟨steps, rfl⟩ := Nat.exists_eq_succ_of_ne_zero (Nat.ne_zero_of_lt enough)
  have shown : write indent depth (.text t) ++ rest
      = '"' :: (t.flatMap writtenChar ++ '"' :: rest) := by
    simp [write, writtenText]
  have read : readValue (steps + 1) ('"' :: (t.flatMap writtenChar ++ '"' :: rest))
    = readText (t.flatMap writtenChar ++ '"' :: rest)
        >>= fun found => .ok (.text found.1, found.2) := rfl
  -- The text is read up to its closing quote.
  rw [shown, read, readText_written, ok_bind]
  rfl

/-- An array comes back when its items do. -/
theorem returns_array (spaced : Spaced indent) {items : List Json}
    (each : ∀ item ∈ items, Returns indent item ∧ Exact item) : Returns indent (.array items) := by
  intro depth steps rest enough follows
  obtain ⟨steps, rfl⟩ := Nat.exists_eq_succ_of_ne_zero (Nat.ne_zero_of_lt enough)
  rw [write, writeItems_eq] at enough ⊢
  rw [sorted, sortedItems_eq]
  -- Without items there are only the brackets.
  cases items with
  | nil => rfl
  | cons item items =>
    have solid := ((each item (.head _)).2.solid_write indent (depth + 1)).intercalate
      (separator indent (depth + 1)) (items.map (write indent (depth + 1)))
    rw [bracketed_append (by simp)]
    have shorter := length_intercalate_lt indent depth '[' ']' (List.cons_ne_nil
      (write indent (depth + 1) item) (items.map (write indent (depth + 1))))
    rw [← List.map_cons] at solid shorter
    -- The items are read one by one.
    rw [readValue_bracket (spaced_lineBreak spaced _) (solid.append _),
      readItems_write spaced (by simp) each (by omega), ok_bind]

/-- An object comes back when its values do, and each name is there once. -/
theorem returns_object (spaced : Spaced indent) {entries : List (Text × Json)}
    (each : ∀ entry ∈ entries, Returns indent entry.2 ∧ Exact entry.2)
    (distinct : (entries.map (·.1)).Nodup) : Returns indent (.object entries) := by
  intro depth steps rest enough follows
  obtain ⟨steps, rfl⟩ := Nat.exists_eq_succ_of_ne_zero (Nat.ne_zero_of_lt enough)
  rw [write_object] at enough ⊢
  have order := Text.perm_sortBy (·.1) entries
  have sameSort : Text.sortBy (·.1) (sortedEntries entries)
      = (Text.sortBy (·.1) entries).map fun entry => (entry.1, sorted entry.2) := by
    rw [sortedEntries_eq, Text.sortBy_map _ fun _ => rfl]
  rw [sorted, sameSort]
  -- Sorting the entries keeps their values and leaves each name there once.
  have distinct : ((Text.sortBy (·.1) entries).map (·.1)).Nodup :=
    (order.map _).nodup_iff.mpr distinct
  have each : ∀ entry ∈ Text.sortBy (·.1) entries, Returns indent entry.2 ∧ Exact entry.2 :=
    fun entry member => each entry (order.mem_iff.mp member)
  generalize Text.sortBy (·.1) entries = row at *
  cases row with
  | nil => rfl
  | cons entry row =>
    have solid := (solid_writtenEntry indent (depth + 1) entry).intercalate
      (separator indent (depth + 1)) (row.map (writtenEntry indent (depth + 1)))
    rw [bracketed_append (by simp)]
    have shorter := length_intercalate_lt indent depth '\x7b' '\x7d' (List.cons_ne_nil
      (writtenEntry indent (depth + 1) entry) (row.map (writtenEntry indent (depth + 1))))
    rw [← List.map_cons] at solid shorter
    -- The entries are read one by one.
    rw [readValue_brace (spaced_lineBreak spaced _) (solid.append _),
      readEntries_write spaced (by simp) each (by simpa using distinct) (by omega), ok_bind]
    rfl

/-- A value that comes back does so at any depth and in front of what may stand behind a value. -/
theorem Exact.returns {indent : Option Text} (spaced : Spaced indent) {value : Json}
    (exact : Exact value) : Returns indent value := by
  -- What is inside a value comes back already.
  induction exact with
  | null => exact returns_null indent
  | bool b => exact returns_bool indent b
  | int short => exact returns_int indent short
  | text t => exact returns_text indent t
  | array each ih =>
    exact returns_array spaced fun item member => ⟨ih item member, each item member⟩
  | object each distinct ih =>
    exact returns_object spaced (fun entry member => ⟨ih entry member, each entry member⟩) distinct

/-- The text of a value that comes back is read as this value, with sorted entries. -/
theorem ofText_toText {indent : Option Text} (spaced : Spaced indent) {value : Json}
    (exact : Exact value) : ofText (value.toText indent) = .ok value.sorted := by
  have read := exact.returns spaced 0 ((write indent 0 value).length + 1) [] (by omega)
    (by simp [Follows])
  rw [List.append_nil] at read
  -- Nothing is left behind the value.
  rw [ofText, toText, (exact.solid_write indent 0).skip_eq, read, ok_bind]
  rfl

end Json

end Mustache
