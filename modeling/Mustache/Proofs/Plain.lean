import Mustache.Proofs.References
import Mustache.Session
import Mustache.Value.Member

/-!
Plain data, which answers every name.

What it does not know is absent, and what it knows is plain again. All that it may refuse is what is
too large: an index of more digits than a numeral may have, and an index into a range that has more
items than can be counted.
-/

namespace Mustache

namespace Value

/-- Values of nothing but data: no functions, objects, classes or streams, and nothing shared. -/
inductive Plain : Value → Prop where
  /-- Nothing. -/
  | null : Plain .null
  /-- Truth values. -/
  | bool (b : Bool) : Plain (.bool b)
  /-- Integers. -/
  | int (n : Int) : Plain (.int n)
  /-- Floating-point numbers. -/
  | float (x : Binary64) : Plain (.float x)
  /-- Complex numbers. -/
  | complex (re im : Binary64) : Plain (.complex re im)
  /-- Texts. -/
  | text (t : Text) : Plain (.text t)
  /-- Lists of plain items. -/
  | list {items : List Value} (inside : ∀ item ∈ items, Plain item) : Plain (.list items)
  /-- Tuples of plain items. -/
  | tuple {items : List Value} (inside : ∀ item ∈ items, Plain item) : Plain (.tuple items)
  /-- Sets of plain items. -/
  | set {items : List Value} (inside : ∀ item ∈ items, Plain item) : Plain (.set items)
  /-- Immutable sets of plain items. -/
  | frozenSet {items : List Value} (inside : ∀ item ∈ items, Plain item) : Plain (.frozenSet items)
  /-- Mappings to plain values. -/
  | mapping {entries : List (Value × Value)} (inside : ∀ entry ∈ entries, Plain entry.2) :
    Plain (.mapping entries)
  /-- Ranges. -/
  | range (start stop step : Int) : Plain (.range start stop step)
  /-- Immutable strings of bytes. -/
  | bytes (data : List UInt8) : Plain (.bytes data)
  /-- Strings of bytes that can change. -/
  | buffer (data : List UInt8) : Plain (.buffer data)

mutual

/-- Whether a value can be shown, and the items of every range in it can be counted. -/
def isModerate : Value → Bool
  | .list items => areModerate items
  | .tuple items => areModerate items
  | .set items => areModerate items
  | .frozenSet items => areModerate items
  | .mapping entries => haveModerate entries
  | value => value.canBeShown && !value.isUncountable

/-- Whether all of some values are moderate. -/
def areModerate : List Value → Bool
  | [] => true
  | item :: items => isModerate item && areModerate items

/-- Whether the keys of some entries can be shown, and their values are moderate. -/
def haveModerate : List (Value × Value) → Bool
  | [] => true
  | (key, value) :: entries => key.canBeShown && isModerate value && haveModerate entries

end

/-- An integer is moderate if its numeral can be written. -/
theorem isModerate_int (n : Int) : (int n).isModerate = Text.isShort n := by
  -- An integer has no items that would have to be counted.
  simp [isModerate, canBeShown, isUncountable, isCollection]

mutual

/-- A moderate value can be shown. -/
theorem canBeShown_of_isModerate {value : Value} (moderate : value.isModerate = true) :
    value.canBeShown = true := by
  -- What is moderate can be shown and, if it has items, counted.
  match value with
  | .list _ | .tuple _ | .set _ | .frozenSet _ => exact canAllBeShown_of_areModerate moderate
  | .mapping _ => exact canEntriesBeShown_of_haveModerate moderate
  | .null | .bool _ | .int _ | .float _ | .complex _ _ | .text _ | .range _ _ _ | .bytes _
  | .buffer _ | .stream _ _ | .object _ _ _ _ _ | .kind _ _ | .function _ | .shared _ _
  | .absent =>
    simp only [isModerate, Bool.and_eq_true] at moderate
    exact moderate.1

/-- Moderate values can all be shown. -/
theorem canAllBeShown_of_areModerate {items : List Value} (moderate : areModerate items = true) :
    canAllBeShown items = true := by
  -- One after the other, as they are asked for being moderate.
  match items with
  | [] => rfl
  | item :: items =>
    rw [areModerate, Bool.and_eq_true] at moderate
    rw [canAllBeShown, canBeShown_of_isModerate moderate.1,
      canAllBeShown_of_areModerate moderate.2, Bool.true_and]

/-- Entries of moderate values under keys that can be shown can all be shown. -/
theorem canEntriesBeShown_of_haveModerate {entries : List (Value × Value)}
    (moderate : haveModerate entries = true) : canEntriesBeShown entries = true := by
  -- A key is asked only whether it can be shown.
  match entries with
  | [] => rfl
  | (key, value) :: entries =>
    rw [haveModerate, Bool.and_eq_true, Bool.and_eq_true] at moderate
    rw [canEntriesBeShown, moderate.1.1, canBeShown_of_isModerate moderate.1.2,
      canEntriesBeShown_of_haveModerate moderate.2, Bool.true_and, Bool.true_and]

end

/-- Each of some moderate values is moderate. -/
theorem isModerate_of_mem {items : List Value} (moderate : areModerate items = true) {item : Value}
    (member : item ∈ items) : item.isModerate = true := by
  -- The item is the first one, or one of the rest.
  induction items with
  | nil => cases member
  | cons first rest ih =>
    rw [areModerate, Bool.and_eq_true] at moderate
    rcases List.mem_cons.mp member with rfl | later
    · exact moderate.1
    · exact ih moderate.2 later

/-- The value of each of some moderate entries is moderate. -/
theorem isModerate_of_mem_entries {entries : List (Value × Value)}
    (moderate : haveModerate entries = true) {entry : Value × Value} (member : entry ∈ entries) :
    entry.2.isModerate = true := by
  -- The entry is the first one, or one of the rest.
  induction entries with
  | nil => cases member
  | cons first rest ih =>
    rw [haveModerate, Bool.and_eq_true, Bool.and_eq_true] at moderate
    rcases List.mem_cons.mp member with rfl | later
    · exact moderate.1.2
    · exact ih moderate.2 later

end Value

/-- An integer between two others whose numerals can be written has a numeral that can be, too. -/
theorem Text.isShort_of_between {low n high : Int} (short : isShort low = true)
    (short' : isShort high = true) (above : low ≤ n) (below : n ≤ high) : isShort n = true := by
  have base : 1 < 10 := by decide
  have limit : 0 < numeralLimit := by decide
  -- Which numerals are short enough is decided by the size of the integers.
  simp only [isShort, decide_eq_true_eq, Nat.length_toDigits_le_iff base limit] at *
  generalize 10 ^ numeralLimit = bound at *
  omega

/-- The integers of a range lie between its bounds. -/
theorem Value.between_of_lt_rangeLength {start stop step : Int} {place : Nat}
    (inside : place < rangeLength start stop step) :
    start ≤ start + place * step ∧ start + place * step < stop
      ∨ stop < start + place * step ∧ start + place * step ≤ start := by
  unfold rangeLength at inside
  split at inside
  · -- Upwards the last integer is the last one in steps before the stop.
    rename_i upwards
    have within : (place : Int) + 1 ≤ (stop - start + step - 1) / step := by omega
    have product := (Int.le_ediv_iff_mul_le upwards).mp within
    rw [Int.add_mul, Int.one_mul] at product
    have first : 0 ≤ (place : Int) * step := Int.mul_nonneg (by omega) (by omega)
    omega
  · split at inside
    · -- Downwards the same is counted with the signs exchanged.
      rename_i downwards
      have within : (place : Int) + 1 ≤ (start - stop - step - 1) / -step := by omega
      have product := (Int.le_ediv_iff_mul_le (by omega)).mp within
      rw [Int.add_mul, Int.one_mul, Int.mul_neg] at product
      have first : 0 ≤ (place : Int) * -step := Int.mul_nonneg (by omega) (by omega)
      rw [Int.mul_neg] at first
      omega
    · cases inside

namespace Value

/--
Plain data that is moderate where that is asked for.

Where it is not, integers may be of any size and ranges of any length.
-/
structure Fits (moderate : Prop) (value : Value) : Prop where
  /-- The value is plain data. -/
  plain : value.Plain
  /-- It is moderate where that is asked for. -/
  sized : moderate → value.isModerate = true

/-- What plain data may answer: nothing, or plain data of its own size. -/
def Answer (moderate : Prop) (value : Value) : Prop := value = .absent ∨ value.Fits moderate

/-- Whether a name that is an index has no more digits than a numeral may have. -/
def isReadable (name : Text) : Bool :=
  match indexOf? name with
  | some (_, digits) => digits.length ≤ Text.numeralLimit
  | none => true

namespace Plain

variable {value : Value}

/-- Plain data has no attributes of its own. -/
theorem attributes_eq_nil (plain : value.Plain) : value.attributes = [] := by
  -- Only objects have attributes that names may stand for.
  cases plain <;> rfl

/-- Plain data does not resolve names in a way of its own. -/
theorem resolver?_eq_none (plain : value.Plain) : value.resolver? = none := by
  -- A resolver would be one of the attributes.
  rw [resolver?, plain.attributes_eq_nil]
  rfl

/-- Plain data is what it is at any time. -/
theorem opened {σ : Type} (plain : value.Plain) :
    (Render.opened value : Render σ Value) = pure value := by
  -- Plain data is not shared, so that nothing can have been written into it.
  cases plain <;> rfl

/-- So is everything in it. -/
theorem settled_eq (plain : value.Plain) (edits : Nat → Edits) : value.settled edits = value := by
  -- What is in a collection stays as it is, item by item and entry by entry.
  have all {items : List Value} (inside : ∀ item ∈ items, item.settled edits = item) :
      settledItems edits items = items := by
    induction items with
    | nil => rfl
    | cons item items ih =>
      obtain ⟨first, others⟩ := List.forall_mem_cons.mp inside
      rw [settledItems, first, ih others]
  have values {entries : List (Value × Value)}
      (inside : ∀ entry ∈ entries, entry.2.settled edits = entry.2) :
      settledEntries edits entries = entries := by
    induction entries with
    | nil => rfl
    | cons entry entries ih =>
      obtain ⟨first, others⟩ := List.forall_mem_cons.mp inside
      rw [settledEntries, first, ih others]
  -- Only what is shared could have been edited, and nothing plain is.
  induction plain with
  | list _ ih => exact congrArg Value.list (all ih)
  | tuple _ ih => exact congrArg Value.tuple (all ih)
  | mapping _ ih => exact congrArg Value.mapping (values ih)
  | _ => rfl

end Plain

end Value

/-- A failure for which nothing but the size of a number or of a collection is the reason. -/
def Failure.isOfSize : Failure → Bool
  | .numeralTooLong => true
  | .uncountable => true
  | _ => false

/--
What may come of plain data: a value with a property, or a failure that is only due to size.

Where all that is given is moderate there is no failure.
-/
def Conclusive {α : Type} (moderate : Prop) (P : α → Prop) : Except Failure α → Prop
  | .ok value => P value
  | .error failure => ¬ moderate ∧ failure.isOfSize = true

/-- Where all that is given is moderate there is a value. -/
theorem Conclusive.exists_ok {α : Type} {moderate : Prop} {P : α → Prop}
    {result : Except Failure α} (concludes : Conclusive moderate P result) (size : moderate) :
    ∃ value, result = .ok value ∧ P value := by
  -- A failure would contradict the size.
  cases result with
  | error failure => exact absurd size concludes.1
  | ok value => exact ⟨value, rfl, concludes⟩

/-- What is done with a value adds no failure. -/
theorem Conclusive.map {α β : Type} {moderate : Prop} {P : α → Prop} {Q : β → Prop}
    {result : Except Failure α} (concludes : Conclusive moderate P result) {change : α → β}
    (changed : ∀ value, P value → Q (change value)) :
    Conclusive moderate Q (result.map change) := by
  -- A failure stays what it was.
  cases result with
  | error failure => exact concludes
  | ok value => exact changed value concludes

namespace Value

variable {moderate : Prop} {value : Value}

namespace Fits

/-- Moderate plain data can be shown. -/
theorem shown (fits : value.Fits moderate) :
    Conclusive moderate (fun _ => True) value.shown := by
  -- A value fails to be shown only if a number in it is too long.
  unfold Value.shown
  split
  · trivial
  · rename_i long
    exact ⟨fun size => long (canBeShown_of_isModerate (fits.sized size)), rfl⟩

/-- The items of moderate plain data can be counted. -/
theorem countable (fits : value.Fits moderate) (size : moderate) :
    value.isUncountable = false := by
  -- Of all collections only a range may be longer than can be counted.
  have sized := fits.sized size
  cases fits.plain with
  | range start stop step =>
    -- A moderate one is no longer than that.
    simp only [isModerate, Bool.and_eq_true, Bool.not_eq_true'] at sized
    exact sized.2
  | _ => rfl

/-- The items of plain data can be counted, or there are too many of them. -/
theorem counted (fits : value.Fits moderate) :
    Conclusive moderate (Value.Fits moderate) value.counted := by
  -- The count is refused only where the value is not moderate.
  unfold Value.counted
  split
  · rename_i many
    exact ⟨fun size => by simp [fits.countable size] at many, rfl⟩
  · exact fits

/-- Plain data that holds no more than a moderate integer or none at all fits. -/
theorem of_isModerate (plain : value.Plain) (sized : value.isModerate = true) :
    value.Fits moderate := ⟨plain, fun _ => sized⟩

/-- An integer of a range fits. -/
theorem of_lt_rangeLength {start stop step : Int} (fits : (range start stop step).Fits moderate)
    {place : Nat} (inside : place < rangeLength start stop step) :
    (int (start + place * step)).Fits moderate := by
  refine ⟨.int _, fun size => ?_⟩
  -- The bounds of the range can be written, and the integer lies between them.
  have bounds := canBeShown_of_isModerate (fits.sized size)
  simp only [canBeShown, List.all_cons, Bool.and_eq_true] at bounds
  rw [isModerate_int]
  rcases between_of_lt_rangeLength inside with ⟨above, below⟩ | ⟨above, below⟩
  · exact Text.isShort_of_between bounds.1 bounds.2.1 above (Int.le_of_lt below)
  · exact Text.isShort_of_between bounds.2.1 bounds.1 (Int.le_of_lt above) below

/-- The items of a string of bytes fit. -/
theorem of_mem_byteItems {data : List UInt8} {item : Value} (member : item ∈ byteItems data) :
    item.Fits moderate := by
  obtain ⟨byte, -, rfl⟩ := List.mem_map.mp member
  -- A byte is less than 256, which is a short number.
  have bounded := byte.toNat_lt
  have least : Text.isShort 0 = true := by decide
  have greatest : Text.isShort 256 = true := by decide
  refine ⟨.int _, fun _ => ?_⟩
  rw [isModerate_int]
  exact Text.isShort_of_between least greatest (by omega) (by omega)

/-- The items of a plain collection fit. -/
theorem of_mem_collection (fits : value.Fits moderate) {items : List Value}
    (collection : value.collection? = some items) {item : Value} (member : item ∈ items) :
    item.Fits moderate := by
  -- The items are parts of the value, integers within bounds, or bytes.
  cases fits.plain with
  | list inside | tuple inside | set inside | frozenSet inside =>
    cases collection
    exact ⟨inside item member, fun size => isModerate_of_mem (fits.sized size) member⟩
  | range start stop step =>
    cases collection
    obtain ⟨place, inside, rfl⟩ := List.mem_map.mp member
    exact fits.of_lt_rangeLength (List.mem_range.mp inside)
  | buffer data =>
    cases collection
    exact of_mem_byteItems member
  -- No other plain value has items.
  | _ => cases collection

end Fits

namespace Answer

/-- What stands at a place of a row of items that fit does so, or there is nothing. -/
theorem of_getD {items : List Value} (inside : ∀ item ∈ items, item.Fits moderate) (place : Nat) :
    (items.getD place .absent).Answer moderate := by
  rw [List.getD_eq_getElem?_getD]
  -- The place may lie behind the items.
  cases there : items[place]? with
  | none => exact .inl rfl
  | some item => exact .inr (inside item (List.mem_of_getElem? there))

/-- What is found among values that fit does so, or there is nothing. -/
theorem of_found {found : Option Value}
    (fits : ∀ value, found = some value → value.Fits moderate) :
    (found.getD .absent).Answer moderate := by
  -- Nothing is found, or a value that was asked about.
  cases found with
  | none => exact .inl rfl
  | some value => exact .inr (fits value rfl)

end Answer

namespace Fits

/-- The item of plain data at a place that it has fits, or there is none. -/
theorem itemAt (fits : value.Fits moderate) {length place : Nat}
    (indexed : value.indexable? = some length) (inside : place < length) :
    (value.itemAt place).Answer moderate := by
  -- Only sequences have items at places.
  cases fits.plain with
  | list within | tuple within =>
    exact .of_getD (fun item member =>
      ⟨within item member, fun size => isModerate_of_mem (fits.sized size) member⟩) place
  | range start stop step =>
    cases indexed
    exact .inr (fits.of_lt_rangeLength inside)
  | bytes data | buffer data => exact .of_getD (fun _ => of_mem_byteItems) place
  | _ => exact .inl rfl

/-- The item of plain data at an index fits, or there is none. -/
theorem atIndex (fits : value.Fits moderate) {length : Nat}
    (indexed : value.indexable? = some length) (negative : Bool) (index : Nat) :
    (value.atIndex length negative index).Answer moderate := by
  unfold Value.atIndex
  -- An index out of bounds is no failure.
  split
  · rename_i backwards
    split
    · rw [Bool.and_eq_true, decide_eq_true_eq] at backwards
      exact fits.itemAt indexed (by omega)
    · exact .inl rfl
  · split
    · exact fits.itemAt indexed ‹_›
    · exact .inl rfl

/-- An attribute that is one of some fields that fit does so, or there is none. -/
theorem answer_of_fields {fields : List (String × Value)}
    (inside : ∀ field ∈ fields, field.2.Fits moderate) (name : Text) :
    ((find? (fields.map fun field => (.ofString field.1, field.2)) name).getD .absent).Answer
      moderate := by
  refine .of_found fun value found => ?_
  -- The attribute that is found is one of the fields.
  obtain ⟨field, there, rfl⟩ := Option.map_eq_some_iff.mp found
  obtain ⟨field, member, rfl⟩ := List.mem_map.mp (List.mem_of_find?_eq_some there)
  exact inside field member

/-- The bounds and the step of a range fit. -/
theorem of_bound {start stop step n : Int} (fits : (range start stop step).Fits moderate)
    (bound : n ∈ [start, stop, step]) : (int n).Fits moderate := by
  refine ⟨.int n, fun size => ?_⟩
  -- The bounds and the step are what is shown of a range.
  have bounds := canBeShown_of_isModerate (fits.sized size)
  rw [canBeShown, List.all_eq_true] at bounds
  rw [isModerate_int]
  exact bounds n bound

/-- The public attributes of plain data fit. -/
theorem publicAttribute (fits : value.Fits moderate) (name : Text) :
    (value.publicAttribute name).Answer moderate := by
  -- Some attributes are zero or one whatever the number is.
  have bit (n : Int) (short : Text.isShort n = true) : (int n).Fits moderate :=
    .of_isModerate (.int n) ((isModerate_int n).trans short)
  have zero := bit 0 (by decide)
  have one := bit 1 (by decide)
  unfold Value.publicAttribute
  split
  · exact .inl rfl
  · -- Only numbers and ranges have public attributes.
    cases fits.plain with
    | bool b =>
      refine answer_of_fields (fun field member => ?_) name
      simp only [List.mem_cons, List.not_mem_nil, or_false] at member
      cases b <;> rcases member with rfl | rfl | rfl | rfl <;> assumption
    | int n =>
      refine answer_of_fields (fun field member => ?_) name
      simp only [List.mem_cons, List.not_mem_nil, or_false] at member
      rcases member with rfl | rfl | rfl | rfl <;> assumption
    | float x | complex re im =>
      refine answer_of_fields (fun field member => ?_) name
      simp only [List.mem_cons, List.not_mem_nil, or_false] at member
      rcases member with rfl | rfl <;> exact .of_isModerate (.float _) rfl
    | range start stop step =>
      refine answer_of_fields (fun field member => ?_) name
      simp only [List.mem_cons, List.not_mem_nil, or_false] at member
      rcases member with rfl | rfl | rfl <;> exact fits.of_bound (by simp)
    | _ => exact .inl rfl

/-- Plain data answers every name, unless an index or the range that it is asked of is too large. -/
theorem member (fits : value.Fits moderate) {name : Text}
    (readable : moderate → isReadable name = true) :
    Conclusive moderate (Answer moderate) (value.member name) := by
  unfold Value.member
  split
  · rename_i entries
    refine .of_found fun found there => ?_
    -- What a mapping knows stands among its entries.
    obtain ⟨entry, among, rfl⟩ := Option.map_eq_some_iff.mp there
    have member := List.mem_of_find?_eq_some among
    cases fits.plain with
    | mapping inside =>
      exact ⟨inside entry member, fun size => isModerate_of_mem_entries (fits.sized size) member⟩
  · -- A sequence takes indices, and everything else has attributes.
    split
    · rename_i length negative digits indexed index
      rw [isReadable, index] at readable
      split
      · rename_i long
        exact ⟨fun size => Nat.not_lt.mpr (of_decide_eq_true (readable size)) long, rfl⟩
      · split
        · rename_i many
          exact ⟨fun size => by simp [fits.countable size] at many, rfl⟩
        · exact fits.atIndex indexed negative _
    · exact fits.publicAttribute name

end Fits

end Value

/-- Whether all names of a path that are indices can be read. -/
def Text.isLegible (path : Text) : Bool :=
  let (head, rest) := pieces '.' path
  (head :: rest).all Value.isReadable

/-- Whether what a tag refers to can be looked for: all names of a path can be read. -/
def Reference.isLegible : Reference → Bool
  | .value path => Text.isLegible path
  | .template _ => true

end Mustache
