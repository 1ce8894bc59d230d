import Mustache.Proofs.Consulting

/-!
Values in which there is nothing to call.

Whatever is found in such a value is such a value again, and asking it for a name changes nothing.
-/

namespace Mustache

variable {σ : Type}

namespace Value

/-- What a value holds directly: its items, and the values of its entries or its attributes. -/
def parts : Value → List Value
  | .list items | .tuple items | .set items | .frozenSet items | .stream _ items => items
  | .mapping entries => entries.map (·.2)
  | .object _ _ _ attributes items => attributes.map (·.2) ++ items.getD []
  | .kind _ attributes => attributes.map (·.2)
  | .shared _ content => [content]
  | _ => []

/-- Values that are no functions and no providers of answers, and hold none at any depth. -/
inductive Inert : Value → Prop where
  /-- A value is inert if it is nothing to call and holds inert values. -/
  | intro {value : Value} (noFunction : ∀ f, value ≠ .function f)
      (noProvider : value.resolver? = none) (inside : ∀ part ∈ value.parts, Inert part) :
      Inert value

/-- The value of an attribute is a part of what has the attribute. -/
theorem mem_parts_of_attribute {value part : Value} {name : Text}
    (member : (name, part) ∈ value.attributes) : part ∈ value.parts := by
  -- Only objects and classes have attributes.
  cases value with
  | object id className display attributes items =>
    exact List.mem_append_left _ (List.mem_map_of_mem member)
  | kind name attributes => exact List.mem_map_of_mem member
  | _ => cases member

namespace Inert

variable {value : Value}

/-- What is inert is no function. -/
theorem ne_function (inert : value.Inert) (f : Function) : value ≠ .function f := by
  cases inert with
  | intro noFunction => exact noFunction f

/-- What is inert does not resolve names in a way of its own. -/
theorem resolver?_eq_none (inert : value.Inert) : value.resolver? = none := by
  cases inert with
  | intro _ noProvider => exact noProvider

/-- What is in an inert value is inert. -/
theorem part (inert : value.Inert) {part : Value} (member : part ∈ value.parts) : part.Inert := by
  cases inert with
  | intro _ _ inside => exact inside part member

/-- A value without attributes that is no function is inert if what it holds is. -/
theorem of_parts (noFunction : ∀ f, value ≠ .function f) (bare : value.attributes = [])
    (inside : ∀ part ∈ value.parts, part.Inert) : value.Inert := by
  -- Without attributes there is nobody who could resolve a name.
  refine .intro noFunction ?_ inside
  rw [resolver?, bare]
  rfl

/-- The mark of absence is inert. -/
theorem absent : Value.absent.Inert := .of_parts nofun rfl nofun

/-- Null is inert. -/
theorem null : Value.null.Inert := .of_parts nofun rfl nofun

/-- Texts are inert. -/
theorem text (t : Text) : (Value.text t).Inert := .of_parts nofun rfl nofun

/-- Integers are inert. -/
theorem int (n : Int) : (Value.int n).Inert := .of_parts nofun rfl nofun

/-- Floating-point numbers are inert. -/
theorem float (x : Binary64) : (Value.float x).Inert := .of_parts nofun rfl nofun

/-- Lists of inert items are inert. -/
theorem list {items : List Value} (inside : ∀ item ∈ items, item.Inert) :
    (Value.list items).Inert :=
  -- The parts of a list are its items.
  .of_parts nofun rfl inside

/-- Mappings to inert values are inert. -/
theorem mapping {entries : List (Value × Value)} (inside : ∀ entry ∈ entries, entry.2.Inert) :
    (Value.mapping entries).Inert :=
  -- The parts of a mapping are its values; keys are never asked for anything.
  .of_parts nofun rfl (List.forall_mem_map.mpr inside)

/-- The entries of an inert mapping have inert values. -/
theorem of_mem_mapping {entries : List (Value × Value)} (inert : (Value.mapping entries).Inert)
    {entry : Value × Value} (member : entry ∈ entries) : entry.2.Inert :=
  -- The value of an entry is a part of the mapping.
  inert.part (List.mem_map_of_mem member)

/-- What is found among inert values is inert, and so is the mark of absence instead of it. -/
theorem found {found : Option Value} (inert : ∀ value, found = some value → value.Inert) :
    (found.getD .absent).Inert := by
  cases found with
  | none => exact absent
  | some value => exact inert value rfl

/-- What stands at a place of a row of inert items is inert. -/
theorem getD {items : List Value} (inside : ∀ item ∈ items, item.Inert) (place : Nat) :
    (items.getD place .absent).Inert := by
  -- A place past the end holds the mark of absence, which is inert.
  rw [List.getD_eq_getElem?_getD]
  exact .found fun item there => inside item (List.mem_of_getElem? there)

/-- The items of a string of bytes are inert. -/
theorem of_mem_byteItems {data : List UInt8} {item : Value} (member : item ∈ byteItems data) :
    item.Inert := by
  -- Each of them is an integer.
  obtain ⟨byte, -, rfl⟩ := List.mem_map.mp member
  exact .int _

/-- The item of an inert value at a place is inert. -/
theorem itemAt (inert : value.Inert) (place : Nat) : (value.itemAt place).Inert := by
  -- Items are parts of the value or numbers.
  cases value with
  | list items | tuple items => exact .getD (fun item member => inert.part member) place
  | range start stop step => exact .int _
  | bytes data | buffer data => exact .getD (fun _ => of_mem_byteItems) place
  | _ => exact .absent

/-- The item of an inert value at an index is inert. -/
theorem atIndex (inert : value.Inert) (length : Nat) (negative : Bool) (index : Nat) :
    (value.atIndex length negative index).Inert := by
  unfold Value.atIndex
  -- The index counts from either end, and may be out of bounds.
  split
  · split
    · exact inert.itemAt _
    · exact .absent
  · split
    · exact inert.itemAt _
    · exact .absent

/-- An attribute that is one of some inert fields is inert. -/
theorem of_fields {fields : List (String × Value)} (inert : ∀ field ∈ fields, field.2.Inert)
    (name : Text) :
    ((find? (fields.map fun field => (.ofString field.1, field.2)) name).getD .absent).Inert := by
  refine .found fun value there => ?_
  -- The attribute that is found is one of the fields.
  obtain ⟨field, stands, rfl⟩ := Option.map_eq_some_iff.mp there
  obtain ⟨field, member, rfl⟩ := List.mem_map.mp (List.mem_of_find?_eq_some stands)
  exact inert field member

/-- The public attributes of an inert value are inert. -/
theorem publicAttribute (inert : value.Inert) (name : Text) :
    (value.publicAttribute name).Inert := by
  -- An attribute of its own is a part of the value.
  have own : ((find? value.attributes name).getD .absent).Inert := by
    refine .found fun part there => ?_
    obtain ⟨field, stands, rfl⟩ := Option.map_eq_some_iff.mp there
    exact inert.part (mem_parts_of_attribute (List.mem_of_find?_eq_some stands))
  unfold Value.publicAttribute
  split
  · exact .absent
  · -- Numbers and ranges have the numbers that they are made of.
    cases value with
    | bool b | int n | float x | complex re im | range start stop step =>
      refine of_fields (fun field member => ?_) name
      simp only [List.mem_cons, List.not_mem_nil, or_false] at member
      rcases member with rfl | rfl | rfl | rfl <;> first | exact .int _ | exact .float _
    | _ => exact own

/-- What an inert value answers to a name is inert. -/
theorem member (inert : value.Inert) {name : Text} {answer : Value}
    (answers : value.member name = .ok answer) : answer.Inert := by
  unfold Value.member at answers
  split at answers
  -- A mapping answers with what it holds under the name.
  · cases answers
    refine .found fun found there => ?_
    obtain ⟨entry, stands, rfl⟩ := Option.map_eq_some_iff.mp there
    exact inert.of_mem_mapping (List.mem_of_find?_eq_some stands)
  · -- A sequence takes indices, and everything else has attributes.
    split at answers
    · split at answers
      · cases answers
      · split at answers
        · cases answers
        · cases answers
          exact inert.atIndex _ _ _
    · cases answers
      exact inert.publicAttribute name

/-- The items of an inert collection are inert. -/
theorem of_mem_collection (inert : value.Inert) {items : List Value}
    (collection : value.collection? = some items) {item : Value} (member : item ∈ items) :
    item.Inert := by
  -- The induction is needed only for what is shared, which may be shared once more.
  induction inert with
  | @intro value _ _ inside ih =>
    have same : value.isCollection = true ∧ value.items? = some items := by
      unfold collection? at collection
      split at collection
      · exact ⟨‹_›, collection⟩
      · cases collection
    obtain ⟨repeats, has⟩ := same
    -- Each collection has its items among its parts, or numbers as its items.
    cases value with
    | list _ | tuple _ | set _ | frozenSet _ =>
      cases has
      exact inside item member
    | range start stop step =>
      cases has
      obtain ⟨place, -, rfl⟩ := List.mem_map.mp member
      exact .int _
    | buffer data =>
      cases has
      exact of_mem_byteItems member
    | object id className display attributes held =>
      cases has
      exact inside item (List.mem_append_right _ member)
    | shared id content =>
      -- What is shared repeats over what it shares.
      exact ih content (List.mem_singleton_self content) collection
    | _ => cases repeats

/-- Entries with inert values get one more. -/
theorem insert {entries : List (Value × Value)} (inside : ∀ entry ∈ entries, entry.2.Inert)
    (key : Value) (inert : value.Inert) :
    ∀ entry ∈ Value.insert entries key value, entry.2.Inert := by
  -- The induction goes through the entries up to one with the same key.
  induction entries with
  | nil => exact List.forall_mem_singleton.mpr inert
  | cons entry rest ih =>
    obtain ⟨first, others⟩ := List.forall_mem_cons.mp inside
    -- The new entry takes the place of an old one, or stands behind all of them.
    unfold Value.insert
    split
    · exact List.forall_mem_cons.mpr ⟨inert, others⟩
    · exact List.forall_mem_cons.mpr ⟨first, ih others⟩

/-- An item with the text that was written in its place, if any, is inert. -/
theorem editedItem (edits : Edits) (place : Nat) (inert : value.Inert) :
    (edits.itemAt place value).Inert := by
  -- What was written is a text, and any other item stays as it is.
  unfold Edits.itemAt
  split
  · exact .text _
  · exact inert

/-- Texts that are written into an inert value leave it inert. -/
theorem edited (inert : value.Inert) (edits : Edits) : (value.edited edits).Inert := by
  unfold Value.edited
  split
  · -- Nothing has been written into the value.
    exact inert
  · refine .list fun item member => ?_
    obtain ⟨place, inside, rfl⟩ := List.mem_mapIdx.mp member
    exact .editedItem _ _ (inert.part (List.getElem_mem inside))
  · refine .mapping ?_
    -- The texts are put in one after the other.
    refine List.foldlRecOn (motive := fun all : List (Value × Value) =>
      ∀ entry ∈ all, entry.2.Inert) edits _ (fun entry => inert.of_mem_mapping) ?_
    exact fun all inside edit _ => .insert inside _ (.text _)
  · exact inert

/-- An inert value is inert at any time. -/
theorem openedIn (inert : value.Inert) (edits : Nat → Edits) : (value.openedIn edits).Inert := by
  -- Only what is shared may have been written to in between.
  cases value with
  | shared id content => exact (inert.part (List.mem_singleton_self content)).edited _
  | _ => exact inert

/-- To ask an inert value for a name changes nothing. -/
theorem resolve_apply (inert : value.Inert) (host : Host σ) (name : Text) (s : Session σ) :
    value.resolve host name s = some ((value.openedIn s.edits).member name, s) := by
  rw [Value.resolve, Render.bind_apply, Render.opened_apply]
  -- It is no provider that the host would be asked for.
  have asked := (inert.openedIn s.edits).resolver?_eq_none
  simp only [Option.bind_some, asked]
  cases (value.openedIn s.edits).member name <;> rfl

end Inert

end Value

end Mustache
