import Mustache.Proofs.Json.RoundTrip
import Mustache.Token.Record

/-!
Tokens come back from their JSON texts.

Fields are found by their names, so it does not matter that a written object has them sorted.
-/

namespace Mustache

/-- Literals have the same text only if they are the same. -/
theorem Text.ofString_injective : Function.Injective Text.ofString := by
  -- A literal is determined by its characters.
  intro name name' same
  rw [Text.ofString, Text.ofString] at same
  exact String.toList_injective same

/-- Literals are compared by their texts. -/
@[simp]
theorem Text.ofString_beq (name name' : String) :
    (Text.ofString name == Text.ofString name') = (name == name') := by
  -- Both tests are for equality.
  rw [Bool.eq_iff_iff, beq_iff_eq, beq_iff_eq, Text.ofString_injective.eq_iff]

namespace Json

variable {entries : List (Text × Json)} {name : Text}

/-- A field has the value that stands next to its name, if each name is there once. -/
theorem find?_eq_some_iff (distinct : (entries.map (·.1)).Nodup) {value : Json} :
    find? entries name = some value ↔ (name, value) ∈ entries := by
  -- The induction is on the entries, which are asked one after the other.
  induction entries with
  | nil => simp [find?]
  | cons entry entries ih =>
    obtain ⟨other, found⟩ := entry
    rw [List.map_cons, List.nodup_cons] at distinct
    have later := ih distinct.2
    by_cases same : other = name
    · subst same
      -- The name does not come again.
      have once : (other, value) ∉ entries := fun member =>
        distinct.1 (List.mem_map.mpr ⟨_, member, rfl⟩)
      simp [find?, once, eq_comm]
    · have skipped : find? ((other, found) :: entries) name = find? entries name := by
        simp [find?, same]
      rw [skipped, later]
      simp [Ne.symm same]

/-- Fields are found in whatever order they stand. -/
theorem find?_perm {entries' : List (Text × Json)} (order : entries.Perm entries')
    (distinct : (entries.map (·.1)).Nodup) : find? entries name = find? entries' name := by
  -- What is found is the one entry of this name, wherever it stands.
  have distinct' : (entries'.map (·.1)).Nodup := (order.map _).nodup_iff.mp distinct
  ext value
  exact (find?_eq_some_iff distinct).trans
    (order.mem_iff.trans (find?_eq_some_iff distinct').symm)

end Json

namespace Record

/-- The children of an object are those in the field of this name. -/
theorem childrenIn_eq (entries : List (Text × Json)) :
    childrenIn entries
      = match Json.find? entries (.ofString "children") with
        | some value => childrenOf value
        | none => .ok [] := by
  -- The first field of this name is taken, and those before it have others.
  induction entries with
  | nil => simp [childrenIn, Json.find?]
  | cons entry entries ih =>
    obtain ⟨name, value⟩ := entry
    rw [childrenIn]
    split
    · next same => simp [Json.find?, same]
    · next different =>
      rw [ih]
      simp [Json.find?, different]

/-- What record an object stands for depends on its fields only. -/
theorem ofJson_object_congr {entries entries' : List (Text × Json)}
    (same : ∀ name, Json.find? entries name = Json.find? entries' name) :
    ofJson (.object entries) = ofJson (.object entries') := by
  have kind : Kind.ofEntries entries = Kind.ofEntries entries' := by
    simp only [Kind.ofEntries, same]
  have children : childrenIn entries = childrenIn entries' := by
    simp only [childrenIn_eq, same]
  have built : ∀ kind children, build kind entries children = build kind entries' children := by
    intro kind children
    simp only [build, required, optional, same]
  -- The type, the children and all other fields are looked up.
  simp only [ofJson, kind, children, built]

/-- The fields of a type, behind the field that says the type. -/
def typed (kind : Kind) (fields : List (String × Json)) : List (Text × Json) :=
  (.ofString "_type", .text kind.name) :: fields.map fun field => (.ofString field.1, field.2)

/-- Names of fields that differ as literals differ. -/
theorem nodup_typed (kind : Kind) {fields : List (String × Json)}
    (distinct : ("_type" :: fields.map (·.1)).Nodup) : ((typed kind fields).map (·.1)).Nodup := by
  -- The names are literals, which are turned into texts without loss.
  have names : (typed kind fields).map (·.1) = ("_type" :: fields.map (·.1)).map Text.ofString := by
    simp [typed]
  rw [names]
  exact distinct.map Text.ofString_injective

/-- An object with a type comes back from its text when its fields do. -/
theorem exact_entriesOf (kind : Kind) {fields : List (String × Json)}
    (distinct : ("_type" :: fields.map (·.1)).Nodup) (each : ∀ field ∈ fields, field.2.Exact) :
    (entriesOf kind fields).Exact := by
  refine .object ?_ (nodup_typed kind distinct)
  -- The type is a text.
  simp only [List.forall_mem_cons, List.forall_mem_map]
  exact ⟨.text _, each⟩

/-- An object with a type has the same type, and fields with sorted values, when it is sorted. -/
theorem ofJson_sorted_entriesOf (kind : Kind) {fields : List (String × Json)}
    (distinct : ("_type" :: fields.map (·.1)).Nodup) :
    ofJson (entriesOf kind fields).sorted
      = ofJson (entriesOf kind (fields.map fun field => (field.1, field.2.sorted))) := by
  -- To sort an object is to sort the values of its fields, and then the fields by their names.
  have inside : Json.sortedEntries (typed kind fields)
      = typed kind (fields.map fun field => (field.1, field.2.sorted)) := by
    simp [Json.sortedEntries_eq, typed, Json.sorted]
  have names : (fields.map fun field => (field.1, field.2.sorted)).map (·.1)
      = fields.map (·.1) := List.map_map
  have distinct' := nodup_typed kind (names ▸ distinct)
  have sorting : (entriesOf kind fields).sorted
      = .object (Text.sortBy (·.1) (typed kind (fields.map fun field => (field.1, field.2.sorted)))) :=
    congrArg (fun entries => Json.object (Text.sortBy (·.1) entries)) inside
  rw [sorting]
  -- Each name is there once, so its field is found wherever it stands.
  exact ofJson_object_congr fun name => (Json.find?_perm (Text.perm_sortBy _ _).symm distinct').symm

/-- Each field of an object with a type is found by its name. -/
theorem find?_typed (kind : Kind) (fields : List (String × Json)) {name : String}
    (other : name ≠ "_type") :
    Json.find? (typed kind fields) (.ofString name) = fields.lookup name := by
  -- The type is passed over, since no field goes by its name.
  rw [typed, Json.find?, List.find?_cons_of_neg (by simpa using other.symm)]
  induction fields with
  | nil => rfl
  | cons field fields ih =>
    obtain ⟨name', value⟩ := field
    -- The names of fields are compared as literals.
    by_cases same : name = name'
    · subst same
      simp
    · have skipped : (name == name') = false := beq_eq_false_iff_ne.mpr same
      rw [List.map_cons, List.find?_cons_of_neg (by simpa using Ne.symm same), ih,
        List.lookup_cons, skipped]

/-- A type is found by its name. -/
theorem lookup_name (kind : Kind) : Kind.named.lookup kind.name = some kind := by
  -- There are eight types.
  rcases kind with _ | ⟨_ | _⟩ | _ | _ | _ | ⟨_ | _⟩ <;>
    simp [Kind.named, Kind.name, List.lookup_cons]

/-- An object says the type that it was written for. -/
theorem ofEntries_typed (kind : Kind) (fields : List (String × Json)) :
    Kind.ofEntries (typed kind fields) = .ok kind := by
  -- The type is the first field.
  simp [Kind.ofEntries, typed, Json.find?, lookup_name]

/-- An object with another type than a section has no children. -/
theorem ofJson_entriesOf {kind : Kind} (plain : ∀ inverted, kind ≠ .block inverted)
    (fields : List (String × Json)) :
    ofJson (entriesOf kind fields) = build kind (typed kind fields) [] := by
  have opened : entriesOf kind fields = .object (typed kind fields) := rfl
  rw [opened, ofJson, ofEntries_typed]
  -- Only sections have children.
  cases kind with
  | block inverted => exact absurd rfl (plain inverted)
  | _ => rfl

/-- The children of a section are the records in the field of this name. -/
theorem ofJson_entriesOf_block (inverted : Bool) {fields : List (String × Json)}
    {items : List Json} (found : fields.lookup "children" = some (.array items))
    {records : List Record} (read : ofJsons items = .ok records) :
    ofJson (entriesOf (.block inverted) fields)
      = build (.block inverted) (typed (.block inverted) fields) records := by
  have opened : entriesOf (.block inverted) fields = .object (typed (.block inverted) fields) := rfl
  -- The children are found before the other fields.
  rw [opened, ofJson, ofEntries_typed, childrenIn_eq, find?_typed _ fields (by simp), found]
  simp only [childrenOf, read]
  rfl

/-- A field that has to be there is found by its name. -/
theorem required_typed (kind : Kind) (fields : List (String × Json)) {name : String}
    (other : name ≠ "_type") :
    required (typed kind fields) name = (fields.lookup name).elim (.error .incomplete) .ok := by
  -- The type goes by another name, and so it does not hide the field.
  rw [required, find?_typed kind fields other]
  cases fields.lookup name <;> rfl

/-- A field with a default value is found by its name, too. -/
theorem optional_typed (kind : Kind) (fields : List (String × Json)) {name : String}
    (other : name ≠ "_type") (default : Json) :
    optional (typed kind fields) name default = (fields.lookup name).getD default := by
  rw [optional, find?_typed kind fields other]

end Record

namespace Token

mutual

/-- The numbers in a token: all offsets, and how many tags come before on a line. -/
def numbers : Token → List Int
  | .text _ span => [span.start, span.stop]
  | .variable _ _ span => [span.start, span.stop]
  | .comment _ span => [span.start, span.stop]
  | .switch _ span => [span.start, span.stop]
  | .inclusion _ span line => [span.start, span.stop, line.tagIndex]
  | .block _ _ span children closeStart =>
    span.start :: span.stop :: closeStart :: numbersAll children

/-- The numbers in a row of tokens. -/
def numbersAll : List Token → List Int
  | [] => []
  | token :: tokens => numbers token ++ numbersAll tokens

end

mutual

/-- A token with numbers of not too many digits comes back. -/
theorem exact_toJson (token : Token)
    (short : ∀ n ∈ token.numbers, (Nat.toDigits 10 n.natAbs).length ≤ Text.numeralLimit) :
    token.toRecord.toJson.Exact := by
  -- Texts and truth values always come back; the numbers are those assumed to be short.
  match token with
  | .text _ _ | .variable _ _ _ | .comment _ _ | .switch _ _ =>
    simp only [numbers, List.forall_mem_cons] at short
    refine Record.exact_entriesOf _ (by simp) ?_
    simp only [List.forall_mem_cons]
    exact ⟨.text _, .int short.1, .int short.2.1, nofun⟩
  | .inclusion _ _ _ =>
    simp only [numbers, List.forall_mem_cons] at short
    refine Record.exact_entriesOf _ (by simp) ?_
    simp only [List.forall_mem_cons]
    exact ⟨.text _, .int short.1, .int short.2.1, .text _, .int short.2.2.1, .bool _, nofun⟩
  -- The children of a section come back by the other theorem.
  | .block _ _ _ children _ =>
    simp only [numbers, List.forall_mem_cons] at short
    refine Record.exact_entriesOf _ (by simp) ?_
    simp only [List.forall_mem_cons]
    exact ⟨.text _, .int short.1, .int short.2.1, .array (exact_toJsons children short.2.2.2),
      .int short.2.2.1, nofun⟩

/-- Tokens with numbers of not too many digits come back. -/
theorem exact_toJsons (tokens : List Token)
    (short : ∀ n ∈ numbersAll tokens, (Nat.toDigits 10 n.natAbs).length ≤ Text.numeralLimit) :
    ∀ item ∈ Record.toJsons (toRecords tokens), item.Exact := by
  match tokens with
  | [] => nofun
  | token :: tokens =>
    -- The numbers of a row are those of its tokens.
    rw [numbersAll, List.forall_mem_append] at short
    rw [toRecords, Record.toJsons, List.forall_mem_cons]
    exact ⟨exact_toJson token short.1, exact_toJsons tokens short.2⟩

end

mutual

/-- The object of a token, sorted, stands for the record of this token. -/
theorem ofJson_toJson (token : Token) :
    Record.ofJson token.toRecord.toJson.sorted = .ok token.toRecord := by
  match token with
  | .text _ _ | .variable _ _ _ | .comment _ _ | .switch _ _ | .inclusion _ _ _ =>
    rw [toRecord, Record.toJson, Record.ofJson_sorted_entriesOf _ (by simp),
      Record.ofJson_entriesOf (by simp)]
    -- Texts, integers and truth values stay as they are when they are sorted.
    simp only [Record.build, Record.required_typed, Record.optional_typed, ne_eq, String.reduceEq,
      not_false_eq_true]
    rfl
  -- A section is read with its children, which are sorted as well.
  | .block inverted name span children closeStart =>
    have read := ofJsons_toJsons children
    rw [toRecord, Record.toJson, Record.ofJson_sorted_entriesOf _ (by simp),
      Record.ofJson_entriesOf_block inverted rfl read]
    simp only [Record.build, Record.required_typed, Record.optional_typed, ne_eq, String.reduceEq,
      not_false_eq_true]
    rfl

/-- The objects of tokens, sorted, stand for the records of these tokens. -/
theorem ofJsons_toJsons (tokens : List Token) :
    Record.ofJsons (Json.sortedItems (Record.toJsons (toRecords tokens))) = .ok (toRecords tokens) := by
  -- The objects are sorted one by one.
  match tokens with
  | [] => rfl
  | token :: tokens =>
    rw [toRecords, Record.toJsons, Json.sortedItems, Record.ofJsons, ofJson_toJson token,
      ofJsons_toJsons tokens]
    rfl

end

mutual

/-- The record of a token is the one of this token only. -/
theorem token?_toRecord (token : Token) : token.toRecord.token? = some token := by
  -- A section is told apart only together with its children.
  match token with
  | .text _ _ | .variable _ _ _ | .comment _ _ | .switch _ _ | .inclusion _ _ _ => rfl
  | .block _ _ _ children _ =>
    rw [toRecord, Record.token?, tokens?_toRecords children]
    rfl

/-- The records of tokens are those of these tokens only. -/
theorem tokens?_toRecords (tokens : List Token) :
    Record.tokens? (toRecords tokens) = some tokens := by
  -- Every record of the row belongs to one token.
  match tokens with
  | [] => rfl
  | token :: tokens =>
    rw [toRecords, Record.tokens?, token?_toRecord token, tokens?_toRecords tokens]
    rfl

end

/-- A text is indented by spaces. -/
theorem spaced_spaces (indent : Option Int) : Json.Spaced (indent.map Json.spaces) := by
  intro unit present c member
  obtain ⟨width, -, rfl⟩ := Option.map_eq_some_iff.mp present
  -- All characters are the same.
  rw [(List.mem_replicate.mp member).2]
  rfl

/-- Tokens come back from their text unless a number in them has too many digits. -/
theorem ofJsonText?_of_short {indent : Option Text} (spaced : Json.Spaced indent)
    {tokens : List Token}
    (short : ∀ n ∈ numbersAll tokens, (Nat.toDigits 10 n.natAbs).length ≤ Text.numeralLimit) :
    ofJsonText? (toJsonText indent tokens) = some tokens := by
  have read := Json.ofText_toText spaced (.array (exact_toJsons tokens short))
  rw [ofJsonText?, Record.ofJsonText, toJsonText, Record.toJsonText, read]
  -- The items of the array are the objects of the tokens.
  simp only [Json.sorted, ofJsons_toJsons, tokens?_toRecords]

/--
Every row of tokens whose numbers stay below `2 ^ 53` comes back from its JSON text.

So do rows of sections in sections, with any characters in their texts, however the JSON text is
indented. No two of these rows have the same JSON text.
-/
theorem ofJsonText?_toJsonText (indent : Option Int) (tokens : List Token)
    (small : ∀ n ∈ numbersAll tokens, n.natAbs < Nat.pow 2 53) :
    ofJsonText? (toJsonText (indent.map Json.spaces) tokens) = some tokens
      ∧ ∀ tokens', (∀ n ∈ numbersAll tokens', n.natAbs < Nat.pow 2 53) →
        toJsonText (indent.map Json.spaces) tokens = toJsonText (indent.map Json.spaces) tokens' →
        tokens = tokens' := by
  -- A number below the bound has sixteen digits at most.
  have fewDigits : ∀ n : Nat, n < Nat.pow 2 53 → (Nat.toDigits 10 n).length ≤ 16 := fun n small =>
    (Nat.length_toDigits_le_iff (by decide) (by decide)).mpr (Nat.lt_trans small (by decide))
  have back : ∀ {tokens}, (∀ n ∈ numbersAll tokens, n.natAbs < Nat.pow 2 53) →
      ofJsonText? (toJsonText (indent.map Json.spaces) tokens) = some tokens := fun small =>
    ofJsonText?_of_short (spaced_spaces indent) fun n member =>
      Nat.le_trans (fewDigits _ (small n member)) (by decide)
  refine ⟨back small, fun tokens' small' same => ?_⟩
  -- Both rows are read from the same text.
  have both := (back small).symm.trans (same ▸ back small')
  exact Option.some.inj both

/-- A section with a reference in it and a name beyond sixteen bits comes back from indented text. -/
theorem ofJsonText?_toJsonText_section :
    let tokens := [Token.block true ['😀', '"', '\n'] ⟨-1, 9007199254740991⟩
      [.inclusion ['p'] ⟨2, 3⟩ ⟨[' '], 1, true⟩, .variable false [] ⟨3, 4⟩] 4]
    (∀ n ∈ numbersAll tokens, n.natAbs < Nat.pow 2 53)
      ∧ ofJsonText? (toJsonText (some (Json.spaces 2)) tokens) = some tokens
      ∧ toJsonText (some (Json.spaces 2)) tokens ≠ toJsonText (some (Json.spaces 2)) [] := by
  intro tokens
  -- The greatest of the numbers is just below the bound.
  have small : ∀ n ∈ numbersAll tokens, n.natAbs < Nat.pow 2 53 := by decide
  have back := ofJsonText?_toJsonText (some 2) tokens small
  exact ⟨small, back.1, fun same => nomatch back.2 [] nofun same⟩

end Token

end Mustache
