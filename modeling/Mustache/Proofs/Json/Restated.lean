import Mathlib.Logic.Relation
import Mustache.Proofs.Json.Tokens

/-!
Tokens come back from their objects however these are presented.

The entries of an object may stand in any order, with entries of other names among them, and a field
that has the default of its type may be left out.
-/

namespace Mustache

namespace Json

variable {entries before behind : List (Text × Json)} {name : Text}

/-- An entry in front has the value of its name, and leaves all others as they are. -/
theorem find?_cons (other : Text) (value : Json) :
    find? ((other, value) :: entries) name
      = if other = name then some value else find? entries name := by
  -- The entry is asked before those behind it.
  by_cases same : other = name <;> simp [find?, same]

/-- An entry in the middle is found like one in front, if its name is there once. -/
theorem find?_middle {other : Text} {value : Json}
    (distinct : ((before ++ (other, value) :: behind).map (·.1)).Nodup) :
    find? (before ++ (other, value) :: behind) name
      = if other = name then some value else find? (before ++ behind) name := by
  -- If every name is there once, the order of entries makes no difference.
  rw [find?_perm List.perm_middle distinct, find?_cons]

/-- What is not among the names of an object has no value in it. -/
theorem find?_eq_none (absent : name ∉ entries.map (·.1)) : find? entries name = none := by
  -- An entry that is found has the name, which would then be among the names.
  refine Option.map_eq_none_iff.mpr (List.find?_eq_none.mpr fun entry member same => absent ?_)
  exact List.mem_map.mpr ⟨entry, member, by simpa using same⟩

end Json

namespace Record

/-- The fields of a type in their order, each with its default if it has one. -/
def Kind.fields : Kind → List (String × Option Json)
  | .text => [("value", none), ("start", none), ("end", none)]
  | .variable _ => [("path", none), ("start", none), ("end", none)]
  | .comment => [("value", none), ("start", none), ("end", none)]
  | .switch => [("value", none), ("start", none), ("end", none)]
  | .inclusion =>
    [ ("name", none), ("start", none), ("end", none), ("indentation", some (.text [])),
      ("tag_index", some (.int 0)), ("line_has_non_space", some (.bool false)) ]
  | .block _ =>
    [ ("name", none), ("start", none), ("end", none), ("children", some (.array [])),
      ("close_start", some (.int 0)) ]

/-- An object says that it is of a type. -/
def Typed (kind : Kind) (entries : List (Text × Json)) : Prop :=
  (Text.ofString "_type", Json.text kind.name) ∈ entries

/--
One change to how the object of a record is presented.

Sections have the objects of other records in them, which may be presented otherwise as well.
-/
inductive Restates : Json → Json → Prop
  /-- The entries stand in another order. -/
  | reordered {entries entries' : List (Text × Json)} (order : entries.Perm entries') :
    Restates (.object entries) (.object entries')
  /-- There is an entry more, whose name is new and not that of a field of the type. -/
  | added {entries : List (Text × Json)} {kind : Kind} {name : Text} (typed : Typed kind entries)
      (new : name ∉ entries.map (·.1))
      (foreign : ∀ field ∈ kind.fields, name ≠ .ofString field.1) (value : Json) :
    Restates (.object entries) (.object ((name, value) :: entries))
  /-- A field that has the default of the type is left out. -/
  | dropped {before behind : List (Text × Json)} {kind : Kind} {name : String} {value : Json}
      (typed : Typed kind (before ++ (.ofString name, value) :: behind))
      (default : (name, some value) ∈ kind.fields) :
    Restates (.object (before ++ (.ofString name, value) :: behind)) (.object (before ++ behind))
  /-- One of the objects in a section is presented otherwise. -/
  | inside {before behind : List (Text × Json)} {inverted : Bool} {items others : List Json}
      {child child' : Json}
      (typed : Typed (.block inverted)
        (before ++ (.ofString "children", .array (items ++ child :: others)) :: behind))
      (restated : Restates child child') :
    Restates
      (.object (before ++ (.ofString "children", .array (items ++ child :: others)) :: behind))
      (.object (before ++ (.ofString "children", .array (items ++ child' :: others)) :: behind))

section Reading

variable {kind : Kind} {entries entries' : List (Text × Json)}

/-- The type of an object is the one that it says, if it says one only. -/
theorem Typed.ofEntries (typed : Typed kind entries) (distinct : (entries.map (·.1)).Nodup) :
    Kind.ofEntries entries = .ok kind := by
  -- Each name is there once, so what is said of the type is what is found.
  have found := (Json.find?_eq_some_iff distinct).mpr typed
  simp [Kind.ofEntries, found, lookup_name]

/-- No field has the name under which an object says its type. -/
theorem Kind.name_ne_type (kind : Kind) : ∀ field ∈ kind.fields, field.1 ≠ "_type" := by
  -- Each kind has a few fields, whose names are compared.
  cases kind <;> simp [Kind.fields]

/-- Fields of one name have one default. -/
theorem Kind.default_unique (kind : Kind) {name : String} {default default' : Option Json}
    (field : (name, default) ∈ kind.fields) (field' : (name, default') ∈ kind.fields) :
    default = default' := by
  -- No name comes twice among the fields of a kind.
  cases kind <;> simp [Kind.fields] at field field' <;> aesop

/-- What a field is read as in an object: its value there, or else its default. -/
def read (entries : List (Text × Json)) (field : String × Option Json) : Option Json :=
  (Json.find? entries (.ofString field.1)).or field.2

/-- Two objects are read alike for a type: they have the same values and defaults in all fields. -/
def Alike (kind : Kind) (entries entries' : List (Text × Json)) : Prop :=
  ∀ field ∈ kind.fields, read entries field = read entries' field

/-- A field that has to be there is the same in objects that are read alike. -/
theorem required_congr {name : String}
    (same : read entries (name, none) = read entries' (name, none)) :
    required entries name = required entries' name := by
  -- Without a default a field is there or not.
  simp only [read, Option.or_none] at same
  rw [required, required, same]

/-- A field with a default is the same in objects that are read alike. -/
theorem optional_congr {name : String} {default : Json}
    (same : read entries (name, some default) = read entries' (name, some default)) :
    optional entries name default = optional entries' name default := by
  simpa only [optional, read, Option.or_some, Option.some.injEq] using same

/-- The same is built from objects of which all fields but the children are read alike. -/
theorem build_congr (alike : ∀ field ∈ kind.fields, field.1 ≠ "children" →
      read entries field = read entries' field) (children : List Record) :
    build kind entries children = build kind entries' children := by
  -- Each kind of record reads its own fields, the children of a section apart.
  match kind with
  | .text | .variable _ | .comment | .switch =>
    simp only [Kind.fields, List.forall_mem_cons] at alike
    obtain ⟨main, start, stop, -⟩ := alike
    simp only [build, required_congr (main (by simp)), required_congr (start (by simp)),
      required_congr (stop (by simp))]
  | .inclusion =>
    simp only [Kind.fields, List.forall_mem_cons] at alike
    obtain ⟨main, start, stop, indentation, tagIndex, hasText, -⟩ := alike
    simp only [build, required_congr (main (by simp)), required_congr (start (by simp)),
      required_congr (stop (by simp)), optional_congr (indentation (by simp)),
      optional_congr (tagIndex (by simp)), optional_congr (hasText (by simp))]
  -- The children of a section are the one field that need not be alike.
  | .block inverted =>
    simp only [Kind.fields, List.forall_mem_cons] at alike
    obtain ⟨main, start, stop, -, closeStart, -⟩ := alike
    simp only [build, required_congr (main (by simp)), required_congr (start (by simp)),
      required_congr (stop (by simp)), optional_congr (closeStart (by simp))]

/-- The children that are read for a type, of which only sections have any. -/
def childrenFor (kind : Kind) (entries : List (Text × Json)) : Except Refusal (List Record) :=
  match kind with
  | .block _ => childrenIn entries
  | _ => .ok []

/-- An object stands for what is built from its fields and its children. -/
theorem ofJson_object (typed : Kind.ofEntries entries = .ok kind) :
    ofJson (.object entries) = childrenFor kind entries >>= build kind entries := by
  -- The kind decides whether the children are read at all.
  rw [ofJson, typed]
  cases kind <;> rfl

/-- Objects of one type that are read alike stand for the same record. -/
theorem Alike.ofJson_eq (alike : Alike kind entries entries')
    (typed : Kind.ofEntries entries = .ok kind) (typed' : Kind.ofEntries entries' = .ok kind) :
    ofJson (.object entries) = ofJson (.object entries') := by
  have children : childrenFor kind entries = childrenFor kind entries' := by
    -- Only the objects of sections are asked for children.
    cases kind with
    | block inverted =>
      have same := alike ("children", some (.array [])) (by simp [Kind.fields])
      simp only [read, Option.or_some, Option.some.injEq] at same
      -- Children that are not there are read as none.
      have among (entries : List (Text × Json)) : childrenIn entries
          = childrenOf ((Json.find? entries (.ofString "children")).getD (.array [])) := by
        rw [childrenIn_eq]
        cases Json.find? entries (.ofString "children") <;> rfl
      rw [childrenFor, childrenFor, among, among, same]
    | _ => rfl
  have built : build kind entries = build kind entries' :=
    funext (build_congr fun field member _ => alike field member)
  rw [ofJson_object typed, ofJson_object typed', children, built]

/-- An entry with a name that is no field is not read. -/
theorem alike_added {name : Text} (foreign : ∀ field ∈ kind.fields, name ≠ .ofString field.1)
    (value : Json) : Alike kind entries ((name, value) :: entries) := by
  -- A field has another name, so that it is found behind the new entry.
  intro field member
  rw [read, read, Json.find?_cons, if_neg (foreign field member)]

variable {before behind : List (Text × Json)}

/-- Without an entry its name is not there any more. -/
theorem find?_dropped {name : Text} {value : Json}
    (distinct : ((before ++ (name, value) :: behind).map (·.1)).Nodup) :
    Json.find? (before ++ behind) name = none := by
  -- In another order the entry stands in front of all others, whose names are different.
  have middle : (before ++ (name, value) :: behind).Perm ((name, value) :: (before ++ behind)) :=
    List.perm_middle
  have order := middle.map (·.1)
  exact Json.find?_eq_none (List.nodup_cons.mp (order.nodup_iff.mp distinct)).1

/-- A field that is left out is read as its default. -/
theorem alike_dropped {name : String} {value : Json}
    (distinct : ((before ++ (Text.ofString name, value) :: behind).map (·.1)).Nodup)
    (default : (name, some value) ∈ kind.fields) :
    Alike kind (before ++ (Text.ofString name, value) :: behind) (before ++ behind) := by
  rintro ⟨other, default'⟩ member
  rw [read, read, Json.find?_middle distinct]
  dsimp only
  -- The field that was left out had its default, and all others are still there.
  by_cases same : name = other
  · subst same
    rw [if_pos rfl, find?_dropped distinct, kind.default_unique member default]
    rfl
  · rw [if_neg fun text => same (Text.ofString_injective text)]

end Reading

/-- An item may take the place of another one that stands for the same record. -/
theorem ofJsons_replaced {child child' : Json} (same : ofJson child = ofJson child')
    (items others : List Json) :
    ofJsons (items ++ child :: others) = ofJsons (items ++ child' :: others) := by
  -- The items in front are read before the one that is exchanged.
  induction items with
  | nil => simp only [List.nil_append, ofJsons, same]
  | cons item items ih => simp only [List.cons_append, ofJsons, ih]

/-- In an object, and in those that are in it if it is a section, each name is there once. -/
inductive Orderly : Json → Prop
  /-- Each name is there once, and the objects in a section are orderly. -/
  | object {entries : List (Text × Json)} (distinct : (entries.map (·.1)).Nodup)
      (children : ∀ inverted items, Kind.ofEntries entries = .ok (.block inverted) →
        Json.find? entries (.ofString "children") = some (.array items) →
        ∀ item ∈ items, Orderly item) :
    Orderly (.object entries)

section Changes

variable {entries before behind : List (Text × Json)} {kind : Kind}

/-- The type stays the same where another entry comes in front. -/
theorem Typed.added {name : Text} (typed : Typed kind entries) (value : Json) :
    Typed kind ((name, value) :: entries) :=
  List.mem_cons_of_mem _ typed

/-- The type stays the same where a field is left out. -/
theorem Typed.dropped {name : String} {value : Json}
    (typed : Typed kind (before ++ (.ofString name, value) :: behind))
    (field : (name, some value) ∈ kind.fields) : Typed kind (before ++ behind) := by
  rcases List.mem_cons.mp (List.perm_middle.mem_iff.mp typed) with same | there
  · -- The type is no field.
    have named := Text.ofString_injective (Prod.mk.inj same).1
    exact absurd named.symm (kind.name_ne_type _ field)
  · exact there

/-- The type stays the same where the children are exchanged. -/
theorem Typed.replaced {children children' : Json}
    (typed : Typed kind (before ++ (.ofString "children", children) :: behind)) :
    Typed kind (before ++ (.ofString "children", children') :: behind) := by
  -- The entry with the type is another one than that with the children.
  refine List.perm_middle.mem_iff.mpr (List.mem_cons_of_mem _ ?_)
  refine (List.mem_cons.mp (List.perm_middle.mem_iff.mp typed)).resolve_left fun same => ?_
  exact absurd (Text.ofString_injective (Prod.mk.inj same).1) (by simp)

/-- Without an entry the other names are still there once. -/
theorem nodup_dropped {entry : Text × Json}
    (distinct : ((before ++ entry :: behind).map (·.1)).Nodup) :
    ((before ++ behind).map (·.1)).Nodup :=
  -- The names left are in the same order.
  distinct.sublist (((List.sublist_cons_self entry behind).append_left before).map (·.1))

/-- With another value an entry has the same name. -/
theorem nodup_replaced {name : Text} {value : Json}
    (distinct : ((before ++ (name, value) :: behind).map (·.1)).Nodup) (value' : Json) :
    ((before ++ (name, value') :: behind).map (·.1)).Nodup := by
  -- The row of names is the same.
  simpa using distinct

end Changes

/-- An object stays orderly when it is presented otherwise. -/
theorem Restates.orderly {json json' : Json} (restates : Restates json json')
    (orderly : Orderly json) : Orderly json' := by
  induction restates with
  | @reordered entries entries' order =>
    obtain ⟨distinct, children⟩ := orderly
    have same (name : Text) : Json.find? entries name = Json.find? entries' name :=
      Json.find?_perm order distinct
    refine .object ((order.map _).nodup_iff.mp distinct) fun inverted items typed found => ?_
    refine children inverted items ?_ ((same _).trans found)
    simpa only [Kind.ofEntries, same] using typed
  | @added entries kind name typed new foreign value =>
    obtain ⟨distinct, children⟩ := orderly
    have distinct' : (((name, value) :: entries).map (·.1)).Nodup := distinct.cons new
    refine .object distinct' fun inverted items typed' found => ?_
    have same := typed.ofEntries distinct
    -- The type is still the same, of which the new name is no field.
    obtain rfl : kind = .block inverted :=
      Except.ok.inj (((typed.added value).ofEntries distinct').symm.trans typed')
    rw [Json.find?_cons, if_neg (foreign ("children", some (.array [])) (by simp [Kind.fields]))]
      at found
    exact children inverted items same found
  | @dropped before behind kind name value typed default =>
    obtain ⟨distinct, children⟩ := orderly
    refine .object (nodup_dropped distinct) fun inverted items typed' found => ?_
    obtain rfl : kind = .block inverted := Except.ok.inj
      (((typed.dropped default).ofEntries (nodup_dropped distinct)).symm.trans typed')
    refine children inverted items (typed.ofEntries distinct) ?_
    rw [Json.find?_middle distinct, if_neg, found]
    -- The children that are still there were not left out.
    intro same
    rw [← same, find?_dropped distinct] at found
    cases found
  | @inside before behind inverted items others child child' typed restated ih =>
    obtain ⟨distinct, children⟩ := orderly
    have each := children inverted _ (typed.ofEntries distinct)
      (by rw [Json.find?_middle distinct, if_pos rfl])
    have distinct' := nodup_replaced distinct (.array (items ++ child' :: others))
    refine .object distinct' fun _ items' _ found => ?_
    rw [Json.find?_middle distinct', if_pos rfl] at found
    cases found
    simp only [List.forall_mem_append, List.forall_mem_cons] at each ⊢
    exact ⟨each.1, ih each.2.1, each.2.2⟩

/-- An orderly object stands for the same record when it is presented otherwise. -/
theorem Restates.ofJson_eq {json json' : Json} (restates : Restates json json')
    (orderly : Orderly json) : ofJson json = ofJson json' := by
  -- The fields are read by name, so that only the children have to be compared anew.
  induction restates with
  | reordered order =>
    obtain ⟨distinct, -⟩ := orderly
    exact ofJson_object_congr fun name => Json.find?_perm order distinct
  | added typed new foreign value =>
    obtain ⟨distinct, -⟩ := orderly
    exact (alike_added foreign value).ofJson_eq (typed.ofEntries distinct)
      ((typed.added value).ofEntries (distinct.cons new))
  | dropped typed default =>
    obtain ⟨distinct, -⟩ := orderly
    exact (alike_dropped distinct default).ofJson_eq (typed.ofEntries distinct)
      ((typed.dropped default).ofEntries (nodup_dropped distinct))
  | @inside before behind inverted items others child child' typed restated ih =>
    obtain ⟨distinct, children⟩ := orderly
    have distinct' := nodup_replaced distinct (.array (items ++ child' :: others))
    have each := children inverted _ (typed.ofEntries distinct)
      (by rw [Json.find?_middle distinct, if_pos rfl])
    -- The inner object stands for the same record, by induction.
    have same := ih (each child (by simp))
    rw [ofJson_object (typed.ofEntries distinct), ofJson_object (typed.replaced.ofEntries distinct')]
    have inside : childrenFor (.block inverted)
          (before ++ (.ofString "children", .array (items ++ child :: others)) :: behind)
        = childrenFor (.block inverted)
          (before ++ (.ofString "children", .array (items ++ child' :: others)) :: behind) := by
      rw [childrenFor, childrenFor, childrenIn_eq, childrenIn_eq, Json.find?_middle distinct,
        Json.find?_middle distinct', if_pos rfl, if_pos rfl]
      exact ofJsons_replaced same items others
    rw [inside]
    refine congrArg _ (funext (build_congr fun field member other => ?_))
    -- All other fields stay as they are.
    have different : Text.ofString "children" ≠ .ofString field.1 :=
      fun text => other (Text.ofString_injective text).symm
    rw [read, read, Json.find?_middle distinct, Json.find?_middle distinct', if_neg different,
      if_neg different]

/-- The object of a record that is no section is orderly. -/
theorem orderly_entriesOf {kind : Kind} (plain : ∀ inverted, kind ≠ .block inverted)
    {fields : List (String × Json)} (distinct : ("_type" :: fields.map (·.1)).Nodup) :
    Orderly (entriesOf kind fields) := by
  -- Only a section has items that would have to be orderly as well.
  refine .object (nodup_typed kind distinct) fun inverted items typed => ?_
  exact absurd (Except.ok.inj ((ofEntries_typed kind fields).symm.trans typed)) (plain inverted)

/-- The object of a section is orderly if the objects in it are. -/
theorem orderly_entriesOf_block (inverted : Bool) {fields : List (String × Json)}
    (distinct : ("_type" :: fields.map (·.1)).Nodup) {items : List Json}
    (found : fields.lookup "children" = some (.array items)) (each : ∀ item ∈ items, Orderly item) :
    Orderly (entriesOf (.block inverted) fields) := by
  -- There is one field of children, in which the objects stand.
  refine .object (nodup_typed _ distinct) fun _ items' _ found' => ?_
  have same := found'.symm.trans ((find?_typed _ fields (by simp)).trans found)
  cases same
  exact each

mutual

/-- The object of a record is orderly. -/
theorem orderly_toJson (record : Record) : Orderly record.toJson := by
  -- Only the object of a section has objects in it.
  match record with
  | .text _ _ _ | .variable _ _ _ _ | .comment _ _ _ | .switch _ _ _ | .inclusion _ _ _ _ _ _ =>
    exact orderly_entriesOf (by simp) (by simp)
  | .block inverted _ _ _ children _ =>
    exact orderly_entriesOf_block inverted (by simp) rfl (orderly_toJsons children)

/-- The objects of records are orderly. -/
theorem orderly_toJsons (records : List Record) : ∀ item ∈ toJsons records, Orderly item := by
  -- One record after the other.
  match records with
  | [] => exact List.forall_mem_nil _
  | record :: records =>
    exact List.forall_mem_cons.mpr ⟨orderly_toJson record, orderly_toJsons records⟩

end

mutual

/-- The object of a record stands for this record. -/
theorem ofJson_toJson (record : Record) : ofJson record.toJson = .ok record := by
  -- All fields are there and found under their names.
  match record with
  | .text _ _ _ | .variable _ _ _ _ | .comment _ _ _ | .switch _ _ _ | .inclusion _ _ _ _ _ _ =>
    rw [toJson, ofJson_entriesOf (by simp)]
    simp only [build, required_typed, optional_typed, ne_eq, String.reduceEq, not_false_eq_true]
    rfl
  | .block inverted name start stop children closeStart =>
    rw [toJson, ofJson_entriesOf_block inverted rfl (ofJsons_toJsons children)]
    simp only [build, required_typed, optional_typed, ne_eq, String.reduceEq, not_false_eq_true]
    rfl

/-- The objects of records stand for these records. -/
theorem ofJsons_toJsons (records : List Record) : ofJsons (toJsons records) = .ok records := by
  -- One object after the other, none of which fails.
  match records with
  | [] => rfl
  | record :: records =>
    rw [toJsons, ofJsons, ofJson_toJson record, ofJsons_toJsons records]
    rfl

end

/-- However the object of a record is presented, it stands for this record. -/
theorem ofJson_of_restates (record : Record) {json : Json}
    (restated : Relation.ReflTransGen Restates record.toJson json) :
    Orderly json ∧ ofJson json = .ok record := by
  -- Step by step, for one step only restates what is orderly.
  induction restated with
  | refl => exact ⟨orderly_toJson record, ofJson_toJson record⟩
  | tail _ restates ih => exact ⟨restates.orderly ih.1, restates.ofJson_eq ih.1 ▸ ih.2⟩

end Record

/--
However the object of a token is presented, exactly this token is read from it.

In the object and in those of all tokens in it, at any depth, entries may be put into another order,
entries may be added whose names are no fields of the type of the token, and fields that have their
default may be left out.
-/
theorem Token.ofJson_restated (token : Token) {json : Json}
    (restated : Relation.ReflTransGen Record.Restates token.toRecord.toJson json) :
    Record.ofJson json = .ok token.toRecord ∧ token.toRecord.token? = some token :=
  -- The record that is read is that of the token, and it stands for no other one.
  ⟨(Record.ofJson_of_restates token.toRecord restated).2, token?_toRecord token⟩

/-- A section with its name in front, and in it a partial without a default and with an entry more. -/
theorem Token.ofJson_restated_section :
    let token : Token := .block false ['a'] ⟨0, 6⟩ [.inclusion ['p'] ⟨6, 12⟩ {}] 12
    let child : Json := .object
      [ (.ofString "children", .null), (.ofString "_type", .text (.ofString "Partial")),
        (.ofString "name", .text ['p']), (.ofString "start", .int 6), (.ofString "end", .int 12),
        (.ofString "indentation", .text []), (.ofString "line_has_non_space", .bool false) ]
    let json : Json := .object
      [ (.ofString "name", .text ['a']), (.ofString "_type", .text (.ofString "Section")),
        (.ofString "start", .int 0), (.ofString "end", .int 6),
        (.ofString "children", .array [child]), (.ofString "close_start", .int 12) ]
    Relation.ReflTransGen Record.Restates token.toRecord.toJson json
      ∧ Record.ofJson json = .ok token.toRecord ∧ token.toRecord.token? = some token := by
  intro token child json
  let front : List (Text × Json) :=
    [ (.ofString "_type", .text (.ofString "Section")), (.ofString "name", .text ['a']),
      (.ofString "start", .int 0), (.ofString "end", .int 6) ]
  let holding (item : Json) : Json := .object (front ++ (.ofString "children", .array [item])
    :: [(.ofString "close_start", .int 12)])
  -- What is done to the inner object is done inside the outer one.
  have below {item item' : Json} (restates : Record.Restates item item') :
      Record.Restates (holding item) (holding item') := by
    have typed : Record.Typed (.block false) (front ++ (.ofString "children",
        .array ([] ++ item :: [])) :: [(.ofString "close_start", .int 12)]) := by
      simp [Record.Typed, Record.Kind.name, front]
    have inside := Record.Restates.inside typed restates
    exact inside
  let type : Text × Json := (.ofString "_type", .text (.ofString "Partial"))
  let named : Text × Json := (.ofString "name", .text ['p'])
  let others : List (Text × Json) := [(.ofString "line_has_non_space", .bool false)]
  let span : List (Text × Json) :=
    [(.ofString "start", .int 6), (.ofString "end", .int 12), (.ofString "indentation", .text [])]
  have typed (entries : List (Text × Json)) :
      Record.Typed .inclusion ((type :: named :: span) ++ entries) := by
    simp [Record.Typed, Record.Kind.name, type]
  have first : Record.Restates
      (.object ((type :: named :: span) ++ (.ofString "tag_index", .int 0) :: others))
      (.object ((type :: named :: span) ++ others)) :=
    .dropped (typed _) (by simp [Record.Kind.fields])
  have second : Record.Restates (.object ((type :: named :: span) ++ others)) child :=
    .added (typed _) (by simp [type, named, span, others, Text.ofString])
      (by simp [Record.Kind.fields, Text.ofString]) .null
  -- The name is put in front of the type at last.
  have third : Record.Restates (holding child) json := .reordered (.swap _ _ _)
  have restated : Relation.ReflTransGen Record.Restates token.toRecord.toJson json :=
    .tail (.tail (.single (below first)) (below second)) third
  exact ⟨restated, ofJson_restated token restated⟩

end Mustache
