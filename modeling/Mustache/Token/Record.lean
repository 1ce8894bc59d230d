import Mustache.Json.Parse
import Mustache.Json.Value
import Mustache.Token
import Mustache.Value.Display

/-!
Tokens as JSON objects.

A record has the fields of a token with any JSON value in each, as a reader finds them.
Every token is a record, and a record is a token when all its fields have the right type.
-/

namespace Mustache

/-- A token whose fields may hold any JSON value. -/
inductive Record where
  /-- A text. -/
  | text (value start stop : Json)
  /-- A name whose value is written. -/
  | variable (escaped : Bool) (path start stop : Json)
  /-- A comment. -/
  | comment (value start stop : Json)
  /-- A change of delimiters. -/
  | switch (value start stop : Json)
  /-- A reference to another template. -/
  | inclusion (name start stop indentation tagIndex hasText : Json)
  /-- A section or its inversion. -/
  | block (inverted : Bool) (name start stop : Json) (children : List Record) (closeStart : Json)
  deriving Repr

namespace Record

/-- Why a JSON value is no record. -/
inductive Refusal where
  /-- The text is not JSON, or a number in it is too long. -/
  | unreadable (reason : Json.Unreadable)
  /-- The value that should hold all records is not an array. -/
  | notAnArray (typeName : Text)
  /-- A value that should be a record is not an object. -/
  | notAnObject
  /-- A record does not say its type. -/
  | untyped
  /-- A record has a type that does not exist. -/
  | unknownType (shown : Text)
  /-- The type of a record is an array or an object. -/
  | compositeType
  /-- The children of a record are neither an array nor something else with elements. -/
  | childless
  /-- A field without a default value is missing. -/
  | incomplete
  deriving DecidableEq, Repr

/-- What the refusal of a record says, if it says more than its kind. -/
def Refusal.message? : Refusal → Option Text
  | .notAnArray typeName => some (.ofString "Expected a list of tokens, got " ++ typeName)
  | .untyped => some (.ofString "Missing '_type' field in serialized token")
  | .unknownType shown => some (.ofString "Unknown token type: " ++ shown)
  | _ => none

/-- The types of records, by the names they go by. -/
inductive Kind where
  /-- A text. -/
  | text
  /-- A name whose value is written, escaped or not. -/
  | variable (escaped : Bool)
  /-- A comment. -/
  | comment
  /-- A change of delimiters. -/
  | switch
  /-- A reference to another template. -/
  | inclusion
  /-- A section, inverted or not. -/
  | block (inverted : Bool)
  deriving DecidableEq, Repr

/-- The types with their names. -/
def Kind.named : List (Text × Kind) :=
  [ (.ofString "Text", .text),
    (.ofString "Name", .variable true),
    (.ofString "Unescaped", .variable false),
    (.ofString "Comment", .comment),
    (.ofString "DelimiterSet", .switch),
    (.ofString "Partial", .inclusion),
    (.ofString "Section", .block false),
    (.ofString "Inverted", .block true) ]

/-- The name of a type. -/
def Kind.name : Kind → Text
  | .text => .ofString "Text"
  | .variable true => .ofString "Name"
  | .variable false => .ofString "Unescaped"
  | .comment => .ofString "Comment"
  | .switch => .ofString "DelimiterSet"
  | .inclusion => .ofString "Partial"
  | .block false => .ofString "Section"
  | .block true => .ofString "Inverted"

/-- The type that an object says it has. -/
def Kind.ofEntries (entries : List (Text × Json)) : Except Refusal Kind :=
  match Json.find? entries (.ofString "_type") with
  | none => .error .untyped
  | some .null => .error .untyped
  | some (.array _) => .error .compositeType
  | some (.object _) => .error .compositeType
  | some (.text name) =>
    match Kind.named.lookup name with
    | some kind => .ok kind
    | none => .error (.unknownType (Text.quoted name))
  | some other => .error (.unknownType other.toValue.literal)

/-- The value of a field that has to be there. -/
def required (entries : List (Text × Json)) (name : String) : Except Refusal Json :=
  match Json.find? entries (.ofString name) with
  | some value => .ok value
  | none => .error .incomplete

/-- The value of a field, or its default if it is not there. -/
def optional (entries : List (Text × Json)) (name : String) (default : Json) : Json :=
  (Json.find? entries (.ofString name)).getD default

/-- The record of a type whose fields are those of an object and whose children are given. -/
def build (kind : Kind) (entries : List (Text × Json)) (children : List Record) :
    Except Refusal Record := do
  let main ← required entries <| match kind with
    | .text => "value"
    | .variable _ => "path"
    | .comment => "value"
    | .switch => "value"
    | .inclusion => "name"
    | .block _ => "name"
  let start ← required entries "start"
  let stop ← required entries "end"
  match kind with
  | .text => .ok (.text main start stop)
  | .variable escaped => .ok (.variable escaped main start stop)
  | .comment => .ok (.comment main start stop)
  | .switch => .ok (.switch main start stop)
  | .inclusion =>
    .ok (.inclusion main start stop (optional entries "indentation" (.text []))
      (optional entries "tag_index" (.int 0)) (optional entries "line_has_non_space" (.bool false)))
  | .block inverted =>
    .ok (.block inverted main start stop children (optional entries "close_start" (.int 0)))

mutual

/-- The record that an object stands for. -/
def ofJson : Json → Except Refusal Record
  | .object entries => do
    let kind ← Kind.ofEntries entries
    match kind with
    -- Children are read before the other fields are looked at.
    | .block _ => build kind entries (← childrenIn entries)
    | _ => build kind entries []
  | _ => .error .notAnObject

/-- The records in the children of an object, of which there are none when the field is missing. -/
def childrenIn : List (Text × Json) → Except Refusal (List Record)
  | [] => .ok []
  | (name, value) :: rest =>
    if name = .ofString "children" then childrenOf value else childrenIn rest

/-- The records that a field of children stands for. -/
def childrenOf : Json → Except Refusal (List Record)
  | .array items => ofJsons items
  -- The characters of a text and the names of an object are elements too, but no records.
  | .text [] => .ok []
  | .text _ => .error .notAnObject
  | .object [] => .ok []
  | .object _ => .error .notAnObject
  | _ => .error .childless

/-- The records that the items of an array stand for. -/
def ofJsons : List Json → Except Refusal (List Record)
  | [] => .ok []
  | item :: items => do
    let record ← ofJson item
    let records ← ofJsons items
    .ok (record :: records)

end

/-- An object with the type and the fields of a record. -/
def entriesOf (kind : Kind) (fields : List (String × Json)) : Json :=
  .object ((.ofString "_type", .text kind.name)
    :: fields.map fun field => (.ofString field.1, field.2))

mutual

/-- The object of a record. -/
def toJson : Record → Json
  | .text value start stop => entriesOf .text [("value", value), ("start", start), ("end", stop)]
  | .variable escaped path start stop =>
    entriesOf (.variable escaped) [("path", path), ("start", start), ("end", stop)]
  | .comment value start stop =>
    entriesOf .comment [("value", value), ("start", start), ("end", stop)]
  | .switch value start stop =>
    entriesOf .switch [("value", value), ("start", start), ("end", stop)]
  | .inclusion name start stop indentation tagIndex hasText =>
    entriesOf .inclusion
      [ ("name", name), ("start", start), ("end", stop), ("indentation", indentation),
        ("tag_index", tagIndex), ("line_has_non_space", hasText) ]
  | .block inverted name start stop children closeStart =>
    entriesOf (.block inverted)
      [ ("name", name), ("start", start), ("end", stop), ("children", .array (toJsons children)),
        ("close_start", closeStart) ]

/-- The objects of some records. -/
def toJsons : List Record → List Json
  | [] => []
  | record :: records => toJson record :: toJsons records

end

/-- The JSON text of some records. -/
def toJsonText (indent : Option Text) (records : List Record) : Text :=
  (Json.array (toJsons records)).toText indent

/-- The name of the type of a JSON value that is not an array. -/
def typeName (value : Json) : Text := value.toValue.typeName

/-- The records of a JSON text. -/
def ofJsonText (t : Text) : Except Refusal (List Record) :=
  match Json.ofText t with
  | .error reason => .error (.unreadable reason)
  | .ok (.array items) => ofJsons items
  | .ok other => .error (.notAnArray (typeName other))

mutual

/-- The token of a record whose fields have the right types. -/
def token? : Record → Option Token
  | .text (.text value) (.int start) (.int stop) => some (.text value ⟨start, stop⟩)
  | .variable escaped (.text path) (.int start) (.int stop) =>
    some (.variable escaped path ⟨start, stop⟩)
  | .comment (.text value) (.int start) (.int stop) => some (.comment value ⟨start, stop⟩)
  | .switch (.text value) (.int start) (.int stop) => some (.switch value ⟨start, stop⟩)
  | .inclusion (.text name) (.int start) (.int stop) (.text indentation) (.int tagIndex)
      (.bool hasText) =>
    some (.inclusion name ⟨start, stop⟩ ⟨indentation, tagIndex, hasText⟩)
  | .block inverted (.text name) (.int start) (.int stop) children (.int closeStart) =>
    (tokens? children).map fun tokens => .block inverted name ⟨start, stop⟩ tokens closeStart
  | _ => none

/-- The tokens of some records. -/
def tokens? : List Record → Option (List Token)
  | [] => some []
  | record :: records => do
    let token ← token? record
    let tokens ← tokens? records
    some (token :: tokens)

end

end Record

namespace Token

mutual

/-- The record of a token. -/
def toRecord : Token → Record
  | .text value span => .text (.text value) (.int span.start) (.int span.stop)
  | .variable escaped path span =>
    .variable escaped (.text path) (.int span.start) (.int span.stop)
  | .comment value span => .comment (.text value) (.int span.start) (.int span.stop)
  | .switch value span => .switch (.text value) (.int span.start) (.int span.stop)
  | .inclusion name span line =>
    .inclusion (.text name) (.int span.start) (.int span.stop) (.text line.indentation)
      (.int line.tagIndex) (.bool line.hasText)
  | .block inverted name span children closeStart =>
    .block inverted (.text name) (.int span.start) (.int span.stop) (toRecords children)
      (.int closeStart)

/-- The records of a row of tokens. -/
def toRecords : List Token → List Record
  | [] => []
  | token :: tokens => toRecord token :: toRecords tokens

end

/-- The JSON text of a row of tokens. -/
def toJsonText (indent : Option Text) (tokens : List Token) : Text :=
  Record.toJsonText indent (toRecords tokens)

/-- The tokens of a JSON text, if it holds records of the right types. -/
def ofJsonText? (t : Text) : Option (List Token) :=
  match Record.ofJsonText t with
  | .ok records => Record.tokens? records
  | .error _ => none

end Token

end Mustache
