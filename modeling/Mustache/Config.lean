import Mustache.Session
import Mustache.Value.Key

/-! How templates are to be rendered: their delimiters and the escape of values. -/

namespace Mustache

/-- A configuration, whose delimiters are checked when a template is parsed. -/
structure Config where
  /-- The delimiters of every template. -/
  delimiters : Value := Delimiters.default.toValue
  /-- The escape of values, or null for that of HTML. -/
  escape : Value := .null

/-- The forms in which a configuration may be given. -/
inductive Setting where
  /-- A value that stands for a configuration. -/
  | value (value : Value)
  /-- A configuration. -/
  | config (config : Config)

namespace Config

/-- The delimiters that some entries ask for: those of `delimiters`, and without it of `tags`. -/
def delimitersIn? (entries : List (Value × Value)) : Option Value :=
  let asked := match Value.named? entries (.ofString "delimiters") with
    | some value => some value
    | none => Value.named? entries (.ofString "tags")
  match asked with
  -- To ask for nothing is not to ask.
  | some .null => none
  | asked => asked

/-- The configuration that some entries ask for, whatever other entries there are. -/
def ofEntries {σ : Type} (entries : List (Value × Value)) : Render σ Config := do
  let escape := (Value.named? entries (.ofString "escape")).getD .null
  match delimitersIn? entries with
  | some value => pure { delimiters := .tuple (← Render.unpack value), escape := escape }
  | none => pure { escape := escape }

/-- A key and a value, which is what an entry can be taken apart into; the key has to be one. -/
def entryOf {σ : Type} (item : Value) : Render σ (Value × Value) := do
  match ← Render.unpack item with
  | [key, value] =>
    match key with
    -- A set is no key, but can be asked for, which never finds anything.
    | .set _ => pure (key, value)
    | _ => if key.canBeKey then pure (key, value) else throw .notKey
  | _ => throw .notEntry

/--
The configuration that an object asks for, which gives its entries in a way of its own.

It cannot ask for `tags`, since it has no entries of the usual kind from which to take them.
-/
def ofObject {σ : Type} (host : Host σ) (object : Value) : Render σ Config := do
  let way := fun (name : String) =>
    match Value.find? object.attributes (.ofString name) with
    | some found => pure found
    | none => throw Failure.noEntries
  let items ← Render.unpack (← (← way "items").call host .entries)
  let entries := (← items.mapM entryOf).reverse
  match Value.named? entries (.ofString "delimiters") with
  | some _ => ofEntries entries
  | none =>
    match ← (← way "get").call host (.load (.text (.ofString "tags"))) with
    | .null => ofEntries (entries.filter fun entry => !entry.1.isNamed (.ofString "tags"))
    | _ => throw .notSliceable

/-- The configuration that the entries of a value ask for. -/
def ofValue {σ : Type} (host : Host σ) (value : Value) : Render σ Config := do
  match ← Render.opened value with
  | .mapping entries => ofEntries entries
  | other => ofObject host other

/-- The configuration that a setting stands for. -/
def ofSetting {σ : Type} (setting : Setting) : Render σ Config := do
  match setting with
  | .config config => pure config
  | .value value =>
    match ← Render.opened value with
    | .null => pure {}
    | .mapping entries => ofEntries entries
    | .list items => pure { delimiters := .tuple items }
    | .tuple items => pure { delimiters := .tuple items }
    | other => throw (if other.canBeShown then .invalidConfig other.literal else .numeralTooLong)

end Config

end Mustache
