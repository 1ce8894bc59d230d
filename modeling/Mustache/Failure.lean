import Mustache.ParseError

/-! The reasons for which rendering can fail. -/

namespace Mustache

/-- A reason for which a template, a configuration or a view cannot be used. -/
inductive Failure where
  /-- A template is malformed, or delimiters are unusable. -/
  | parse (error : ParseError)
  /-- A section function needs the source of its template, which is not at hand. -/
  | missingSource
  /-- A function of the host gave up with a message. -/
  | raised (message : Text)
  /-- A function of the host was given an argument of a type it cannot take. -/
  | badArgument
  /-- The template to render is a value of another type than text. -/
  | invalidTemplate (typeName : Text)
  /-- A value of this written form is no configuration. -/
  | invalidConfig (shown : Text)
  /-- A function does not take as many arguments as it is given. -/
  | wrongArity
  /-- A value that is to be called is no function. -/
  | notCallable
  /-- A value that is to be taken apart has no items. -/
  | notIterable
  /-- A value that is to be measured has no length. -/
  | notSized
  /-- A value that is to be sliced has no slices. -/
  | notSliceable
  /-- A value that is to be looked up can change. -/
  | notKey
  /-- A path is not a text. -/
  | notPath
  /-- An offset in a source is not an integer. -/
  | notOffset
  /-- A value that has to be a text is not one. -/
  | notText
  /-- The template of a name is not a text. -/
  | notTemplate
  /-- The template of a name is not a text and would have to be indented. -/
  | notIndentable
  /-- A source is not a text, nor a sequence of anything else. -/
  | notSource
  /-- The collection of templates has no way to look up a name. -/
  | noTemplates
  /-- A value that is to hold entries has no way to give them. -/
  | noEntries
  /-- What is to be an entry has more or fewer parts than a key and a value. -/
  | notEntry
  /-- A mapping got one more entry while its keys were being read. -/
  | changedWhileRead
  /-- A numeral has too many digits. -/
  | numeralTooLong
  /-- A collection has more items than can be counted. -/
  | uncountable
  deriving DecidableEq, Repr

/-- What a failure says, if it says more than its kind. -/
def Failure.message? : Failure → Option Text
  | .parse error => some error.toText
  | .missingSource =>
    some (.ofString "Cannot use higher-order sections without the original template")
  | .raised message => some message
  | .invalidTemplate typeName =>
    some (.ofString "Invalid template! Template should be a \"str\" but \"" ++ typeName
      ++ .ofString "\" was given as the first argument for render(template, view, partials)")
  | .invalidConfig shown => some (.ofString "Invalid render config: " ++ shown)
  | _ => none

end Mustache
