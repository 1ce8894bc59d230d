import Mustache.Session
import Mustache.Value.Key

/-! Requests for the tokens of templates, which are served from the cache if there is one. -/

namespace Mustache

variable {σ : Type}

namespace Template

/-- Parse a text, telling of each change of delimiters. -/
def parseText (source : Text) (pair : Delimiters) : Render σ (List Token) := do
  (switches source pair).forM fun switch =>
    Render.report (.noted (.switched switch.pair switch.start))
  match parse source pair with
  | .ok tokens => pure tokens
  | .error fault => throw (.parse (fault.toError source))

/-- Why a value that is neither a text nor vacant is no template. -/
def refusal (template : Value) : Failure :=
  if template.isUncountable then .uncountable else .notTemplate

/-- Parse a value: a text, or a vacant value, which is a template without tokens. -/
def parseValue (template : Value) (pair : Delimiters) : Render σ (List Token) :=
  match template with
  | .text source => parseText source pair
  | other => if other.isVacant then pure [] else throw (refusal other)

/-- Parse a source. -/
def parseSource (source : Source) (pair : Delimiters) : Render σ (List Token) :=
  match source with
  | .text source => parseText source pair
  | .vacant _ => pure []

/-- Tell of a use of a cache that is reported. -/
def reportUse (cache : Cache) (event : Event) : Render σ Unit :=
  if cache.reported then Render.report event else pure ()

/-- The tokens of a source, from the cache if they are in it, which they are afterwards. -/
def requestSource (cache : Cache) (template : Value) (source : Source) (pair : Delimiters) :
    Render σ (List Token) := do
  let found := cache.find? source pair
  reportUse cache (.cacheRead template pair found.isSome)
  match found with
  | some tokens =>
    Render.account (·.addParse true)
    pure tokens
  | none =>
    Render.report (.noted (.cacheMiss source.length))
    let tokens ← parseSource source pair
    modify fun s => { s with cache := s.cache.map (·.insert source pair tokens) }
    reportUse cache (.cacheWritten template pair)
    Render.account (·.addParse false)
    pure tokens

/--
Refuse a template that is no source, as soon as that shows.

It is looked up if it can be a key, and found missing if it has a length.
-/
def refuse (cache : Cache) (template : Value) (pair : Delimiters) : Render σ (List Token) := do
  if template.canBeKey then
    reportUse cache (.cacheRead template pair false)
    match template.size? with
    | some length => Render.report (.noted (.cacheMiss length))
    | none => pure ()
  throw (refusal template)

/--
The delimiters that a value asks for: null asks for two braces on either side.

A value that cannot serve as delimiters is counted and shown to be reported.
-/
def delimitersOf (value : Value) : Except Failure Delimiters :=
  match value with
  | .null => .ok Delimiters.default
  | other =>
    match Delimiters.ofValue other with
    | .ok pair => .ok pair
    | .error report =>
      if other.isUncountable then .error .uncountable
      else if other.canBeShown then .error (.parse report)
      else .error .numeralTooLong

/-- The tokens of a template. -/
def request (template delimiters : Value) : Render σ (List Token) := do
  let pair ← Render.ofExcept (delimitersOf (← Render.settled delimiters))
  match (← get).cache with
  | some cache =>
    match Source.ofValue? template with
    | some source => requestSource cache template source pair
    | none => refuse cache template pair
  | none =>
    -- Without a cache a template counts as parsed even when that fails.
    Render.account (·.addParse false)
    parseValue template pair

end Template

end Mustache
