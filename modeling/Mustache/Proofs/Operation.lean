import Mustache.Engine

/-! Operations that follow each other, and what can be observed of them. -/

namespace Mustache

variable {σ : Type}

/-- Whether an event is about parsing or the cache, and not about what a template does. -/
def Event.isInternal : Event → Bool
  | .cacheRead _ _ _ => true
  | .cacheWritten _ _ => true
  | .cacheCleared => true
  | .noted (.cacheMiss _) => true
  | .noted (.switched _ _) => true
  | _ => false

/-- What has happened in a session that is about what templates do, the latest first. -/
def Session.seen (s : Session σ) : List Event := s.journal.filter (!·.isInternal)

/-- What an operation gives. -/
inductive Product where
  /-- The tokens of a template. -/
  | tokens (tokens : List Token)
  /-- The output of a template. -/
  | output (output : Text)
  /-- Nothing but what the operation does. -/
  | nothing

/-- An operation on templates, which other operations may follow. -/
inductive Operation where
  /-- A text is parsed with the delimiters that a value asks for. -/
  | parse (template : Text) (delimiters : Value)
  /-- A template is rendered. -/
  | render (template : Value) (view : View) (partials : Value) (setting : Setting)
  /-- Tokens whose source is known or not are rendered. -/
  | renderTokens (tokens : List Token) (view : View) (partials : Value) (source : Option Text)
      (setting : Setting)
  /-- Records whose source is known or not are rendered. -/
  | renderRecords (records : List Record) (view : View) (partials : Value) (source : Option Text)
      (setting : Setting)
  /-- The cache is emptied. -/
  | clearCache
  /-- The cache is replaced by none, or by an empty one whose uses are reported or not. -/
  | replaceCache (reported : Option Bool)

namespace Operation

/-- Perform an operation. -/
def perform (host : Host σ) : Operation → Render σ Product
  | .parse template delimiters => do
    let tokens ← Engine.parse (.text template) delimiters
    pure (.tokens tokens)
  | .render template view partials setting => do
    let output ← Engine.render host template view partials setting
    pure (.output output)
  | .renderTokens tokens view partials source setting => do
    let output ← Engine.renderTokens host tokens view partials source setting
    pure (.output output)
  | .renderRecords records view partials source setting => do
    let output ← Engine.renderRecords host records view partials source setting
    pure (.output output)
  | .clearCache => do
    Engine.clearCache
    pure .nothing
  | .replaceCache reported => do
    Engine.setCache (reported.map fun reported => { reported := reported })
    pure .nothing

/-- The same operation where no cache is to be used. -/
def withoutCache : Operation → Operation
  | .replaceCache _ => .replaceCache none
  | other => other

/-- What came of an operation, and what was seen up to its end. -/
structure Outcome where
  /-- What it gave, or how it failed. -/
  result : Except Failure Product
  /-- What has been seen since the session began, the latest first. -/
  seen : List Event

/--
Perform operations one after the other, whether or not the ones before failed.

There is nothing to say if one of them nests templates too deep.
-/
def performAll (host : Host σ) : List Operation → Session σ → Option (List Outcome × Session σ)
  | [], s => some ([], s)
  | operation :: operations, s =>
    (operation.perform host s).bind fun first =>
      (performAll host operations first.2).map fun others =>
        (⟨first.1, first.2.seen⟩ :: others.1, others.2)

end Operation

end Mustache
