import Mustache.Failure
import Mustache.Value

/-! The host of a template: the program whose functions a view, a configuration or partials hold. -/

namespace Mustache

/-- A call that a host answers on its own. -/
inductive Call where
  /-- A function stands for the value of a name and gets no argument. -/
  | variable
  /-- A function gets the name of a template to load, which records may give as any value. -/
  | load (name : Value)
  /-- A function gets a value to escape. -/
  | escape (value : Value)
  /-- A function of a provider gets a name to answer, which may be asked with any value. -/
  | resolve (name : Value)
  /-- A function of a template gets the text at which to divide it. -/
  | divide (separator : Text)
  /-- A function of a configuration gives its entries and gets no argument. -/
  | entries
  deriving Repr

/-- The arguments of a call. -/
def Call.arguments : Call → List Value
  | .variable => []
  | .load name => [name]
  | .escape value => [value]
  | .resolve name => [name]
  | .divide separator => [.text separator]
  | .entries => []

/-- How a function of the host can fail. -/
inductive HostFailure where
  /-- The function gives up with a message. -/
  | raised (message : Text)
  /-- The function cannot take an argument of this type. -/
  | badArgument
  /-- The function shows a value in which a numeral is too long. -/
  | numeralTooLong
  deriving DecidableEq, Repr

/-- The failure of a rendering when a function of the host fails. -/
def HostFailure.toFailure : HostFailure → Failure
  | .raised message => .raised message
  | .badArgument => .badArgument
  | .numeralTooLong => .numeralTooLong

/--
What a section function does, step by step.

It may render texts before it gives a value, and each time it goes on with what came of that.
Between the steps the host is in a state of its own.
-/
inductive Script (σ : Type) where
  /-- The function gives a value. -/
  | value (value : Value) (state : σ)
  /-- The function gives up with a message. -/
  | raise (message : Text) (state : σ)
  /--
  The function renders a text and resumes with the output, or with a failure that it catches.

  A failure that it does not catch ends the function.
  -/
  | render (template : Value) (state : σ) (catches : Failure → Bool)
      (resume : Except Failure Text → σ → Script σ)

/-- A host with some state: what its functions answer, and what its section functions do. -/
structure Host (σ : Type) where
  /-- The value of a function for a call, or how it fails, and the next state. -/
  answer : Nat → Call → σ → Except HostFailure Value × σ
  /-- What a section function does with the source of its section. -/
  script : Nat → Text → σ → Script σ

end Mustache
