import Mustache.Session
import Mustache.Value.Key
import Mustache.Value.Member

/-! The values of names in a scope. -/

namespace Mustache

variable {σ : Type}

/-- What a value answers to a single name, by asking its resolver if it is a provider. -/
def Value.resolve (host : Host σ) (value : Value) (name : Text) : Render σ Value := do
  let value ← Render.opened value
  match value.resolver? with
  | some resolver => resolver.call host (.resolve (.text name))
  | none => .ofExcept (value.member name)

/-- What plain data answers to a value that is no text: only a mapping may know it. -/
def Value.memberAt (value key : Value) : Except Failure Value :=
  match value with
  | .null => .ok .absent
  | .absent => .ok .absent
  | .mapping entries =>
    if key.canBeKey then .ok ((Value.lookup? entries key).getD .absent) else .error .notKey
  | _ =>
    if value.indexable?.isSome then .error .notText
    else if key.isVacant then .ok .absent
    else .error .notPath

/-- What a value answers when it is asked with a value of any type, which should be a name. -/
def Value.resolveAt (host : Host σ) (value key : Value) : Render σ Value :=
  match key with
  | .text name => value.resolve host name
  | _ => do
    let value ← Render.opened value
    match value.resolver? with
    | some resolver => resolver.call host (.resolve key)
    | none => .ofExcept (value.memberAt key)

namespace Scope

/-- What the first of some values answers that knows a name; it is absent if none does. -/
def resolveAmong (host : Host σ) (name : Text) : List Value → Render σ Value
  | [] => pure .absent
  | view :: outer => do
    match ← view.resolve host name with
    | .absent => resolveAmong host name outer
    | found => pure found

/-- What a value answers to names in turn, which is nothing from the first unknown one on. -/
def resolveWithin (host : Host σ) : Value → List Text → Render σ Value
  | .absent, _ => pure .null
  | value, [] => pure value
  | value, name :: rest => do resolveWithin host (← value.resolve host name) rest

/--
The value of a dotted path.

The first name is looked for from the inside out, the others only in the value of the one before.
-/
def resolvePath (host : Host σ) (scope : Scope) (path : Text) : Render σ Value := do
  let (head, rest) := Text.pieces '.' path
  resolveWithin host (← resolveAmong host head scope.views) rest

/-- The value of a path; a single dot is the innermost value, and other paths are remembered. -/
def lookup (host : Host σ) (scope : Scope) (path : Text) : Render σ Value := do
  if path = ['.'] then pure scope.view
  else
    match (← get).memo.lookup path with
    | some value => pure value
    | none =>
      let value ← scope.resolvePath host path
      modify fun s => { s with memo := (path, value) :: s.memo }
      pure value

end Scope

namespace Context

/-- A context inside another one. -/
def push (id : Nat) (view : Value) : Render σ Nat := do
  let s ← get
  Render.keep { scope := (s.contexts id).scope.push view, parent := some id }

/-- The value of a path in a context. -/
def lookup (host : Host σ) (id : Nat) (path : Text) : Render σ Value :=
  Render.inContext id fun scope => scope.lookup host path

/-- A context in its written form: its innermost value, and how many others there are. -/
def toText (context : Context) : Text :=
  .ofString "Context(view=" ++ context.scope.view.literal ++ .ofString ", depth="
    ++ Text.ofInt context.scope.outer.length ++ [')']

/-- A context as it is displayed, which fails if a numeral in its innermost value is too long. -/
def shown (context : Context) : Except Failure Text :=
  if context.scope.view.canBeShown then .ok context.toText else .error .numeralTooLong

end Context

end Mustache
