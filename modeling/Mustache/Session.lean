import Mustache.Cache
import Mustache.Channel
import Mustache.Host
import Mustache.Html
import Mustache.Profile
import Mustache.Template
import Mustache.Value.Shared

/-! The state in which templates are rendered, and the steps that change it. -/

namespace Mustache

/-- What the library tells whoever listens. -/
inductive Notice where
  /-- A template of this length was not in the cache. -/
  | cacheMiss (length : Nat)
  /-- There is no template of this name. -/
  | missingTemplate (name : Value)
  /-- The delimiters changed in a template at this offset. -/
  | switched (pair : Delimiters) (start : Nat)

namespace Notice

/-- The channel on which a notice is given. -/
def channel : Notice → Text
  | .cacheMiss _ => Channel.writing
  | .missingTemplate _ => Channel.writing
  | .switched _ _ => Channel.parsing

/-- What a notice says. -/
def message : Notice → Text
  | .cacheMiss length =>
    .ofString "Template cache miss (" ++ Text.ofInt length ++ .ofString " chars)"
  | .missingTemplate name => .ofString "Partial " ++ name.literal ++ .ofString " not found"
  | .switched pair start =>
    .ofString "Delimiters switched to " ++ pair.toValue.literal ++ .ofString " at "
      ++ Text.ofInt start

end Notice

/-- Something that happened while templates were parsed and rendered. -/
inductive Event where
  /-- A function of the host was called and gave a value, or failed. -/
  | called (f : Function) (call : Call) (answer : Except HostFailure Value)
  /-- A section function was called with the source of its section. -/
  | applied (f : Function) (source : Text)
  /-- A function refused a number of arguments. -/
  | refused (f : Function) (count : Nat)
  /-- A section function asked for a template to be rendered. -/
  | asked (template : Value)
  /-- A section function was told what came of the template it asked for. -/
  | answered (result : Except Failure Text)
  /-- The tokens of a template began to be written. -/
  | entered (template : Text)
  /-- The tokens of the template entered last are written, or one of them failed. -/
  | left
  /-- A template was looked up in the cache. -/
  | cacheRead (template : Value) (pair : Delimiters) (hit : Bool)
  /-- A template was put into the cache. -/
  | cacheWritten (template : Value) (pair : Delimiters)
  /-- The cache was emptied. -/
  | cacheCleared
  /-- A notice was given. -/
  | noted (notice : Notice)

/-- The values that names had in a scope, for the names that were looked up there. -/
abbrev Memo := List (Text × Value)

/-- The values in which names are looked up, the innermost apart from those around it. -/
structure Scope where
  /-- The innermost value. -/
  view : Value
  /-- The values around it, from the inside out. -/
  outer : List Value := []

namespace Scope

/-- The scope inside another one. -/
def push (scope : Scope) (view : Value) : Scope := ⟨view, scope.view :: scope.outer⟩

/-- All values, from the inside out. -/
def views (scope : Scope) : List Value := scope.view :: scope.outer

end Scope

/-- A scope that outlives a rendering, with what is known about it. -/
structure Context where
  /-- The values of the scope. -/
  scope : Scope
  /-- The number of the context around it. -/
  parent : Option Nat := none
  /-- The names that were looked up in the scope. -/
  memo : Memo := []

/-- The state in which templates are rendered. -/
structure Session (σ : Type) where
  /-- The state of the host. -/
  host : σ
  /-- How many items each stream has handed out. -/
  taken : Nat → Nat := fun _ => 0
  /-- What was written into each list and mapping that is shared. -/
  edits : Nat → Edits := fun _ => []
  /-- The names that were looked up in the scope at hand. -/
  memo : Memo := []
  /-- The cache of parsed templates, if there is one. -/
  cache : Option Cache := some {}
  /-- The accounts being kept, the innermost first. -/
  profiles : List Profile := []
  /-- What has happened, the latest first. -/
  journal : List Event := []
  /-- The contexts that are kept, by number. -/
  contexts : Nat → Context := fun _ => ⟨⟨.null, []⟩, none, []⟩
  /-- The number of contexts that are kept. -/
  contextCount : Nat := 0

/--
A step of rendering: from a state to a result or a failure and the next state.

There is no outcome at all when templates are nested too deep.
-/
abbrev Render (σ : Type) := ExceptT Failure (StateT (Session σ) Option)

namespace Render

variable {σ α : Type}

/-- Note something that happens. -/
def report (event : Event) : Render σ Unit :=
  modify fun s => { s with journal := event :: s.journal }

/-- Note something in the innermost account, if one is kept. -/
def account (note : Profile → Profile) : Render σ Unit :=
  modify fun s =>
    match s.profiles with
    | [] => s
    | innermost :: outer => { s with profiles := note innermost :: outer }

/-- A result or a failure that needs no state. -/
def ofExcept (result : Except Failure α) : Render σ α :=
  match result with
  | .ok value => pure value
  | .error failure => throw failure

/-- No outcome: templates are nested too deep. -/
def tooDeep : Render σ α := fun _ => none

/-- Do something in a scope of its own; what was looked up there is forgotten afterwards. -/
def inNewScope (action : Render σ α) : Render σ α := fun s =>
  match action { s with memo := [] } with
  | some (result, after) => some (result, { after with memo := s.memo })
  | none => none

/-- Do something in the scope of a context, which remembers what was looked up, also on failure. -/
def inContext (id : Nat) (action : Scope → Render σ α) : Render σ α := fun s =>
  let context := s.contexts id
  match action context.scope { s with memo := context.memo } with
  | some (result, after) =>
    let kept := fun n => if n = id then { context with memo := after.memo } else after.contexts n
    some (result, { after with memo := s.memo, contexts := kept })
  | none => none

/-- Write the tokens of a template, which is left again also on failure. -/
def inTemplate (template : Text) (action : Render σ α) : Render σ α := fun s =>
  match action { s with journal := .entered template :: s.journal } with
  | some (result, after) => some (result, { after with journal := .left :: after.journal })
  | none => none

/-- Keep a context, and give its number. -/
def keep (context : Context) : Render σ Nat := do
  let s ← get
  let id := s.contextCount
  let kept := fun n => if n = id then context else s.contexts n
  set { s with contexts := kept, contextCount := id + 1 }
  pure id

/-- The next item of a stream, if there is one. -/
def next? (id : Nat) (items : List Value) : Render σ (Option Value) := do
  let s ← get
  let place := s.taken id
  match items[place]? with
  | some item =>
    set { s with taken := fun n => if n = id then place + 1 else s.taken n }
    pure (some item)
  | none => pure none

/-- All items that a stream has left, after which it has none. -/
def drain (id : Nat) (items : List Value) : Render σ (List Value) := do
  let s ← get
  let left := items.drop (s.taken id)
  set { s with taken := fun n => if n = id then max (s.taken id) items.length else s.taken n }
  pure left

/-- A value as it is now; what is in it may be shared itself. -/
def opened (value : Value) : Render σ Value := do
  match value with
  | .shared id content => pure (content.edited ((← get).edits id))
  | other => pure other

/-- A value as it is now, with everything in it. -/
def settled (value : Value) : Render σ Value := do
  pure (value.settled (← get).edits)

/-- Write into a value, which lasts if the value is shared. -/
def write (value : Value) (later : Edits) : Render σ Unit :=
  match value with
  | .shared id _ =>
    modify fun s =>
      let edits := (s.edits id).writeAll later
      { s with edits := fun n => if n = id then edits else s.edits n }
  | _ => pure ()

/-- The items that a value can be taken apart into. -/
def unpack (value : Value) : Render σ (List Value) := do
  match ← opened value with
  | .stream id items => drain id items
  | plain =>
    match plain.items? with
    | some items => pure items
    | none => throw .notIterable

end Render

namespace Function

variable {σ : Type}

/-- A function does not take as many arguments as it is given. -/
def refuse {α : Type} (f : Function) (count : Nat) : Render σ α := do
  Render.report (.refused f count)
  throw .wrongArity

/-- Check that a function takes a number of arguments. -/
def checkCount (f : Function) (count : Nat) : Render σ Unit :=
  if f.accepts count then pure () else f.refuse count

/-- Call a function, which answers on its own. -/
def call (host : Host σ) (f : Function) (call : Call) : Render σ Value := do
  f.checkCount call.arguments.length
  match f with
  | .html =>
    -- The escape of this library is no function of the host, so nobody sees it being called.
    let shown ← Render.ofExcept (call.arguments.mapM Value.shown)
    pure (.text (shown.flatMap Html.escape))
  | .hosted id _ _ _ =>
    let s ← get
    let (answer, state) := host.answer id call s.host
    set { s with host := state }
    Render.report (.called f call answer)
    match answer with
    | .ok value => pure value
    | .error failure => throw failure.toFailure

end Function

/-- Call a value, which has to be a function. -/
def Value.call {σ : Type} (host : Host σ) (value : Value) (call : Call) : Render σ Value :=
  match value with
  | .function f => f.call host call
  | _ => throw .notCallable

end Mustache
