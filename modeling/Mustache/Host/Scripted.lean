import Mustache.Html
import Mustache.Host
import Mustache.Value.Display
import Mustache.Value.Key

/-! A host whose functions each follow a recipe. -/

namespace Mustache.Scripted

/-- What a section function does with the source of its section. -/
inductive SectionRecipe where
  /-- Give a value. -/
  | constant (value : Value)
  /-- Give the source. -/
  | source
  /-- Give the source backwards. -/
  | reversed
  /-- Render the source and put a text on either side. -/
  | wrapped (before after : Text)
  /-- Put a text on either side of the source and render that. -/
  | surrounded (before after : Text)
  /-- Render the source twice, with a text between. -/
  | repeated (between : Text)
  /-- Render the source, and render what comes of it. -/
  | rerendered
  /-- Render a value. -/
  | other (value : Value)
  /-- Render the source behind the number of the call. -/
  | counted
  /-- Give the length of the source. -/
  | length
  /-- Render the source, or give a report if that fails for a reason of the library. -/
  | guarded
  /-- Give up with a message. -/
  | failing (message : Text)

/-- What an escape gives for a value. -/
inductive EscapeRecipe where
  /-- The value as it is displayed. -/
  | display
  /-- The value as it is displayed, between brackets. -/
  | bracketed
  /-- The name of the type of the value. -/
  | typeName
  /-- The written form of the value. -/
  | literal
  /-- The value itself. -/
  | identity
  /-- The value escaped as HTML twice. -/
  | doubled
  /-- Nothing: it gives up with a message. -/
  | failing (message : Text)

/-- What a function does. -/
inductive Recipe where
  /-- A name stands for a value. -/
  | constant (value : Value)
  /-- A name stands for the number of the call. -/
  | counter
  /-- A name makes the function give up with a message. -/
  | failing (message : Text)
  /-- A value is given for any arguments. -/
  | anything (value : Value)
  /-- A section is processed. -/
  | block (recipe : SectionRecipe)
  /-- A value is escaped. -/
  | escape (recipe : EscapeRecipe)
  /-- A name is answered from some entries, or as absent. -/
  | resolver (entries : List (Text × Value))
  /-- The template of a name is found among some entries, or not. -/
  | loader (entries : List (Text × Value))
  /-- A name stands for a value, and nobody sees the call. -/
  | silent (value : Value)
  /-- A single argument is taken, which no tag ever gives. -/
  | method

/-- The number of arguments that a function takes. -/
def Recipe.arity : Recipe → Arity
  | .constant _ => .exactly 0
  | .counter => .exactly 0
  | .failing _ => .exactly 0
  | .anything _ => .any
  | .block _ => .exactly 2
  | .escape _ => .exactly 1
  | .resolver _ => .exactly 1
  | .loader _ => .exactly 1
  | .silent _ => .exactly 0
  | .method => .exactly 1

/-- A function of the host. -/
structure Role where
  /-- The name of the function. -/
  name : Text
  /-- What the function does. -/
  recipe : Recipe

/-- The functions of the host, and how often each has counted. -/
structure Cast where
  /-- The functions, by number. -/
  roles : Array Role := #[]
  /-- How often each function has counted. -/
  counts : Nat → Nat := fun _ => 0

namespace Cast

/-- The host with one more function, and that function with its type and how it is displayed. -/
def add (cast : Cast) (role : Role) (className label : Text) : Cast × Function :=
  ( { cast with roles := cast.roles.push role },
    .hosted cast.roles.size className label role.recipe.arity )

/-- A function has counted once more. -/
def count (cast : Cast) (id : Nat) : Cast :=
  { cast with counts := fun n => if n = id then cast.counts id + 1 else cast.counts n }

/-- What a function does. -/
def recipe? (cast : Cast) (id : Nat) : Option Recipe := cast.roles[id]?.map (·.recipe)

end Cast

/-- What an escape gives for a value. -/
def EscapeRecipe.apply (recipe : EscapeRecipe) (value : Value) : Except HostFailure Value :=
  let shown := fun (t : Text) =>
    if value.canBeShown then .ok (.text t) else .error .numeralTooLong
  match recipe with
  | .display => shown value.display
  | .bracketed => shown ('[' :: value.display ++ [']'])
  | .typeName => .ok (.text value.typeName)
  | .literal => shown value.literal
  | .identity => .ok value
  | .doubled => shown (Html.escape (Html.escape value.display))
  | .failing message => .error (.raised message)

/-- What some entries hold under an argument, or a value in its place when it is no name of one. -/
def entryOr (default : Value) (entries : List (Text × Value)) (name : Value) :
    Except HostFailure Value :=
  match name with
  | .text t => .ok ((Value.find? entries t).getD default)
  | other => if other.canBeKey then .ok default else .error .badArgument

/-- What a function answers on its own. -/
def answer (id : Nat) (call : Call) (cast : Cast) : Except HostFailure Value × Cast :=
  match cast.recipe? id, call with
  | some (.constant value), _ => (.ok value, cast)
  | some .counter, _ =>
    let counted := cast.count id
    (.ok (.int (counted.counts id)), counted)
  | some (.failing message), _ => (.error (.raised message), cast)
  | some (.anything value), _ => (.ok value, cast)
  | some (.escape recipe), call => (recipe.apply (call.arguments.headD .null), cast)
  | some (.resolver entries), call => (entryOr .absent entries (call.arguments.headD .null), cast)
  | some (.loader entries), call => (entryOr .null entries (call.arguments.headD .null), cast)
  | some (.silent value), _ => (.ok value, cast)
  | _, _ => (.ok .null, cast)

/-- Render a template and go on with the output; a failure ends the function. -/
def rendering (template : Value) (cast : Cast) (next : Text → Cast → Script Cast) : Script Cast :=
  .render template cast (fun _ => false) fun result after =>
    match result with
    | .ok output => next output after
    | .error _ => .value .null after

/-- What is reported of a failure that has its reason in a template, if it is one. -/
def report? : Failure → Option Text
  | .parse error => some (.ofString "[ParseError: " ++ error.toText ++ [']'])
  | .missingSource =>
    some (.ofString "[RenderError: " ++ Failure.missingSource.message?.getD [] ++ [']'])
  | _ => none

/-- What a section function does with the source of its section. -/
def SectionRecipe.script (recipe : SectionRecipe) (id : Nat) (source : Text) (cast : Cast) :
    Script Cast :=
  match recipe with
  | .constant value => .value value cast
  | .source => .value (.text source) cast
  | .reversed => .value (.text source.reverse) cast
  | .wrapped before after =>
    rendering (.text source) cast fun output cast => .value (.text (before ++ output ++ after)) cast
  | .surrounded before after =>
    rendering (.text (before ++ source ++ after)) cast fun output cast => .value (.text output) cast
  | .repeated between =>
    rendering (.text source) cast fun first cast =>
      rendering (.text source) cast fun second cast =>
        .value (.text (first ++ between ++ second)) cast
  | .rerendered =>
    rendering (.text source) cast fun first cast =>
      rendering (.text first) cast fun second cast => .value (.text second) cast
  | .other value => rendering value cast fun output cast => .value (.text output) cast
  | .counted =>
    let counted := cast.count id
    let number := Text.ofInt (counted.counts id)
    rendering (.text source) counted fun output cast =>
      .value (.text (number ++ ':' :: output)) cast
  | .length => .value (.int source.length) cast
  | .guarded =>
    .render (.text source) cast (fun failure => (report? failure).isSome) fun result after =>
      match result with
      | .ok output => .value (.text output) after
      | .error failure => .value (.text ((report? failure).getD [])) after
  | .failing message => .raise message cast

/-- What a function does as a section function. -/
def script (id : Nat) (source : Text) (cast : Cast) : Script Cast :=
  match cast.recipe? id with
  | some (.block recipe) => recipe.script id source cast
  | some (.anything value) => .value value cast
  | _ => .value .null cast

/-- The host whose functions follow their recipes. -/
def host : Host Cast := ⟨answer, script⟩

end Mustache.Scripted
