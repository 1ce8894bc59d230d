import Mustache.Rendering.Records

/-! The operations on templates: parsing, rendering, and keeping a cache and accounts. -/

namespace Mustache

variable {σ : Type}

/-- What a template is rendered against. -/
inductive View where
  /-- A value, in a scope of its own. -/
  | value (value : Value)
  /-- A context that is kept, which remembers what is looked up. -/
  | context (id : Nat)

namespace View

/-- Do something in the scope of a view. -/
def within {α : Type} (view : View) (action : Scope → Render σ α) : Render σ α :=
  match view with
  | .value root => Render.inNewScope (action { view := root })
  | .context id => Render.inContext id action

end View

namespace Engine

/-- The number of times that templates may be nested in each other. -/
def maxDepth : Nat := 1000

/-- Parse a template with given delimiters, or take it from the cache. -/
def parse (template delimiters : Value) : Render σ (List Token) :=
  Template.request template delimiters

/-- Render a template, nesting others in it up to a given depth. -/
def renderUpTo (depth : Nat) (host : Host σ) (template : Value) (view : View) (partials : Value)
    (setting : Setting) : Render σ Text := do
  match template with
  | .text _ =>
    let config ← Config.ofSetting setting
    view.within fun scope =>
      (Nested.upTo host depth).render ⟨scope, partials, config, none⟩ template
  | other => throw (.invalidTemplate other.typeName)

/-- Render a template. -/
def render (host : Host σ) (template : Value) (view : View) (partials : Value)
    (setting : Setting) : Render σ Text :=
  renderUpTo maxDepth host template view partials setting

/-- Render tokens whose source is known or not, nesting templates in them up to a given depth. -/
def renderTokensUpTo (depth : Nat) (host : Host σ) (tokens : List Token) (view : View)
    (partials : Value) (source : Option Text) (setting : Setting) : Render σ Text := do
  let config ← Config.ofSetting setting
  view.within fun scope =>
    Scene.render host (Nested.upTo host depth) ⟨scope, partials, config, source⟩ tokens

/-- Render tokens. -/
def renderTokens (host : Host σ) (tokens : List Token) (view : View) (partials : Value)
    (source : Option Text) (setting : Setting) : Render σ Text :=
  renderTokensUpTo maxDepth host tokens view partials source setting

/-- Render records whose source is known or not, nesting templates in them up to a given depth. -/
def renderRecordsUpTo (depth : Nat) (host : Host σ) (records : List Record) (view : View)
    (partials : Value) (source : Option Text) (setting : Setting) : Render σ Text := do
  let config ← Config.ofSetting setting
  view.within fun scope =>
    Record.render host (Nested.upTo host depth) ⟨scope, partials, config, source⟩ records

/-- Render records. -/
def renderRecords (host : Host σ) (records : List Record) (view : View) (partials : Value)
    (source : Option Text) (setting : Setting) : Render σ Text :=
  renderRecordsUpTo maxDepth host records view partials source setting

/-- Forget all parsed templates. -/
def clearCache : Render σ Unit := do
  match (← get).cache with
  | some cache =>
    Template.reportUse cache .cacheCleared
    modify fun s => { s with cache := some cache.clear }
  | none => pure ()

/-- Replace the cache by another one, or by none. -/
def setCache (cache : Option Cache) : Render σ Unit :=
  modify fun s => { s with cache := cache }

/-- Begin a new account inside those being kept, and give the number of all. -/
def beginProfile : Render σ Nat := do
  modify fun s => { s with profiles := {} :: s.profiles }
  pure (← get).profiles.length

/-- End the innermost account, if one is kept. -/
def endProfile : Render σ (Option Profile) := do
  let s ← get
  match s.profiles with
  | innermost :: outer =>
    set { s with profiles := outer }
    pure (some innermost)
  | [] => pure none

end Engine

end Mustache
