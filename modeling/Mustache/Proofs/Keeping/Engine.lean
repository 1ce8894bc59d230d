import Mustache.Proofs.Keeping.Rendering

/-! Renderings of templates, tokens and records keep every stable relation that requests keep. -/

namespace Mustache

variable {σ : Type} {R : Session σ → Session σ → Prop}

namespace Keeps

section Records

variable {host : Host σ} {kind : Value → Prop} {nested : Nested σ}

/-- To indent a template as fields ask for keeps a relation that such templates keep. -/
theorem indentedByFields (templates : KeepsTemplates R host kind)
    (indentation tagIndex hasText : Json) {template : Value} (known : kind template) :
    Keeps R (Record.indented host indentation tagIndex hasText template) := by
  -- The template is indented or taken as it is.
  unfold Record.indented
  split
  · exact templates.indent known _ _
  · exact Keeps.pure _

/-- A template that is indented as fields ask for is still of its kind. -/
theorem indentedByFields_gives (templates : KeepsTemplates R host kind)
    (indentation tagIndex hasText : Json) {template : Value} (known : kind template) :
    Gives (Record.indented host indentation tagIndex hasText template) kind := by
  -- Fields that ask for no margin leave the template as it is.
  unfold Record.indented
  split
  · exact templates.indent_gives known _ _
  · intro s after value gives
    cases gives
    exact known

mutual

/-- To write a record keeps a relation that nested renderings keep. -/
theorem writeRecord (stable : Stable R) (templates : KeepsTemplates R host kind)
    (nests : nested.Keeping R host kind) {scene : Scene}
    (holds : scene.partials.Holds kind host) (record : Record) :
    Keeps R (Record.write host nested scene record) := by
  -- What a record has in place of a text is checked first, which needs no session.
  match record with
  | .text value start stop => cases value <;> exact Keeps.pure _
  | .variable escaped path start stop =>
    exact bind (ofExcept _) fun path => writeVariable stable host scene escaped path
  | .comment body start stop => exact Keeps.pure _
  | .switch pair start stop => exact Keeps.pure _
  | .inclusion name start stop indentation tagIndex hasText =>
    exact Tracks.writeInclusion stable rfl holds _
      (fun _ => indentedByFields templates indentation tagIndex hasText)
      (fun _ => indentedByFields_gives templates indentation tagIndex hasText)
      fun _ => nests.inclusion holds
  | .block inverted name start stop children closeStart =>
    refine bind (ofExcept _) fun name => bind (subject stable host scene name) fun value => ?_
    split
    · split
      · exact writeRecords stable templates nests holds children
      · exact Keeps.pure _
    · -- The children are written with the same partials, over whatever value.
      have pushed (item : Value) : (scene.push item).partials.Holds kind host := holds
      exact Tracks.writeSection stable value (writeRecords stable templates nests holds children)
        (fun item => writeRecords stable templates nests (pushed item) children)
        fun f => writeApplied stable nests holds f _

/-- To write a row of records keeps a relation that nested renderings keep. -/
theorem writeRecords (stable : Stable R) (templates : KeepsTemplates R host kind)
    (nests : nested.Keeping R host kind) {scene : Scene}
    (holds : scene.partials.Holds kind host) (records : List Record) :
    Keeps R (Record.writeAll host nested scene records) := by
  -- The first record is written, and then the others are.
  cases records with
  | nil => exact Keeps.pure _
  | cons record records =>
    exact bind (writeRecord stable templates nests holds record) fun first =>
      bind (writeRecords stable templates nests holds records) fun others => Keeps.pure _

end

end Records

section Templates

variable {host : Host σ} {kind : Value → Prop} {nested : Nested σ} {scene : Scene}

/-- To render tokens keeps a relation that nested renderings keep. -/
theorem renderTokens (stable : Stable R) (templates : KeepsTemplates R host kind)
    (nests : nested.Keeping R host kind) (holds : scene.partials.Holds kind host)
    (tokens : List Token) : Keeps R (Scene.render host nested scene tokens) :=
  -- What the chunks come to needs no session.
  bind (writeTokens stable templates nests holds tokens) fun _ => ofExcept _

/-- To render records keeps a relation that nested renderings keep. -/
theorem renderRecords (stable : Stable R) (templates : KeepsTemplates R host kind)
    (nests : nested.Keeping R host kind) (holds : scene.partials.Holds kind host)
    (records : List Record) : Keeps R (Record.render host nested scene records) :=
  bind (writeRecords stable templates nests holds records) fun _ => ofExcept _

/-- To render a template keeps a relation that requests and nested renderings keep. -/
theorem renderTemplate (stable : Stable R) (templates : KeepsTemplates R host kind)
    (nests : nested.Keeping R host kind) (holds : scene.partials.Holds kind host)
    (template : Value) : Keeps R (scene.renderTemplate host nested template) := by
  cases template with
  | text source =>
    refine bind (templates.request (templates.text source) _) fun tokens => ?_
    -- The same partials are at hand inside the template.
    have holds : { scene with source := some source }.partials.Holds kind host := holds
    have written := renderTokens stable templates nests holds tokens
    refine bind (Tracks.inTemplate stable source written).keeps fun output => ?_
    -- The length of the output is noted in both accounts.
    have counted : Profile.Neutral (·.addRender output.length) := fun _ => ⟨rfl, rfl⟩
    exact bind (account stable counted) fun _ => Keeps.pure _
  | _ => exact Keeps.throw _

/-- To include a template keeps a relation that requests and nested renderings keep. -/
theorem includeTemplate (stable : Stable R) (templates : KeepsTemplates R host kind)
    (nests : nested.Keeping R host kind) (holds : scene.partials.Holds kind host)
    {template : Value} (known : kind template) :
    Keeps R (scene.includeTemplate host nested template) := by
  refine bind (templates.request known _) fun tokens => ?_
  -- The same partials are at hand inside the template.
  have holds (source : Option Text) : { scene with source }.partials.Holds kind host := holds
  split
  · exact Tracks.inTemplate stable _ (writeTokens stable templates nests (holds _) tokens)
  · exact writeTokens stable templates nests (holds _) tokens

end Templates

end Keeps

/-- Renderings may be nested to any depth and still keep a relation that requests keep. -/
theorem Nested.upTo_keeping (stable : Stable R) {host : Host σ} {kind : Value → Prop}
    (templates : KeepsTemplates R host kind) (depth : Nat) :
    (Nested.upTo host depth).Keeping R host kind := by
  -- What may be nested one time less keeps the relation already.
  induction depth with
  | zero => exact ⟨fun _ _ _ => Keeps.tooDeep, fun _ _ => Keeps.tooDeep⟩
  | succ depth nests =>
    exact ⟨fun holds _ known => Keeps.includeTemplate stable templates nests holds known,
      fun holds template => Keeps.renderTemplate stable templates nests holds template⟩

/-- What tracks each other in every scope does so in that of a view. -/
theorem Tracks.within {α : Type} (stable : Stable R) (view : View)
    {action action' : Scope → Render σ α}
    (inside : ∀ scope, Tracks R (action scope) (action' scope)) :
    Tracks R (view.within action) (view.within action') := by
  -- The scope is new, or that of a context.
  cases view with
  | value root => exact inNewScope stable (inside _)
  | context id => exact inContext stable id inside

namespace Keeps

section Engine

/-- To read a configuration from entries keeps every stable relation. -/
theorem ofEntries (stable : Stable R) (entries : List (Value × Value)) :
    Keeps R (Config.ofEntries entries : Render σ Config) := by
  -- Only delimiters that are given are taken apart.
  unfold Config.ofEntries
  split
  · exact bind (unpack stable _) fun items => Keeps.pure _
  · exact Keeps.pure _

/-- To read a configuration from a setting keeps every stable relation. -/
theorem ofSetting (stable : Stable R) (setting : Setting) :
    Keeps R (Config.ofSetting setting : Render σ Config) := by
  cases setting with
  | config config => exact Keeps.pure _
  | value value =>
    -- Entries may have to be taken apart, and all other forms are ready or refused.
    refine bind (opened stable value) fun found => ?_
    split
    · exact Keeps.pure _
    · exact ofEntries stable _
    · exact Keeps.pure _
    · exact Keeps.pure _
    · exact Keeps.throw _

variable {host : Host σ} {kind : Value → Prop} {partials : Value}

/-- A rendering of a template keeps a stable relation that requests keep. -/
theorem engine_render (stable : Stable R) (templates : KeepsTemplates R host kind) (depth : Nat)
    (template : Value) (view : View) (holds : partials.Holds kind host) (setting : Setting) :
    Keeps R (Engine.renderUpTo depth host template view partials setting) := by
  cases template with
  | text source =>
    -- The template is a nested rendering, the first of all.
    refine bind (ofSetting stable setting) fun config => Tracks.within stable view fun scope => ?_
    exact (Nested.upTo_keeping stable templates depth).render holds _
  | _ => exact Keeps.throw _

/-- A rendering of tokens keeps a stable relation that requests keep. -/
theorem engine_renderTokens (stable : Stable R) (templates : KeepsTemplates R host kind)
    (depth : Nat) (tokens : List Token) (view : View) (holds : partials.Holds kind host)
    (source : Option Text) (setting : Setting) :
    Keeps R (Engine.renderTokensUpTo depth host tokens view partials source setting) :=
  -- The configuration is read first, and then the scope of the view is entered.
  bind (ofSetting stable setting) fun _ => Tracks.within stable view fun _ =>
    renderTokens stable templates (Nested.upTo_keeping stable templates depth) holds tokens

/-- A rendering of records keeps a stable relation that requests keep. -/
theorem engine_renderRecords (stable : Stable R) (templates : KeepsTemplates R host kind)
    (depth : Nat) (records : List Record) (view : View) (holds : partials.Holds kind host)
    (source : Option Text) (setting : Setting) :
    Keeps R (Engine.renderRecordsUpTo depth host records view partials source setting) :=
  bind (ofSetting stable setting) fun _ => Tracks.within stable view fun _ =>
    renderRecords stable templates (Nested.upTo_keeping stable templates depth) holds records

end Engine

end Keeps

end Mustache
