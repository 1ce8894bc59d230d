import Mustache.Proofs.Keeping.Engine

/-!
The delimiters of a configuration count only for the pair that they are.

The same pair may be a tuple, a list or a text. Wherever a template is asked for, the pair is what
it is parsed with and what it is kept under, so that nothing that is rendered depends on the form.
-/

namespace Mustache

variable {σ : Type}

/-- Two values are the same delimiters, whatever is written into what is shared. -/
def Value.SamePair (delimiters other : Value) : Prop :=
  ∀ edits, Template.delimitersOf (delimiters.settled edits)
    = Template.delimitersOf (other.settled edits)

/-- A list of two texts is the same pair as they are in a tuple. -/
theorem Value.samePair_list (pair : Delimiters) :
    Value.SamePair (.list [.text pair.opening, .text pair.closing]) pair.toValue := by
  intro edits
  -- The two texts are valid delimiters, so that it does not matter how the value is displayed.
  have valid := And.intro pair.opening_ne_nil pair.closing_ne_nil
  simp [settled, settledItems, Delimiters.toValue, Template.delimitersOf, Delimiters.ofValue,
    Delimiters.texts?, Delimiters.ofWords?, valid]

/-- The same templates are asked for with delimiters that are the same pair. -/
theorem Template.request_congr {delimiters other : Value} (same : delimiters.SamePair other)
    (template : Value) :
    (request template delimiters : Render σ (List Token)) = request template other := by
  funext s
  rw [request, request, Render.bind_apply, Render.bind_apply]
  -- The delimiters are looked at as they are when the template is asked for.
  have settled (value : Value) : (Render.settled value : Render σ Value) s
      = some (.ok (value.settled s.edits), s) := rfl
  rw [settled, settled, Option.bind_some, Option.bind_some]
  dsimp only
  rw [same s.edits]

/-- The same scene with other delimiters. -/
def Scene.withDelimiters (scene : Scene) (delimiters : Value) : Scene :=
  { scene with config := { scene.config with delimiters := delimiters } }

/-- What is nested does not depend on which of two values the delimiters are. -/
structure Nested.Alike (delimiters other : Value) (nested : Nested σ) : Prop where
  /-- Included templates write the same. -/
  inclusion (scene : Scene) : nested.inclusion (scene.withDelimiters delimiters)
    = nested.inclusion (scene.withDelimiters other)
  /-- Templates are rendered alike. -/
  render (scene : Scene) : nested.render (scene.withDelimiters delimiters)
    = nested.render (scene.withDelimiters other)

section

variable (host : Host σ) {nested : Nested σ} {delimiters other : Value}

/-- A section writes the same where the same is written inside. -/
theorem Scene.writeSection_congr (value : Value) {scene scene' : Scene}
    (inside : Scene → Render σ (List Chunk)) {applied applied' : Function → Render σ (List Chunk)}
    (here : inside scene = inside scene')
    (pushed : ∀ item, inside (scene.push item) = inside (scene'.push item))
    (applies : applied = applied') :
    scene.writeSection value inside applied = scene'.writeSection value inside applied' := by
  simp only [Scene.writeSection, here, pushed, applies]

/-- A section function gives the same. -/
theorem Nested.Alike.writeApplied (alike : nested.Alike delimiters other) (scene : Scene)
    (f : Function) (part : Text → Except Failure Text) :
    (scene.withDelimiters delimiters).writeApplied host nested f part
      = (scene.withDelimiters other).writeApplied host nested f part := by
  have same : (scene.withDelimiters delimiters).source = (scene.withDelimiters other).source := rfl
  simp only [Scene.writeApplied, same, alike.render]

/-- A reference writes the same. -/
theorem Nested.Alike.writeInclusion (alike : nested.Alike delimiters other) (scene : Scene)
    (name : Value) (indent : Value → Render σ Value) :
    (scene.withDelimiters delimiters).writeInclusion host nested name indent
      = (scene.withDelimiters other).writeInclusion host nested name indent := by
  -- Where templates are looked for has nothing to do with delimiters.
  have same : (scene.withDelimiters delimiters).template host name
      = (scene.withDelimiters other).template host name := rfl
  simp only [Scene.writeInclusion, same, alike.inclusion]

mutual

/-- A token writes the same. -/
theorem Nested.Alike.write (alike : nested.Alike delimiters other) (scene : Scene)
    (token : Token) :
    Token.write host nested (scene.withDelimiters delimiters) token
      = Token.write host nested (scene.withDelimiters other) token := by
  -- The cases are the kinds of tokens; only inclusions ask for the delimiters.
  match token with
  | .text _ _ | .comment _ _ | .switch _ _ => rfl
  | .variable escaped path span => rfl
  | .inclusion name span line => exact alike.writeInclusion host scene (.text name) _
  | .block inverted name span children closeStart =>
    have here := alike.writeAll scene children
    have pushed (value : Value) := alike.writeAll (scene.push value) children
    have subject : ((scene.withDelimiters delimiters).subject host name : Render σ Value)
        = (scene.withDelimiters other).subject host name := rfl
    rw [Token.write, Token.write, subject]
    congr 1
    funext value
    -- The children are written in this scene, or over an item of the value.
    cases inverted with
    | true => simp only [if_true, here]
    | false =>
      exact Scene.writeSection_congr value (fun inner => Token.writeAll host nested inner children)
        here pushed (funext fun f => alike.writeApplied host scene f _)

/-- A row of tokens writes the same. -/
theorem Nested.Alike.writeAll (alike : nested.Alike delimiters other) (scene : Scene)
    (tokens : List Token) :
    Token.writeAll host nested (scene.withDelimiters delimiters) tokens
      = Token.writeAll host nested (scene.withDelimiters other) tokens := by
  -- The first token writes the same, and then the others do.
  match tokens with
  | [] => rfl
  | token :: tokens =>
    rw [Token.writeAll, Token.writeAll, alike.write scene token, alike.writeAll scene tokens]

end

/-- An included template writes the same. -/
theorem Nested.Alike.includeTemplate (alike : nested.Alike delimiters other)
    (same : delimiters.SamePair other) (scene : Scene) :
    Scene.includeTemplate host nested (scene.withDelimiters delimiters)
      = Scene.includeTemplate host nested (scene.withDelimiters other) := by
  -- Both pairs are settled to the same one, so that the request is the same.
  funext template
  have requested := Template.request_congr (σ := σ) same template
  have within (source : Option Text) := alike.writeAll host { scene with source }
  change Template.request template delimiters >>= _ = Template.request template other >>= _
  rw [requested]
  congr 1
  funext tokens
  -- The tokens are written with the source, if there is one.
  split
  · rename_i source
    exact congrArg (Render.inTemplate source) (within (some source) tokens)
  · exact within none tokens

/-- A template is rendered alike. -/
theorem Nested.Alike.renderTemplate (alike : nested.Alike delimiters other)
    (same : delimiters.SamePair other) (scene : Scene) :
    Scene.renderTemplate host nested (scene.withDelimiters delimiters)
      = Scene.renderTemplate host nested (scene.withDelimiters other) := by
  funext template
  cases template with
  | text source =>
    have requested := Template.request_congr (σ := σ) same (.text source)
    have within := alike.writeAll host { scene with source := some source }
    change Template.request _ delimiters >>= _ = Template.request _ other >>= _
    rw [requested]
    congr 1
    funext tokens
    -- The output is that of the same tokens.
    have rendered : Scene.render host nested
        { scene.withDelimiters delimiters with source := some source } tokens
          = Scene.render host nested
            { scene.withDelimiters other with source := some source } tokens :=
      congrArg (· >>= fun chunks => Render.ofExcept (Chunk.output chunks)) (within tokens)
    -- What comes behind the output does not ask for the delimiters.
    rw [rendered]
  | _ => rfl

end

/-- Templates may be nested to any depth. -/
theorem Nested.upTo_alike (host : Host σ) {delimiters other : Value}
    (same : delimiters.SamePair other) (depth : Nat) :
    (Nested.upTo host depth).Alike delimiters other := by
  -- Templates that may be nested one time less write the same already.
  induction depth with
  | zero => exact ⟨fun _ => rfl, fun _ => rfl⟩
  | succ depth alike =>
    exact ⟨fun scene => alike.includeTemplate host same scene,
      fun scene => alike.renderTemplate host same scene⟩

/-- Configurations with the same pair of delimiters and the same escape render the same. -/
theorem Engine.renderUpTo_of_samePair (depth : Nat) (host : Host σ) (template : Value) (view : View)
    (partials : Value) {delimiters other : Value} (same : delimiters.SamePair other)
    (escape : Value) :
    renderUpTo depth host template view partials (.config ⟨delimiters, escape⟩)
      = renderUpTo depth host template view partials (.config ⟨other, escape⟩) := by
  -- Only a text is rendered, in whatever scope the view gives.
  cases template with
  | text source =>
    have alike := Nested.upTo_alike host same depth
    -- Configurations are ready, and the escape is the same one.
    rw [renderUpTo, renderUpTo, Config.ofSetting, Config.ofSetting, pure_bind, pure_bind]
    congr 1
    funext scope
    exact congrFun (alike.render ⟨scope, partials, ⟨delimiters, escape⟩, none⟩) _
  | _ => rfl

end Mustache
