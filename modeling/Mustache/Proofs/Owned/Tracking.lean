import Mustache.Proofs.Owned

/-!
Rendering gives every section function the text of its own section.

What a template writes is compared with what it writes when its sections have their own texts with
them, token by token and through all templates that are nested in it.
-/

namespace Mustache

variable {σ : Type}

namespace Template

/-- To parse a template anew gives what parsing it gives. -/
theorem requestAnew_gives (template delimiters : Value) :
    Gives (requestAnew template delimiters : Render σ (List Token))
      fun tokens => ∃ pair, template.parsed pair = .ok tokens := by
  -- The delimiters are settled and accepted first, and the account is kept.
  refine .bind fun settled => .bind fun pair => .bind fun _ => ?_
  intro s t tokens gives
  refine ⟨pair, ?_⟩
  -- What is parsed anew needs no session.
  cases parsed : template.parsed pair with
  | error failure =>
    rw [parsed] at gives
    cases gives
  | ok found =>
    rw [parsed] at gives
    cases gives
    rfl

/-- To parse a template anew gives what a request in a sound session gives. -/
theorem requestAnew_tracks (template delimiters : Value) :
    Tracks (Session.Twin : Session σ → Session σ → Prop) (requestAnew template delimiters)
      (request template delimiters) := by
  rintro s _ ⟨rfl, sound⟩
  -- Delimiters that are refused are refused by both.
  rw [requestAnew, Render.bind_apply]
  change Agree _ ((Render.ofExcept (delimitersOf (delimiters.settled s.edits)) >>= _) s) _
  cases accepted : delimitersOf (delimiters.settled s.edits) with
  | error failure =>
    rw [request_of_refused accepted]
    exact .both ⟨rfl, sound⟩
  | ok pair =>
    rw [Render.ok_bind, Render.bind_apply]
    cases ran : request template delimiters s with
    | none => exact .tooDeep
    | some outcome =>
      obtain ⟨result, after⟩ := outcome
      obtain ⟨sound', parses⟩ := request_sound sound accepted ran
      -- The tokens that a request gives are those that parsing gives.
      cases result with
      | error failure => exact .both ⟨rfl, sound'⟩
      | ok tokens =>
        dsimp only [Option.bind_some]
        rw [parses tokens rfl]
        exact .both ⟨rfl, sound'⟩

end Template

/-- Nested renderings that do without the source that others are given, and do the same. -/
structure Nested.Tracks (nested nested' : Nested σ) : Prop where
  /-- Included templates write the same, whatever the source of the one that includes them. -/
  inclusion (scene : Scene) (source : Option Text) (template : Value) :
    Mustache.Tracks Session.Twin (nested.inclusion scene template)
      (nested'.inclusion { scene with source } template)
  /-- Templates are rendered alike, whatever the source of the one that asks for them. -/
  render (scene : Scene) (source : Option Text) (template : Value) :
    Mustache.Tracks Session.Twin (nested.render scene template)
      (nested'.render { scene with source } template)

namespace Tracks

variable {host : Host σ} {nested nested' : Nested σ}

/-- A section function gets the part of the source that its section has with it. -/
theorem writeOwn (nests : nested.Tracks nested') (scene : Scene) (source : Text) (f : Function)
    (start stop : Int) :
    Tracks Session.Twin (scene.writeOwn host nested f (Text.slice source start stop))
      ({ scene with source := some source }.writeApplied host nested' f fun source =>
        .ok (Text.slice source start stop)) := by
  have stable : Stable (Session.Twin : Session σ → Session σ → Prop) := Session.Twin.stable
  have counted : Profile.Neutral (·.addSectionCall) := fun _ => ⟨rfl, rfl⟩
  refine bind (Keeps.account stable counted) fun _ => ?_
  rw [Render.ok_bind]
  -- To call the function is to hand it the part of the source.
  rw [← Function.apply_eq_handed]
  refine bind (apply stable host (nests.render scene _) f _) fun given => ?_
  -- What the function gives is written in the same way.
  cases given with
  | null => exact Keeps.pure _
  | _ =>
    exact bind (Keeps.settled stable _) fun value =>
      bind (Keeps.ofExcept _) fun shown => Keeps.pure _

mutual

/-- A token writes the same where its sections have their own texts with them. -/
theorem writeOwnedToken (nests : nested.Tracks nested') (scene : Scene) (source : Text)
    (token : Token) :
    Tracks Session.Twin (Owned.write host nested scene (token.owned source))
      (Token.write host nested' { scene with source := some source } token) := by
  have stable : Stable (Session.Twin : Session σ → Session σ → Prop) := Session.Twin.stable
  -- Only sections over functions make use of their own text.
  match token with
  | .text value span => exact Keeps.pure _
  | .variable escaped path span => exact Keeps.writeVariable stable host scene escaped path
  | .comment body span => exact Keeps.pure _
  | .switch pair span => exact Keeps.pure _
  | .inclusion name span line =>
    have templates := Session.Twin.templates host
    have same : { scene with source := some source }.partials = scene.partials := rfl
    exact writeInclusion stable same (scene.partials.holds_true host) _
      (fun _ => Keeps.indented templates line) (fun _ => Keeps.indented_gives templates line)
      fun template _ => nests.inclusion scene _ template
  | .block inverted name span children closeStart =>
    refine bind (Keeps.subject stable host scene name) fun value => ?_
    split
    · split
      · exact writeOwnedTokens nests scene source children
      · exact Keeps.pure _
    · -- The children are written in the same template, over whatever value.
      exact writeSection stable value (writeOwnedTokens nests scene source children)
        (fun item => writeOwnedTokens nests (scene.push item) source children)
        fun f => writeOwn nests scene source f span.stop closeStart

/-- A row of tokens writes the same where its sections have their own texts with them. -/
theorem writeOwnedTokens (nests : nested.Tracks nested') (scene : Scene) (source : Text)
    (tokens : List Token) :
    Tracks Session.Twin (Owned.writeAll host nested scene (Token.ownedAll source tokens))
      (Token.writeAll host nested' { scene with source := some source } tokens) := by
  -- The source at hand stays the same from token to token.
  match tokens with
  | [] => exact Keeps.pure _
  | token :: tokens =>
    exact bind (writeOwnedToken nests scene source token) fun first =>
      bind (writeOwnedTokens nests scene source tokens) fun others => Keeps.pure _

end

/-- A template is rendered alike where its sections have their own texts with them. -/
theorem renderOwned (nests : nested.Tracks nested') (scene : Scene) (outer : Option Text)
    (template : Value) :
    Tracks Session.Twin (scene.renderOwned host nested template)
      ({ scene with source := outer }.renderTemplate host nested' template) := by
  have stable : Stable (Session.Twin : Session σ → Session σ → Prop) := Session.Twin.stable
  -- Only a text is rendered, which is asked for anew on the one side.
  cases template with
  | text source =>
    refine bind (Template.requestAnew_tracks _ _) fun tokens => ?_
    refine bind (inTemplate stable source ?_) fun output => ?_
    · exact bind (writeOwnedTokens nests scene source tokens) fun _ => Keeps.ofExcept _
    · -- The output is counted in the account of either session.
      have counted : Profile.Neutral (·.addRender output.length) := fun _ => ⟨rfl, rfl⟩
      exact bind (Keeps.account stable counted) fun _ => Keeps.pure _
  | _ => exact Keeps.throw _

/-- An included template writes the same where its sections have their own texts with them. -/
theorem includeOwned (nests : nested.Tracks nested') (scene : Scene) (outer : Option Text)
    (template : Value) :
    Tracks Session.Twin (scene.includeOwned host nested template)
      ({ scene with source := outer }.includeTemplate host nested' template) := by
  have stable : Stable (Session.Twin : Session σ → Session σ → Prop) := Session.Twin.stable
  -- The template is parsed anew, which gives what the request gave.
  refine bind_of_gives (Template.requestAnew_tracks _ _) (Template.requestAnew_gives _ _) ?_
  rintro tokens ⟨pair, parsed⟩
  cases template with
  | text source => exact inTemplate stable source (writeOwnedTokens nests scene source tokens)
  | _ =>
    -- What is no text has no tokens.
    cases parsed
    exact Keeps.pure _

end Tracks

/-- Templates may be nested to any depth. -/
theorem Nested.ownedUpTo_tracks (host : Host σ) (depth : Nat) :
    (Nested.ownedUpTo host depth).Tracks (Nested.upTo host depth) := by
  -- Templates that may be nested one time less do the same already.
  induction depth with
  | zero => exact ⟨fun _ _ _ => Keeps.tooDeep, fun _ _ _ => Keeps.tooDeep⟩
  | succ depth nests =>
    exact ⟨fun scene source template => Tracks.includeOwned nests scene source template,
      fun scene source template => Tracks.renderOwned nests scene source template⟩

/-- A rendering in a sound session does the same where sections have their own texts with them. -/
theorem Engine.renderOwnedUpTo_tracks (depth : Nat) (host : Host σ) (template : Value) (view : View)
    (partials : Value) (setting : Setting) :
    Tracks Session.Twin (renderOwnedUpTo depth host template view partials setting)
      (renderUpTo depth host template view partials setting) := by
  have stable : Stable (Session.Twin : Session σ → Session σ → Prop) := Session.Twin.stable
  -- The setting is read alike, and then the scope of the view is the same.
  cases template with
  | text source =>
    refine Tracks.bind (Keeps.ofSetting stable setting) fun config => ?_
    exact Tracks.within stable view fun scope =>
      (Nested.ownedUpTo_tracks host depth).render ⟨scope, partials, config, none⟩ none _
  | _ => exact Keeps.throw _

end Mustache
