import Mustache.Proofs.Laws.Sources
import Mustache.Proofs.Turns

/-!
Renderings of tokens whose source is not known.

They fail for want of the source exactly if they reach a section over a function among the tokens
themselves. Templates that are included or rendered in between have their own sources.
-/

namespace Mustache

variable {σ : Type}

/-- A step that fails in a session for a reason. -/
def Fails {α : Type} (failure : Failure) (step : Render σ α) (s : Session σ) : Prop :=
  ∃ t, step s = some (.error failure, t)

section Steps

variable {α β : Type} {failure : Failure} {s : Session σ}

/-- To give a value is not to fail. -/
theorem not_fails_pure (value : α) : ¬ Fails failure (pure value : Render σ α) s := by
  -- The only run gives the value.
  rintro ⟨t, ⟨⟩⟩

/-- A result that needs no session fails only as it does. -/
theorem not_fails_ofExcept {result : Except Failure α} (other : result ≠ .error failure) :
    ¬ Fails failure (Render.ofExcept result : Render σ α) s := by
  rintro ⟨t, ran⟩
  -- The result is all that the step gives.
  cases result with
  | ok value => cases ran
  | error reason =>
    cases ran
    exact other rfl

/-- Two steps fail if the first one fails, or if the second one does after the first one. -/
theorem fails_bind_iff {step : Render σ α} {next : α → Render σ β} :
    Fails failure (step >>= next) s ↔ Fails failure step s
      ∨ ∃ value t, step s = some (.ok value, t) ∧ Fails failure (next value) t := by
  constructor
  · rintro ⟨t, ran⟩
    rw [Render.bind_apply] at ran
    obtain ⟨⟨outcome, middle⟩, stepped, ended⟩ := Option.bind_eq_some_iff.mp ran
    -- What the first step gives decides whether there is a second one.
    cases outcome with
    | error reason =>
      cases ended
      exact .inl ⟨_, stepped⟩
    | ok value => exact .inr ⟨value, middle, stepped, t, ended⟩
  · -- The first step fails with both, or the second one begins where the first one has ended.
    rintro (⟨t, failed⟩ | ⟨value, middle, stepped, t, failed⟩)
    · refine ⟨t, ?_⟩
      rw [Render.bind_apply, failed]
      rfl
    · refine ⟨t, ?_⟩
      rw [Render.bind_apply, stepped]
      exact failed

/-- To do nothing but change what a step gives is to fail as the step does. -/
theorem fails_map_iff {step : Render σ α} {change : α → β} :
    Fails failure (step >>= fun value => pure (change value)) s ↔ Fails failure step s := by
  rw [fails_bind_iff]
  -- The change itself cannot fail.
  refine or_iff_left ?_
  rintro ⟨value, t, -, failed⟩
  exact not_fails_pure _ failed

/-- To change the session afterwards is to fail as before. -/
theorem fails_of_changed_iff {step action : Render σ α} {begun : Session σ}
    (change : Session σ → Session σ)
    (same : step s = (action begun).map fun o => (o.1, change o.2)) :
    Fails failure step s ↔ Fails failure action begun := by
  unfold Fails
  rw [same]
  -- The result is the same, and only the session behind it is another one.
  cases action begun with
  -- Without an outcome there is none to be changed.
  | none => exact ⟨nofun, nofun⟩
  | some outcome =>
    obtain ⟨result, after⟩ := outcome
    constructor
    · rintro ⟨t, ⟨⟩⟩
      exact ⟨after, rfl⟩
    · rintro ⟨t, ⟨⟩⟩
      exact ⟨change after, rfl⟩

/-- What is done in a scope of its own fails as it does where nothing is remembered yet. -/
theorem fails_inNewScope_iff {action : Render σ α} :
    Fails failure (Render.inNewScope action) s ↔ Fails failure action { s with memo := [] } :=
  -- What was remembered before comes back afterwards, which decides nothing.
  fails_of_changed_iff (fun t => t.onStage (t.stage.knowing s.memo))
    (Render.inNewScope_apply action s)

/-- What has a source wherever it needs one does not fail for want of it. -/
theorem Obeys.not_fails {step : Render σ α} (obeys : Obeys Law.sourced step) (sound : s.Sound) :
    ¬ Fails .missingSource step s := by
  -- By the law it would have failed for another reason.
  rintro ⟨t, failed⟩
  exact (obeys s _ t failed sound).2.1 rfl

end Steps

namespace View

/-- The scope of a view in a session. -/
def scopeIn (view : View) (s : Session σ) : Scope :=
  match view with
  | .value root => { view := root }
  | .context id => (s.contexts id).scope

/-- The session in which the scope of a view is at hand, with what is remembered there. -/
def enter (view : View) (s : Session σ) : Session σ :=
  match view with
  | .value _ => { s with memo := [] }
  | .context id => { s with memo := (s.contexts id).memo }

/-- The cache is as it was when the scope of a view is at hand. -/
theorem sound_enter (view : View) {s : Session σ} (sound : s.Sound) : (view.enter s).Sound := by
  -- Neither kind of view touches the cache.
  cases view <;> exact sound

/-- What is done in the scope of a view fails as it does there. -/
theorem fails_within_iff {α : Type} {failure : Failure} {view : View} {action : Scope → Render σ α}
    {s : Session σ} :
    Fails failure (view.within action) s
      ↔ Fails failure (action (view.scopeIn s)) (view.enter s) := by
  -- The scope is entered and left without a failure.
  cases view with
  | value root => exact fails_inNewScope_iff
  | context id =>
    exact fails_of_changed_iff (fun t => t.onStage (t.stage.leaving id (s.contexts id) s.memo))
      (Render.inContext_apply id action s)

end View

/-- A scene and a session in which what is inside a section comes to be written over a value. -/
inductive Scene.Enters (scene : Scene) (value : Value) (inside : Scene → Render σ (List Chunk))
    (s : Session σ) : Scene → Session σ → Prop
  /-- It is written in the same scene if the value is true. -/
  | here (truth : value = .bool true) : Enters scene value inside s scene s
  /-- It is written over the value if that is none of the others. -/
  | single (once : value.repeats = false) (noFunction : ∀ f, value ≠ .function f)
      (noBool : ∀ b, value ≠ .bool b) :
      Enters scene value inside s (scene.push value) { s with memo := [] }
  /-- It is written over an item of the value once it is written over those before it. -/
  | turn {place : Nat} {u begun : Session σ} {chunks : List Chunk} {item : Value}
      (repeats : value.repeats = true)
      (turned : value.Turned (fun item => Render.inNewScope (inside (scene.push item)))
        0 s chunks place u)
      (turn : value.turn? place u = some (item, begun)) :
      Enters scene value inside s (scene.push item) { begun with memo := [] }

namespace Scene

variable {scene inner : Scene} {value : Value} {inside : Scene → Render σ (List Chunk)}
  {s begun : Session σ}

/-- What is inside a section belongs to the template of the section. -/
theorem Enters.source (enters : scene.Enters value inside s inner begun) :
    inner.source = scene.source := by
  -- Only the scope changes on the way in.
  cases enters <;> rfl

/-- A turn leaves the cache as it is. -/
theorem cache_of_turn? {place : Nat} {item : Value}
    (turn : value.turn? place s = some (item, begun)) : begun.cache = s.cache := by
  -- A turn may take an item from a stream, which leaves the cache alone.
  unfold Value.turn? at turn
  split at turn
  · split at turn
    · obtain ⟨_, -, ⟨⟩⟩ := Option.map_eq_some_iff.mp turn
      rfl
    · cases turn
  · obtain ⟨_, -, ⟨⟩⟩ := Option.map_eq_some_iff.mp turn
    rfl

/-- Turns leave a sound session sound. -/
theorem sound_of_turned {write : Value → Render σ (List Chunk)}
    (keeps : ∀ item, Keeps Session.Twin (write item)) {place stop : Nat} {t : Session σ}
    {chunks : List Chunk} (turned : value.Turned write place s chunks stop t) (sound : s.Sound) :
    t.Sound := by
  -- The turns are gone through, each one with what is written in it.
  induction turned with
  | none => exact sound
  | next turn written _ ih =>
    have begun := sound.of_cache_eq (cache_of_turn? turn)
    exact ih ((keeps _).sound begun written)

/-- The cache is sound when what is inside a section comes to be written. -/
theorem Enters.sound (keeps : ∀ inner, Keeps Session.Twin (inside inner))
    (enters : scene.Enters value inside s inner begun) (sound : s.Sound) : begun.Sound := by
  -- What is inside is written here, once over the value, or over one item after others.
  cases enters with
  | here => exact sound
  | single => exact sound
  -- The items in front of the one at hand were written already.
  | turn _ turned turn =>
    have writes (item : Value) :
        Keeps Session.Twin (Render.inNewScope (inside (scene.push item))) :=
      Tracks.inNewScope Session.Twin.stable (keeps _)
    have kept := cache_of_turn? turn
    exact (sound_of_turned writes turned sound).of_cache_eq kept

/-- Turns fail if one of them does, once those before it have been written. -/
theorem fails_writeTurns_iff {write : Value → Render σ (List Chunk)} (repeats : value.repeats = true)
    (countable : value.isUncountable = false) {failure : Failure} :
    Fails failure (writeTurns write value 0 value.turnCount) s
      ↔ ∃ place chunks u item begun, value.Turned write 0 s chunks place u
        ∧ value.turn? place u = some (item, begun) ∧ Fails failure (write item) begun := by
  constructor
  · -- All turns were written, which is no failure, or one of them has failed.
    rintro ⟨t, ran⟩
    rcases writeTurns_cases ran with ⟨_, _, same, -⟩ |
      ⟨place, chunks, u, item, begun, _, same, turned, turn, failed⟩
    · cases same
    · cases same
      exact ⟨place, chunks, u, item, begun, turned, turn, t, failed⟩
  · rintro ⟨place, chunks, u, item, begun, turned, turn, t, failed⟩
    -- There are enough turns left for the one that fails.
    have inTime := Value.lt_turnCount_of_turn? repeats countable turn
    have enough : 0 + value.turnCount = place + (value.turnCount - place - 1 + 1) := by omega
    refine ⟨t, ?_⟩
    rw [writeTurns_of_turned turned enough, writeTurns_of_turn turn, Render.bind_apply, failed]
    rfl

/-- A section over any value but a function fails if what is inside fails where it is written. -/
theorem fails_writeSection_iff (countable : value.isUncountable = false)
    (truthy : value.isFalsy = false) (noFunction : ∀ f, value ≠ .function f)
    (applied : Function → Render σ (List Chunk)) {failure : Failure} :
    Fails failure (scene.writeSection value inside applied) s
      ↔ ∃ inner begun, scene.Enters value inside s inner begun
        ∧ Fails failure (inside inner) begun := by
  cases repeats : value.repeats with
  | true =>
    rw [writeSection_of_repeats scene repeats countable truthy,
      fails_writeTurns_iff repeats countable]
    constructor
    · -- Some turn fails, and it is entered when those before it were written.
      rintro ⟨_, _, _, _, _, turned, turn, fails⟩
      exact ⟨_, _, .turn repeats turned turn, fails_inNewScope_iff.mp fails⟩
    · rintro ⟨_, _, enters, fails⟩
      cases enters with
      | here truth =>
        subst truth
        cases repeats
      | single once =>
        rw [once] at repeats
        cases repeats
      | turn _ turned turn =>
        exact ⟨_, _, _, _, _, turned, turn, fails_inNewScope_iff.mpr fails⟩
  | false =>
    -- What is inside is written once, and only over other values than true in a scope of its own.
    by_cases truth : value = .bool true
    · subst truth
      constructor
      · exact fun fails => ⟨_, _, .here rfl, fails⟩
      · rintro ⟨_, _, enters, fails⟩
        cases enters with
        | here => exact fails
        | single _ _ noBool => exact absurd rfl (noBool true)
        | turn repeats => cases repeats
    · have noBool := Value.ne_bool_of_truthy truthy truth
      rw [writeSection_of_single scene repeats truthy noFunction noBool, fails_inNewScope_iff]
      constructor
      · exact fun fails => ⟨_, _, .single repeats noFunction noBool, fails⟩
      · rintro ⟨_, _, enters, fails⟩
        cases enters with
        | here same => exact absurd same truth
        | single => exact fails
        | turn repeats' =>
          rw [repeats'] at repeats
          cases repeats

end Scene

/--
A rendering of tokens that reaches a section over a function, before anything else fails.

The section is one of the tokens or stands inside of them, but not in another template.
-/
inductive Token.ReachesFunction (host : Host σ) (nested : Nested σ) :
    Scene → List Token → Session σ → Prop
  /-- The value of a section is a function, which is never falsy and has no items. -/
  | here {scene : Scene} {name : Text} {span : Span} {children rest : List Token} {close : Int}
      {f : Function} {s t : Session σ}
      (found : scene.scope.lookup host name s = some (.ok (.function f), t)) :
      ReachesFunction host nested scene (.block false name span children close :: rest) s
  /-- The first token is written, and such a section is reached after it. -/
  | later {scene : Scene} {token : Token} {rest : List Token} {chunks : List Chunk}
      {s t : Session σ}
      (written : Token.write host nested scene token s = some (.ok chunks, t))
      (reaches : ReachesFunction host nested scene rest t) :
      ReachesFunction host nested scene (token :: rest) s
  /-- An inverted section is written, and such a section is reached in it. -/
  | inverted {scene : Scene} {name : Text} {span : Span} {children rest : List Token} {close : Int}
      {value : Value} {s t : Session σ}
      (found : scene.subject host name s = some (.ok value, t))
      (falsy : value.isFalsy = true) (reaches : ReachesFunction host nested scene children t) :
      ReachesFunction host nested scene (.block true name span children close :: rest) s
  /-- A section is written over another value, and such a section is reached in it. -/
  | inside {scene inner : Scene} {name : Text} {span : Span} {children rest : List Token}
      {close : Int} {value : Value} {s t begun : Session σ}
      (found : scene.subject host name s = some (.ok value, t))
      (truthy : value.isFalsy = false) (noFunction : ∀ f, value ≠ .function f)
      (enters : scene.Enters value (fun inner => Token.writeAll host nested inner children) t inner
        begun)
      (reaches : ReachesFunction host nested inner children begun) :
      ReachesFunction host nested scene (.block false name span children close :: rest) s

namespace Token

variable {host : Host σ} {nested : Nested σ}

/-- A row of tokens fails if its first token fails, or if the others do after it is written. -/
theorem fails_writeAll_cons_iff {failure : Failure} {scene : Scene} {token : Token}
    {rest : List Token} {s : Session σ} :
    Fails failure (Token.writeAll host nested scene (token :: rest)) s
      ↔ Fails failure (Token.write host nested scene token) s
        ∨ ∃ chunks t, Token.write host nested scene token s = some (.ok chunks, t)
          ∧ Fails failure (Token.writeAll host nested scene rest) t := by
  -- To put both rows of chunks together never fails.
  rw [Token.writeAll, fails_bind_iff]
  simp only [fails_map_iff]

mutual

/-- A token without a source that fails for want of it reaches a section over a function. -/
theorem reachesFunction_of_write (nests : nested.Lawful Law.sourced)
    (keeping : nested.Keeping Session.Twin host fun _ => True) {scene : Scene}
    (sourceless : scene.source = none) {s : Session σ} (sound : s.Sound) (token : Token)
    (rest : List Token)
    (fails : Fails .missingSource (Token.write host nested scene token) s) :
    ReachesFunction host nested scene (token :: rest) s := by
  match token with
  | .text _ _ => exact absurd fails (not_fails_pure _)
  | .variable escaped path _ =>
    exact absurd fails ((Obeys.writeVariable host scene escaped path).not_fails sound)
  | .comment _ _ => exact absurd fails (not_fails_pure _)
  | .switch _ _ => exact absurd fails (not_fails_pure _)
  | .inclusion name _ line =>
    exact absurd fails ((Obeys.writeInclusion nests scene _ fun template =>
      .indented host line template).not_fails sound)
  | .block inverted name span children close =>
    have looks : Obeys Law.sourced (scene.subject host name) := .subject host scene name
    rw [Token.write, fails_bind_iff] at fails
    rcases fails with failed | ⟨value, t, found, fails⟩
    · exact absurd failed (looks.not_fails sound)
    · have sound := (looks s _ t found sound).1
      obtain ⟨looked, countable⟩ := Scene.subject_eq_ok_iff.mp found
      cases inverted with
      | true =>
        rw [if_pos rfl] at fails
        split at fails
        · exact .inverted found ‹_› (reachesFunction_of_writeAll nests keeping
            sourceless sound children fails)
        · exact absurd fails (not_fails_pure _)
      | false =>
        rw [if_neg Bool.false_ne_true] at fails
        -- A section over a function is reached, and any other one writes what is inside.
        by_cases function : ∃ f, value = .function f
        · obtain ⟨f, rfl⟩ := function
          exact .here looked
        · have noFunction (f : Function) : value ≠ .function f := fun same => function ⟨f, same⟩
          have truthy : value.isFalsy = false := by
            refine Bool.eq_false_iff.mpr fun falsy => ?_
            rw [Scene.writeSection_of_falsy scene falsy] at fails
            exact not_fails_pure _ fails
          obtain ⟨inner, begun, enters, fails⟩ :=
            (Scene.fails_writeSection_iff countable truthy noFunction _).mp fails
          -- The cache is still sound where the section writes what is inside.
          have keeps (inner : Scene) :
              Keeps Session.Twin (Token.writeAll host nested inner children) :=
            .writeTokens Session.Twin.stable (Session.Twin.templates host) keeping
              (inner.partials.holds_true host) children
          have reached := reachesFunction_of_writeAll nests keeping
            (enters.source.trans sourceless) (enters.sound keeps sound) children fails
          exact .inside found truthy noFunction enters reached

/-- A row of tokens without a source that fails for want of it reaches a section over a function. -/
theorem reachesFunction_of_writeAll (nests : nested.Lawful Law.sourced)
    (keeping : nested.Keeping Session.Twin host fun _ => True) {scene : Scene}
    (sourceless : scene.source = none) {s : Session σ} (sound : s.Sound) (tokens : List Token)
    (fails : Fails .missingSource (Token.writeAll host nested scene tokens) s) :
    ReachesFunction host nested scene tokens s := by
  -- The recursion is on the row; the first token fails, or one behind it does.
  match tokens with
  | [] => exact absurd fails (not_fails_pure _)
  | token :: rest =>
    rcases fails_writeAll_cons_iff.mp fails with failed | ⟨chunks, t, written, fails⟩
    · exact reachesFunction_of_write nests keeping sourceless sound token rest failed
    · -- What the first token does keeps the cache sound.
      have keeps : Keeps Session.Twin (Token.write host nested scene token) :=
        .writeToken Session.Twin.stable (Session.Twin.templates host) keeping
          (scene.partials.holds_true host) token
      have reached := reachesFunction_of_writeAll nests keeping sourceless
        (keeps.sound sound written) rest fails
      exact .later written reached

end

/-- Tokens without a source that reach a section over a function fail for want of the source. -/
theorem ReachesFunction.fails {scene : Scene} {tokens : List Token} {s : Session σ}
    (reaches : ReachesFunction host nested scene tokens s) (sourceless : scene.source = none) :
    Fails .missingSource (Token.writeAll host nested scene tokens) s := by
  -- On the way to the section nothing fails, and there the source is asked for.
  induction reaches with
  | @here _ _ _ _ _ _ f _ t looked =>
    -- A function has no items that would have to be counted.
    have found := Scene.subject_eq_ok_iff.mpr ⟨looked, rfl⟩
    refine fails_writeAll_cons_iff.mpr (.inl (fails_bind_iff.mpr (.inr ⟨_, t, found, t, ?_⟩)))
    rw [if_neg Bool.false_ne_true]
    change Scene.writeApplied host nested _ f _ t = _
    rw [Scene.writeApplied, sourceless]
    rfl
  | later written _ ih => exact fails_writeAll_cons_iff.mpr (.inr ⟨_, _, written, ih sourceless⟩)
  | inverted found falsy _ ih =>
    refine fails_writeAll_cons_iff.mpr (.inl (fails_bind_iff.mpr (.inr ⟨_, _, found, ?_⟩)))
    rw [if_pos rfl, if_pos falsy]
    exact ih sourceless
  | inside found truthy noFunction enters _ ih =>
    refine fails_writeAll_cons_iff.mpr (.inl (fails_bind_iff.mpr (.inr ⟨_, _, found, ?_⟩)))
    rw [if_neg Bool.false_ne_true]
    have countable := (Scene.subject_eq_ok_iff.mp found).2
    exact (Scene.fails_writeSection_iff countable truthy noFunction _).mpr
      ⟨_, _, enters, ih (enters.source.trans sourceless)⟩

end Token

/-- Tokens without a source fail for want of it exactly if they reach a section over a function. -/
theorem Scene.fails_render_iff (host : Host σ) (depth : Nat) {scene : Scene} {s : Session σ}
    (sourceless : scene.source = none) (sound : s.Sound) (tokens : List Token) :
    Fails .missingSource (scene.render host (Nested.upTo host depth) tokens) s
      ↔ Token.ReachesFunction host (Nested.upTo host depth) scene tokens s := by
  have keeping := Nested.upTo_keeping Session.Twin.stable (Session.Twin.templates host) depth
  -- What is written is a text or not, whether or not there is a source.
  have output : Fails .missingSource (scene.render host (Nested.upTo host depth) tokens) s
      ↔ Fails .missingSource (Token.writeAll host (Nested.upTo host depth) scene tokens) s := by
    rw [render, fails_bind_iff]
    refine or_iff_left ?_
    rintro ⟨chunks, t, -, failed⟩
    exact not_fails_ofExcept (Chunk.output_ne chunks) failed
  -- Both directions are those of the row of tokens.
  exact output.trans ⟨Token.reachesFunction_of_writeAll (Nested.upTo_lawful host depth) keeping
    sourceless sound tokens, fun reaches => reaches.fails sourceless⟩

/--
No rendering of a template fails for want of a source, and no section function is told of one.

Tokens that are given on their own do so only without their source, and then exactly if they reach a
section over a function among themselves before anything else fails.
-/
theorem Engine.missingSource_iff (host : Host σ) {operations : List Operation}
    {outcomes : List Operation.Outcome} {first s : Session σ}
    (fresh : ∀ cache, first.cache = some cache → cache.entries = [])
    (reached : Operation.performAll host operations first = some (outcomes, s)) (depth : Nat)
    (view : View) (partials : Value) (setting : Setting) :
    (∀ template result after,
        renderUpTo depth host template view partials setting s = some (result, after) →
        result ≠ .error .missingSource ∧ s.Untold after)
      ∧ (∀ tokens source result after,
        renderTokensUpTo depth host tokens view partials (some source) setting s
          = some (result, after) →
        result ≠ .error .missingSource ∧ s.Untold after)
      ∧ ∀ tokens,
        Fails .missingSource (renderTokensUpTo depth host tokens view partials none setting) s
          ↔ ∃ config t, Config.ofSetting setting s = some (.ok config, t)
            ∧ Token.ReachesFunction host (Nested.upTo host depth)
              ⟨view.scopeIn t, partials, config, none⟩ tokens (view.enter t) := by
  have sound : s.Sound := Operation.performAll_sound host
    (fun cache there => Cache.sound_of_entries_nil (fresh cache there)) reached
  have nests : (Nested.upTo host depth).Lawful Law.sourced := Nested.upTo_lawful host depth
  have reads : Obeys Law.sourced (Config.ofSetting setting : Render σ Config) := .ofSetting setting
  refine ⟨?_, ?_, fun tokens => ?_⟩
  · -- A template has a source all along, so that every failure in it is of another kind.
    intro template result after ran
    exact (concludes_renderUpTo depth host template view partials setting s _ _ ran).sourced sound
  · -- Tokens with a source are no different: no scene without one is ever made.
    intro tokens source result after ran
    have obeys : Obeys Law.sourced
        (renderTokensUpTo depth host tokens view partials (some source) setting) :=
      .bind reads fun config => .within fun scope =>
        .renderTokens nests (Scene.blind_of_source rfl) tokens
    obtain ⟨-, other, untold⟩ := obeys s result after ran sound
    exact ⟨fun same => other (congrArg Failure.of? same), untold⟩
  · -- The configuration is read first, and then the tokens are written in the scope of the view.
    have inside (config : Config) (t : Session σ) (sound : t.Sound) :
        Fails .missingSource (view.within fun scope =>
          Scene.render host (Nested.upTo host depth) ⟨scope, partials, config, none⟩ tokens) t
          ↔ Token.ReachesFunction host (Nested.upTo host depth)
            ⟨view.scopeIn t, partials, config, none⟩ tokens (view.enter t) :=
      View.fails_within_iff.trans
        (Scene.fails_render_iff host depth rfl (view.sound_enter sound) tokens)
    rw [renderTokensUpTo, fails_bind_iff]
    constructor
    · rintro (failed | ⟨config, t, ran, fails⟩)
      · exact absurd failed (reads.not_fails sound)
      · exact ⟨config, t, ran, (inside config t (reads s _ t ran sound).1).mp fails⟩
    · rintro ⟨config, t, ran, reaches⟩
      exact .inr ⟨config, t, ran, (inside config t (reads s _ t ran sound).1).mpr reaches⟩

/-- A function in a section over a list is called in the template, and fails among its tokens. -/
theorem Engine.missingSource_iff_inside :
    let host : Host Unit :=
      ⟨fun _ _ state => (.ok .null, state), fun _ inside state => .value (.text inside) state⟩
    let view : View := .value (.mapping [(.text ['a'], .list [.int 1, .int 2]),
      (.text ['f'], .function (.hosted 0 [] [] (.exactly 2)))])
    let template : Value := .text
      (.ofString "\x7b\x7b#a\x7d\x7d\x7b\x7b#f\x7d\x7dx\x7b\x7b/f\x7d\x7d\x7b\x7b/a\x7d\x7d")
    let tokens : List Token :=
      [.block false ['a'] ⟨0, 6⟩ [.block false ['f'] ⟨6, 12⟩ [.text ['x'] ⟨12, 13⟩] 13] 19]
    let operations : List Operation := [.render template view .null (.value .null)]
    ∃ outcomes s, Operation.performAll host operations { host := () } = some (outcomes, s)
      ∧ ((renderUpTo 3 host template view .null (.value .null) s).map (·.1.toOption)
        = some (some ['x', 'x']))
      ∧ ∃ config t, Config.ofSetting (.value .null) s = some (.ok config, t)
        ∧ Token.ReachesFunction host (Nested.upTo host 3) ⟨view.scopeIn t, .null, config, none⟩
          tokens (view.enter t) := by
  intro host view template tokens operations
  let renders := Operation.performAll host operations { host := () }
  -- As a template it is rendered, and as tokens it fails.
  have runs : (renders.bind fun run =>
      (renderUpTo 3 host template view .null (.value .null) run.2).map (·.1.toOption))
        = some (some ['x', 'x']) := by
    decide +kernel
  have fails : (renders.bind fun run =>
      (renderTokensUpTo 3 host tokens view .null none (.value .null) run.2).map
        fun outcome => Failure.of? outcome.1) = some (some .missingSource) := by
    decide +kernel
  have fresh (cache : Cache) (there : ({ host := () } : Session Unit).cache = some cache) :
      cache.entries = [] := by
    cases there
    rfl
  -- The session was reached by operations alone, so that the equivalence may be asked of it.
  obtain ⟨⟨outcomes, s⟩, reached, output⟩ := Option.bind_eq_some_iff.mp runs
  rw [reached, Option.bind_some] at fails
  obtain ⟨⟨result, after⟩, ran, failed⟩ := Option.map_eq_some_iff.mp fails
  cases result with
  | ok text => cases failed
  | error failure =>
    cases failed
    exact ⟨outcomes, s, reached, output,
      ((missingSource_iff host fresh reached 3 view .null _).2.2 tokens).mp ⟨after, ran⟩⟩

end Mustache
