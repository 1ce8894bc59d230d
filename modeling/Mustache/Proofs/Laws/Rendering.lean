import Mustache.Proofs.Laws

/-!
Laws about what may come of rendering.

A law that allows each thing that a rendering does on its own allows the whole rendering, in which
templates may be nested to any depth.
-/

namespace Mustache

variable {σ : Type}

/-- A law that allows a step to fail because the source of a template is missing. -/
def Law.Blind (law : Law σ) : Prop := ∀ s, law s (some .missingSource) s

/-- With the source of a template at hand no law has to allow that it is missing. -/
theorem Scene.blind_of_source {law : Law σ} {scene : Scene} {source : Text}
    (known : scene.source = some source) : scene.source = none → law.Blind := by
  intro missing
  -- The source cannot be missing.
  rw [known] at missing
  cases missing

/--
A law that allows templates to be rendered whose sources are at hand.

Notes in the accounts go together with the events that they are about.
-/
class Law.Rendering (law : Law σ) : Prop extends law.Dividing where
  /-- A template may be asked for. -/
  requested (template delimiters : Value) :
    Obeys law (Template.request template delimiters : Render σ (List Token))
  /-- What is no text may be included, which has no tokens whose source could be missing. -/
  vacant {template : Value} (noText : ∀ t, template ≠ .text t) (delimiters : Value)
    {write : List Token → Render σ (List Chunk)} (nothing : Obeys law (write []))
    (blindly : law.Blind → ∀ tokens, Obeys law (write tokens)) :
    Obeys law (Template.request template delimiters >>= write)
  /-- The tokens of a template may begin to be written. -/
  entered (s : Session σ) (template : Text) : law s none (s.reported (.entered template))
  /-- The tokens of a template may be left again, also on failure. -/
  left {s t : Session σ} {failure : Option Failure} :
    law s failure t → law s failure (t.reported .left)
  /-- There may be no template of a name. -/
  missing (s : Session σ) (name : Value) : law s none
    ((s.reported (.noted (.missingTemplate name))).accounted (·.addMissing name.display))
  /-- A section function may be called. -/
  applied (s : Session σ) (f : Function) (source : Text) :
    law s none ((s.accounted (·.addSectionCall)).reported (.applied f source))
  /-- A section function may refuse the arguments of a call. -/
  rejected (s : Session σ) (f : Function) :
    law s none ((s.accounted (·.addSectionCall)).reported (.refused f 2))
  /-- A section function may ask for a template to be rendered. -/
  asked (s : Session σ) (template : Value) : law s none (s.reported (.asked template))
  /-- It is told what the template wrote. -/
  rendered (s : Session σ) (output : Text) : law s none
    ((s.accounted (·.addRender output.length)).reported (.answered (.ok output)))
  /-- It is told how the template failed, and goes on if it catches that. -/
  caught {s t : Session σ} {failure : Failure} :
    law s (some failure) t → law s none (t.reported (.answered (.error failure)))
  /-- It is told how the template failed, and fails with it. -/
  passed {s t : Session σ} {failure : Failure} :
    law s (some failure) t → law s (some failure) (t.reported (.answered (.error failure)))

section Notes

/-- A note in an account does not change what the steps of rendering go by. -/
theorem Session.stage_accounted (s : Session σ) (note : Profile → Profile) :
    (s.accounted note).stage = s.stage := by
  -- Accounts are not on the stage.
  unfold accounted
  split <;> rfl

/-- It does not matter for a note in an account what the steps of rendering go by. -/
theorem Session.onStage_accounted (s : Session σ) (note : Profile → Profile) (stage : Stage σ) :
    (s.accounted note).onStage stage = (s.onStage stage).accounted note := by
  -- Only the accounts of the session matter, of which there are some or none.
  obtain ⟨host, taken, edits, memo, cache, profiles, journal, contexts, count⟩ := s
  cases profiles <;> rfl

end Notes

/-- What a law allows to come of a rendering, with a note in the account if it gave an output. -/
def Law.Ends (law : Law σ) (s t : Session σ) : Except Failure Text → Prop
  | .ok output => ∃ u, law s none u ∧ t = u.accounted (·.addRender output.length)
  | .error failure => law s (some failure) t

/-- A rendering of which nothing comes but what a law allows, apart from the note that ends it. -/
def Concludes (law : Law σ) (step : Render σ Text) : Prop :=
  ∀ s result t, step s = some (result, t) → law.Ends s t result

/-- Nested renderings of which nothing comes but what a law allows. -/
structure Nested.Lawful (law : Law σ) (nested : Nested σ) : Prop where
  /-- The tokens of an included template are written. -/
  inclusion (scene : Scene) (template : Value) : Obeys law (nested.inclusion scene template)
  /-- A template is rendered on its own. -/
  render (scene : Scene) (template : Value) : Concludes law (nested.render scene template)

/-- No output fails to be a text because the source of a template is missing. -/
theorem Chunk.output_ne (chunks : List Chunk) : output chunks ≠ .error .missingSource := by
  -- Chunks that make no text fail for their type.
  unfold output
  split <;> nofun

namespace Obeys

variable {law : Law σ} {write : Value → Render σ (List Chunk)}

section Loops

variable [law.Consulting]

/-- Items may be written in turn. -/
theorem writeEach (writes : ∀ item, Obeys law (write item)) (items : List Value) :
    Obeys law (Mustache.writeEach items write) := by
  -- The induction is on the items.
  induction items with
  | nil => exact .pure _
  | cons item rest ih => exact .bind (writes item) fun _ => .bind ih fun _ => .pure _

/-- The items of a shared list may be written in turn. -/
theorem writeShared (writes : ∀ item, Obeys law (write item)) (id place : Nat)
    (items : List Value) : Obeys law (Mustache.writeShared id write place items) := by
  -- The induction is on the items, each of which may have been written to by then.
  induction items generalizing place with
  | nil => exact .pure _
  | cons item rest ih =>
    exact .read fun _ => .bind (writes _) fun _ => .bind (ih (place + 1)) fun _ => .pure _

/-- The items that a stream hands out may be written in turn. -/
theorem writeStream (writes : ∀ item, Obeys law (write item)) (id : Nat) (items : List Value)
    (most : Nat) : Obeys law (Mustache.writeStream id items write most) := by
  -- A stream that has run dry ends the loop.
  induction most with
  | zero => exact .pure _
  | succ most ih =>
    refine .bind (next? id items) fun found => ?_
    cases found with
    | none => exact .pure _
    | some item => exact .bind (writes item) fun _ => .bind ih fun _ => .pure _

/-- Integers in equal steps may be written in turn. -/
theorem writeSteps (writes : ∀ item, Obeys law (write item)) (start step : Int) (count : Nat) :
    Obeys law (Mustache.writeSteps start step write count) := by
  -- The induction is on how many integers are left.
  induction count generalizing start with
  | zero => exact .pure _
  | succ count ih => exact .bind (writes _) fun _ => .bind (ih (start + step)) fun _ => .pure _

/-- A section may be written: what is inside, here or over any item, or what its function gives. -/
theorem writeSection {scene : Scene} {inside : Scene → Render σ (List Chunk)}
    {applied : Function → Render σ (List Chunk)} (value : Value) (here : Obeys law (inside scene))
    (pushed : ∀ item, Obeys law (inside (scene.push item))) (applies : ∀ f, Obeys law (applied f)) :
    Obeys law (scene.writeSection value inside applied) := by
  -- What is inside obeys the law in the scope of any item.
  have writes (item : Value) : Obeys law (Render.inNewScope (inside (scene.push item))) :=
    inNewScope (pushed item)
  -- The kind of the value decides how often the section is written, and in which scope.
  unfold Scene.writeSection
  split
  · exact .pure _
  · split
    · exact writeStream writes _ _ _
    · exact writeSteps writes _ _ _
    · exact applies _
    · exact here
    · exact writeShared writes _ 0 _
    · split
      · exact writeEach writes _
      · exact writes _

end Loops

variable [law.Rendering] {host : Host σ} {nested : Nested σ}

/-- The tokens of a template may be written. -/
theorem inTemplate {α : Type} (template : Text) {action : Render σ α} (inside : Obeys law action) :
    Obeys law (Render.inTemplate template action) := by
  intro s result t ran
  rw [Render.inTemplate_apply, Option.map_eq_some_iff] at ran
  obtain ⟨⟨outcome, after⟩, acted, ⟨⟩⟩ := ran
  -- Entering and leaving are told around what is written.
  have entered := (Law.Rendering.entered s template : law s none _)
  exact Law.Rendering.left (Law.Sequential.next entered (inside _ _ _ acted))

section Functions

/-- A section function may do its work, rendering templates as it asks for them. -/
theorem run {render : Value → Render σ Text} (renders : ∀ template, Concludes law (render template))
    (script : Script σ) : Obeys law (script.run render) := by
  -- The induction is on how the function goes on; each rendering is allowed as assumed.
  induction script with
  | value given state =>
    rintro s _ _ ⟨⟩
    exact Law.Calling.hosting s state
  | raise message state =>
    rintro s _ _ ⟨⟩
    exact Law.Sequential.next (Law.Calling.hosting s state) (Law.Sequential.failed _ nofun)
  | render template state catches resume ih =>
    intro s result t ran
    rw [Script.run_render] at ran
    obtain ⟨⟨outcome, after⟩, rendered, goesOn⟩ := Option.bind_eq_some_iff.mp ran
    have asked : law s none ((s.onStage (s.stage.hosting state)).reported (.asked template)) :=
      Law.Sequential.next (Law.Calling.hosting s state) (Law.Rendering.asked _ template)
    have made := renders template _ _ _ rendered
    unfold Script.goOn at goesOn
    -- The function is told what came of the template, and goes on or not.
    cases outcome with
    | ok output =>
      obtain ⟨middle, allowed, rfl⟩ := made
      have told := Law.Sequential.next allowed (Law.Rendering.rendered middle output)
      exact Law.Sequential.next asked (Law.Sequential.next told (ih _ _ _ _ _ goesOn))
    | error failure =>
      dsimp only at goesOn
      split at goesOn
      · -- A failure that is caught is told to the function as well.
        have told := Law.Sequential.next asked (Law.Rendering.caught made)
        exact Law.Sequential.next told (ih _ _ _ _ _ goesOn)
      · cases goesOn
        exact Law.Sequential.next asked (Law.Rendering.passed made)

/-- A section function may be called, which is counted whether or not it takes the arguments. -/
theorem apply {render : Value → Render σ Text}
    (renders : ∀ template, Concludes law (render template)) (f : Function) (source : Text) :
    Obeys law (Render.account (·.addSectionCall) >>= fun _ => f.apply host render source) := by
  intro s result t ran
  change f.apply host render source (s.accounted (·.addSectionCall)) = some (result, t) at ran
  -- A refused call is counted and reported, and then it fails.
  have rejected (f : Function) :
      law s (some .wrongArity) ((s.accounted (·.addSectionCall)).reported (.refused f 2)) :=
    Law.Sequential.next (Law.Rendering.rejected s f) (Law.Sequential.failed _ nofun)
  cases f with
  | html =>
    cases ran
    exact rejected .html
  | hosted id className label arity =>
    change ((Function.hosted id className label arity).checkCount 2 >>= _) _ = _ at ran
    unfold Function.checkCount at ran
    -- The function takes two arguments or refuses them.
    split at ran
    · exact Law.Sequential.next (Law.Rendering.applied s _ source) (run renders _ _ result t ran)
    · cases ran
      exact rejected _

/-- What a section function gives may be written, if the source is there that it is called with. -/
theorem writeApplied (nests : nested.Lawful law) {scene : Scene}
    (sourced : scene.source = none → law.Blind) (f : Function)
    {part : Text → Except Failure Text} (parts : ∀ source, ∃ inside, part source = .ok inside) :
    Obeys law (scene.writeApplied host nested f part) := by
  unfold Scene.writeApplied
  split
  · rename_i none
    rintro s _ _ ⟨⟩
    -- Without a source the call is not even made.
    exact sourced none s
  · rename_i source _
    obtain ⟨inside, same⟩ := parts source
    -- The function is called with its part of the source, and what it gives is written as a value.
    rw [same, Render.ok_bind, ← bind_assoc]
    refine .bind (apply (fun template => nests.render scene template) f inside) fun given => ?_
    split
    · exact .pure _
    · exact .bind (settled _) fun value => .bind (.ofExcept value.shown_ne) fun _ => .pure _

/-- What the template of a name writes may be written, or that there is none may be noted. -/
theorem writeInclusion (nests : nested.Lawful law) (scene : Scene) (name : Value)
    {indent : Value → Render σ Value} (indents : ∀ template, Obeys law (indent template)) :
    Obeys law (scene.writeInclusion host nested name indent) := by
  refine .bind (template host scene name) fun found => ?_
  -- A template that is missing is noted, and any other one is indented and written.
  split
  · rintro s _ _ ⟨⟩
    exact Law.Rendering.missing s name
  · exact .bind (indents _) fun template => nests.inclusion scene template

end Functions

section Trees

mutual

/-- A token may be written. -/
theorem writeToken (nests : nested.Lawful law) {scene : Scene}
    (sourced : scene.source = none → law.Blind) (token : Token) :
    Obeys law (Token.write host nested scene token) := by
  -- The cases are the kinds of tokens; texts, comments and switches do nothing to the session.
  match token with
  | .text value _ => exact .pure _
  | .variable escaped path _ => exact writeVariable host scene escaped path
  | .comment _ _ => exact .pure _
  | .switch _ _ => exact .pure _
  | .inclusion name _ line =>
    exact writeInclusion nests scene _ fun template => indented host line template
  | .block inverted name span children closeStart =>
    refine .bind (subject host scene name) fun value => ?_
    split
    · split
      · exact writeTokens nests sourced children
      · exact .pure _
    · -- The children belong to the same template, over whatever value.
      have pushed (item : Value) :
          Obeys law (Token.writeAll host nested (scene.push item) children) := by
        have sourced' : (scene.push item).source = none → law.Blind := sourced
        exact writeTokens nests sourced' children
      exact writeSection value (writeTokens nests sourced children) pushed
        fun f => writeApplied nests sourced f fun _ => ⟨_, rfl⟩

/-- A row of tokens may be written. -/
theorem writeTokens (nests : nested.Lawful law) {scene : Scene}
    (sourced : scene.source = none → law.Blind) (tokens : List Token) :
    Obeys law (Token.writeAll host nested scene tokens) := by
  -- The source at hand is the same for every token.
  match tokens with
  | [] => exact .pure _
  | token :: tokens =>
    exact .bind (writeToken nests sourced token) fun _ =>
      .bind (writeTokens nests sourced tokens) fun _ => .pure _

end

end Trees

/-- An included template may be written. -/
theorem includeTemplate (nests : nested.Lawful law) (scene : Scene) (template : Value) :
    Obeys law (scene.includeTemplate host nested template) := by
  cases template with
  -- A text is the source of what is written inside.
  | text source =>
    exact .bind (Law.Rendering.requested _ _) fun tokens =>
      inTemplate _ (writeTokens nests (Scene.blind_of_source rfl) tokens)
  | _ =>
    -- Without tokens nothing is written, and no source is needed.
    refine Law.Rendering.vacant ?_ _ (.pure []) fun blind tokens =>
      writeTokens nests (fun _ => blind) tokens
    rintro t ⟨⟩

/-- The output of tokens may be made. -/
theorem renderTokens (nests : nested.Lawful law) {scene : Scene}
    (sourced : scene.source = none → law.Blind) (tokens : List Token) :
    Obeys law (scene.render host nested tokens) :=
  -- What the chunks come to needs no source.
  .bind (writeTokens nests sourced tokens) fun _ => .ofExcept (Chunk.output_ne _)

end Obeys

namespace Concludes

variable {law : Law σ}

/-- To have no outcome is not to render anything. -/
theorem tooDeep : Concludes law (Render.tooDeep : Render σ Text) := by
  -- There is no run.
  intro s result t ran
  cases ran

/-- An output is rendered when that is noted. -/
theorem noted {step : Render σ Text} (obeys : Obeys law step) :
    Concludes law (step >>= fun output =>
      Render.account (·.addRender output.length) >>= fun _ => pure output) := by
  intro s result t ran
  rw [Render.bind_apply] at ran
  obtain ⟨⟨outcome, middle⟩, stepped, ended⟩ := Option.bind_eq_some_iff.mp ran
  have allowed := obeys s outcome middle stepped
  -- Nothing is noted of a failure.
  cases outcome with
  | error failure =>
    cases ended
    exact allowed
  | ok output =>
    -- The output is there, and only the note comes behind it.
    cases ended
    exact ⟨middle, allowed, rfl⟩

section Sequential

variable [law.Sequential]

/-- To fail is not to render anything. -/
theorem throw {failure : Failure} (other : failure ≠ .missingSource) :
    Concludes law (throw failure : Render σ Text) := by
  -- The only run fails at once.
  rintro s _ _ ⟨⟩
  exact Law.Sequential.failed s other

/-- Something else may come before a rendering. -/
theorem bind {α : Type} {step : Render σ α} {next : α → Render σ Text} (first : Obeys law step)
    (second : ∀ value, Concludes law (next value)) : Concludes law (step >>= next) := by
  intro s result t ran
  rw [Render.bind_apply] at ran
  obtain ⟨⟨outcome, middle⟩, stepped, ended⟩ := Option.bind_eq_some_iff.mp ran
  -- A failure of the first step leaves no rendering behind it.
  have allowed := first s outcome middle stepped
  cases outcome with
  | error failure =>
    cases ended
    exact allowed
  | ok value =>
    have made := second value middle result t ended
    -- The second step ends with a failure of its own, or with an output that is noted.
    cases result with
    | error failure => exact Law.Sequential.next allowed made
    | ok output =>
      obtain ⟨u, inside, same⟩ := made
      exact ⟨u, Law.Sequential.next allowed inside, same⟩

end Sequential

/-- A rendering may begin in another session, and end in another one. -/
theorem between {action : Render σ Text} (concludes : Concludes law action)
    {s begun t : Session σ} {result : Except Failure Text} {ended : Session σ → Session σ}
    (allowed : ∀ failure u, law begun failure u → law s failure (ended u))
    (noted : ∀ u note, ended (u.accounted note) = (ended u).accounted note)
    (ran : (action begun).map (fun o => (o.1, ended o.2)) = some (result, t)) :
    law.Ends s t result := by
  obtain ⟨⟨outcome, after⟩, acted, ⟨⟩⟩ := Option.map_eq_some_iff.mp ran
  -- The note in the account stands at the end in either session.
  have made := concludes _ _ _ acted
  cases outcome with
  | error failure => exact allowed _ _ made
  | ok output =>
    obtain ⟨u, inside, rfl⟩ := made
    exact ⟨ended u, allowed _ _ inside, noted u _⟩

/-- A rendering may take place in the scope of a view. -/
theorem within [law.Consulting] {view : View} {action : Scope → Render σ Text}
    (inside : ∀ scope, Concludes law (action scope)) : Concludes law (view.within action) := by
  -- The account is kept apart from what a scope is left with.
  have noted (change : Stage σ → Stage σ) (u : Session σ) (note : Profile → Profile) :
      (u.accounted note).onStage (change (u.accounted note).stage)
        = (u.onStage (change u.stage)).accounted note := by
    rw [Session.stage_accounted, Session.onStage_accounted]
  intro s result t ran
  cases view with
  | value root =>
    -- A view that is a value is entered with nothing remembered.
    rw [View.within, Render.inNewScope_apply] at ran
    have allowed (failure : Option Failure) (u : Session σ) :
        law (s.onStage (s.stage.knowing [])) failure u →
          law s failure (u.onStage (u.stage.knowing s.memo)) := Law.Consulting.inScope
    exact between (inside _) allowed (noted (·.knowing s.memo)) ran
  | context id =>
    -- A context is entered with what it remembers, and it is left with what it came to.
    rw [View.within, Render.inContext_apply] at ran
    have allowed (failure : Option Failure) (u : Session σ) :
        law (s.onStage (s.stage.knowing (s.contexts id).memo)) failure u →
          law s failure (u.onStage (u.stage.leaving id (s.contexts id) s.memo)) :=
      Law.Consulting.inContext id
    exact between (inside _) allowed (noted (·.leaving id (s.contexts id) s.memo)) ran

variable [law.Rendering] {host : Host σ} {nested : Nested σ}

/-- A template is rendered on its own, which is noted. -/
theorem renderTemplate (nests : nested.Lawful law) (scene : Scene) (template : Value) :
    Concludes law (scene.renderTemplate host nested template) := by
  -- Only a text is rendered, after its tokens have been asked for.
  unfold Scene.renderTemplate
  split
  · refine .bind (Law.Rendering.requested _ _) fun tokens => ?_
    exact .noted (.inTemplate _ (.renderTokens nests (Scene.blind_of_source rfl) tokens))
  · exact .throw nofun

end Concludes

/-- Templates may be nested to any depth. -/
theorem Nested.upTo_lawful {law : Law σ} [law.Rendering] (host : Host σ) (depth : Nat) :
    (Nested.upTo host depth).Lawful law := by
  -- Templates that may be nested one time less obey the law already.
  induction depth with
  | zero =>
    refine ⟨fun _ _ => ?_, fun _ _ => .tooDeep⟩
    intro s result t ran
    cases ran
  | succ depth nests => exact ⟨.includeTemplate nests, .renderTemplate nests⟩

/-- A rendering of a template obeys the law, apart from the note that ends it. -/
theorem Engine.concludes_renderUpTo {law : Law σ} [law.Rendering] (depth : Nat) (host : Host σ)
    (template : Value) (view : View) (partials : Value) (setting : Setting) :
    Concludes law (renderUpTo depth host template view partials setting) := by
  -- The setting is read first, and then all goes on in the scope of the view.
  unfold renderUpTo
  split
  · exact .bind (.ofSetting setting) fun _ => .within fun _ =>
      (Nested.upTo_lawful host depth).render _ _
  · exact .throw nofun

end Mustache
