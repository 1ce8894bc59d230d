import Mustache.Proofs.Course

/-!
Every rendering takes a course.

What each function of a rendering does is put together from what a course consists of.
-/

namespace Mustache

variable {σ : Type}

namespace Occasion

variable {o : Occasion σ} {all : List Token} {α β : Type}

/-- A step that takes a course, of which the chunks are what its value says is written. -/
def Unfolds (o : Occasion σ) (all : List Token) (step : Render σ α) (writes : α → List Chunk → Prop) :
    Prop :=
  ∀ s, o.base <:+ s.journal → ∀ result t, step s = some (result, t) →
    ∃ chunks, o.Course all s chunks t ∧ ∀ value, result = .ok value → writes value chunks

/-- A step that takes a course with the chunks that it gives. -/
abbrev Writes (o : Occasion σ) (all : List Token) (step : Render σ (List Chunk)) : Prop :=
  o.Unfolds all step fun given chunks => chunks = given

namespace Unfolds

/-- To consult the host or a value writes nothing. -/
theorem consults {step : Render σ α} (consults : Consults step) {writes : α → List Chunk → Prop}
    (nothing : ∀ value, writes value []) : o.Unfolds all step writes := by
  -- The course is that single step.
  intro s _ result t ran
  exact ⟨[], .consulted (consults s result t ran), fun value _ => nothing value⟩

/-- To give a value writes nothing. -/
theorem pure {value : α} {writes : α → List Chunk → Prop} (nothing : writes value []) :
    o.Unfolds all (Pure.pure value) writes := by
  rintro s _ _ _ ⟨⟩
  -- There is nothing in the output but what was there.
  refine ⟨[], .nothing, fun _ same => ?_⟩
  cases same
  exact nothing

/-- To fail writes nothing. -/
theorem throw (failure : Failure) {writes : α → List Chunk → Prop} :
    o.Unfolds all (throw failure : Render σ α) writes := by
  -- There is no value that anything could have been written for.
  rintro s _ _ _ ⟨⟩
  exact ⟨[], .nothing, fun _ same => nomatch same⟩

/-- One step after the other writes what both write. -/
theorem bind {step : Render σ α} {next : α → Render σ β} {writes : α → List Chunk → Prop}
    {writes' : β → List Chunk → Prop} (first : o.Unfolds all step writes)
    (second : ∀ value chunks, writes value chunks →
      o.Unfolds all (next value) fun given others => writes' given (chunks ++ others)) :
    o.Unfolds all (step >>= next) writes' := by
  intro s based result t ran
  rw [Render.bind_apply] at ran
  obtain ⟨⟨outcome, middle⟩, stepped, ended⟩ := Option.bind_eq_some_iff.mp ran
  obtain ⟨chunks, course, written⟩ := first s based outcome middle stepped
  -- A failure ends both, and a value is handed on to the second step.
  cases outcome with
  | error failure =>
    cases ended
    exact ⟨chunks, course, fun _ same => nomatch same⟩
  | ok value =>
    -- The second step begins where the first has ended, with the chunks that were written.
    obtain ⟨others, course', written'⟩ := second value chunks (written value rfl) middle
      (based.trans course.suffix) result t ended
    exact ⟨chunks ++ others, .append course course', written'⟩

/-- After a step that only consults comes what writes all. -/
theorem bind_consults {step : Render σ α} {next : α → Render σ β}
    {writes : β → List Chunk → Prop} (first : Consults step)
    (second : ∀ value, o.Unfolds all (next value) writes) :
    o.Unfolds all (step >>= next) writes := by
  -- Nothing stands in front of what the second step writes.
  refine bind (consults first (fun _ => rfl) : o.Unfolds all step fun _ chunks => chunks = []) ?_
  rintro value _ rfl
  exact second value

/-- Two steps that write one after the other write what both write. -/
theorem both {first second : Render σ (List Chunk)} (writes : o.Writes all first)
    (writes' : o.Writes all second) :
    o.Writes all
      (first >>= fun chunks => second >>= fun others => Pure.pure (chunks ++ others)) := by
  -- Behind what the first step writes comes what the second one does.
  refine bind writes ?_
  rintro chunks _ rfl
  refine bind writes' ?_
  rintro others _ rfl
  exact Unfolds.pure (by rw [List.append_nil])

/-- To look at a session writes nothing. -/
theorem read {next : Session σ → Render σ β} {writes : β → List Chunk → Prop}
    (second : ∀ s, o.Unfolds all (next s) writes) : o.Unfolds all (get >>= next) writes := by
  -- The next step begins in the session that was looked at.
  intro s based result t ran
  exact second s s based result t ran

/-- The course goes through a scope of its own. -/
theorem inNewScope {action : Render σ α} {writes : α → List Chunk → Prop}
    (inside : o.Unfolds all action writes) : o.Unfolds all (Render.inNewScope action) writes := by
  intro s based result t ran
  rw [Render.inNewScope_apply, Option.map_eq_some_iff] at ran
  obtain ⟨⟨outcome, after⟩, acted, ⟨⟩⟩ := ran
  obtain ⟨chunks, course, written⟩ :=
    inside (s.onStage (s.stage.knowing [])) based outcome after acted
  have begun : s.Consulted (s.onStage (s.stage.knowing [])) := .onStage s rfl
  have ended : after.Consulted (after.onStage (after.stage.knowing s.memo)) := .onStage after rfl
  -- Only the memory of names is replaced, before and afterwards.
  have whole := (Course.append (.consulted begun) course).append (.consulted ended)
  rw [List.nil_append, List.append_nil] at whole
  exact ⟨chunks, whole, written⟩

/-- The course goes through the scope of a context. -/
theorem inContext {id : Nat} {action : Scope → Render σ α} {writes : α → List Chunk → Prop}
    (inside : ∀ scope, o.Unfolds all (action scope) writes) :
    o.Unfolds all (Render.inContext id action) writes := by
  intro s based result t ran
  rw [Render.inContext_apply, Option.map_eq_some_iff] at ran
  obtain ⟨⟨outcome, after⟩, acted, ⟨⟩⟩ := ran
  obtain ⟨chunks, course, written⟩ := inside (s.contexts id).scope
    (s.onStage (s.stage.knowing (s.contexts id).memo)) based outcome after acted
  -- To enter and to leave the context only moves what is remembered.
  have begun : s.Consulted (s.onStage (s.stage.knowing (s.contexts id).memo)) := .onStage s rfl
  have ended : after.Consulted
      (after.onStage (after.stage.leaving id (s.contexts id) s.memo)) := .onStage after rfl
  -- The context remembers what was looked up.
  have whole := (Course.append (.consulted begun) course).append (.consulted ended)
  rw [List.nil_append, List.append_nil] at whole
  exact ⟨chunks, whole, written⟩

end Unfolds

/-- A scene of an occasion, whatever names stand for in it. -/
structure Sets (o : Occasion σ) (scene : Scene) : Prop where
  /-- The templates are those of the occasion. -/
  partials : scene.partials = o.partials
  /-- The configuration is that of the occasion. -/
  config : scene.config = o.config

/-- Nested renderings that take a course from where they ask for their template. -/
structure Nests (o : Occasion σ) (nested : Nested σ) : Prop where
  /-- The tokens of an included template are written. -/
  inclusion {scene : Scene} (sets : o.Sets scene) {s t u : Session σ} {template : Value}
      {result : Except Failure (List Chunk)} (based : o.base <:+ s.journal)
      (given : o.Given s template t) (ran : nested.inclusion scene template t = some (result, u))
      (all : List Token) :
    ∃ chunks, o.Course all s chunks u ∧ ∀ written, result = .ok written → chunks = written
  /-- A template is rendered on its own, for which it has to be a text. -/
  render {scene : Scene} (sets : o.Sets scene) {s t : Session σ} {template : Value}
      {result : Except Failure Text} (based : o.base <:+ s.journal)
      (given : ∀ source, template = .text source → o.Given s template s)
      (ran : nested.render scene template s = some (result, t))
      (all : List Token) :
    ∃ chunks, o.Course all s chunks t ∧ ∀ output, result = .ok output →
      Chunk.joinAll chunks = some output

section Scenes

variable {scene : Scene} {nested : Nested σ}

/-- What a name writes is escaped, or the name may be written as it is. -/
theorem unfolds_writeVariable (sets : o.Sets scene) {escaped : Bool}
    (allowed : escaped = false → Token.anyBare all = true) (path : Text) :
    o.Writes all (scene.writeVariable o.host escaped path) := by
  refine .bind_consults (Leads.interpolated o.host scene path) fun found => ?_
  split
  · exact .pure rfl
  · refine .bind_consults (Leads.settled _) fun value => ?_
    cases escaped with
    | true =>
      intro s _ result t ran
      rw [if_pos rfl, Render.bind_apply] at ran
      obtain ⟨⟨outcome, middle⟩, stepped, ended⟩ := Option.bind_eq_some_iff.mp ran
      -- A failure of the escape writes nothing.
      cases outcome with
      | error failure =>
        cases ended
        exact ⟨[], .consulted (Leads.escape o.host scene value _ _ _ stepped),
          fun _ same => nomatch same⟩
      | ok chunk =>
        cases ended
        refine ⟨[chunk], .escaped sets.config stepped, fun _ same => ?_⟩
        cases same
        rfl
    -- What is not escaped is shown as it is, which the token at hand allows.
    | false =>
      rw [if_neg Bool.false_ne_true]
      refine .bind_consults (.ofExcept _) fun shown => ?_
      rintro s _ _ _ ⟨⟩
      refine ⟨_, .unescaped (allowed rfl) shown, fun _ same => ?_⟩
      cases same
      rfl

/-- A section function may ask for any template to be rendered, one after the other. -/
theorem unfolds_run (sets : o.Sets scene) (nests : o.Nests nested) (script : Script σ) :
    o.Unfolds all (script.run (nested.render scene)) fun _ chunks => chunks = [] := by
  have hosting : ∀ (s : Session σ) (state : σ), s.Consulted (s.onStage (s.stage.hosting state)) :=
    fun s _ => .onStage s rfl
  -- The induction is on how the function goes on.
  induction script with
  | value result state =>
    rintro s _ _ _ ⟨⟩
    exact ⟨[], .consulted (hosting s state), fun _ _ => rfl⟩
  | raise message state =>
    rintro s _ _ _ ⟨⟩
    exact ⟨[], .consulted (hosting s state), fun _ same => nomatch same⟩
  | render template state catches resume ih =>
    intro s based result t ran
    rw [Script.run_render] at ran
    obtain ⟨⟨outcome, after⟩, rendered, goesOn⟩ := Option.bind_eq_some_iff.mp ran
    obtain ⟨events, journal⟩ := based
    have told : ((s.onStage (s.stage.hosting state)).reported (.asked template)).journal
        = (.asked template :: events) ++ o.base := by
      rw [List.cons_append, journal]
      rfl
    -- What comes of the template is told to the function, which writes nothing of it.
    obtain ⟨passed, inside, -⟩ := nests.render sets ⟨_, told.symm⟩ (fun source same => by
      subst same
      exact .asked told List.mem_cons_self) rendered all
    have asked : o.Course all s [] (after.reported (.answered outcome)) :=
      .append (.consulted (hosting s state)) (.asks inside)
    have based' := (List.IsSuffix.trans ⟨events, journal⟩ asked.suffix)
    have continues : ∀ next : Script σ, o.Unfolds all (next.run (nested.render scene))
          (fun _ chunks => chunks = []) →
        next.run (nested.render scene) (after.reported (.answered outcome)) = some (result, t) →
        ∃ chunks, o.Course all s chunks t ∧ ∀ value, result = .ok value → chunks = [] := by
      intro next unfolds ran
      obtain ⟨chunks, course, written⟩ := unfolds _ based' result t ran
      exact ⟨chunks, .append asked course, written⟩
    unfold Script.goOn at goesOn
    cases outcome with
    | ok output => exact continues _ (ih _ _) goesOn
    -- A function that does not catch the failure fails with it.
    | error failure =>
      dsimp only at goesOn
      split at goesOn
      · exact continues _ (ih _ _) goesOn
      · cases goesOn
        exact ⟨[], asked, fun _ same => nomatch same⟩

/-- A section function is not called with a wrong number of arguments, or does its work. -/
theorem apply_cases {host : Host σ} {render : Value → Render σ Text} {f : Function} {source : Text}
    {s t : Session σ} {result : Except Failure Value}
    (ran : f.apply host render source s = some (result, t)) :
    (s.Consulted t ∧ ∃ failure, result = .error failure)
      ∨ ∃ script : Script σ,
        script.run render (s.reported (.applied f source)) = some (result, t) := by
  cases f with
  -- The function of the library takes one argument, and so refuses two.
  | html =>
    have consulted := Consults.refuse (σ := σ) (α := Value) .html 2 s result t ran
    cases ran
    exact .inl ⟨consulted, _, rfl⟩
  | hosted id className label arity =>
    change ((Function.hosted id className label arity).checkCount 2 >>= _) s = _ at ran
    unfold Function.checkCount at ran
    -- The function takes two arguments or refuses them.
    split at ran
    · exact .inr ⟨_, ran⟩
    · have refused := Consults.refuse (σ := σ) (α := Unit) (.hosted id className label arity) 2 s
      cases ran
      exact .inl ⟨refused _ _ rfl, _, rfl⟩

/-- What a section function gives is shown as it is when the function is done. -/
theorem consults_given (given : Value) :
    Consults (match given with
      | .null => pure []
      | result => do
        let value ← Render.settled result
        let shown ← Render.ofExcept value.shown
        pure [.value shown] : Render σ (List Chunk)) := by
  -- Nothing is shown of null.
  split
  · exact .pure _
  · exact .bind (Leads.settled _) fun _ => .bind (.ofExcept _) fun _ => .pure _

/-- What a section function gives is no text of a template. -/
theorem values_given {given : Value} {s t : Session σ} {chunks : List Chunk}
    (ran : (match given with
      | .null => pure []
      | result => do
        let value ← Render.settled result
        let shown ← Render.ofExcept value.shown
        pure [.value shown] : Render σ (List Chunk)) s = some (.ok chunks, t)) :
    ∀ chunk ∈ chunks, ∃ value, chunk = .value value := by
  -- Nothing is written for a null.
  split at ran
  · cases ran
    nofun
  · change (Render.ofExcept (given.settled s.edits).shown >>= _) s = _ at ran
    -- Either it can be shown, or nothing is written.
    cases shows : (given.settled s.edits).shown with
    | error failure =>
      rw [shows] at ran
      cases ran
    | ok shown =>
      rw [shows] at ran
      cases ran
      exact fun chunk member => ⟨shown, List.mem_singleton.mp member⟩

/-- What a section function gives is written when it is called. -/
theorem unfolds_writeApplied (sets : o.Sets scene) (nests : o.Nests nested) (f : Function)
    (part : Text → Except Failure Text) :
    o.Writes all (scene.writeApplied o.host nested f part) := by
  unfold Scene.writeApplied
  split
  · exact .throw _
  · rename_i source _
    have counts :
        o.Unfolds all (Render.account (·.addSectionCall)) fun _ chunks => chunks = [] := by
      rintro s _ _ _ ⟨⟩
      exact ⟨[], .counted, fun _ _ => rfl⟩
    -- The call is counted, and then the function is told its part of the source.
    refine .bind counts ?_
    rintro _ _ rfl
    refine .bind_consults (.ofExcept _) fun inside => ?_
    intro s based result t ran
    rw [Render.bind_apply] at ran
    obtain ⟨⟨outcome, middle⟩, applied, ended⟩ := Option.bind_eq_some_iff.mp ran
    rcases apply_cases applied with ⟨consulted, failure, rfl⟩ | ⟨script, runs⟩
    · cases ended
      exact ⟨[], .consulted consulted, fun _ same => nomatch same⟩
    -- While the function works it may ask for templates, whose output is given back to it.
    have works : o.Unfolds all (script.run (nested.render scene)) fun _ chunks => chunks = [] :=
      unfolds_run sets nests script
    obtain ⟨passed, course, -⟩ := works (s.reported (.applied f inside))
      (based.trans (List.suffix_cons ..)) outcome middle runs
    cases outcome with
    | error failure =>
      cases ended
      exact ⟨[], .applied course nofun, fun _ same => nomatch same⟩
    | ok given =>
      -- What it has given is written last, as the text of a value.
      have whole := course.append (.consulted (consults_given given middle result t ended))
      cases result with
      | error failure => exact ⟨[], .applied whole nofun, fun _ same => nomatch same⟩
      | ok chunks =>
        refine ⟨chunks, .applied whole (values_given ended), fun _ same => ?_⟩
        cases same
        rfl

/-- What the template of a name writes is that of the template that is brought. -/
theorem unfolds_writeInclusion (sets : o.Sets scene) (nests : o.Nests nested) (name : Text)
    (line : LinePrefix) :
    o.Writes all
      (scene.writeInclusion o.host nested (.text name) (Scene.indented o.host line)) := by
  intro s based result t ran
  rw [Scene.writeInclusion, Render.bind_apply] at ran
  obtain ⟨⟨outcome, middle⟩, looked, found⟩ := Option.bind_eq_some_iff.mp ran
  -- To look for the template only consults the host and the partials.
  have consulted : s.Consulted middle :=
    Leads.template o.host scene (.text name) s outcome middle looked
  cases outcome with
  | error failure =>
    cases found
    exact ⟨[], .consulted consulted, fun _ same => nomatch same⟩
  | ok template =>
    by_cases present : template = .null
    · subst present
      cases found
      -- That there is no template is told and put into the account.
      refine ⟨[], .append (.consulted consulted) (.missing (.text name)), fun _ same => ?_⟩
      cases same
      rfl
    · -- A template that is there is indented, and then it is included.
      have brings : (Scene.indented o.host line template >>= nested.inclusion scene) middle
          = some (result, t) := by
        dsimp only at found
        split at found
        · contradiction
        · exact found
      rw [Render.bind_apply] at brings
      obtain ⟨⟨outcome, after⟩, indented, ended⟩ := Option.bind_eq_some_iff.mp brings
      cases outcome with
      | error failure =>
        cases ended
        exact ⟨[], .undivided sets.partials looked present indented, fun _ same => nomatch same⟩
      | ok brought =>
        exact nests.inclusion sets based (.brought sets.partials looked present indented) ended all

end Scenes

section Sections

variable {write : Value → Render σ (List Chunk)}

/-- Items are written in turn. -/
theorem unfolds_writeEach (writes : ∀ item, o.Writes all (write item)) (items : List Value) :
    o.Writes all (writeEach items write) := by
  -- The induction is on the items, each written in front of the others.
  induction items with
  | nil => exact .pure rfl
  | cons item rest ih => exact .both (writes item) ih

/-- The items of a shared list are written in turn. -/
theorem unfolds_writeShared (writes : ∀ item, o.Writes all (write item)) (id place : Nat)
    (items : List Value) : o.Writes all (writeShared id write place items) := by
  induction items generalizing place with
  | nil => exact .pure rfl
  | cons item rest ih =>
    -- The item is taken as it is at the time.
    exact .read fun s => .both (writes _) (ih (place + 1))

/-- The items that a stream hands out are written in turn. -/
theorem unfolds_writeStream (writes : ∀ item, o.Writes all (write item)) (id : Nat)
    (items : List Value) (most : Nat) : o.Writes all (writeStream id items write most) := by
  induction most with
  | zero => exact .pure rfl
  -- The stream is asked once more, and may have run dry.
  | succ most ih =>
    refine .bind_consults (Leads.next? id items) fun found => ?_
    cases found with
    | none => exact .pure rfl
    | some item => exact .both (writes item) ih

/-- Integers in equal steps are written in turn. -/
theorem unfolds_writeSteps (writes : ∀ item, o.Writes all (write item)) (start step : Int)
    (count : Nat) : o.Writes all (writeSteps start step write count) := by
  -- The induction is on how many integers are left.
  induction count generalizing start with
  | zero => exact .pure rfl
  | succ count ih => exact .both (writes _) (ih (start + step))

/-- A section writes what is inside, here or over any item, or what its function gives. -/
theorem unfolds_writeSection {scene : Scene} {inside : Scene → Render σ (List Chunk)}
    {applied : Function → Render σ (List Chunk)} (value : Value)
    (here : o.Writes all (inside scene))
    (pushed : ∀ item, o.Writes all (inside (scene.push item)))
    (applies : ∀ f, o.Writes all (applied f)) :
    o.Writes all (scene.writeSection value inside applied) := by
  -- What is inside is written over an item as it would be in the scope of that item.
  have writes (item : Value) : o.Writes all (Render.inNewScope (inside (scene.push item))) :=
    .inNewScope (pushed item)
  -- The kind of the value decides how often the section is written, and in which scope.
  unfold Scene.writeSection
  split
  · exact .pure rfl
  · split
    · exact unfolds_writeStream writes _ _ _
    · exact unfolds_writeSteps writes _ _ _
    · exact applies _
    · exact here
    · exact unfolds_writeShared writes _ 0 _
    · split
      · exact unfolds_writeEach writes _
      · exact writes _

end Sections

section Trees

variable {nested : Nested σ}

mutual

/--
A token takes a course, in which names are written as they are only if they may.

The texts that it writes are among those of the template at hand.
-/
theorem unfolds_write (nests : o.Nests nested) {scene : Scene} (sets : o.Sets scene) (token : Token)
    (allowed : token.isBare = true → Token.anyBare all = true)
    (own : token.texts ⊆ Token.textsAll all) :
    o.Writes all (Token.write o.host nested scene token) := by
  -- The tokens inside a section are among those at hand, as the section is.
  match token with
  | .text value _ =>
    rintro s _ _ _ ⟨⟩
    refine ⟨[.literal value], .literal (own (List.mem_singleton_self value)), fun _ same => ?_⟩
    cases same
    rfl
  | .variable escaped path _ =>
    refine unfolds_writeVariable sets (fun none => allowed ?_) path
    rw [none]
    rfl
  | .comment _ _ => exact .pure rfl
  | .switch _ _ => exact .pure rfl
  | .inclusion name _ line => exact unfolds_writeInclusion sets nests name line
  | .block inverted name span children closeStart =>
    refine .bind_consults (Leads.subject o.host scene name) fun value => ?_
    split
    · split
      · exact unfolds_writeAll nests sets children allowed own
      · exact .pure rfl
    · -- The children are written on the same occasion, over whatever value.
      have pushed (item : Value) : o.Sets (scene.push item) := ⟨sets.partials, sets.config⟩
      exact unfolds_writeSection value (unfolds_writeAll nests sets children allowed own)
        (fun item => unfolds_writeAll nests (pushed item) children allowed own)
        fun f => unfolds_writeApplied sets nests f _

/-- A row of tokens takes such a course. -/
theorem unfolds_writeAll (nests : o.Nests nested) {scene : Scene} (sets : o.Sets scene)
    (tokens : List Token) (allowed : Token.anyBare tokens = true → Token.anyBare all = true)
    (own : Token.textsAll tokens ⊆ Token.textsAll all) :
    o.Writes all (Token.writeAll o.host nested scene tokens) := by
  -- The recursion is on the row of tokens.
  match tokens with
  | [] => exact .pure rfl
  | token :: tokens =>
    -- What the row may write each of its tokens may.
    rw [Token.anyBare, Bool.or_eq_true] at allowed
    rw [Token.textsAll, List.append_subset] at own
    exact .both (unfolds_write nests sets token (fun here => allowed (.inl here)) own.1)
      (unfolds_writeAll nests sets tokens (fun behind => allowed (.inr behind)) own.2)

end

variable {scene : Scene} {s t u : Session σ} {template : Value}

/-- An included template takes a course from where it is asked for. -/
theorem course_includeTemplate (nests : o.Nests nested) (sets : o.Sets scene)
    {result : Except Failure (List Chunk)} (based : o.base <:+ s.journal)
    (given : o.Given s template t)
    (ran : scene.includeTemplate o.host nested template t = some (result, u)) (all : List Token) :
    ∃ chunks, o.Course all s chunks u ∧ ∀ written, result = .ok written → chunks = written := by
  rw [Scene.includeTemplate, Render.bind_apply] at ran
  -- The template is asked for, and refused or entered.
  obtain ⟨⟨outcome, middle⟩, requested, ended⟩ := Option.bind_eq_some_iff.mp ran
  rw [sets.config] at requested
  have based' : o.base <:+ middle.journal :=
    (based.trans given.suffix).trans (Template.request_suffix requested)
  cases outcome with
  | error failure =>
    cases ended
    exact ⟨[], .refused given requested, fun _ same => nomatch same⟩
  | ok tokens =>
    -- Its tokens are those at hand from now on.
    have sets' (source : Option Text) : o.Sets { scene with source } := ⟨sets.partials, sets.config⟩
    have writes (source : Option Text) : o.Writes tokens
        (Token.writeAll o.host nested { scene with source } tokens) :=
      unfolds_writeAll nests (sets' source) tokens id (List.Subset.refl _)
    by_cases text : ∃ source, template = .text source
    · obtain ⟨source, rfl⟩ := text
      dsimp only at ended
      rw [Render.inTemplate_apply, Option.map_eq_some_iff] at ended
      obtain ⟨⟨outcome, after⟩, wrote, ⟨⟩⟩ := ended
      obtain ⟨chunks, inside, written⟩ := writes (some source) (middle.reported (.entered source))
        (based'.trans (List.suffix_cons ..)) outcome after wrote
      exact ⟨chunks, .entered given requested inside, written⟩
    · -- What is no text is written without being entered.
      have other : ∀ source, template ≠ .text source := fun source same => text ⟨source, same⟩
      have ended' : Token.writeAll o.host nested { scene with source := none } tokens middle
          = some (result, u) := by
        dsimp only at ended
        split at ended
        · exact absurd rfl (other _)
        · exact ended
      obtain ⟨chunks, inside, written⟩ := writes none middle based' result u ended'
      exact ⟨chunks, .vacant given other requested inside, written⟩

end Trees

end Occasion

/-- What comes of rendering a text, given what comes of writing it. -/
def Scene.outcome : Except Failure (List Chunk) × Session σ → Except Failure Text × Session σ
  | (.error failure, s) => (.error failure, s)
  | (.ok chunks, s) =>
    match Chunk.output chunks with
    | .ok output => (.ok output, s.accounted (·.addRender output.length))
    | .error failure => (.error failure, s)

/-- To render a text is to write it as if it were included, and to put together what is written. -/
theorem Scene.renderTemplate_text (host : Host σ) (nested : Nested σ) (scene : Scene)
    (source : Text) (s : Session σ) :
    scene.renderTemplate host nested (.text source) s
      = (scene.includeTemplate host nested (.text source) s).map outcome := by
  rw [renderTemplate, includeTemplate, Render.bind_apply, Render.bind_apply]
  -- Both ask for the tokens first, and go on in the same session.
  cases Template.request (.text source) scene.config.delimiters s with
  | none => rfl
  | some requested =>
    obtain ⟨given, middle⟩ := requested
    cases given with
    | error failure => rfl
    | ok tokens =>
      dsimp only [Option.bind_some]
      rw [Render.bind_apply, Render.inTemplate_apply, Render.inTemplate_apply, render,
        Render.bind_apply]
      -- The template is left again before what was written is put together.
      cases Token.writeAll host nested { scene with source := some source } tokens
          (middle.reported (.entered source)) with
      | none => rfl
      | some wrote =>
        obtain ⟨written, after⟩ := wrote
        cases written with
        | error failure => rfl
        | ok chunks =>
          simp only [Option.bind_some, Option.map_some, outcome]
          cases Chunk.output chunks <;> rfl

namespace Occasion

variable {o : Occasion σ} {nested : Nested σ} {scene : Scene} {s t : Session σ}

/-- A template that is rendered takes a course whose chunks make up its output. -/
theorem course_renderTemplate (nests : o.Nests nested) (sets : o.Sets scene) {template : Value}
    {result : Except Failure Text} (based : o.base <:+ s.journal)
    (given : ∀ source, template = .text source → o.Given s template s)
    (ran : scene.renderTemplate o.host nested template s = some (result, t)) (all : List Token) :
    ∃ chunks, o.Course all s chunks t ∧ ∀ output, result = .ok output →
      Chunk.joinAll chunks = some output := by
  by_cases text : ∃ source, template = .text source
  · obtain ⟨source, rfl⟩ := text
    rw [Scene.renderTemplate_text, Option.map_eq_some_iff] at ran
    obtain ⟨⟨written, after⟩, wrote, same⟩ := ran
    obtain ⟨chunks, course, given⟩ :=
      course_includeTemplate nests sets based (given source rfl) wrote all
    cases written with
    | error failure =>
      cases same
      exact ⟨chunks, course, fun _ same => nomatch same⟩
    | ok written =>
      obtain rfl := given written rfl
      -- The chunks make up an output, or one of them is no text.
      cases joined : Chunk.joinAll chunks with
      | none =>
        simp only [Scene.outcome, Chunk.output, joined] at same
        cases same
        exact ⟨chunks, course, fun _ same => nomatch same⟩
      | some output =>
        simp only [Scene.outcome, Chunk.output, joined] at same
        cases same
        refine ⟨chunks, .rendered course joined, fun _ same => ?_⟩
        cases same
        exact joined
  · have refuses : Consults (scene.renderTemplate o.host nested template) := by
      unfold Scene.renderTemplate
      split
      · exact absurd ⟨_, rfl⟩ text
      · exact .throw _
    have failed : ∀ output, result ≠ .ok output := by
      rintro output rfl
      unfold Scene.renderTemplate at ran
      split at ran
      · exact text ⟨_, rfl⟩
      · cases ran
    -- What is no text is refused at once.
    exact ⟨[], .consulted (refuses s result t ran), fun output same => absurd same (failed output)⟩

/-- Templates may be nested to any depth. -/
theorem nests_upTo (o : Occasion σ) (depth : Nat) : o.Nests (Nested.upTo o.host depth) := by
  -- Templates that may be nested one time less take a course already.
  induction depth with
  | zero =>
    constructor
    · -- At depth zero no template is rendered at all, so that no run is left to speak of.
      intro _ _ _ _ _ _ _ _ _ ran
      cases ran
    · intro _ _ _ _ _ _ _ _ ran
      cases ran
  | succ depth nests =>
    constructor
    · intro _ sets _ _ _ _ _ based given ran all
      exact course_includeTemplate nests sets based given ran all
    · intro _ sets _ _ _ _ based given ran all
      exact course_renderTemplate nests sets based given ran all

end Occasion

namespace Engine

/-- The occasion of a rendering that begins in a session. -/
def occasion (host : Host σ) (source : Text) (partials : Value) (config : Config) (s : Session σ) :
    Occasion σ := ⟨host, partials, config, source, s.journal⟩

/-- What a template writes, before it is put together, nesting others in it up to a given depth. -/
def writtenUpTo (depth : Nat) (host : Host σ) (template : Value) (view : View) (partials : Value)
    (setting : Setting) : Render σ (List Chunk) := do
  let config ← Config.ofSetting setting
  view.within fun scope =>
    (Nested.upTo host depth).inclusion ⟨scope, partials, config, none⟩ template

variable {depth : Nat} {host : Host σ} {source : Text} {partials : Value} {view : View}
  {setting : Setting} {config : Config} {s configured t : Session σ}

/-- The course goes through the scope of a view. -/
theorem unfolds_within {o : Occasion σ} {all : List Token} {α : Type} {action : Scope → Render σ α}
    {writes : α → List Chunk → Prop} (inside : ∀ scope, o.Unfolds all (action scope) writes) :
    o.Unfolds all (view.within action) writes := by
  -- A view is a value with a scope of its own, or a context that has one already.
  cases view with
  | value root => exact .inNewScope (inside _)
  | context id => exact .inContext inside

/-- What a template writes takes a course. -/
theorem course_writtenUpTo {result : Except Failure (List Chunk)}
    (settles : Config.ofSetting setting s = some (.ok config, configured))
    (ran : writtenUpTo depth host (.text source) view partials setting s = some (result, t))
    (all : List Token) :
    ∃ chunks, (occasion host source partials config s).Course all s chunks t
      ∧ ∀ written, result = .ok written → chunks = written := by
  rw [writtenUpTo, Render.bind_apply, settles] at ran
  -- To read the configuration only consults, before the template is entered.
  have consulted := Consults.ofSetting setting s _ _ settles
  have inside : ∀ scope, (occasion host source partials config s).Writes all
      ((Nested.upTo host depth).inclusion ⟨scope, partials, config, none⟩ (.text source)) := by
    intro scope u based outcome after wrote
    exact ((occasion host source partials config s).nests_upTo depth).inclusion ⟨rfl, rfl⟩ based
      .root wrote all
  obtain ⟨chunks, course, written⟩ := unfolds_within inside configured consulted.suffix result t ran
  exact ⟨chunks, .append (.consulted consulted) course, written⟩

/-- A rendering takes a course whose chunks make up its output. -/
theorem course_renderUpTo {result : Except Failure Text}
    (settles : Config.ofSetting setting s = some (.ok config, configured))
    (ran : renderUpTo depth host (.text source) view partials setting s = some (result, t))
    (all : List Token) :
    ∃ chunks, (occasion host source partials config s).Course all s chunks t
      ∧ ∀ output, result = .ok output → Chunk.joinAll chunks = some output := by
  rw [renderUpTo, Render.bind_apply, settles] at ran
  -- To read the configuration only consults, before the template is entered.
  have consulted := Consults.ofSetting setting s _ _ settles
  have inside : ∀ scope, (occasion host source partials config s).Unfolds all
      ((Nested.upTo host depth).render ⟨scope, partials, config, none⟩ (.text source))
      fun output chunks => Chunk.joinAll chunks = some output := by
    intro scope u based outcome after rendered
    exact ((occasion host source partials config s).nests_upTo depth).render ⟨rfl, rfl⟩ based
      (fun _ _ => .root) rendered all
  obtain ⟨chunks, course, made⟩ := unfolds_within inside configured consulted.suffix result t ran
  exact ⟨chunks, .append (.consulted consulted) course, made⟩

end Engine

end Mustache
