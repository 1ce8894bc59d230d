import Mustache.Engine
import Mustache.Proofs.Keeping.Functions

/-!
Laws about what may come of a step: with which failure it may end, if it fails, and in which
session.

A law that allows each thing the host is asked for on its own allows what is asked for in turn.
-/

namespace Mustache

variable {σ : Type}

/--
What may come of a step: the session before it, the failure that ends it, and the session after it.

There is no failure when the step gives a value.
-/
abbrev Law (σ : Type) := Session σ → Option Failure → Session σ → Prop

/-- A session since which nothing has happened but events of a kind. -/
def Session.Told (kind : Event → Prop) (s t : Session σ) : Prop :=
  ∃ events, t.journal = events ++ s.journal ∧ ∀ event ∈ events, kind event

namespace Session.Told

variable {kind : Event → Prop} {s t u : Session σ}

/-- Nothing happens where the journal stays the same. -/
theorem of_journal_eq (same : t.journal = s.journal) : s.Told kind t :=
  -- There are no events in between.
  ⟨[], same, List.forall_mem_nil _⟩

/-- More events of the kind may follow. -/
theorem trans (first : s.Told kind t) (second : t.Told kind u) : s.Told kind u := by
  obtain ⟨events, journal, all⟩ := first
  obtain ⟨events', journal', all'⟩ := second
  -- What happens later is told on top of what happened first.
  refine ⟨events' ++ events, ?_, List.forall_mem_append.mpr ⟨all', all⟩⟩
  rw [journal', journal, List.append_assoc]

/-- An event of the kind may be reported. -/
theorem reported (s : Session σ) {event : Event} (holds : kind event) :
    s.Told kind (s.reported event) :=
  -- There is one event in between.
  ⟨[event], rfl, List.forall_mem_singleton.mpr holds⟩

/-- A note in an account is no event. -/
theorem accounted (s : Session σ) (note : Profile → Profile) : s.Told kind (s.accounted note) := by
  -- There is an account in which the note is made, or none.
  unfold Session.accounted
  split <;> exact of_journal_eq rfl

/-- Events of one kind may all be of another. -/
theorem mono {other : Event → Prop} (told : s.Told kind t)
    (within : ∀ event, kind event → other event) : s.Told other t := by
  -- The events are the same ones.
  obtain ⟨events, journal, all⟩ := told
  exact ⟨events, journal, fun event member => within event (all event member)⟩

end Session.Told

/-- The failure that a result is, unless it is a value. -/
def Failure.of? {α : Type} : Except Failure α → Option Failure
  | .ok _ => none
  | .error failure => some failure

/-- A step of which nothing comes but what a law allows. -/
def Obeys (law : Law σ) {α : Type} (step : Render σ α) : Prop :=
  ∀ s result t, step s = some (result, t) → law s (Failure.of? result) t

/--
A law of steps that are taken one after the other.

They may fail for any reason but that the source of a template is missing.
-/
class Law.Sequential (law : Law σ) : Prop where
  /-- A value may be given at once. -/
  done (s : Session σ) : law s none s
  /-- What is allowed may be done after a value was given. -/
  next {s t u : Session σ} {failure : Option Failure} :
    law s none t → law t failure u → law s failure u
  /-- A step may fail at once. -/
  failed (s : Session σ) {failure : Failure} (other : failure ≠ .missingSource) :
    law s (some failure) s

/-- A law that allows functions to be called that answer on their own. -/
class Law.Calling (law : Law σ) : Prop extends law.Sequential where
  /-- The host may go on in another state. -/
  hosting (s : Session σ) (state : σ) : law s none (s.onStage (s.stage.hosting state))
  /-- A function may be called. -/
  called (s : Session σ) (f : Function) (call : Call) (answer : Except HostFailure Value) :
    law s none (s.reported (.called f call answer))
  /-- A function may refuse the arguments of a call. -/
  refused (s : Session σ) (f : Function) (call : Call) :
    law s none (s.reported (.refused f call.arguments.length))

/--
A law that allows the host and the values at hand to be consulted.

Besides calls of functions, items are taken from streams and names are remembered in scopes.
-/
class Law.Consulting (law : Law σ) : Prop extends law.Calling where
  /-- Items may be taken from streams. -/
  taken (s : Session σ) (taken : Nat → Nat) : law s none (s.onStage { s.stage with taken := taken })
  /-- A path may be remembered that was not. -/
  remembered (s : Session σ) {path : Text} (new : s.memo.lookup path = none) (value : Value) :
    law s none (s.onStage (s.stage.knowing ((path, value) :: s.memo)))
  /-- What is allowed may be done in a scope of its own. -/
  inScope {s t : Session σ} {failure : Option Failure} :
    law (s.onStage (s.stage.knowing [])) failure t →
      law s failure (t.onStage (t.stage.knowing s.memo))
  /-- What is allowed may be done in the scope of a context, which remembers what was looked up. -/
  inContext {s t : Session σ} {failure : Option Failure} (id : Nat) :
    law (s.onStage (s.stage.knowing (s.contexts id).memo)) failure t →
      law s failure (t.onStage (t.stage.leaving id (s.contexts id) s.memo))

/-- A law that allows an object to divide itself into lines, which may be written in place. -/
class Law.Dividing (law : Law σ) : Prop extends law.Consulting where
  /-- Something may be written into shared values. -/
  written (s : Session σ) (edits : Nat → Edits) :
    law s none (s.onStage { s.stage with edits := edits })

/-- No call of a function fails because the source of a template is missing. -/
theorem HostFailure.toFailure_ne (failure : HostFailure) : failure.toFailure ≠ .missingSource := by
  -- None of the failures that a host may tell of is that one.
  cases failure <;> nofun

/-- No name fails because the source of a template is missing. -/
theorem Value.member_ne (value : Value) (name : Text) :
    value.member name ≠ .error .missingSource := by
  -- A mapping answers always, and what else may go wrong has reasons of its own.
  unfold member
  split
  · nofun
  · split
    · -- An index may be too long, or the items too many.
      split
      · nofun
      · split <;> nofun
    · nofun

/-- No value fails to be shown because the source of a template is missing. -/
theorem Value.shown_ne (value : Value) : value.shown ≠ .error .missingSource := by
  -- A value fails to be shown only for its size.
  unfold shown
  split <;> nofun

/-- No items fail to be counted because the source of a template is missing. -/
theorem Value.counted_ne (value : Value) : value.counted ≠ .error .missingSource := by
  -- Items fail to be counted only for their number.
  unfold counted
  split <;> nofun

/-- No value fails to be escaped because the source of a template is missing. -/
theorem Scene.escapedText_ne (value : Value) : escapedText value ≠ .error .missingSource := by
  -- Numbers are shown as they are.
  have shown := value.shown_ne
  unfold escapedText
  split
  · exact shown
  · exact shown
  · -- To escape what is shown adds no failure.
    generalize value.shown = text at shown ⊢
    cases text with
    | ok t => nofun
    | error failure => exact fun same => shown (congrArg Except.error (Except.error.inj same))

/-- No template is looked for in vain because the source of one is missing. -/
theorem Scene.templateIn_ne (entries : List (Value × Value)) (name : Value) :
    templateIn entries name ≠ .error .missingSource := by
  -- A name may be missing, or of a type that is no name.
  unfold templateIn
  split
  · nofun
  · split <;> nofun

/-- Two steps that need no session fail for no reason for which neither of them does. -/
theorem Failure.bind_ne {α β : Type} {failure : Failure} {first : Except Failure α}
    {next : α → Except Failure β} (other : first ≠ .error failure)
    (others : ∀ value, next value ≠ .error failure) : first >>= next ≠ .error failure := by
  -- The second step is taken only where the first one has given a value.
  cases first with
  | error reason => exact fun same => other (congrArg _ (Except.error.inj same))
  | ok value => exact others value

/-- A row of steps that need no session fails for no reason for which none of them does. -/
theorem Failure.mapM_ne {α β : Type} {failure : Failure} {step : α → Except Failure β}
    (other : ∀ value, step value ≠ .error failure) (values : List α) :
    values.mapM step ≠ .error failure := by
  -- The first step that fails makes the row fail with its own reason.
  induction values with
  | nil => nofun
  | cons value rest ih =>
    rw [List.mapM_cons]
    exact bind_ne (other value) fun first => bind_ne ih fun others => nofun

/-- No line fails to be one because the source of a template is missing. -/
theorem Indentation.lineOf_ne (value : Value) : lineOf value ≠ .error .missingSource := by
  -- What is no line fails for its type.
  unfold lineOf
  split <;> nofun

/-- No lines fail to be put together because the source of a template is missing. -/
theorem Indentation.joinItems_ne (items : List Value) :
    joinItems items ≠ .error .missingSource := by
  -- Lines that are texts can be put together.
  refine Failure.bind_ne (Failure.mapM_ne lineOf_ne items) fun joined => ?_
  cases joined <;> nofun

/-- Lines that are indented never fail because the source of a template is missing. -/
theorem Indentation.indentItems_ne (lines : Value) (margin : Text) (continuesText : Bool)
    (place : Nat) (items : List Value) :
    (indentItems lines margin continuesText place items).2 ≠ some .missingSource := by
  induction items generalizing place with
  | nil => nofun
  | cons line rest ih =>
    -- A line fails if it is no text, and an obstacle is a failure to write a line back.
    have whole : indentedLine? margin continuesText place line ≠ .error .missingSource := by
      unfold indentedLine?
      split
      · nofun
      · exact Failure.bind_ne (lineOf_ne line) fun t => nofun
    have obstacle : obstacle? lines place ≠ some .missingSource := by
      unfold obstacle?
      split
      · nofun
      · split <;> nofun
      · nofun
    -- The first line that fails decides, unless what comes of it cannot be written back.
    unfold indentItems
    split
    · rename_i failure failed
      rw [failed] at whole
      rintro ⟨⟩
      exact whole rfl
    · exact ih _
    · split
      · rename_i failure there
        rw [there] at obstacle
        exact obstacle
      · exact ih _

namespace Obeys

variable {law : Law σ} {α β : Type}

/-- To look at a session is allowed where the next step is. -/
theorem read {next : Session σ → Render σ β} (second : ∀ s, Obeys law (next s)) :
    Obeys law (get >>= next) := by
  intro s result t ran
  exact second s s result t ran

/-- A step that only changes the session is allowed where the change is. -/
theorem modify {change : Session σ → Session σ} (allowed : ∀ s, law s none (change s)) :
    Obeys law (modify change : Render σ Unit) := by
  rintro s _ _ ⟨⟩
  exact allowed s

section Sequential

variable [law.Sequential]

/-- To give a value is allowed. -/
theorem pure (value : α) : Obeys law (Pure.pure value : Render σ α) := by
  rintro s _ _ ⟨⟩
  exact Law.Sequential.done s

/-- To fail is allowed, unless because the source of a template is missing. -/
theorem throw {failure : Failure} (other : failure ≠ .missingSource) :
    Obeys law (throw failure : Render σ α) := by
  rintro s _ _ ⟨⟩
  exact Law.Sequential.failed s other

/-- A result that needs no session is allowed, if it is no such failure. -/
theorem ofExcept {result : Except Failure α} (other : result ≠ .error .missingSource) :
    Obeys law (Render.ofExcept result : Render σ α) := by
  -- The result is a value or a failure.
  cases result with
  | ok value => exact Obeys.pure value
  | error failure => exact Obeys.throw fun same => other (congrArg _ same)

/-- Two steps are allowed when each of them is. -/
theorem bind {step : Render σ α} {next : α → Render σ β} (first : Obeys law step)
    (second : ∀ value, Obeys law (next value)) : Obeys law (step >>= next) := by
  intro s result t ran
  rw [Render.bind_apply] at ran
  obtain ⟨⟨outcome, middle⟩, stepped, ended⟩ := Option.bind_eq_some_iff.mp ran
  have allowed := first s outcome middle stepped
  -- A failure ends both, and a value is handed on to the second step.
  cases outcome with
  | error failure =>
    cases ended
    exact allowed
  | ok value => exact Law.Sequential.next allowed (second value middle result t ended)

/-- To open a value is allowed. -/
theorem opened (value : Value) : Obeys law (Render.opened value : Render σ Value) := by
  -- Only what was written into the value is looked at.
  cases value with
  | shared id content => exact .read fun s => .pure _
  | _ => exact .pure _

/-- To settle a value is allowed. -/
theorem settled (value : Value) : Obeys law (Render.settled value : Render σ Value) :=
  .read fun _ => .pure _

end Sequential

section Calling

variable [law.Calling]

/-- To check the number of arguments of a call is part of the call. -/
theorem checkCount (f : Function) (call : Call) :
    Obeys law (f.checkCount call.arguments.length : Render σ Unit) := by
  -- The number is accepted or refused.
  unfold Function.checkCount
  split
  · exact .pure _
  · exact .bind (.modify fun s => Law.Calling.refused s f call) fun _ => .throw nofun

/-- A function may be called. -/
theorem call (host : Host σ) (f : Function) (call : Call) : Obeys law (f.call host call) := by
  cases f with
  | html =>
    -- What the escape is given can be shown or not.
    refine .bind (checkCount _ call) fun _ => ?_
    exact .bind (.ofExcept (Failure.mapM_ne Value.shown_ne _)) fun shown => .pure _
  | hosted id className label arity =>
    have answered : Obeys law (host.ask id call) := by
      rintro s _ _ ⟨⟩
      exact Law.Calling.hosting s _
    -- The host answers, and the call is reported.
    rw [Function.call_hosted]
    refine .bind (checkCount _ call) fun _ => .bind answered fun answer => ?_
    refine .bind (.modify fun s => Law.Calling.called s _ call answer) fun _ => .ofExcept ?_
    cases answer with
    | ok value => nofun
    | error failure => exact fun same => failure.toFailure_ne (Except.error.inj same)

/-- A value may be called. -/
theorem callValue (host : Host σ) (value : Value) (call : Call) :
    Obeys law (value.call host call) := by
  -- Only functions can be called.
  unfold Value.call
  split
  · exact Obeys.call host _ call
  · exact .throw nofun

/-- A value may be asked for a name. -/
theorem resolve (host : Host σ) (value : Value) (name : Text) :
    Obeys law (value.resolve host name) := by
  -- A provider is asked, and other values know the name or not.
  refine .bind (opened value) fun now => ?_
  split
  · exact callValue host _ _
  · exact .ofExcept (Value.member_ne now name)

/-- Values may be asked in turn. -/
theorem resolveAmong (host : Host σ) (name : Text) (views : List Value) :
    Obeys law (Scope.resolveAmong host name views) := by
  -- The induction goes from the innermost value outwards.
  induction views with
  | nil => exact .pure _
  | cons view outer ih =>
    -- Values further out are asked if this one does not know the name.
    rw [Scope.resolveAmong]
    refine .bind (resolve host view name) fun found => ?_
    split
    · exact ih
    · exact .pure _

/-- Names may be asked for in turn. -/
theorem resolveWithin (host : Host σ) (value : Value) (names : List Text) :
    Obeys law (Scope.resolveWithin host value names) := by
  -- The induction goes through the names, each asked of what the one before it gave.
  induction names generalizing value with
  | nil => cases value <;> exact .pure _
  | cons name rest ih =>
    -- What the first name gives is asked for the others.
    cases value with
    | absent => exact .pure _
    | _ => exact .bind (resolve host _ name) fun found => ih found

/-- A path may be resolved. -/
theorem resolvePath (host : Host σ) (scope : Scope) (path : Text) :
    Obeys law (scope.resolvePath host path) :=
  -- The first name is asked of all values, and the others of what was found.
  .bind (resolveAmong host _ _) fun found => resolveWithin host found _

/-- A template may be looked for. -/
theorem template (host : Host σ) (scene : Scene) (name : Value) :
    Obeys law (scene.template host name) := by
  refine .bind (opened _) fun partials => ?_
  -- What there is to look in decides how the template is looked for.
  split
  · exact .pure _
  · exact call host _ _
  · exact .throw nofun
  · exact .ofExcept (Scene.templateIn_ne _ name)
  · split
    · exact callValue host _ _
    · exact .throw nofun

/-- A value may be escaped. -/
theorem escape (host : Host σ) (scene : Scene) (value : Value) :
    Obeys law (scene.escape host value) := by
  -- What escapes is nothing, the function of the library, or another value.
  unfold Scene.escape
  split
  · exact .bind (.ofExcept (Scene.escapedText_ne value)) fun _ => .pure _
  · exact .bind (.ofExcept (Scene.escapedText_ne value)) fun _ => .pure _
  · -- Another escape than that of HTML is called.
    refine .bind (callValue host _ _) fun escaped => ?_
    split <;> exact .pure _

end Calling

end Obeys

/-- The law that nothing is remembered or forgotten in the scope at hand. -/
def Law.unremembered : Law σ := fun s _ t => t.memo = s.memo

instance : (Law.unremembered : Law σ).Calling where
  done := fun _ => rfl
  next := fun first second => second.trans first
  failed := fun _ _ _ => rfl
  hosting := fun _ _ => rfl
  called := fun _ _ _ _ => rfl
  refused := fun _ _ _ => rfl

namespace Obeys

variable {law : Law σ} {α : Type}

section Consulting

variable [law.Consulting]

/-- An item may be taken from a stream. -/
theorem next? (id : Nat) (items : List Value) :
    Obeys law (Render.next? id items : Render σ (Option Value)) := by
  intro s result t ran
  rw [Render.next?, Render.get_bind] at ran
  -- There is an item or not.
  cases there : items[s.taken id]? with
  | none =>
    simp only [there] at ran
    cases ran
    exact Law.Sequential.done s
  | some item =>
    -- One item more is taken from the stream, and the others are as they were.
    simp only [there] at ran
    cases ran
    exact Law.Consulting.taken s fun n => if n = id then s.taken id + 1 else s.taken n

/-- All items may be taken from a stream. -/
theorem drain (id : Nat) (items : List Value) :
    Obeys law (Render.drain id items : Render σ (List Value)) := by
  -- Only the number of items that are taken changes.
  rintro s _ _ ⟨⟩
  exact Law.Consulting.taken s fun n =>
    if n = id then max (s.taken id) items.length else s.taken n

/-- A value may be taken apart. -/
theorem unpack (value : Value) : Obeys law (Render.unpack value : Render σ (List Value)) := by
  -- A stream is drained, and any other value has items or not.
  refine .bind (opened value) fun found => ?_
  split
  · exact drain _ _
  · split
    · exact .pure _
    · exact .throw nofun

/-- A path may be looked up. -/
theorem lookup (host : Host σ) (scope : Scope) (path : Text) :
    Obeys law (scope.lookup host path) := by
  unfold Scope.lookup
  split
  · exact .pure _
  · -- A path that is remembered is not asked for again.
    intro s result t ran
    rw [Render.get_bind] at ran
    cases known : s.memo.lookup path with
    | some value =>
      rw [known] at ran
      cases ran
      exact Law.Sequential.done s
    | none =>
      rw [known] at ran
      dsimp only at ran
      rw [Render.bind_apply] at ran
      obtain ⟨⟨outcome, middle⟩, resolved, ended⟩ := Option.bind_eq_some_iff.mp ran
      have allowed : law s (Failure.of? outcome) middle :=
        resolvePath host scope path s outcome middle resolved
      cases outcome with
      | error failure =>
        cases ended
        exact allowed
      | ok value =>
        -- Nothing was remembered while the path was resolved, so it is new still.
        have kept : Obeys Law.unremembered (scope.resolvePath host path) :=
          resolvePath host scope path
        have same : middle.memo = s.memo := kept s _ middle resolved
        cases ended
        refine Law.Sequential.next allowed (Law.Consulting.remembered middle ?_ value)
        rw [same, known]

/-- The value of a name may be found. -/
theorem interpolated (host : Host σ) (scene : Scene) (path : Text) :
    Obeys law (scene.interpolated host path) := by
  -- A function is called, and any other value is taken as it is.
  refine .bind (lookup host scene.scope path) fun found => ?_
  split
  · exact call host _ _
  · exact .pure _

/-- What a section is over may be looked up. -/
theorem subject (host : Host σ) (scene : Scene) (name : Text) :
    Obeys law (scene.subject host name) :=
  -- The items are counted, which is no reason for a source to be missing.
  .bind (lookup host scene.scope name) fun value => .ofExcept value.counted_ne

/-- The value of a name may be written. -/
theorem writeVariable (host : Host σ) (scene : Scene) (escaped : Bool) (path : Text) :
    Obeys law (scene.writeVariable host escaped path) := by
  -- What is found is brought up to date before it is written, escaped or not.
  refine .bind (interpolated host scene path) fun found => ?_
  split
  · exact .pure _
  · refine .bind (settled _) fun value => ?_
    split
    · exact .bind (escape host scene value) fun _ => .pure _
    · exact .bind (.ofExcept (Value.shown_ne value)) fun _ => .pure _

/-- A configuration may be read from entries. -/
theorem ofEntries (entries : List (Value × Value)) :
    Obeys law (Config.ofEntries entries : Render σ Config) := by
  -- Only delimiters that are given are unpacked.
  unfold Config.ofEntries
  split
  · exact .bind (unpack _) fun items => .pure _
  · exact .pure _

/-- A configuration may be read from a setting. -/
theorem ofSetting (setting : Setting) : Obeys law (Config.ofSetting setting : Render σ Config) := by
  cases setting with
  | config config => exact .pure _
  | value value =>
    -- Entries may have to be taken apart, and all other forms are ready or refused.
    refine .bind (opened value) fun found => ?_
    split
    · exact .pure _
    · exact ofEntries _
    · exact .pure _
    · exact .pure _
    · -- A value of another form is shown in the report, if it can be.
      refine .throw ?_
      split <;> nofun

/-- What is allowed may be done in a scope of its own. -/
theorem inNewScope {action : Render σ α} (inside : Obeys law action) :
    Obeys law (Render.inNewScope action) := by
  intro s result t ran
  rw [Render.inNewScope_apply, Option.map_eq_some_iff] at ran
  -- What is remembered inside is forgotten again.
  obtain ⟨⟨outcome, after⟩, acted, ⟨⟩⟩ := ran
  exact Law.Consulting.inScope (inside _ _ _ acted)

/-- What is allowed may be done in the scope of a context. -/
theorem inContext {id : Nat} {action : Scope → Render σ α}
    (inside : ∀ scope, Obeys law (action scope)) : Obeys law (Render.inContext id action) := by
  intro s result t ran
  rw [Render.inContext_apply, Option.map_eq_some_iff] at ran
  -- What the context remembers is put back into it.
  obtain ⟨⟨outcome, after⟩, acted, ⟨⟩⟩ := ran
  exact Law.Consulting.inContext id (inside _ _ _ _ acted)

/-- What is allowed may be done in the scope of a view. -/
theorem within {view : View} {action : Scope → Render σ α}
    (inside : ∀ scope, Obeys law (action scope)) : Obeys law (view.within action) := by
  -- A view is a value, or the context it is kept in.
  cases view with
  | value root => exact inNewScope (inside _)
  | context id => exact inContext inside

end Consulting

section Dividing

variable [law.Dividing]

/-- Something may be written into a value. -/
theorem write (value : Value) (later : Edits) :
    Obeys law (Render.write value later : Render σ Unit) := by
  -- Only what was written into a shared value is changed.
  cases value with
  | shared id content =>
    rintro s _ _ ⟨⟩
    exact Law.Dividing.written s fun n => if n = id then (s.edits id).writeAll later else s.edits n
  | _ => exact .pure _

/-- All lines may be taken from a stream. -/
theorem passStream (id : Nat) (items : List Value) (margin : Text) (continuesText : Bool)
    (place most : Nat) :
    Obeys law
      (Indentation.passStream id items margin continuesText place most : Render σ Unit) := by
  -- The induction is on how many lines the stream might still have.
  induction most generalizing place with
  | zero => exact .pure _
  | succ most ih =>
    -- The next line stays as it is, or ends it all.
    refine .bind (next? id items) fun found => ?_
    split
    · exact .pure _
    · split
      · exact ih _
      · exact .throw nofun

/-- The lines may be indented where they stand. -/
theorem joinDivided (lines : Value) (margin : Text) (continuesText : Bool) :
    Obeys law (Indentation.joinDivided lines margin continuesText : Render σ Text) := by
  refine .bind (opened lines) fun found => ?_
  -- The lines are a stream, which is passed on, or items that can be written over.
  split
  · exact .bind (passStream _ _ _ _ _ _) fun _ => .pure _
  · split
    · exact .throw nofun
    · rename_i items _
      have other := Indentation.indentItems_ne found margin continuesText 0 items
      -- What is written before a failure stays written.
      refine .bind (write lines _) fun _ => ?_
      split
      · rename_i failure failed
        rw [failed] at other
        exact .throw fun same => other (congrArg _ same)
      · exact .ofExcept (Indentation.joinItems_ne _)

/-- A template of any type may be indented. -/
theorem indentValue (host : Host σ) (template indentation : Value) (continuesText : Bool) :
    Obeys law (Indentation.indentValue host template indentation continuesText) := by
  -- Texts are indented here; of anything else only an object may know better.
  unfold Indentation.indentValue
  split
  · exact .pure _
  · exact .throw nofun
  · exact .throw nofun
  · -- An object may divide itself into lines.
    split
    · exact .bind (callValue host _ _) fun lines =>
        .bind (joinDivided lines _ continuesText) fun _ => .pure _
    · exact .throw nofun
  · exact .throw nofun

/-- A template may be indented as its tag asks for, or taken as it is. -/
theorem indented (host : Host σ) (line : LinePrefix) (template : Value) :
    Obeys law (Scene.indented host line template) := by
  -- A tag without a margin asks for nothing.
  unfold Scene.indented
  split
  · exact indentValue host template _ _
  · exact .pure _

end Dividing

end Obeys

end Mustache
