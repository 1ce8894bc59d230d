import Mustache.Proofs.Keeping
import Mustache.Scene

/-!
Calls of functions, lookups of names and indentation keep every stable relation between sessions.
-/

namespace Mustache

variable {σ : Type} {R : Session σ → Session σ → Prop}

/-- The host answers a call, or fails, and changes its state. -/
def Host.ask (host : Host σ) (id : Nat) (call : Call) : Render σ (Except HostFailure Value) := do
  let s ← get
  set { s with host := (host.answer id call s.host).2 }
  pure (host.answer id call s.host).1

/-- A function of the host is called by asking the host, whose answer is reported. -/
theorem Function.call_hosted (host : Host σ) (id : Nat) (className label : Text) (arity : Arity)
    (call : Call) :
    (Function.hosted id className label arity).call host call =
      (Function.hosted id className label arity).checkCount call.arguments.length >>= fun _ =>
        host.ask id call >>= fun answer =>
          Render.report (.called (.hosted id className label arity) call answer) >>= fun _ =>
            Render.ofExcept (answer.mapError HostFailure.toFailure) := by
  unfold Function.call
  congr 1
  funext _ s
  change (get >>= _ : Render σ Value) s = _
  -- The host is asked with its own state, and gives another one back.
  have asked : host.ask id call s = some (.ok (host.answer id call s.host).1,
    { s with host := (host.answer id call s.host).2 }) := rfl
  rw [Render.get_bind, Render.bind_apply (host.ask id call), asked]
  -- The answer is a value or a failure.
  generalize host.answer id call s.host = answered
  obtain ⟨answer, state⟩ := answered
  cases answer <;> rfl

/-- The same with the host in another state. -/
def Stage.hosting (stage : Stage σ) (state : σ) : Stage σ := { stage with host := state }

/-- A section function goes on after what it asked for, unless that failed and it does not catch it. -/
def Script.goOn (render : Value → Render σ Text) (catches : Failure → Bool)
    (resume : Except Failure Text → σ → Script σ) (result : Except Failure Text) : Render σ Value :=
  fun s => match result with
    | .ok _ => (resume result s.host).run render s
    | .error failure =>
      if catches failure then (resume result s.host).run render s else some (.error failure, s)

/-- A section function asks for a template, is told what came of it, and goes on. -/
theorem Script.run_render (render : Value → Render σ Text) (template : Value) (state : σ)
    (catches : Failure → Bool) (resume : Except Failure Text → σ → Script σ) (s : Session σ) :
    (Script.render template state catches resume).run render s =
      (render template ((s.onStage (s.stage.hosting state)).reported (.asked template))).bind
        fun o => goOn render catches resume o.1 (o.2.reported (.answered o.1)) := by
  -- That a template is asked for is told first.
  have begun : { s with host := state, journal := .asked template :: s.journal } =
    (s.onStage (s.stage.hosting state)).reported (.asked template) := rfl
  rw [run]
  dsimp only
  rw [begun]
  cases render template ((s.onStage (s.stage.hosting state)).reported (.asked template)) with
  | none => rfl
  | some outcome =>
    -- The function goes on or not, as it was told.
    obtain ⟨result, after⟩ := outcome
    cases result <;> rfl

namespace Keeps

section Functions

variable {α : Type}

/-- To refuse a number of arguments keeps every stable relation. -/
theorem refuse (stable : Stable R) (f : Function) (count : Nat) :
    Keeps R (f.refuse count : Render σ α) :=
  -- To refuse is to report it and to fail.
  bind (report stable rfl) fun _ => Keeps.throw _

/-- To check a number of arguments keeps every stable relation. -/
theorem checkCount (stable : Stable R) (f : Function) (count : Nat) :
    Keeps R (f.checkCount count : Render σ Unit) := by
  -- The number is accepted or refused.
  unfold Function.checkCount
  split
  · exact Keeps.pure _
  · exact refuse stable f count

/-- To let the host answer a call keeps every stable relation. -/
theorem call (stable : Stable R) (host : Host σ) (f : Function) (call : Call) :
    Keeps R (f.call host call) := by
  cases f with
  | html =>
    -- What the escape is given can be shown or not, whatever the session.
    exact bind (checkCount stable _ _) fun _ => bind (ofExcept _) fun shown => Keeps.pure _
  | hosted id className label arity =>
    -- The host answers by its own state, which is the same in both sessions.
    have answered : Keeps R (host.ask id call) :=
      ofStage stable (fun stage => (.ok (host.answer id call stage.host).1,
        stage.hosting (host.answer id call stage.host).2)) fun _ => rfl
    rw [Function.call_hosted]
    refine bind (checkCount stable _ _) fun _ => ?_
    exact bind answered fun answer => bind (report stable rfl) fun _ => ofExcept _

/-- To call a value keeps every stable relation. -/
theorem callValue (stable : Stable R) (host : Host σ) (value : Value) (call : Call) :
    Keeps R (value.call host call) := by
  -- Only functions can be called.
  unfold Value.call
  split
  · exact Keeps.call stable host _ call
  · exact Keeps.throw _

end Functions

section Names

/-- To ask a value for a name keeps every stable relation. -/
theorem resolve (stable : Stable R) (host : Host σ) (value : Value) (name : Text) :
    Keeps R (value.resolve host name) := by
  -- A provider is asked, and other values know the name or not.
  refine bind (opened stable value) fun now => ?_
  split
  · exact callValue stable host _ _
  · exact ofExcept _

/-- To ask values in turn keeps every stable relation. -/
theorem resolveAmong (stable : Stable R) (host : Host σ) (name : Text) (views : List Value) :
    Keeps R (Scope.resolveAmong host name views) := by
  -- The induction goes from the innermost value outwards.
  induction views with
  | nil => exact Keeps.pure _
  | cons view outer ih =>
    -- Values further out are asked if this one does not know the name.
    rw [Scope.resolveAmong]
    refine bind (resolve stable host view name) fun found => ?_
    split
    · exact ih
    · exact Keeps.pure _

/-- To ask for names in turn keeps every stable relation. -/
theorem resolveWithin (stable : Stable R) (host : Host σ) (value : Value) (names : List Text) :
    Keeps R (Scope.resolveWithin host value names) := by
  -- The induction goes through the names, each asked of what the one before it gave.
  induction names generalizing value with
  | nil => cases value <;> exact Keeps.pure _
  | cons name rest ih =>
    -- What the first name gives is asked for the others.
    cases value with
    | absent => exact Keeps.pure _
    | _ => exact bind (resolve stable host _ name) fun found => ih found

/-- To look up a path keeps every stable relation. -/
theorem lookup (stable : Stable R) (host : Host σ) (scope : Scope) (path : Text) :
    Keeps R (scope.lookup host path) := by
  -- A single dot asks for nothing.
  unfold Scope.lookup
  split
  · exact Keeps.pure _
  · -- The path is remembered, or it is resolved and then remembered.
    refine read stable (fun s s' same => ?_) fun s => ?_
    · rw [show s.memo = s'.memo from congrArg Stage.memo same]
    · split
      · exact Keeps.pure _
      · refine bind ?_ fun value => bind ?_ fun _ => Keeps.pure _
        · exact bind (resolveAmong stable host _ _) fun found => resolveWithin stable host found _
        · exact ofStage stable
            (fun stage => (.ok (), stage.knowing ((path, value) :: stage.memo))) fun _ => rfl

end Names

section Lines

/-- To write into a value keeps every stable relation. -/
theorem write (stable : Stable R) (value : Value) (later : Edits) :
    Keeps R (Render.write value later : Render σ Unit) := by
  -- Only what was written into a shared value is changed.
  cases value with
  | shared id content =>
    exact ofStage stable (fun stage => (.ok (), { stage with
      edits := fun n => if n = id then (stage.edits id).writeAll later else stage.edits n }))
      fun _ => rfl
  | _ => exact Keeps.pure _

/-- To take all lines from a stream keeps every stable relation. -/
theorem passStream (stable : Stable R) (id : Nat) (items : List Value) (margin : Text)
    (continuesText : Bool) (place most : Nat) :
    Keeps R (Indentation.passStream id items margin continuesText place most : Render σ Unit) := by
  -- The induction is on how many lines the stream might still have.
  induction most generalizing place with
  | zero => exact Keeps.pure _
  | succ most ih =>
    -- The next line stays as it is, or ends it all.
    refine bind (next? stable id items) fun found => ?_
    split
    · exact Keeps.pure _
    · split
      · exact ih _
      · exact Keeps.throw _

/-- To indent the lines into which an object divides itself keeps every stable relation. -/
theorem joinDivided (stable : Stable R) (lines : Value) (margin : Text) (continuesText : Bool) :
    Keeps R (Indentation.joinDivided lines margin continuesText : Render σ Text) := by
  refine bind (opened stable lines) fun found => ?_
  -- The lines are a stream, or they are a collection that is written over.
  split
  · exact bind (passStream stable _ _ _ _ _ _) fun _ => Keeps.pure _
  · split
    · exact Keeps.throw _
    · -- What is written before a failure stays written.
      refine bind (write stable _ _) fun _ => ?_
      split
      · exact Keeps.throw _
      · exact ofExcept _

/-- To indent a template of any type keeps every stable relation. -/
theorem indentValue (stable : Stable R) (host : Host σ) (template indentation : Value)
    (continuesText : Bool) :
    Keeps R (Indentation.indentValue host template indentation continuesText) := by
  -- What is neither a text nor an object is refused without being asked anything.
  unfold Indentation.indentValue
  split
  · exact Keeps.pure _
  · exact Keeps.throw _
  · exact Keeps.throw _
  · -- An object may divide itself into lines.
    split
    · exact bind (callValue stable host _ _) fun lines =>
        bind (joinDivided stable lines _ continuesText) fun _ => Keeps.pure _
    · exact Keeps.throw _
  · exact Keeps.throw _

end Lines

end Keeps

namespace Tracks

/-- A section function goes on alike where the renderings that it asks for track each other. -/
theorem run (stable : Stable R) {render render' : Value → Render σ Text}
    (renders : ∀ template, Tracks R (render template) (render' template)) (script : Script σ) :
    Tracks R (script.run render) (script.run render') := by
  -- The induction is on how the function goes on after each rendering.
  induction script with
  | value result state =>
    exact Keeps.ofStage stable (fun stage => (.ok result, stage.hosting state)) fun _ => rfl
  | raise message state =>
    exact Keeps.ofStage stable (fun stage => (.error (.raised message), stage.hosting state))
      fun _ => rfl
  | render template state catches resume ih =>
    intro s s' related
    -- Both sessions render what is asked for, and come to related ends, or both go too deep.
    have asked : Event.isInternal (.asked template) = false := rfl
    have agree := renders template _ _ (stable.reported asked
      (stable.change related (·.hosting state)))
    rw [Script.run_render, Script.run_render]
    generalize render template ((s.onStage (s.stage.hosting state)).reported (.asked template))
      = outcome at agree ⊢
    generalize render' template ((s'.onStage (s'.stage.hosting state)).reported (.asked template))
      = outcome' at agree ⊢
    cases agree with
    | tooDeep => exact .tooDeep
    | @both result t t' related =>
      have told : Event.isInternal (.answered result) = false := rfl
      -- The function goes on with the same outcome and in the same state of the host.
      have related := stable.reported told related
      have goesOn := ih result (t.reported (.answered result)).host _ _ related
      have same := congrArg Stage.host (stable.stage related)
      simp only [Option.bind_some, Script.goOn]
      generalize t.reported (.answered result) = u at *
      generalize t'.reported (.answered result) = u' at *
      change u.host = u'.host at same
      rw [← same]
      cases result with
      | ok output => exact goesOn
      | error failure =>
        dsimp only
        split
        · exact goesOn
        · exact .both related

/-- A section function does the same where the renderings that it asks for track each other. -/
theorem apply (stable : Stable R) (host : Host σ) {render render' : Value → Render σ Text}
    (renders : ∀ template, Tracks R (render template) (render' template)) (f : Function)
    (source : Text) : Tracks R (f.apply host render source) (f.apply host render' source) := by
  -- The function of the library does not take two arguments.
  cases f with
  | html => exact Keeps.refuse stable _ 2
  | hosted id className label arity =>
    refine bind (Keeps.checkCount stable _ 2) fun _ => bind (Keeps.report stable rfl) fun _ => ?_
    -- What the function does depends on the state of the host.
    refine read stable (fun s s' same => ?_) fun s => run stable renders _
    rw [show s.host = s'.host from congrArg Stage.host same]

end Tracks

end Mustache
