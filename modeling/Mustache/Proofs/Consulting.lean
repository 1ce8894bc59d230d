import Mathlib.Order.Defs.Unbundled
import Mustache.Proofs.Laws

/-!
Steps that only consult the host and the values at hand.

Between them the cache, the accounts and what was written into shared values stay as they are, and
nothing is seen to happen but that functions are called.
-/

namespace Mustache

variable {σ : Type}

/-- Whether an event is about the call of a function that answers on its own. -/
def Event.isCall : Event → Bool
  | .called _ _ _ => true
  | .refused _ _ => true
  | _ => false

/-- A session from which another one is reached by consulting the host and the values at hand. -/
structure Session.Consulted (s t : Session σ) : Prop where
  /-- The cache is the same. -/
  cache : t.cache = s.cache
  /-- What was written into each list and mapping that is shared is the same. -/
  edits : t.edits = s.edits
  /-- The accounts are the same. -/
  profiles : t.profiles = s.profiles
  /-- Nothing happened but calls of functions. -/
  journal : ∃ events, t.journal = events ++ s.journal ∧ ∀ event ∈ events, event.isCall = true

namespace Session.Consulted

/-- A session is reached from itself. -/
theorem refl (s : Session σ) : s.Consulted s := ⟨rfl, rfl, rfl, [], rfl, nofun⟩

/-- The host and the values may be consulted again. -/
theorem trans {s t u : Session σ} (first : s.Consulted t) (second : t.Consulted u) :
    s.Consulted u where
  cache := second.cache.trans first.cache
  edits := second.edits.trans first.edits
  profiles := second.profiles.trans first.profiles
  journal := Session.Told.trans first.journal second.journal

/-- What the steps of rendering go by may change, apart from what was written into shared values. -/
theorem onStage (s : Session σ) {stage : Stage σ} (edits : stage.edits = s.edits) :
    s.Consulted (s.onStage stage) := ⟨rfl, edits, rfl, [], rfl, nofun⟩

/-- A call of a function may be reported. -/
theorem reported (s : Session σ) {event : Event} (call : event.isCall = true) :
    s.Consulted (s.reported event) :=
  -- Nothing but the journal changes.
  ⟨rfl, rfl, rfl, Session.Told.reported s call⟩

/-- What has happened before is not forgotten. -/
theorem suffix {s t : Session σ} (consulted : s.Consulted t) : s.journal <:+ t.journal := by
  -- New events stand in front of those before them.
  obtain ⟨events, journal, -⟩ := consulted.journal
  exact ⟨events, journal.symm⟩

end Session.Consulted

instance : IsPreorder (Session σ) Session.Consulted where
  refl := .refl
  trans := fun _ _ _ => .trans

/-- A step that leads from sessions to related ones, whatever comes of it. -/
def Leads (R : Session σ → Session σ → Prop) {α : Type} (step : Render σ α) : Prop :=
  ∀ s result t, step s = some (result, t) → R s t

/-- The law that a step leads to related sessions, whatever comes of it. -/
abbrev Law.of (R : Session σ → Session σ → Prop) : Law σ := fun s _ t => R s t

namespace Leads

variable {R : Session σ → Session σ → Prop} {α β : Type}

/-- A step leads to related sessions if that is a law which it obeys. -/
theorem of_obeys {step : Render σ α} (obeys : Obeys (Law.of R) step) : Leads R step := obeys

/-- A step that only changes the session leads where the change does. -/
theorem modify {change : Session σ → Session σ} (related : ∀ s, R s (change s)) :
    Leads R (modify change : Render σ Unit) := by
  -- The change is all that there is of a run.
  rintro s _ _ ⟨⟩
  exact related s

variable [IsPreorder (Session σ) R]

/-- To give a value leads nowhere else. -/
theorem pure (value : α) : Leads R (Pure.pure value : Render σ α) := by
  -- The only run stays where it is.
  rintro s _ _ ⟨⟩
  exact Std.Refl.refl s

/-- To fail leads nowhere else. -/
theorem throw (failure : Failure) : Leads R (throw failure : Render σ α) := by
  -- The only run stays where it is, and it gives no value.
  rintro s _ _ ⟨⟩
  exact Std.Refl.refl s

/-- A result that needs no session leads nowhere else. -/
theorem ofExcept (result : Except Failure α) : Leads R (Render.ofExcept result : Render σ α) := by
  -- The result is a value or a failure.
  cases result with
  | ok value => exact Leads.pure value
  | error failure => exact Leads.throw failure

/-- Two steps lead to related sessions when each of them does. -/
theorem bind {step : Render σ α} {next : α → Render σ β} (first : Leads R step)
    (second : ∀ value, Leads R (next value)) : Leads R (step >>= next) := by
  intro s result t ran
  rw [Render.bind_apply] at ran
  obtain ⟨⟨outcome, middle⟩, stepped, ended⟩ := Option.bind_eq_some_iff.mp ran
  have related := first s outcome middle stepped
  -- A failure ends both, and a value is handed on to the second step.
  cases outcome with
  | error failure =>
    cases ended
    exact related
  | ok value => exact IsTrans.trans s middle t related (second value middle result t ended)

end Leads

/-- A value as the edits have made it; what is in it may be shared itself. -/
def Value.openedIn (edits : Nat → Edits) : Value → Value
  | .shared id content => content.edited (edits id)
  | other => other

/-- A value is opened as what was written into it says. -/
theorem Render.opened_apply (value : Value) (s : Session σ) :
    (opened value : Render σ Value) s = some (.ok (value.openedIn s.edits), s) := by
  -- Only what is shared can have been written into.
  cases value <;> rfl

section Calling

/--
A relation between a session and what becomes of it when functions that answer on their own are
called: the host goes on in another state, and the calls are reported.
-/
class Session.Calling (R : Session σ → Session σ → Prop) : Prop
    extends IsPreorder (Session σ) R where
  /-- The host may go on in another state. -/
  hosting (s : Session σ) (state : σ) : R s (s.onStage (s.stage.hosting state))
  /-- A function may be called. -/
  called (s : Session σ) (f : Function) (call : Call) (answer : Except HostFailure Value) :
    R s (s.reported (.called f call answer))
  /-- A function may refuse the arguments of a call. -/
  refused (s : Session σ) (f : Function) (call : Call) :
    R s (s.reported (.refused f call.arguments.length))

/--
A relation between a session and what becomes of it when the host and the values at hand are
consulted: besides calls of functions, items are taken from streams and names are remembered.
-/
class Session.Consulting (R : Session σ → Session σ → Prop) : Prop extends Session.Calling R where
  /-- What the steps go by may change, apart from what was written into shared values. -/
  staged (s : Session σ) {stage : Stage σ} (edits : stage.edits = s.edits) : R s (s.onStage stage)

instance {R : Session σ → Session σ → Prop} [Session.Calling R] : (Law.of R).Calling where
  done := Std.Refl.refl
  next := IsTrans.trans _ _ _
  failed := fun s _ _ => Std.Refl.refl s
  hosting := Session.Calling.hosting
  called := Session.Calling.called
  refused := Session.Calling.refused

namespace Leads

variable {R : Session σ → Session σ → Prop} [Session.Calling R]

/-- To settle a value leads nowhere else. -/
theorem settled (value : Value) : Leads R (Render.settled value : Render σ Value) :=
  of_obeys (.settled value)

/-- A function may be called. -/
theorem call (host : Host σ) (f : Function) (call : Call) : Leads R (f.call host call) :=
  of_obeys (.call host f call)

/-- A path may be resolved. -/
theorem resolvePath (host : Host σ) (scope : Scope) (path : Text) :
    Leads R (scope.resolvePath host path) :=
  of_obeys (.resolvePath host scope path)

/-- A template may be looked for. -/
theorem template (host : Host σ) (scene : Scene) (name : Value) :
    Leads R (scene.template host name) :=
  of_obeys (.template host scene name)

/-- A value may be escaped. -/
theorem escape (host : Host σ) (scene : Scene) (value : Value) :
    Leads R (scene.escape host value) :=
  of_obeys (.escape host scene value)

end Leads

end Calling

section Consulting

variable {R : Session σ → Session σ → Prop} [Session.Consulting R] {α : Type}

/-- What the steps go by may be exchanged before and behind what leads to a related session. -/
theorem Session.Consulting.between {s t : Session σ} {before behind : Stage σ}
    (edits : before.edits = s.edits) (inside : R (s.onStage before) t)
    (edits' : behind.edits = t.edits) : R s (t.onStage behind) :=
  -- Each exchange leaves alone what the relation looks at.
  calc
    R s (s.onStage before) := Session.Consulting.staged s edits
    R _ t := inside
    R _ (t.onStage behind) := Session.Consulting.staged t edits'

instance : (Law.of R).Consulting where
  taken := fun s _ => Session.Consulting.staged s rfl
  remembered := fun s _ _ _ => Session.Consulting.staged s rfl
  inScope := fun inside => Session.Consulting.between rfl inside rfl
  inContext := fun _ inside => Session.Consulting.between rfl inside rfl

namespace Leads

/-- An item may be taken from a stream. -/
theorem next? (id : Nat) (items : List Value) :
    Leads R (Render.next? id items : Render σ (Option Value)) :=
  of_obeys (.next? id items)

/-- A path may be looked up. -/
theorem lookup (host : Host σ) (scope : Scope) (path : Text) :
    Leads R (scope.lookup host path) :=
  of_obeys (.lookup host scope path)

/-- What a section is over may be looked up. -/
theorem subject (host : Host σ) (scene : Scene) (name : Text) :
    Leads R (scene.subject host name) :=
  of_obeys (.subject host scene name)

/-- The value of a name may be found. -/
theorem interpolated (host : Host σ) (scene : Scene) (path : Text) :
    Leads R (scene.interpolated host path) :=
  of_obeys (.interpolated host scene path)

/-- A configuration may be read from a setting. -/
theorem ofSetting (setting : Setting) : Leads R (Config.ofSetting setting : Render σ Config) :=
  of_obeys (.ofSetting setting)

end Leads

end Consulting

instance : Session.Consulting (Session.Consulted : Session σ → Session σ → Prop) where
  hosting := fun s _ => .onStage s rfl
  called := fun s _ _ _ => .reported s rfl
  refused := fun s _ _ => .reported s rfl
  staged := fun s _ edits => .onStage s edits

/-- What is counted is the value itself, whose items are not too many for that. -/
theorem Value.counted_eq_ok_iff {value found : Value} :
    value.counted = .ok found ↔ value.isUncountable = false ∧ found = value := by
  -- Only a collection whose items cannot be counted is refused.
  unfold counted
  cases value.isUncountable with
  | true => exact ⟨nofun, nofun⟩
  | false =>
    rw [if_neg Bool.false_ne_true, Except.ok.injEq]
    exact ⟨fun same => ⟨rfl, same.symm⟩, fun same => same.2.symm⟩

/-- A section is over the value that its name stands for, unless its items cannot be counted. -/
theorem Scene.subject_of_lookup {host : Host σ} {scene : Scene} {name : Text} {value : Value}
    {s t : Session σ} (found : scene.scope.lookup host name s = some (.ok value, t)) :
    scene.subject host name s = some (value.counted, t) := by
  -- The value is counted after the lookup, which changes nothing more.
  rw [subject, Render.bind_apply, found, Option.bind_some]
  dsimp only
  cases value.counted <;> rfl

/-- What a section is over is what its name stands for, and its items can be counted. -/
theorem Scene.subject_eq_ok_iff {host : Host σ} {scene : Scene} {name : Text} {value : Value}
    {s t : Session σ} :
    scene.subject host name s = some (.ok value, t)
      ↔ scene.scope.lookup host name s = some (.ok value, t) ∧ value.isUncountable = false := by
  constructor
  · -- The value was looked up first, and it is that value whose items are counted.
    intro ran
    rw [subject, Render.bind_apply] at ran
    obtain ⟨⟨outcome, middle⟩, found, ended⟩ := Option.bind_eq_some_iff.mp ran
    cases outcome with
    | error failure => cases ended
    | ok given =>
      -- To count the items changes neither the value nor the session.
      dsimp only at ended
      cases same : given.counted with
      | error failure =>
        rw [same] at ended
        cases ended
      | ok counted =>
        rw [same] at ended
        cases ended
        obtain ⟨countable, rfl⟩ := Value.counted_eq_ok_iff.mp same
        exact ⟨found, countable⟩
  · rintro ⟨found, countable⟩
    rw [subject_of_lookup found, Value.counted_eq_ok_iff.mpr ⟨countable, rfl⟩]

/-- A step that only consults the host and the values at hand. -/
abbrev Consults {α : Type} (step : Render σ α) : Prop := Leads Session.Consulted step

namespace Consults

/-- To refuse any number of arguments is to consult the function. -/
theorem refuse {α : Type} (f : Function) (count : Nat) :
    Consults (f.refuse count : Render σ α) :=
  -- That the function is refused is reported as a call of it.
  .bind (.modify fun s => .reported s rfl) fun _ => .throw _

/-- To read a configuration from a setting is to consult the setting. -/
theorem ofSetting (setting : Setting) : Consults (Config.ofSetting setting : Render σ Config) :=
  Leads.ofSetting setting

end Consults

end Mustache
