import Mustache.Proofs.Operation

/-!
Relations between sessions that the steps of rendering keep.

A step that is taken in two related sessions has one result in both, and leaves related sessions.
More generally one step may track another one, which does the same in related sessions.
-/

namespace Mustache

variable {σ : Type}

/-- What the steps of rendering go by: all of a session but its cache, its accounts and its journal. -/
structure Stage (σ : Type) where
  /-- The state of the host. -/
  host : σ
  /-- How many items each stream has handed out. -/
  taken : Nat → Nat
  /-- What was written into each list and mapping that is shared. -/
  edits : Nat → Edits
  /-- The names that were looked up in the scope at hand. -/
  memo : Memo
  /-- The contexts that are kept. -/
  contexts : Nat → Context

namespace Stage

/-- The same with other names known. -/
def knowing (stage : Stage σ) (memo : Memo) : Stage σ := { stage with memo := memo }

/-- The same with a context that remembers the names known, and with other names known. -/
def leaving (stage : Stage σ) (id : Nat) (context : Context) (memo : Memo) : Stage σ :=
  { stage with
    memo := memo
    contexts := fun n => if n = id then { context with memo := stage.memo } else stage.contexts n }

end Stage

namespace Session

/-- What the steps of rendering go by in a session. -/
def stage (s : Session σ) : Stage σ := ⟨s.host, s.taken, s.edits, s.memo, s.contexts⟩

/-- The session in which the steps of rendering go by something else. -/
def onStage (s : Session σ) (stage : Stage σ) : Session σ :=
  { s with
    host := stage.host
    taken := stage.taken
    edits := stage.edits
    memo := stage.memo
    contexts := stage.contexts }

/-- The session after an event. -/
def reported (s : Session σ) (event : Event) : Session σ :=
  { s with journal := event :: s.journal }

/-- The session after a note in the innermost account, if one is kept. -/
def accounted (s : Session σ) (note : Profile → Profile) : Session σ :=
  match s.profiles with
  | [] => s
  | innermost :: outer => { s with profiles := note innermost :: outer }

end Session

/-- Whether a note says nothing about how many templates were parsed or found in the cache. -/
def Profile.Neutral (note : Profile → Profile) : Prop :=
  ∀ p, (note p).parses = p.parses ∧ (note p).cacheHits = p.cacheHits

/-- A relation that holds on between sessions in which the same happens. -/
structure Stable (R : Session σ → Session σ → Prop) : Prop where
  /-- The steps of rendering go by the same in both sessions. -/
  stage {s s' : Session σ} : R s s' → s.stage = s'.stage
  /-- They may go on by something else. -/
  onStage {s s' : Session σ} (stage : Stage σ) : R s s' → R (s.onStage stage) (s'.onStage stage)
  /-- The same event may happen. -/
  reported {s s' : Session σ} {event : Event} (shows : event.isInternal = false) :
    R s s' → R (s.reported event) (s'.reported event)
  /-- The same note may be made. -/
  accounted {s s' : Session σ} {note : Profile → Profile} (neutral : Profile.Neutral note) :
    R s s' → R (s.accounted note) (s'.accounted note)

/-- Where related sessions go by the same, they may go on by the same change of it. -/
theorem Stable.change {R : Session σ → Session σ → Prop} (stable : Stable R) {s s' : Session σ}
    (related : R s s') (change : Stage σ → Stage σ) :
    R (s.onStage (change s.stage)) (s'.onStage (change s'.stage)) := by
  -- What they go by is the same before the change.
  rw [← stable.stage related]
  exact stable.onStage _ related

/-- Outcomes that are the same but for the sessions, which are related. -/
inductive Agree (R : Session σ → Session σ → Prop) {α : Type} :
    Option (Except Failure α × Session σ) → Option (Except Failure α × Session σ) → Prop
  /-- There is no outcome. -/
  | tooDeep : Agree R none none
  /-- There is the same result or failure. -/
  | both {result : Except Failure α} {s s' : Session σ} (related : R s s') :
      Agree R (some (result, s)) (some (result, s'))

/-- Outcomes agree after a change of the sessions that keeps them related. -/
theorem Agree.map {R : Session σ → Session σ → Prop} {α : Type}
    {outcome outcome' : Option (Except Failure α × Session σ)} (agree : Agree R outcome outcome')
    {change change' : Session σ → Session σ}
    (keeps : ∀ {s s'}, R s s' → R (change s) (change' s')) :
    Agree R (outcome.map fun o => (o.1, change o.2)) (outcome'.map fun o => (o.1, change' o.2)) := by
  -- The results are the same, if there are any.
  cases agree with
  | tooDeep => exact .tooDeep
  | both related => exact .both (keeps related)

/-- Two steps whose outcomes agree when they are taken in related sessions. -/
def Tracks (R : Session σ → Session σ → Prop) {α : Type} (step step' : Render σ α) : Prop :=
  ∀ s s' : Session σ, R s s' → Agree R (step s) (step' s')

/-- A step whose outcomes agree in related sessions. -/
def Keeps (R : Session σ → Session σ → Prop) {α : Type} (step : Render σ α) : Prop :=
  ∀ s s' : Session σ, R s s' → Agree R (step s) (step s')

/-- All results of a step have a property. -/
def Gives {α : Type} (step : Render σ α) (P : α → Prop) : Prop :=
  ∀ (s t : Session σ) (value : α), step s = some (.ok value, t) → P value

/-- One step after the other is the second one from where the first one ends. -/
theorem Render.bind_apply {α β : Type} (step : Render σ α) (next : α → Render σ β)
    (s : Session σ) :
    (step >>= next) s =
      (step s).bind fun outcome =>
        match outcome.1 with
        | .ok value => next value outcome.2
        | .error failure => some (.error failure, outcome.2) := by
  -- Failures and missing outcomes are handed on.
  show (StateT.bind _ _ s : Option _) = _
  simp only [StateT.bind, bind]
  cases step s with
  | none => rfl
  | some outcome =>
    obtain ⟨result, t⟩ := outcome
    cases result <;> rfl

/-- All results of two steps have a property that all results of the second one have. -/
theorem Gives.bind {α β : Type} {step : Render σ α} {next : α → Render σ β} {P : β → Prop}
    (second : ∀ value, Gives (next value) P) : Gives (step >>= next) P := by
  intro s t value gives
  rw [Render.bind_apply] at gives
  cases stepped : step s with
  | none =>
    rw [stepped] at gives
    cases gives
  | some outcome =>
    rw [stepped] at gives
    -- Without an outcome of the first step there is no result at all.
    obtain ⟨result, after⟩ := outcome
    -- Only a value is handed on to the second step.
    cases result with
    | error failure => cases gives
    | ok found => exact second found after t value gives

/-- To look at a session and go by what it is is to go on from it. -/
theorem Render.get_bind {α : Type} (next : Session σ → Render σ α) (s : Session σ) :
    (get >>= next) s = next s s := rfl

/-- After a result that needs no session one goes on with it. -/
theorem Render.ok_bind {α β : Type} (value : α) (next : α → Render σ β) :
    Render.ofExcept (.ok value) >>= next = next value := rfl

/-- A scope of its own begins with nothing known, and then what was known before is known again. -/
theorem Render.inNewScope_apply {α : Type} (action : Render σ α) (s : Session σ) :
    Render.inNewScope action s = (action (s.onStage (s.stage.knowing []))).map fun o =>
      (o.1, o.2.onStage (o.2.stage.knowing s.memo)) := by
  have begun : { s with memo := [] } = s.onStage (s.stage.knowing []) := rfl
  rw [inNewScope, begun]
  -- Only the memory of names is replaced.
  cases action (s.onStage (s.stage.knowing [])) <;> rfl

/-- The scope of a context begins with what it remembers, which it goes on to remember. -/
theorem Render.inContext_apply {α : Type} (id : Nat) (action : Scope → Render σ α)
    (s : Session σ) :
    Render.inContext id action s =
      (action (s.contexts id).scope (s.onStage (s.stage.knowing (s.contexts id).memo))).map fun o =>
        (o.1, o.2.onStage (o.2.stage.leaving id (s.contexts id) s.memo)) := by
  -- To enter the context replaces what is remembered, and nothing else.
  have begun : { s with memo := (s.contexts id).memo } =
    s.onStage (s.stage.knowing (s.contexts id).memo) := rfl
  rw [inContext]
  dsimp only
  rw [begun]
  -- The memory of names and the context are replaced.
  cases action (s.contexts id).scope (s.onStage (s.stage.knowing (s.contexts id).memo)) <;> rfl

/-- A template is entered before and left after its tokens are written. -/
theorem Render.inTemplate_apply {α : Type} (template : Text) (action : Render σ α)
    (s : Session σ) :
    Render.inTemplate template action s = (action (s.reported (.entered template))).map fun o =>
      (o.1, o.2.reported .left) := by
  have begun : { s with journal := .entered template :: s.journal } =
    s.reported (.entered template) := rfl
  rw [inTemplate, begun]
  -- Only two events are added.
  cases action (s.reported (.entered template)) <;> rfl

namespace Tracks

variable {R : Session σ → Session σ → Prop} {α β : Type}

/-- A step that tracks itself keeps the relation. -/
theorem keeps {step : Render σ α} (tracks : Tracks R step step) : Keeps R step := tracks

/-- Steps go on tracking each other where the second ones do for all that the first ones give. -/
theorem bind_of_gives {step step' : Render σ α} {next next' : α → Render σ β} {P : α → Prop}
    (first : Tracks R step step') (gives : Gives step P)
    (second : ∀ value, P value → Tracks R (next value) (next' value)) :
    Tracks R (step >>= next) (step' >>= next') := by
  intro s s' related
  rw [Render.bind_apply, Render.bind_apply]
  -- What the first steps come to is kept by name, since the second ones depend on it.
  have agree := first s s' related
  generalize after : step s = outcome at agree
  generalize step' s' = outcome' at agree
  cases agree with
  | tooDeep => exact .tooDeep
  | @both result t t' related =>
    -- A failure ends both, and a value is handed on to the second steps.
    cases result with
    | error failure => exact .both related
    | ok value => exact second value (gives s t value after) t t' related

/-- Steps go on tracking each other where the second ones do. -/
theorem bind {step step' : Render σ α} {next next' : α → Render σ β} (first : Tracks R step step')
    (second : ∀ value, Tracks R (next value) (next' value)) :
    Tracks R (step >>= next) (step' >>= next') :=
  -- Nothing has to be known about what the first step gives.
  bind_of_gives first (fun _ _ _ _ => trivial) fun value _ => second value

/-- Where one looks at related sessions, the next steps go by what is the same in both. -/
theorem read {next next' : Session σ → Render σ β} (stable : Stable R)
    (same : ∀ s s' : Session σ, s.stage = s'.stage → next' s = next' s')
    (second : ∀ s, Tracks R (next s) (next' s)) : Tracks R (get >>= next) (get >>= next') := by
  intro s s' related
  -- The next step is the same one in both sessions.
  rw [Render.get_bind, Render.get_bind, ← same s s' (stable.stage related)]
  exact second s s s' related

/-- What tracks each other does so in scopes of their own. -/
theorem inNewScope {action action' : Render σ α} (stable : Stable R)
    (inside : Tracks R action action') :
    Tracks R (Render.inNewScope action) (Render.inNewScope action') := by
  intro s s' related
  have memo : s.memo = s'.memo := congrArg Stage.memo (stable.stage related)
  rw [Render.inNewScope_apply, Render.inNewScope_apply, ← memo]
  -- What was known before is known again afterwards.
  exact (inside _ _ (stable.change related (·.knowing []))).map fun related =>
    stable.change related (·.knowing s.memo)

/-- What tracks each other in every scope does so in that of a context. -/
theorem inContext {action action' : Scope → Render σ α} (stable : Stable R) (id : Nat)
    (inside : ∀ scope, Tracks R (action scope) (action' scope)) :
    Tracks R (Render.inContext id action) (Render.inContext id action') := by
  intro s s' related
  -- What the context remembers is on the stage, which both sessions share.
  have memo : s.memo = s'.memo := congrArg Stage.memo (stable.stage related)
  have contexts : s.contexts = s'.contexts := congrArg Stage.contexts (stable.stage related)
  rw [Render.inContext_apply, Render.inContext_apply, ← memo, ← contexts]
  generalize s.contexts id = context
  -- The context remembers the same names in both sessions.
  exact (inside context.scope _ _ (stable.change related (·.knowing context.memo))).map
    fun related => stable.change related (·.leaving id context s.memo)

/-- What tracks each other does so while a template is being written. -/
theorem inTemplate {action action' : Render σ α} (stable : Stable R) (template : Text)
    (inside : Tracks R action action') :
    Tracks R (Render.inTemplate template action) (Render.inTemplate template action') := by
  intro s s' related
  have entered : Event.isInternal (.entered template) = false := rfl
  have left : Event.isInternal .left = false := rfl
  rw [Render.inTemplate_apply, Render.inTemplate_apply]
  -- The template is left in both sessions.
  exact (inside _ _ (stable.reported entered related)).map (stable.reported left)

end Tracks

namespace Keeps

variable {R : Session σ → Session σ → Prop} {α β : Type}

/-- To give a value keeps every relation. -/
theorem pure (value : α) : Keeps R (Pure.pure value : Render σ α) :=
  -- Neither session changes.
  fun _ _ related => .both related

/-- To fail keeps every relation. -/
theorem throw (failure : Failure) : Keeps R (throw failure : Render σ α) :=
  fun _ _ related => .both related

/-- To have no outcome keeps every relation. -/
theorem tooDeep : Keeps R (Render.tooDeep : Render σ α) :=
  -- There are no outcomes that could be compared.
  fun _ _ _ => .tooDeep

/-- A result that needs no session keeps every relation. -/
theorem ofExcept (result : Except Failure α) : Keeps R (Render.ofExcept result : Render σ α) := by
  -- The result is a value or a failure.
  cases result with
  | ok value => exact Keeps.pure value
  | error failure => exact Keeps.throw failure

/-- Two steps keep a relation when each of them does. -/
theorem bind {step : Render σ α} {next : α → Render σ β} (first : Keeps R step)
    (second : ∀ value, Keeps R (next value)) : Keeps R (step >>= next) :=
  Tracks.bind first second

/-- To look at a session keeps a relation when the next step goes by what is the same in both. -/
theorem read {next : Session σ → Render σ β} (stable : Stable R)
    (same : ∀ s s' : Session σ, s.stage = s'.stage → next s = next s')
    (second : ∀ s, Keeps R (next s)) : Keeps R (get >>= next) :=
  Tracks.read stable same second

/-- A step that changes nothing but what the steps go by keeps every stable relation. -/
theorem ofStage {step : Render σ α} (stable : Stable R)
    (run : Stage σ → Except Failure α × Stage σ)
    (same : ∀ s, step s = some ((run s.stage).1, s.onStage (run s.stage).2)) : Keeps R step := by
  intro s s' related
  -- It runs in the same way in both sessions.
  rw [same, same, ← stable.stage related]
  exact .both (stable.onStage _ related)

/-- To report an event keeps every stable relation. -/
theorem report {event : Event} (stable : Stable R) (shows : event.isInternal = false) :
    Keeps R (Render.report event : Render σ Unit) :=
  -- A stable relation takes in events that show.
  fun _ _ related => .both (stable.reported shows related)

/-- To make a neutral note keeps every stable relation. -/
theorem account {note : Profile → Profile} (stable : Stable R)
    (neutral : Profile.Neutral note) : Keeps R (Render.account note : Render σ Unit) :=
  -- A stable relation takes in notes that are neutral.
  fun _ _ related => .both (stable.accounted neutral related)

/-- To open a value keeps every stable relation. -/
theorem opened (stable : Stable R) (value : Value) : Keeps R (Render.opened value : Render σ Value) := by
  -- Only what was written into the value is looked at.
  cases value with
  | shared id content =>
    exact ofStage stable (fun stage => (.ok (content.edited (stage.edits id)), stage)) fun _ => rfl
  | _ => exact Keeps.pure _

/-- To settle a value keeps every stable relation. -/
theorem settled (stable : Stable R) (value : Value) :
    Keeps R (Render.settled value : Render σ Value) :=
  -- A value is settled by what has been written into it, and that is on the stage.
  ofStage stable (fun stage => (.ok (value.settled stage.edits), stage)) fun _ => rfl

/-- To take an item from a stream keeps every stable relation. -/
theorem next? (stable : Stable R) (id : Nat) (items : List Value) :
    Keeps R (Render.next? id items : Render σ (Option Value)) := by
  -- What is taken depends on nothing but the stage.
  refine ofStage stable (fun stage => (.ok items[stage.taken id]?,
    items[stage.taken id]?.elim stage fun _ =>
      { stage with taken := fun n => if n = id then stage.taken id + 1 else stage.taken n })) fun s => ?_
  have place : s.stage.taken id = s.taken id := rfl
  rw [Render.next?, Render.get_bind, place]
  -- There is an item or not.
  cases items[s.taken id]? <;> rfl

/-- To take all items from a stream keeps every stable relation. -/
theorem drain (stable : Stable R) (id : Nat) (items : List Value) :
    Keeps R (Render.drain id items : Render σ (List Value)) :=
  -- How far the stream was taken is on the stage.
  ofStage stable (fun stage => (.ok (items.drop (stage.taken id)), { stage with
    taken := fun n => if n = id then max (stage.taken id) items.length else stage.taken n }))
    fun _ => rfl

/-- To take a value apart keeps every stable relation. -/
theorem unpack (stable : Stable R) (value : Value) :
    Keeps R (Render.unpack value : Render σ (List Value)) := by
  -- A stream is drained, and any other value has items or not.
  refine bind (opened stable value) fun found => ?_
  split
  · exact drain stable _ _
  · split
    · exact Keeps.pure _
    · exact Keeps.throw _

end Keeps

end Mustache
