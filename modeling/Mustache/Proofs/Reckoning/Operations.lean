import Mustache.Proofs.Reckoning.Session

/-!
The account of operations is exact.

An account that is kept while templates are parsed and rendered says what has happened and what the
cache has gained, however deep templates are nested and whatever fails.
-/

namespace Mustache

variable {σ : Type}

/-- The account of a rendering is exact, also of the output that it gives. -/
theorem Session.Reckoned.ended {s t : Session σ} {output : Text}
    (ends : s.Ends (Reckoned []) t (.ok output)) : s.Reckoned [output] t := by
  obtain ⟨u, inside, rfl⟩ := ends
  -- The note at the end counts one rendering and the length of its output.
  let work : Work :=
    { account := { renders := 1, outputLength := output.length }, outputs := [output] }
  have length : work.account.outputLength = (work.allOutputs.map List.length).sum := by
    simp [work, Work.allOutputs]
  have exact (told : Bool) : work.Exact told := ⟨rfl, length, rfl, fun _ => rfl, rfl, rfl⟩
  -- It is the last of the work, behind all that was done inside.
  exact inside.append (.noted u work (fun p => p.addRender_eq output.length) rfl exact)

namespace Operation

/-- Whether the records of an operation hold offsets where they say where sections begin and end. -/
def HasOffsets : Operation → Prop
  | .renderRecords records _ _ _ _ => Record.haveOffsets records = true
  | _ => True

/-- The output of an operation that renders a template, if it gives one. -/
def rendered : Operation → Except Failure Product → List Text
  | .render _ _ _ _, .ok (.output output) => [output]
  | _, _ => []

/-- The outputs of all operations that render templates, as far as they give any. -/
def allRendered (operations : List Operation) (outcomes : List Outcome) : List Text :=
  (operations.zip outcomes).flatMap fun done => done.1.rendered done.2.result

/-- The account of an operation is exact. -/
theorem perform_reckoned (host : Host σ) {operation : Operation} (leaves : operation.LeavesCache)
    (offsets : operation.HasOffsets) {s t : Session σ} {result : Except Failure Product}
    (ran : operation.perform host s = some (result, t)) :
    s.Reckoned (operation.rendered result) t := by
  -- Operations that change the cache are excluded, and renderings of templates note their output.
  cases operation with
  | parse template delimiters =>
    have leads : Leads (Session.Reckoned []) ((Operation.parse template delimiters).perform host) :=
      .bind (Template.leads_request _ _) fun _ => .pure _
    exact leads s result t ran
  | render template view partials setting =>
    rw [perform, Render.bind_apply] at ran
    obtain ⟨⟨outcome, after⟩, rendered, ended⟩ := Option.bind_eq_some_iff.mp ran
    have ends : s.Ends (Session.Reckoned []) after outcome :=
      Engine.renders_renderUpTo _ host template view partials setting s outcome after rendered
    cases outcome with
    | error failure =>
      cases ended
      exact ends
    | ok output =>
      cases ended
      exact .ended ends
  | renderTokens tokens view partials source setting =>
    have leads : Leads (Session.Reckoned [])
        ((Operation.renderTokens tokens view partials source setting).perform host) :=
      .bind (Engine.leads_renderTokensUpTo _ host tokens view partials source setting)
        fun _ => .pure _
    exact leads s result t ran
  | renderRecords records view partials source setting =>
    have leads : Leads (Session.Reckoned [])
        ((Operation.renderRecords records view partials source setting).perform host) :=
      .bind (Engine.leads_renderRecordsUpTo _ host offsets view partials source setting)
        fun _ => .pure _
    exact leads s result t ran
  | clearCache => exact leaves.elim
  | replaceCache reported => exact leaves.elim

/-- The account of operations that follow each other is exact. -/
theorem performAll_reckoned (host : Host σ) {operations : List Operation}
    (leave : ∀ operation ∈ operations, operation.LeavesCache)
    (offsets : ∀ operation ∈ operations, operation.HasOffsets) {s t : Session σ}
    {outcomes : List Outcome} (ran : performAll host operations s = some (outcomes, t)) :
    s.Reckoned (allRendered operations outcomes) t := by
  -- The induction is on the operations, whose accounts are added up.
  induction operations generalizing s outcomes with
  | nil =>
    cases ran
    exact Session.Passed.reckoned (Std.Refl.refl _)
  | cons operation operations ih =>
    obtain ⟨⟨result, middle⟩, first, followed⟩ := Option.bind_eq_some_iff.mp ran
    obtain ⟨⟨others, last⟩, behind, same⟩ := Option.map_eq_some_iff.mp followed
    cases same
    -- What the operations behind the first one do is added to what that one does.
    have reckoned := perform_reckoned host (leave operation List.mem_cons_self)
      (offsets operation List.mem_cons_self) first
    have reckoned' := ih (fun later member => leave later (List.mem_cons_of_mem _ member))
      (fun later member => offsets later (List.mem_cons_of_mem _ member)) behind
    exact reckoned.append reckoned'

/-- Operations that are accounted for come to an end in a session whose account is their work. -/
theorem performAll_worked (host : Host σ) {operations : List Operation}
    (leave : ∀ operation ∈ operations, operation.LeavesCache)
    (offsets : ∀ operation ∈ operations, operation.HasOffsets) {s after : Session σ} {cache : Cache}
    (there : s.cache = some cache) {outer : List Profile} (begun : s.profiles = {} :: outer)
    {outcomes : List Outcome} (ran : performAll host operations s = some (outcomes, after)) :
    ∃ work : Work, work.outputs = allRendered operations outcomes ∧ s.Worked cache work after
      ∧ after.profiles = work.account :: outer := by
  -- The account began empty, so that it is that of the work.
  obtain ⟨work, outputs, worked⟩ := performAll_reckoned host leave offsets ran cache there
  refine ⟨work, outputs, worked, ?_⟩
  rw [worked.profiles, begun, List.modifyHead_cons, Profile.empty_add]

/--
The account that is kept over operations which leave the cache in its place is exact.

What the cache gains is counted once, and what could be had of it is counted as often as that is
told in the same course of operations where all uses of the cache are told.
All tokens hold offsets, and so do their records: only records with other values in these fields are
left out, where a call of a section function is counted that does not come about.
-/
theorem performAll_accounted (host : Host σ) {operations : List Operation}
    (leave : ∀ operation ∈ operations, operation.LeavesCache)
    (offsets : ∀ operation ∈ operations, operation.HasOffsets) {s begun after : Session σ}
    {cache : Cache} (there : s.cache = some cache) {count : Nat}
    (begins : Engine.beginProfile s = some (.ok count, begun)) {outcomes : List Outcome}
    (ran : performAll host operations begun = some (outcomes, after)) :
    ∃ (account : Profile) (ended heard : Session σ) (events told : List Event)
      (gained : List Cache.Entry),
      Engine.endProfile after = some (.ok (some account), ended)
        ∧ after.journal = events ++ s.journal
        ∧ after.cache = some { cache with entries := cache.entries ++ gained }
        ∧ (∀ entry ∈ gained, cache.find? entry.1.1 entry.1.2 = none)
        ∧ (gained.map (·.1)).Nodup
        ∧ account.parses = gained.length
        ∧ performAll host operations begun.overheard = some (outcomes, heard)
        ∧ after.Overheard heard
        ∧ heard.journal = told ++ s.journal
        ∧ account.parses + account.cacheHits = told.countP Event.isServed
        ∧ (let outputs := allRendered operations outcomes ++ events.filterMap Event.output?
          account.renders = outputs.length
            ∧ account.outputLength = (outputs.map List.length).sum)
        ∧ account.sectionCalls = events.countP Event.isSectionCall
        ∧ account.missing = events.reverse.filterMap Event.missing? := by
  obtain rfl := Engine.begun_of_beginProfile begins
  have begun : Session.cache { s with profiles := {} :: s.profiles } = some cache := there
  obtain ⟨work, outputs, worked, profiles⟩ := performAll_worked host leave offsets begun rfl ran
  obtain ⟨_, kept, gains⟩ := worked.kept
  -- The same operations have the same outcomes where all uses of the cache are told.
  obtain ⟨heard, ran', same⟩ := performAll_overheard host leave ran
  have begun' : (Session.overheard { s with profiles := {} :: s.profiles }).cache
      = some cache.overheard := congrArg (Option.map Cache.overheard) there
  obtain ⟨work', -, worked', profiles'⟩ := performAll_worked host leave offsets begun' rfl ran'
  -- The accounts are the same, and in the second session all requests are told.
  have accounts : work.account = work'.account := by
    have accounts := same.profiles
    rw [profiles, profiles'] at accounts
    exact (List.cons.inj accounts).1
  have requests := worked'.exact.requests rfl
  rw [← accounts] at requests
  have all : work.allOutputs
      = allRendered operations outcomes ++ work.events.filterMap Event.output? := by
    rw [Work.allOutputs, outputs]
  have exact := worked.exact
  refine ⟨work.account, _, heard, work.events, work'.events, work.gained,
    Engine.endProfile_of_cons profiles, worked.journal, ?_, gains.new, gains.nodup, exact.parses,
    ran', same, worked'.journal, requests, ?_, exact.sectionCalls, exact.missing⟩
  · rw [kept, gains.entries]
  · rw [← all]
    exact ⟨exact.renders, exact.outputLength⟩

/-- A section function renders its section twice, where a template is missing. -/
theorem performAll_accounted_section :
    let host : Host Unit :=
      { answer := fun _ _ state => (.ok .null, state)
        script := fun _ source state => .render (.text source) state (fun _ => false)
          fun result state => .value (result.toOption.elim .null .text) state }
    let view : View := .value (.mapping [(.text ['f'], .function (.hosted 0 [] [] (.exactly 2)))])
    let template : Value :=
      .text (.ofString "\x7b\x7b#f\x7d\x7da\x7b\x7b>q\x7d\x7d\x7b\x7b/f\x7d\x7d")
    let render := Operation.render template view .null (.value .null)
    let operations := [render, render, .parse (.ofString "\x7b\x7b") .null]
    let s : Session Unit := { host := () }
    let begun : Session Unit := { s with profiles := [{}] }
    (∀ operation ∈ operations, operation.LeavesCache)
      ∧ (∀ operation ∈ operations, operation.HasOffsets)
      ∧ Engine.beginProfile s = some (.ok 1, begun)
      ∧ ∃ outcomes after account ended, performAll host operations begun = some (outcomes, after)
        ∧ Engine.endProfile after = some (.ok (some account), ended)
        ∧ account = ⟨4, 4, 2, 2, 2, [['q'], ['q']]⟩
        ∧ ∃ heard told, performAll host operations begun.overheard = some (outcomes, heard)
          ∧ heard.journal = told ∧ told.countP Event.isServed = 4 := by
  intro host view template render operations s begun
  have leave : ∀ operation ∈ operations, operation.LeavesCache := by
    simp [operations, render, LeavesCache]
  have offsets : ∀ operation ∈ operations, operation.HasOffsets := by
    simp [operations, render, HasOffsets]
  have begins : Engine.beginProfile s = some (.ok 1, begun) := rfl
  -- Four renderings, two calls, and the missing name twice.
  have profiles : (performAll host operations begun).map (·.2.profiles)
      = some [⟨4, 4, 2, 2, 2, [['q'], ['q']]⟩] := by decide +kernel
  obtain ⟨⟨outcomes, after⟩, ran, kept⟩ := Option.map_eq_some_iff.mp profiles
  obtain ⟨account, ended, heard, _, told, _, ends, _, _, _, _, _, ran', _, journal, requests, _⟩ :=
    performAll_accounted host leave offsets rfl begins ran
  -- The account is the one that was kept until the end.
  have same : account = ⟨4, 4, 2, 2, 2, [['q'], ['q']]⟩ := by
    rw [Engine.endProfile_of_cons kept] at ends
    cases ends
    rfl
  refine ⟨leave, offsets, begins, outcomes, after, account, ended, ran, ends, same, heard, told,
    ran', ?_, ?_⟩
  · rw [journal]
    exact List.append_nil _
  · rw [← requests, same]
    rfl

end Operation

end Mustache
