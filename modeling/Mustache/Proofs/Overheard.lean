import Mustache.Proofs.Keeping.Operations
import Mustache.Proofs.Keeping.Requests
import Mustache.Proofs.Serving

/-!
Sessions in which all uses of the cache are told.

Nothing else is different there, so what is told can be used to count what happens to the templates
in a session that tells nothing of it.
-/

namespace Mustache

variable {σ : Type}

/-- An event that tells of a use of the cache is not about what a template does. -/
theorem Event.isInternal_of_isUse {event : Event} (use : event.isUse = true) :
    event.isInternal = true := by
  -- All uses of the cache are among the internal events.
  cases event <;> first | rfl | cases use

/-- The same cache, whose uses are reported. -/
def Cache.overheard (cache : Cache) : Cache := { cache with reported := true }

/-- The same session, in which the uses of the cache are reported. -/
def Session.overheard (s : Session σ) : Session σ :=
  { s with cache := s.cache.map Cache.overheard }

/-- Two sessions that are the same but for the uses of the cache, all of which the second tells. -/
structure Session.Overheard (s s' : Session σ) : Prop where
  /-- The steps of rendering go by the same. -/
  stage : s.stage = s'.stage
  /-- The accounts are the same. -/
  profiles : s.profiles = s'.profiles
  /-- The caches keep the same. -/
  cache : s'.cache = s.cache.map Cache.overheard
  /-- Apart from uses of the cache the same has happened. -/
  journal : s.journal.filter (!·.isUse) = s'.journal.filter (!·.isUse)

namespace Session.Overheard

/-- The same is seen, since no use of the cache is. -/
theorem seen {s s' : Session σ} (heard : s.Overheard s') : s.seen = s'.seen := by
  -- A use of the cache is internal, so that leaving it out first makes no difference.
  have seen (events : List Event) : events.filter (!·.isInternal)
      = (events.filter (!·.isUse)).filter (!·.isInternal) := by
    rw [List.filter_filter]
    refine List.filter_congr fun event _ => ?_
    have internal : event.isUse = true → event.isInternal = true := Event.isInternal_of_isUse
    cases use : event.isUse <;> simp_all
  unfold Session.seen
  rw [seen, heard.journal, ← seen]

/-- Any event may be reported in both sessions. -/
theorem reported {s s' : Session σ} (heard : s.Overheard s') (event : Event) :
    (s.reported event).Overheard (s'.reported event) where
  stage := heard.stage
  profiles := heard.profiles
  cache := heard.cache
  journal := by
    simp only [Session.reported, List.filter_cons]
    rw [heard.journal]

/-- Any note may be made in both sessions. -/
theorem accounted {s s' : Session σ} (heard : s.Overheard s') (note : Profile → Profile) :
    (s.accounted note).Overheard (s'.accounted note) := by
  unfold Session.accounted
  rw [← heard.profiles]
  -- There is an account in both sessions or in neither.
  cases s.profiles with
  | nil => exact heard
  | cons innermost outer => exact ⟨heard.stage, rfl, heard.cache, heard.journal⟩

/-- The same goes on in both sessions. -/
theorem stable : Stable (Overheard : Session σ → Session σ → Prop) where
  stage := Overheard.stage
  onStage := fun _ heard => ⟨rfl, heard.profiles, heard.cache, heard.journal⟩
  reported := fun _ heard => heard.reported _
  accounted := fun _ heard => heard.accounted _

/-- A use of the cache may be told in the second session only. -/
theorem tracks_reportUse (cache : Cache) {event : Event} (use : event.isUse = true) :
    Tracks Overheard (Template.reportUse cache event : Render σ Unit)
      (Template.reportUse cache.overheard event) := by
  -- In the second session somebody listens.
  intro s s' heard
  have told : (Template.reportUse cache.overheard event : Render σ Unit)
      = Render.report event := rfl
  rw [told]
  unfold Template.reportUse
  split
  · exact .both (heard.reported event)
  · -- The event is left out when the journals are compared.
    refine .both ⟨heard.stage, heard.profiles, heard.cache, ?_⟩
    simpa [use] using heard.journal

/-- Whatever is told, noted and cached in the first session, the same is in the second one. -/
theorem thorough : Thorough (Overheard : Session σ → Session σ → Prop) Cache.overheard where
  toStable := stable
  -- The caches are equal, so that they find and take in the same.
  told := fun event heard => heard.reported event
  noted := fun note heard => heard.accounted note
  caches := fun heard => heard.cache
  cached := fun _ heard => ⟨heard.stage, heard.profiles, rfl, heard.journal⟩
  find? := fun _ _ _ => rfl
  insert := fun _ _ _ _ => rfl
  uses := tracks_reportUse

end Session.Overheard

namespace Operation

/-- Parsing and rendering do the same where all uses of the cache are told. -/
theorem perform_overheard (host : Host σ) {operation : Operation}
    (leaves : operation.LeavesCache) :
    Keeps Session.Overheard (operation.perform host) :=
  -- Both sessions differ in nothing that an operation goes by.
  perform_keeps Session.Overheard.stable (Session.Overheard.thorough.templates host) leaves
    (operation.holds_true host)

/-- Operations have the same outcomes where all uses of the cache are told. -/
theorem performAll_overheard (host : Host σ) {operations : List Operation}
    (leave : ∀ operation ∈ operations, operation.LeavesCache) {s t : Session σ}
    {outcomes : List Outcome} (ran : performAll host operations s = some (outcomes, t)) :
    ∃ heard, performAll host operations s.overheard = some (outcomes, heard)
      ∧ t.Overheard heard := by
  -- Every operation keeps the two sessions alike, and they begin alike.
  have keeps : ∀ operation ∈ operations, Keeps Session.Overheard (operation.perform host) :=
    fun operation member => perform_overheard host (leave operation member)
  have begun : s.Overheard s.overheard := ⟨rfl, rfl, rfl, rfl⟩
  exact performAll_keeps Session.Overheard.seen keeps begun ran

end Operation

end Mustache
