import Mustache.Proofs.Laws
import Mustache.Proofs.Sound

/-!
What may come of asking for a template.

Nothing is told but what is about parsing and the cache, and what the steps of rendering go by stays
as it is.
-/

namespace Mustache

variable {σ : Type}

/-- A session from which another one is reached by asking for a template. -/
structure Session.Fetched (s t : Session σ) : Prop where
  /-- What the steps of rendering go by is the same. -/
  stage : t.stage = s.stage
  /-- Nothing has happened but parsing and uses of the cache. -/
  told : s.Told (·.isInternal = true) t

/-- The law of asking for a template, which never fails because the source of one is missing. -/
def Law.fetching : Law σ := fun s failure t => failure ≠ some .missingSource ∧ s.Fetched t

namespace Session.Fetched

/-- A session is reached from itself. -/
theorem refl (s : Session σ) : s.Fetched s := ⟨rfl, .of_journal_eq rfl⟩

/-- Another template may be asked for. -/
theorem trans {s t u : Session σ} (first : s.Fetched t) (second : t.Fetched u) : s.Fetched u :=
  ⟨second.stage.trans first.stage, first.told.trans second.told⟩

/-- A note may be made in an account. -/
theorem accounted (s : Session σ) (note : Profile → Profile) : s.Fetched (s.accounted note) where
  stage := by
    unfold Session.accounted
    split <;> rfl
  told := .accounted s note

end Session.Fetched

instance : (Law.fetching : Law σ).Sequential where
  done := fun s => ⟨(Option.some_ne_none _).symm, .refl s⟩
  next := fun first second => ⟨second.1, first.2.trans second.2⟩
  failed := fun s _ other => ⟨fun same => other (Option.some.inj same), .refl s⟩

/-- The tokens of a source may be put into the cache. -/
theorem Law.fetching_insert (source : Source) (pair : Delimiters) (tokens : List Token) :
    Obeys Law.fetching (modify fun s => { s with
      cache := s.cache.map (·.insert source pair tokens) } : Render σ Unit) :=
  -- Only the cache changes, and nothing is told.
  .modify fun _ => ⟨(Option.some_ne_none _).symm, rfl, .of_journal_eq rfl⟩

namespace Obeys

/-- An event about parsing and the cache may be reported. -/
theorem reportInternal {event : Event} (internal : event.isInternal = true) :
    Obeys Law.fetching (Render.report event : Render σ Unit) := by
  exact .modify fun s => ⟨(Option.some_ne_none _).symm, rfl, .reported s internal⟩

/-- A use of the cache may be reported. -/
theorem reportUse (cache : Cache) {event : Event} (internal : event.isInternal = true) :
    Obeys Law.fetching (Template.reportUse cache event : Render σ Unit) := by
  -- Without a listener nothing is reported.
  unfold Template.reportUse
  split
  · exact reportInternal internal
  · exact .pure ()

/-- A note may be made in an account. -/
theorem accountParse (hit : Bool) :
    Obeys Law.fetching (Render.account (·.addParse hit) : Render σ Unit) :=
  -- A note is no event.
  .modify fun s => ⟨(Option.some_ne_none _).symm, .accounted s _⟩

/-- A text may be parsed. -/
theorem parseText (t : Text) (pair : Delimiters) :
    Obeys Law.fetching (Template.parseText t pair : Render σ (List Token)) := by
  intro s result after ran
  rw [Template.parseText_apply] at ran
  cases ran
  -- Neither the result nor what is told depends on the session.
  refine ⟨?_, rfl, Template.switched t pair, rfl, fun event member => ?_⟩
  · unfold Template.parsed
    cases Template.parse t pair <;> nofun
  · -- All that is told is changes of delimiters.
    obtain ⟨other, start, rfl⟩ := Template.exists_of_mem_switched member
    rfl

/-- The cache may be asked for a source. -/
theorem requestSource (cache : Cache) (template : Value) (source : Source) (pair : Delimiters) :
    Obeys Law.fetching
      (Template.requestSource cache template source pair : Render σ (List Token)) := by
  -- A source that is known costs no parsing, only a note in the account.
  refine .bind (reportUse cache rfl) fun _ => ?_
  split
  · exact .bind (accountParse true) fun _ => .pure _
  · -- The tokens are put into the cache once the source is parsed.
    have parsed :
        Obeys Law.fetching (Template.parseSource source pair : Render σ (List Token)) := by
      cases source with
      | text t => exact parseText t pair
      | vacant kind => exact .pure _
    refine .bind (reportInternal rfl) fun _ => .bind parsed fun tokens => ?_
    exact .bind (Law.fetching_insert source pair tokens) fun _ =>
      .bind (reportUse cache rfl) fun _ => .bind (accountParse false) fun _ => .pure _

/-- No template is refused because the source of one is missing. -/
theorem refusal_ne (template : Value) : Template.refusal template ≠ .missingSource := by
  -- A template is refused for its type.
  unfold Template.refusal
  split <;> nofun

/-- A template may be refused. -/
theorem refuse (cache : Cache) (template : Value) (pair : Delimiters) :
    Obeys Law.fetching (Template.refuse cache template pair : Render σ (List Token)) := by
  -- All reasons to refuse a template are about its type.
  unfold Template.refuse
  split
  · refine .bind (reportUse cache rfl) fun _ => ?_
    split
    · exact .bind (reportInternal rfl) fun _ => .throw (refusal_ne template)
    · exact .throw (refusal_ne template)
  · exact .throw (refusal_ne template)

/-- A value may be parsed. -/
theorem parseValue (template : Value) (pair : Delimiters) :
    Obeys Law.fetching (Template.parseValue template pair : Render σ (List Token)) := by
  -- A text is parsed by the reader.
  unfold Template.parseValue
  split
  · exact parseText _ pair
  · -- A vacant value has no tokens, and any other one is refused.
    split
    · exact .pure _
    · exact .throw (refusal_ne _)

/-- A template may be asked for. -/
theorem request (template delimiters : Value) :
    Obeys Law.fetching (Template.request template delimiters : Render σ (List Token)) := by
  have accepted (value : Value) : Template.delimitersOf value ≠ .error .missingSource := by
    unfold Template.delimitersOf
    split
    · nofun
    · -- What is no pair is counted and shown to be reported.
      split
      · nofun
      · split
        · nofun
        · split <;> nofun
  refine .bind (settled delimiters) fun value => .bind (.ofExcept (accepted value)) fun pair => ?_
  refine .read fun s => ?_
  -- With a cache a template has to be a source, and without one it is parsed at once.
  split
  · split
    · exact requestSource _ template _ pair
    · exact refuse _ template pair
  · exact .bind (accountParse false) fun _ => parseValue template pair

end Obeys

end Mustache
