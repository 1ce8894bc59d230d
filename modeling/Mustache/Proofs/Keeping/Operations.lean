import Mustache.Proofs.Keeping.Engine

/-! Operations that follow each other keep every stable relation that requests keep. -/

namespace Mustache

variable {σ : Type}

/-- All partials hold templates of some type. -/
theorem Value.holds_true (host : Host σ) (partials : Value) :
    partials.Holds (fun _ => True) host :=
  -- What was found is of a kind that everything is of.
  fun _ _ _ _ _ _ _ => .inr trivial

namespace Operation

variable {R : Session σ → Session σ → Prop} {host : Host σ}

/-- Whether an operation leaves the cache in its place and does not empty it. -/
def LeavesCache : Operation → Prop
  | .clearCache => False
  | .replaceCache _ => False
  | _ => True

/-- Whether all partials of an operation are of a kind. -/
def Holds (kind : Value → Prop) (host : Host σ) : Operation → Prop
  | .render _ _ partials _ => partials.Holds kind host
  | .renderTokens _ _ partials _ _ => partials.Holds kind host
  | .renderRecords _ _ partials _ _ => partials.Holds kind host
  | _ => True

/-- All partials of an operation hold templates of some type. -/
theorem holds_true (operation : Operation) (host : Host σ) :
    operation.Holds (fun _ => True) host := by
  -- Any template is of some type.
  cases operation with
  | render template view partials setting => exact partials.holds_true host
  | renderTokens tokens view partials source setting => exact partials.holds_true host
  | renderRecords records view partials source setting => exact partials.holds_true host
  | _ => trivial

/-- Parsing and rendering keep a stable relation that requests keep. -/
theorem perform_keeps (stable : Stable R) {kind : Value → Prop}
    (templates : KeepsTemplates R host kind) {operation : Operation}
    (leaves : operation.LeavesCache) (holds : operation.Holds kind host) :
    Keeps R (operation.perform host) := by
  -- Each operation is a request or a rendering, and gives its result as a product.
  cases operation with
  | parse template delimiters =>
    exact .bind (templates.request (templates.text template) delimiters) fun _ => .pure _
  | render template view partials setting =>
    exact .bind (.engine_render stable templates _ template view holds setting) fun _ => .pure _
  | renderTokens tokens view partials source setting =>
    exact .bind (.engine_renderTokens stable templates _ tokens view holds source setting)
      fun _ => .pure _
  | renderRecords records view partials source setting =>
    exact .bind (.engine_renderRecords stable templates _ records view holds source setting)
      fun _ => .pure _
  -- To clear or to replace the cache is left out by assumption.
  | clearCache => exact leaves.elim
  | replaceCache reported => exact leaves.elim

/--
Operations agree one by one with others that track them.

What is seen in related sessions has to be the same, since it is part of the outcomes.
-/
theorem performAll_tracks (seen : ∀ {s s' : Session σ}, R s s' → s.seen = s'.seen)
    {operations : List Operation} {other : Operation → Operation}
    (tracks : ∀ operation ∈ operations,
      Tracks R (operation.perform host) ((other operation).perform host))
    {s s' : Session σ} (related : R s s') :
    Option.Rel (fun run run' => run.1 = run'.1 ∧ R run.2 run'.2)
      (performAll host operations s) (performAll host (operations.map other) s') := by
  -- Each operation leaves related sessions, from which the others go on.
  induction operations generalizing s s' with
  | nil => exact .some ⟨rfl, related⟩
  | cons operation operations ih =>
    have agree := tracks operation List.mem_cons_self s s' related
    have tracks : ∀ later ∈ operations,
        Tracks R (later.perform host) ((other later).perform host) :=
      fun later member => tracks later (List.mem_cons_of_mem _ member)
    rw [List.map_cons, performAll, performAll]
    generalize operation.perform host s = first at agree ⊢
    generalize (other operation).perform host s' = first' at agree ⊢
    cases agree with
    | tooDeep => exact .none
    | @both result t t' related =>
      have others := ih tracks related
      simp only [Option.bind_some]
      generalize performAll host operations t = run at others ⊢
      generalize performAll host (operations.map other) t' = run' at others ⊢
      cases others with
      | none => exact .none
      | some same =>
        -- The outcomes of the first operation are the same, and so are the others.
        obtain ⟨outcomes, last⟩ := same
        refine .some ⟨?_, last⟩
        dsimp only
        rw [seen related, outcomes]

/-- Operations that each keep the relation have the same outcomes in related sessions. -/
theorem performAll_keeps (seen : ∀ {s s' : Session σ}, R s s' → s.seen = s'.seen)
    {operations : List Operation}
    (keeps : ∀ operation ∈ operations, Keeps R (operation.perform host)) {s s' t : Session σ}
    (related : R s s') {outcomes : List Outcome}
    (ran : performAll host operations s = some (outcomes, t)) :
    ∃ t', performAll host operations s' = some (outcomes, t') ∧ R t t' := by
  -- Each operation is performed beside itself.
  have tracks : ∀ operation ∈ operations,
      Tracks R (operation.perform host) ((id operation).perform host) := keeps
  have agree := performAll_tracks seen tracks related
  -- No operation is replaced by another one.
  rw [List.map_id, ran] at agree
  generalize performAll host operations s' = run at agree ⊢
  cases agree with
  | @some _ last same =>
    obtain ⟨rfl, related⟩ := same
    exact ⟨last.2, rfl, related⟩

end Operation

namespace Engine

/-- A new account is empty, and those that are kept go on behind it. -/
theorem begun_of_beginProfile {s begun : Session σ} {count : Nat}
    (begins : beginProfile s = some (.ok count, begun)) :
    begun = { s with profiles := {} :: s.profiles } := by
  -- There is one run, which is computed.
  cases begins
  rfl

/-- The innermost account is the one that is ended. -/
theorem endProfile_of_cons {s : Session σ} {p : Profile} {outer : List Profile}
    (account : s.profiles = p :: outer) :
    endProfile s = some (.ok (some p), { s with profiles := outer }) := by
  -- The account is told, and those around it are kept.
  rw [endProfile, Render.get_bind, account]
  rfl

end Engine

end Mustache
