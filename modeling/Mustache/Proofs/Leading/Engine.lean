import Mustache.Proofs.Leading

/-! Where renderings of templates, tokens and records lead, and where operations do. -/

namespace Mustache

variable {σ : Type} {R : Session σ → Session σ → Prop} [Session.Rendering R] {host : Host σ}
  {nested : Nested σ}

/-- The output of records may be made, if they hold offsets where they should. -/
theorem Leads.renderRecords (nests : nested.Leading R) (scene : Scene) {records : List Record}
    (offsets : Record.haveOffsets records = true) :
    Leads R (Record.render host nested scene records) :=
  -- What the chunks come to needs no session.
  .bind (writeRecords nests scene records offsets) fun _ => .ofExcept _

/-- Templates may be nested to any depth. -/
theorem Nested.upTo_leading (host : Host σ) (depth : Nat) :
    (Nested.upTo host depth).Leading R :=
  -- The law of leading to related sessions holds at every depth.
  (Nested.upTo_lawful host depth).leading

namespace Engine

/-- A rendering of a template leads to related sessions, apart from the note that ends it. -/
theorem renders_renderUpTo (depth : Nat) (host : Host σ) (template : Value) (view : View)
    (partials : Value) (setting : Setting) :
    Renders R (renderUpTo depth host template view partials setting) := by
  intro s result t ran
  -- To lead to related sessions is a law, which every rendering obeys.
  have concludes : Concludes (Law.of R) (renderUpTo depth host template view partials setting) :=
    concludes_renderUpTo depth host template view partials setting
  exact Law.ends_of_iff.mp (concludes s result t ran)

/-- A rendering of tokens leads to related sessions. -/
theorem leads_renderTokensUpTo (depth : Nat) (host : Host σ) (tokens : List Token) (view : View)
    (partials : Value) (source : Option Text) (setting : Setting) :
    Leads R (renderTokensUpTo depth host tokens view partials source setting) :=
  -- Whether there is a source makes no difference to where it leads.
  .bind (.ofSetting setting) fun _ => .of_obeys <| .within fun _ =>
    .renderTokens (Nested.upTo_lawful host depth) (fun _ => Law.of_blind) tokens

/-- A rendering of records leads to related sessions, if they hold offsets where they should. -/
theorem leads_renderRecordsUpTo (depth : Nat) (host : Host σ) {records : List Record}
    (offsets : Record.haveOffsets records = true) (view : View) (partials : Value)
    (source : Option Text) (setting : Setting) :
    Leads R (renderRecordsUpTo depth host records view partials source setting) :=
  .bind (.ofSetting setting) fun _ => .of_obeys <| .within fun _ =>
    Leads.renderRecords (Nested.upTo_leading host depth) _ offsets

end Engine

end Mustache
