import Mustache.Proofs.Consulting
import Mustache.Proofs.Laws.Rendering

/-!
Where renderings lead.

A relation between sessions that holds over each thing a rendering does on its own holds over the
whole rendering, whatever comes of it.
-/

namespace Mustache

variable {σ : Type}

section Dividing

/--
A relation between a session and what becomes of it when an object divides itself into lines:
besides what is consulted, something may be written into shared values.
-/
class Session.Dividing (R : Session σ → Session σ → Prop) : Prop extends Session.Consulting R where
  /-- What the steps go by may change. -/
  written (s : Session σ) (stage : Stage σ) : R s (s.onStage stage)

variable {R : Session σ → Session σ → Prop} [Session.Dividing R]

instance : (Law.of R).Dividing where
  written := fun s _ => Session.Dividing.written s _

/-- A template of any type may be indented. -/
theorem Leads.indentValue (host : Host σ) (template indentation : Value) (continuesText : Bool) :
    Leads R (Indentation.indentValue host template indentation continuesText) :=
  of_obeys (.indentValue host template indentation continuesText)

/-- A template may be indented as its tag asks for, or taken as it is. -/
theorem Leads.indented (host : Host σ) (line : LinePrefix) (template : Value) :
    Leads R (Scene.indented host line template) :=
  of_obeys (.indented host line template)

end Dividing

section Records

namespace Record

mutual

/-- Whether a record holds offsets where it says where a section begins and ends, also inside. -/
def hasOffsets : Record → Bool
  | .block _ _ _ stop children closeStart =>
    (boundOf stop).isOk && (boundOf closeStart).isOk && haveOffsets children
  | _ => true

/-- Whether all of some records hold offsets where they say where sections begin and end. -/
def haveOffsets : List Record → Bool
  | [] => true
  | record :: records => hasOffsets record && haveOffsets records

end

/-- Any source can be cut at what holds offsets. -/
theorem partOf_ok {start stop : Json} (starts : (boundOf start).isOk = true)
    (stops : (boundOf stop).isOk = true) (source : Text) :
    ∃ inside, partOf start stop source = .ok inside := by
  -- Both bounds have to be read before the source is cut.
  unfold partOf
  cases first : boundOf start with
  | error failure =>
    rw [first] at starts
    cases starts
  | ok start =>
    cases second : boundOf stop with
    | error failure =>
      rw [second] at stops
      cases stops
    -- With both bounds every part exists, empty perhaps.
    | ok stop => exact ⟨_, rfl⟩

end Record

namespace Token

mutual

/-- The record of a token holds offsets. -/
theorem hasOffsets_toRecord (token : Token) : token.toRecord.hasOffsets = true := by
  -- Only a section refers to offsets, and those of a token are numbers.
  cases token with
  | block inverted name span children closeStart =>
    rw [toRecord, Record.hasOffsets, haveOffsets_toRecords children]
    rfl
  | _ => rfl

/-- The records of tokens hold offsets. -/
theorem haveOffsets_toRecords (tokens : List Token) :
    Record.haveOffsets (toRecords tokens) = true := by
  -- The sections inside hold offsets too.
  cases tokens with
  | nil => rfl
  | cons token tokens =>
    rw [toRecords, Record.haveOffsets, hasOffsets_toRecord token, haveOffsets_toRecords tokens]
    rfl

end

end Token

end Records

section Rendering

/--
A relation between a session and what becomes of it when templates are rendered.

Notes in the accounts go together with the events that they are about.
-/
class Session.Rendering (R : Session σ → Session σ → Prop) : Prop extends Session.Dividing R where
  /-- A template may be asked for. -/
  requested (template delimiters : Value) :
    Leads R (Template.request template delimiters : Render σ (List Token))
  /-- The tokens of a template may begin to be written. -/
  entered (s : Session σ) (template : Text) : R s (s.reported (.entered template))
  /-- The tokens of a template may be written to their end. -/
  left (s : Session σ) : R s (s.reported .left)
  /-- There may be no template of a name. -/
  missing (s : Session σ) (name : Value) :
    R s ((s.reported (.noted (.missingTemplate name))).accounted (·.addMissing name.display))
  /-- A section function may be called. -/
  applied (s : Session σ) (f : Function) (source : Text) :
    R s ((s.accounted (·.addSectionCall)).reported (.applied f source))
  /-- A section function may refuse the arguments of a call. -/
  rejected (s : Session σ) (f : Function) :
    R s ((s.accounted (·.addSectionCall)).reported (.refused f 2))
  /-- A section function may ask for a template to be rendered. -/
  asked (s : Session σ) (template : Value) : R s (s.reported (.asked template))
  /-- The template that it asked for may be rendered. -/
  rendered (s : Session σ) (output : Text) :
    R s ((s.accounted (·.addRender output.length)).reported (.answered (.ok output)))
  /-- The template that it asked for may fail. -/
  failed (s : Session σ) (failure : Failure) : R s (s.reported (.answered (.error failure)))

/-- A session in which a rendering ends, with a note in the account if it gave an output. -/
def Session.Ends (R : Session σ → Session σ → Prop) (s t : Session σ) : Except Failure Text → Prop
  | .ok output => ∃ u, R s u ∧ t = u.accounted (·.addRender output.length)
  | .error _ => R s t

/-- A rendering that leads to related sessions, apart from the note in the account that ends it. -/
def Renders (R : Session σ → Session σ → Prop) (step : Render σ Text) : Prop :=
  ∀ s result t, step s = some (result, t) → s.Ends R t result

/-- Nested renderings that lead to related sessions. -/
structure Nested.Leading (R : Session σ → Session σ → Prop) (nested : Nested σ) : Prop where
  /-- The tokens of an included template are written. -/
  inclusion (scene : Scene) (template : Value) : Leads R (nested.inclusion scene template)
  /-- A template is rendered on its own. -/
  render (scene : Scene) (template : Value) : Renders R (nested.render scene template)

variable {R : Session σ → Session σ → Prop}

/-- By the law of leading to related sessions, a rendering ends as it does by the relation. -/
theorem Law.ends_of_iff {s t : Session σ} {result : Except Failure Text} :
    (Law.of R).Ends s t result ↔ s.Ends R t result := by
  -- Both say the same of a failure, and of an output.
  cases result <;> exact Iff.rfl

/-- Nested renderings that lead to related sessions obey the law that they do. -/
theorem Nested.Leading.lawful {nested : Nested σ} (nests : nested.Leading R) :
    nested.Lawful (Law.of R) where
  inclusion := nests.inclusion
  render := fun scene template s result t ran =>
    Law.ends_of_iff.mpr (nests.render scene template s result t ran)

/-- Nested renderings that obey the law of leading to related sessions do so. -/
theorem Nested.Lawful.leading {nested : Nested σ} (nests : nested.Lawful (Law.of R)) :
    nested.Leading R where
  inclusion := nests.inclusion
  render := fun scene template s result t ran =>
    Law.ends_of_iff.mp (nests.render scene template s result t ran)

variable [Session.Rendering R]

/-- Where a step leads does not depend on the failure that ends it. -/
theorem Law.of_blind : (Law.of R).Blind := Std.Refl.refl

instance : (Law.of R).Rendering where
  requested := Session.Rendering.requested
  vacant := fun _ delimiters _ _ blindly =>
    .bind (Session.Rendering.requested _ delimiters) fun tokens => blindly Law.of_blind tokens
  entered := Session.Rendering.entered
  left := fun inside => IsTrans.trans _ _ _ inside (Session.Rendering.left _)
  missing := Session.Rendering.missing
  applied := Session.Rendering.applied
  rejected := Session.Rendering.rejected
  asked := Session.Rendering.asked
  rendered := Session.Rendering.rendered
  caught := fun inside => IsTrans.trans _ _ _ inside (Session.Rendering.failed _ _)
  passed := fun inside => IsTrans.trans _ _ _ inside (Session.Rendering.failed _ _)

namespace Leads

variable {host : Host σ} {nested : Nested σ}

mutual

/-- A record may be written, if it holds offsets where it should. -/
theorem writeRecord (nests : nested.Leading R) (scene : Scene) (record : Record)
    (offsets : record.hasOffsets = true) : Leads R (Record.write host nested scene record) := by
  match record with
  | .text value _ _ => cases value <;> exact .pure _
  | .variable escaped path _ _ =>
    exact .bind (.ofExcept _) fun path => of_obeys (.writeVariable host scene escaped path)
  | .comment _ _ _ => exact .pure _
  | .switch _ _ _ => exact .pure _
  | .inclusion name _ _ indentation tagIndex hasText =>
    -- The margin of an included template comes from its record.
    have indents (template : Value) :
        Leads R (Record.indented host indentation tagIndex hasText template) := by
      unfold Record.indented
      split
      · exact indentValue host template _ _
      · exact .pure _
    exact of_obeys (.writeInclusion nests.lawful scene _ indents)
  | .block inverted name _ stop children closeStart =>
    -- A function may ask for the source between the two tags, whose offsets are there.
    rw [Record.hasOffsets, Bool.and_eq_true, Bool.and_eq_true] at offsets
    obtain ⟨⟨stops, closes⟩, inside⟩ := offsets
    refine .bind (.ofExcept _) fun name => .bind (subject host scene name) fun value => ?_
    split
    · split
      · exact writeRecords nests scene children inside
      · exact .pure _
    · have blind : scene.source = none → (Law.of R).Blind := fun _ => Law.of_blind
      have pushed (item : Value) :
          Leads R (Record.writeAll host nested (scene.push item) children) :=
        writeRecords nests _ children inside
      exact of_obeys (.writeSection value (writeRecords nests scene children inside) pushed fun f =>
        .writeApplied nests.lawful blind f (Record.partOf_ok stops closes))

/-- A row of records may be written, if they hold offsets where they should. -/
theorem writeRecords (nests : nested.Leading R) (scene : Scene) (records : List Record)
    (offsets : Record.haveOffsets records = true) :
    Leads R (Record.writeAll host nested scene records) := by
  -- The offsets of a row are those of its records.
  match records with
  | [] => exact .pure _
  | record :: records =>
    rw [Record.haveOffsets, Bool.and_eq_true] at offsets
    exact .bind (writeRecord nests scene record offsets.1) fun _ =>
      .bind (writeRecords nests scene records offsets.2) fun _ => .pure _

end

end Leads

end Rendering

end Mustache
