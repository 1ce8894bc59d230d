import Mustache.Proofs.Owned.Tracking
import Mustache.Proofs.Standalone

/-!
The text of a section is what stands between its tags, in whatever template the section is.

Section functions get these texts whatever was rendered before, and whatever a cache was filled with.
-/

namespace Mustache

variable {σ : Type}

/--
A section stands in a source around its children.

Its opening tag ends at one offset, its closing tag starts at another one, and between them there
are the children.
-/
def Token.Encloses (source : Text) (inverted : Bool) (name : Text) (span : Span)
    (children : List Token) (closeStart : Int) : Prop :=
  ∃ (pair inner : Delimiters) (start bodyStart bodyStop stop : Nat),
    span = ⟨start, bodyStart⟩ ∧ closeStart = bodyStop
      ∧ TagAt .blanks source pair (if inverted then .inverter else .opener) name start bodyStart
      ∧ Layout .blanks source pair bodyStart children bodyStop inner
      ∧ TagAt .blanks source inner .closer name bodyStop stop

/-- A section among tokens that lie in a source stands there around its children. -/
theorem Layout.encloses {source : Text} {pair last : Delimiters} {start stop : Nat}
    {tokens children : List Token} {inverted : Bool} {name : Text} {span : Span} {closeStart : Int}
    (layout : Layout .blanks source pair start tokens stop last)
    (member : .block inverted name span children closeStart ∈ tokens) :
    Token.Encloses source inverted name span children closeStart := by
  -- The layout is gone through up to the section, which stands between its two tags.
  induction layout with
  | nil => cases member
  | removed _ _ _ _ ih => exact ih member
  | text _ _ _ _ ih =>
    rcases List.mem_cons.mp member with same | later
    · cases same
    · exact ih later
  | single _ kind _ _ ih =>
    rcases List.mem_cons.mp member with rfl | later
    · cases kind
    · exact ih later
  | block opens inside closes _ _ ih =>
    rcases List.mem_cons.mp member with same | later
    · -- It is the section itself, and the layout says where its tags are.
      cases same
      exact ⟨_, _, _, _, _, _, rfl, rfl, opens, inside, closes⟩
    · exact ih later

/-- Siblings in a tree that lies in a source lie there themselves. -/
theorem Token.Siblings.layout {source : Text} {pair last : Delimiters} {start stop : Nat}
    {tree row : List Token} (siblings : Siblings tree row)
    (whole : Layout .blanks source pair start tree stop last) :
    ∃ pair' start' stop' last', Layout .blanks source pair' start' row stop' last' := by
  -- The children of a section lie between its tags.
  induction siblings with
  | top => exact ⟨_, _, _, _, whole⟩
  -- The row of siblings around the section lies in the source already.
  | inside _ member ih =>
    obtain ⟨_, _, _, _, layout⟩ := ih
    obtain ⟨_, _, _, _, _, _, -, -, -, children, -⟩ := layout.encloses member
    exact ⟨_, _, _, _, children⟩

/-- Every section of a template that is parsed stands in its source around its children. -/
theorem Template.encloses_of_parse {source : Text} {pair : Delimiters}
    {tokens row children : List Token} {inverted : Bool} {name : Text} {span : Span}
    {closeStart : Int} (parsed : parse source pair = .ok tokens)
    (siblings : Token.Siblings tokens row)
    (member : .block inverted name span children closeStart ∈ row) :
    Token.Encloses source inverted name span children closeStart := by
  obtain ⟨sound, rfl⟩ := parse_eq_ok parsed
  -- Tokens inside sections have a layout of their own in the same source.
  obtain ⟨_, whole⟩ := layout_tokens sound
  obtain ⟨_, _, _, _, layout⟩ := siblings.layout whole
  exact layout.encloses member

namespace Engine

/--
Rendering gives every section function the text of its section, whatever was done before.

It is the same as to render trees in which every section has its own text with it: the part of the
template from the end of its opening tag to the start of its closing one.
-/
theorem renderUpTo_owned (host : Host σ) {operations : List Operation}
    {outcomes : List Operation.Outcome} {first s : Session σ}
    (fresh : ∀ cache, first.cache = some cache → cache.entries = [])
    (reached : Operation.performAll host operations first = some (outcomes, s)) (depth : Nat)
    (template : Value) (view : View) (partials : Value) (setting : Setting) :
    renderUpTo depth host template view partials setting s
        = renderOwnedUpTo depth host template view partials setting s
      ∧ ∀ {source : Text} {pair : Delimiters} {tokens row children : List Token} {inverted : Bool}
          {name : Text} {span : Span} {closeStart : Int},
          Template.parse source pair = .ok tokens → Token.Siblings tokens row →
          .block inverted name span children closeStart ∈ row →
          Token.Encloses source inverted name span children closeStart := by
  -- What operations keep in an empty cache is what parsing gives.
  have sound : s.Sound := Operation.performAll_sound host
    (fun cache there => Cache.sound_of_entries_nil (fresh cache there)) reached
  refine ⟨?_, Template.encloses_of_parse⟩
  have agree := renderOwnedUpTo_tracks depth host template view partials setting s s ⟨rfl, sound⟩
  -- The two runs are only compared by what they come to.
  generalize renderUpTo depth host template view partials setting s = outcome at agree ⊢
  generalize renderOwnedUpTo depth host template view partials setting s = outcome' at agree ⊢
  cases agree with
  | tooDeep => rfl
  | both twin => rw [twin.same]

/-- A section function in an included template, which the cache has from a rendering before. -/
theorem renderUpTo_owned_again :
    let host : Host Unit := ⟨fun _ _ state => (.ok .null, state), fun _ inside state =>
      .render (.text inside) state (fun _ => false) fun _ state => .value (.text inside) state⟩
    let view : View := .value (.mapping [(.text ['f'], .function (.hosted 0 [] [] (.exactly 2)))])
    let partials : Value :=
      .mapping [(.text ['p'], .text (.ofString "b\x7b\x7b#f\x7d\x7da\x7b\x7b/f\x7d\x7d"))]
    let template : Value := .text (.ofString " \x7b\x7b>p\x7d\x7d")
    let operations : List Operation := [.render template view partials (.value .null)]
    let inside := fun (event : Event) => match event with
      | .applied _ inside => some inside
      | _ => none
    ∃ outcomes s, Operation.performAll host operations { host := () } = some (outcomes, s)
      ∧ renderUpTo 3 host template view partials (.value .null) s
        = renderOwnedUpTo 3 host template view partials (.value .null) s
      ∧ (renderUpTo 3 host template view partials (.value .null) s).map
          (fun run => run.2.journal.filterMap inside) = some [['a'], ['a']] := by
  intro host view partials template operations inside
  have runs : (Operation.performAll host operations { host := () }).isSome := by decide +kernel
  obtain ⟨⟨outcomes, s⟩, reached⟩ := Option.isSome_iff_exists.mp runs
  -- The session has no cache to begin with.
  have fresh : ∀ cache, ({ host := () } : Session Unit).cache = some cache → cache.entries = [] := by
    rintro _ ⟨⟩
    rfl
  -- Both renderings together call the function twice, with the same text.
  have shows : ((Operation.performAll host operations { host := () }).bind fun run =>
      (renderUpTo 3 host template view partials (.value .null) run.2).map
        (fun run => run.2.journal.filterMap inside)) = some [['a'], ['a']] := by
    decide +kernel
  rw [reached] at shows
  exact ⟨outcomes, s, reached, (renderUpTo_owned host fresh reached 3 template view partials _).1,
    shows⟩

end Engine

end Mustache
