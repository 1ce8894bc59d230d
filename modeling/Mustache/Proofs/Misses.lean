import Mustache.Proofs.Course.Rendering
import Mustache.Proofs.Keys
import Mustache.Proofs.Succeeding

/-!
Misses are no failures.

Where there is nothing but plain data and templates that parse, a rendering gives a text: names that
nothing knows and templates that are missing write nothing. It only fails where a number or a range
is too large.
Templates that are included must still parse when they are indented, which takes delimiters without
blanks, and tags that name what they refer to on a single line.
-/

namespace Mustache

variable {σ : Type} {moderate : Prop} {edits : Nat → Edits} {pair : Delimiters}
  {entries : List (Value × Value)}

/-- Parts of the output without the one that is no text can be put together. -/
theorem Chunk.exists_joinAll {chunks : List Chunk} (texts : .foreign ∉ chunks) :
    ∃ output, joinAll chunks = some output := by
  -- Every part but the foreign one has a text.
  induction chunks with
  | nil => exact ⟨[], rfl⟩
  | cons chunk rest ih =>
    rw [List.mem_cons, not_or] at texts
    obtain ⟨output, joined⟩ := ih texts.2
    cases chunk with
    | literal t | value t => exact ⟨t ++ output, by rw [joinAll, joined]; rfl⟩
    | foreign => exact absurd rfl texts.1

/-- A scene of plain data, templates from some entries, and no escape but that of this library. -/
structure Scene.Plain (moderate : Prop) (edits : Nat → Edits) (pair : Delimiters)
    (entries : List (Value × Value)) (scene : Scene) : Prop where
  /-- All values in scope are plain. -/
  views : ∀ view ∈ scene.scope.views, view.Fits moderate
  /-- Templates are taken from the entries. -/
  partials : scene.partials = .mapping entries
  /-- No escape is configured. -/
  escape : scene.config.escape = .null
  /-- The delimiters are accepted. -/
  delimiters : Template.delimitersOf (scene.config.delimiters.settled edits) = .ok pair

namespace Scene.Plain

variable {scene : Scene}

/-- A plain value may be pushed. -/
theorem push (plain : scene.Plain moderate edits pair entries) {view : Value}
    (fits : view.Fits moderate) : (scene.push view).Plain moderate edits pair entries where
  views := by
    intro other member
    -- It is in front of the values that are in scope already.
    rcases List.mem_cons.mp member with rfl | outer
    · exact fits
    · exact plain.views other outer
  partials := plain.partials
  escape := plain.escape
  delimiters := plain.delimiters

/-- The source does not matter. -/
theorem within (plain : scene.Plain moderate edits pair entries) (source : Option Text) :
    Scene.Plain moderate edits pair entries { scene with source := source } :=
  ⟨plain.views, plain.partials, plain.escape, plain.delimiters⟩

/-- A template is an entry, or there is none. -/
theorem template_eq (plain : scene.Plain moderate edits pair entries) (host : Host σ) (name : Text) :
    (scene.template host (.text name) : Render σ Value)
      = pure ((Value.named? entries name).getD .null) :=
  -- The partials are a mapping, which is looked through and never asked.
  Scene.template_of_mapping plain.partials host name

end Scene.Plain

/-- A plain value is escaped, or it cannot be shown. -/
theorem Value.Fits.escapedText {value : Value} (fits : value.Fits moderate) :
    Conclusive moderate (fun _ => True) (Scene.escapedText value) := by
  -- To escape what is shown cannot fail any more.
  unfold Scene.escapedText
  split
  · exact fits.shown
  · exact fits.shown
  · exact fits.shown.map fun _ _ => trivial

/-- A step that writes nothing but texts wherever plain data can be rendered. -/
abbrev Writes (moderate : Prop) (edits : Nat → Edits) (step : Render σ (List Chunk)) : Prop :=
  Copes moderate edits step (.foreign ∉ ·)

namespace Writes

/-- To write nothing is to write texts. -/
theorem nothing : Writes moderate edits (pure [] : Render σ (List Chunk)) := .pure List.not_mem_nil

/-- To write one text after the other is to write texts. -/
theorem append {first second : Render σ (List Chunk)} (writes : Writes moderate edits first)
    (writes' : Writes moderate edits second) :
    Writes moderate edits (do let chunks ← first; let others ← second; pure (chunks ++ others)) := by
  -- A part that is no text would be among those of one side.
  refine .bind writes fun chunks texts => .bind writes' fun others texts' => .pure ?_
  rw [List.mem_append, not_or]
  exact ⟨texts, texts'⟩

/-- Texts are written for each item where they are for every one. -/
theorem each {items : List Value} {write : Value → Render σ (List Chunk)}
    (writes : ∀ item ∈ items, Writes moderate edits (write item)) :
    Writes moderate edits (writeEach items write) := by
  -- The items are written in turn, each one as was assumed.
  induction items with
  | nil => exact nothing
  | cons item rest ih =>
    exact append (writes item List.mem_cons_self) (ih fun other member =>
      writes other (List.mem_cons_of_mem item member))

/-- Texts are written for integers in equal steps where they are for each of these. -/
theorem steps {write : Value → Render σ (List Chunk)} {start step : Int} {count : Nat}
    (writes : ∀ place : Nat, place < count →
      Writes moderate edits (write (.int (start + place * step)))) :
    Writes moderate edits (writeSteps start step write count) := by
  -- The induction is on how many integers are left.
  induction count generalizing start with
  | zero => exact nothing
  | succ count ih =>
    refine append ?_ (ih fun place inside => ?_)
    · have first := writes 0 (Nat.zero_lt_succ count)
      rwa [Int.natCast_zero, Int.zero_mul, Int.add_zero] at first
    · -- From the second integer on each place is one less.
      have later := writes (place + 1) (Nat.succ_lt_succ inside)
      rwa [Int.natCast_succ, Int.add_mul, Int.one_mul, Int.add_comm (place * step),
        ← Int.add_assoc] at later

/-- What a name writes is text. -/
theorem ofName (host : Host σ) {scene : Scene} (plain : scene.Plain moderate edits pair entries)
    (escaped : Bool) {path : Text} (legible : moderate → Text.isLegible path = true) :
    Writes moderate edits (scene.writeVariable host escaped path) := by
  have found : Copes moderate edits (scene.interpolated host path) (Value.Fits moderate) := by
    refine .bind (.lookup host plain.views legible) fun value fits => ?_
    -- Plain data is no function that could be called.
    split
    · cases fits.plain
    · exact .pure fits
  -- The escape of this library gives texts.
  have escapes {value : Value} (fits : value.Fits moderate) :
      Copes moderate edits (scene.escape host value) (· ≠ .foreign) := by
    rw [Scene.escape, plain.escape]
    exact .bind (.ofExcept fits.escapedText) fun _ _ => .pure nofun
  refine .bind found fun value fits => ?_
  split
  · exact nothing
  · refine .bind (.settled fits) fun value fits => ?_
    split
    · refine .bind (escapes fits) fun chunk proper => .pure ?_
      exact fun member => proper (List.mem_singleton.mp member).symm
    · exact .bind (.ofExcept fits.shown) fun _ _ => .pure (by simp)

/-- What a section is over is plain. -/
theorem ofSubject (host : Host σ) {scene : Scene} (plain : scene.Plain moderate edits pair entries)
    {name : Text} (legible : moderate → Text.isLegible name = true) :
    Copes moderate edits (scene.subject host name) (Value.Fits moderate) :=
  -- The items of a plain value that fits can be counted.
  .bind (.lookup host plain.views legible) fun _ fits => .ofExcept fits.counted

/-- What a section over plain data writes is text if what is inside is. -/
theorem ofSection {scene : Scene} (plain : scene.Plain moderate edits pair entries) {value : Value}
    (fits : value.Fits moderate) {inside : Scene → Render σ (List Chunk)}
    {applied : Function → Render σ (List Chunk)}
    (writes : ∀ inner : Scene, inner.Plain moderate edits pair entries → Writes moderate edits (inside inner)) :
    Writes moderate edits (scene.writeSection value inside applied) := by
  -- Whatever a section is over, it is written in scenes of plain data.
  have within (item : Value) (fits : item.Fits moderate) :
      Writes moderate edits (Render.inNewScope (inside (scene.push item))) :=
    .inNewScope (writes _ (plain.push fits))
  unfold Scene.writeSection
  dsimp only
  split
  · exact nothing
  · split
    · cases fits.plain
    · exact steps fun place inside => within _ (fits.of_lt_rangeLength inside)
    · cases fits.plain
    · exact writes scene plain
    · cases fits.plain
    · -- A collection is taken item by item, and anything else as a whole.
      split
      · rename_i items collection
        exact each fun item member => within item (fits.of_mem_collection collection member)
      · exact within _ fits

mutual

/-- What a token writes is text if what its inclusions write is. -/
theorem token (host : Host σ) (nested : Nested σ) {scene : Scene}
    (plain : scene.Plain moderate edits pair entries) (token : Token)
    (legible : moderate → ∀ reference ∈ token.references, reference.isLegible = true)
    (included : ∀ name, .template name ∈ token.references → ∀ (inner : Scene) (line : LinePrefix),
      inner.Plain moderate edits pair entries →
      Writes moderate edits (inner.writeInclusion host nested (.text name) (Scene.indented host line))) :
    Writes moderate edits (Token.write host nested scene token) := by
  -- The cases are the kinds of tokens; only names, inclusions and sections can miss a text.
  match token with
  | .text value span => exact .pure (by simp)
  | .variable escaped path span =>
    exact ofName host plain escaped fun size => legible size (.value path) List.mem_cons_self
  | .comment body span => exact nothing
  | .switch body span => exact nothing
  | .inclusion name span line => exact included name List.mem_cons_self scene line plain
  | .block inverted name span children closeStart =>
    have inside (inner : Scene) (plain : inner.Plain moderate edits pair entries) :
        Writes moderate edits (Token.writeAll host nested inner children) :=
      tokens host nested plain children
        (fun size reference member => legible size reference (List.mem_cons_of_mem _ member))
        fun name member => included name (List.mem_cons_of_mem _ member)
    refine .bind (ofSubject host plain fun size => legible size (.value name) List.mem_cons_self)
      fun value fits => ?_
    -- An inverted section is written in the scene as it is.
    split
    · split
      · exact inside scene plain
      · exact nothing
    · exact ofSection plain fits inside

/-- What a row of tokens writes is text if what their inclusions write is. -/
theorem tokens (host : Host σ) (nested : Nested σ) {scene : Scene}
    (plain : scene.Plain moderate edits pair entries) (tokens : List Token)
    (legible : moderate → ∀ reference ∈ Token.referencesAll tokens, reference.isLegible = true)
    (included : ∀ name, .template name ∈ Token.referencesAll tokens →
      ∀ (inner : Scene) (line : LinePrefix), inner.Plain moderate edits pair entries →
      Writes moderate edits (inner.writeInclusion host nested (.text name) (Scene.indented host line))) :
    Writes moderate edits (Token.writeAll host nested scene tokens) := by
  -- The references of a row are those of its first token and those of the rest.
  match tokens with
  | [] => exact nothing
  | first :: rest =>
    exact append
      (token host nested plain first
        (fun size reference member => legible size reference (List.mem_append_left _ member))
        fun name member => included name (List.mem_append_left _ member))
      (Writes.tokens host nested plain rest
        (fun size reference member => legible size reference (List.mem_append_right _ member))
        fun name member => included name (List.mem_append_right _ member))

end

end Writes

/-- Whether a template parses, and its tags refer to something on a single line each. -/
def Template.Clean (pair : Delimiters) (source : Text) : Prop :=
  ∃ tokens, parse source pair = .ok tokens
    ∧ ∀ reference ∈ Token.referencesAll tokens, '\n' ∉ reference.body

/-- Whether all that the tags of a template refer to can be looked for. -/
def Template.Legible (pair : Delimiters) (source : Text) : Prop :=
  ∀ tokens, parse source pair = .ok tokens →
    ∀ reference ∈ Token.referencesAll tokens, reference.isLegible = true

/-- A clean template refers to the same when it is included, be it indented or not. -/
theorem Template.Clean.indented (solid : pair.Solid) {source : Text} (clean : Clean pair source)
    (host : Host σ) (line : LinePrefix) :
    ∃ source' tokens tokens', (Scene.indented host line (.text source) : Render σ Value)
        = pure (.text source')
      ∧ parse source pair = .ok tokens ∧ parse source' pair = .ok tokens'
      ∧ Token.referencesAll tokens' = Token.referencesAll tokens := by
  obtain ⟨tokens, parses, single⟩ := clean
  unfold Scene.indented
  -- Indented or not, the template parses, and its references get no margins.
  split
  · obtain ⟨tokens', parses', same⟩ := parse_indent solid parses line.indentation line.hasText
    exact ⟨_, tokens, tokens', rfl, parses, parses', references_of_indent same single⟩
  · exact ⟨source, tokens, tokens, rfl, parses, parses, rfl⟩

namespace Writes

/-- A template that there is none of writes nothing. -/
theorem missing (host : Host σ) (nested : Nested σ) {scene : Scene}
    (plain : scene.Plain moderate edits pair entries) {name : Text}
    (unknown : Value.named? entries name = none) (indent : Value → Render σ Value) :
    Writes moderate edits (scene.writeInclusion host nested (.text name) indent) := by
  -- The name is reported, and written down in the account.
  rw [Scene.writeInclusion, plain.template_eq, unknown, Option.getD_none, pure_bind]
  exact .bind (.report _) fun _ _ => .bind (.account _) fun _ _ => nothing

/-- A template that is included writes texts if its own tokens do when it is indented. -/
theorem included (host : Host σ) (nested : Nested σ) {scene : Scene}
    (plain : scene.Plain moderate edits pair entries) {name source source' : Text}
    (known : Value.named? entries name = some (.text source)) {indent : Value → Render σ Value}
    (indented : indent (.text source) = pure (.text source'))
    (writes : Writes moderate edits (nested.inclusion scene (.text source'))) :
    Writes moderate edits (scene.writeInclusion host nested (.text name) indent) := by
  -- The template is found without a question to the host, and stays as it is told.
  rw [Scene.writeInclusion, plain.template_eq, known, Option.getD_some, pure_bind]
  change Writes moderate edits (indent (.text source) >>= _)
  rw [indented, pure_bind]
  exact writes

/-- A row of tokens writes texts if the templates that there are and that it includes do. -/
theorem ofKnown (host : Host σ) (nested : Nested σ)
    (texts : ∀ entry ∈ entries, ∃ source, entry.2 = .text source) {scene : Scene}
    (plain : scene.Plain moderate edits pair entries) {tokens : List Token}
    (legible : moderate → ∀ reference ∈ Token.referencesAll tokens, reference.isLegible = true)
    (known : ∀ name source, .template name ∈ Token.referencesAll tokens →
      Value.named? entries name = some (.text source) →
      ∀ (inner : Scene) (line : LinePrefix), inner.Plain moderate edits pair entries →
        Writes moderate edits (inner.writeInclusion host nested (.text name) (Scene.indented host line))) :
    Writes moderate edits (Token.writeAll host nested scene tokens) := by
  refine Writes.tokens host nested plain tokens legible fun name member inner line plain => ?_
  -- A template that is missing writes nothing.
  cases found : Value.named? entries name with
  | none => exact missing host nested plain found _
  | some template =>
    -- Every template is a text, which is among the known ones.
    obtain ⟨source, rfl⟩ := texts _ (Value.mem_of_named? found)
    exact known name source member found inner line plain

/-- A row of tokens writes texts if templates may be nested as deep as they nest. -/
theorem upTo (host : Host σ) (solid : pair.Solid)
    (clean : ∀ entry ∈ entries, ∃ source, entry.2 = .text source ∧ Template.Clean pair source)
    (clear : moderate → ∀ entry ∈ entries, ∀ source, entry.2 = .text source →
      Template.Legible pair source)
    {depth : Nat} {scene : Scene} (plain : scene.Plain moderate edits pair entries)
    {tokens : List Token}
    (legible : moderate → ∀ reference ∈ Token.referencesAll tokens, reference.isLegible = true)
    (nest : Token.NestWithin entries pair depth tokens) :
    Writes moderate edits (Token.writeAll host (Nested.upTo host depth) scene tokens) := by
  have texts : ∀ entry ∈ entries, ∃ source, entry.2 = .text source := fun entry member =>
    (clean entry member).imp fun _ => And.left
  -- The induction is on how deep templates may be nested.
  induction depth generalizing scene tokens with
  | zero =>
    refine ofKnown host _ texts plain legible fun name source member known => ?_
    -- Nothing is included that there is.
    exact absurd known (nest name source member)
  | succ depth ih =>
    refine ofKnown host _ texts plain legible fun name source member known inner line plain => ?_
    have among := Value.mem_of_named? known
    obtain ⟨t, same, proper⟩ := clean _ among
    cases same
    obtain ⟨source', inside, inside', indented, parses, parses', references⟩ :=
      proper.indented solid host line
    refine included host _ plain known indented ?_
    -- The template is parsed as it is indented, and refers to the same as before.
    have nest' : Token.NestWithin entries pair depth inside' :=
      .congr references (nest name source member known inside parses)
    have legible' (size : moderate) :
        ∀ reference ∈ Token.referencesAll inside', reference.isLegible = true :=
      references ▸ clear size _ among source rfl inside parses
    refine .bind (.request parses' plain.delimiters) fun found same => ?_
    rw [same]
    exact .inTemplate source' (ih (plain.within (some source')) legible' nest')

end Writes

/-- Where texts are written by some tokens they can be put together. -/
theorem Copes.render {host : Host σ} {nested : Nested σ} {scene : Scene} {tokens : List Token}
    (writes : Writes moderate edits (Token.writeAll host nested scene tokens)) :
    Copes moderate edits (Scene.render host nested scene tokens) fun _ => True := by
  -- None of the parts that are written is foreign.
  refine .bind writes fun chunks texts => .ofExcept ?_
  obtain ⟨output, joined⟩ := Chunk.exists_joinAll texts
  rw [Chunk.output, joined]
  trivial

/--
Where a view is plain data, the partials are texts that parse and include each other without cycles,
and no escape is configured, a template that parses gives a text, however many of its names are
misses.

The delimiters are free of blanks, what the tags of partials refer to stands on a single line, and
templates may be nested more deeply than there are partials.

A rendering without a text fails because something is too large, and only then: because of a number
in the view or an index of more digits than a numeral may have, or because of a range of more items
than can be counted.
-/
theorem Engine.renderUpTo_succeeds (host : Host σ) (solid : pair.Solid) {source : Text}
    {tokens : List Token} (parses : Template.parse source pair = .ok tokens)
    {view : Value} (plain : view.Plain)
    (clean : ∀ entry ∈ entries, ∃ t, entry.2 = .text t ∧ Template.Clean pair t)
    (acyclic : ∀ name, ¬ Relation.TransGen (Template.Refers entries pair) name name)
    {depth : Nat} (deep : entries.length < depth) {setting : Setting} {config : Config}
    {s configured : Session σ} (sound : s.Sound)
    (settles : Config.ofSetting setting s = some (.ok config, configured))
    (unset : config.escape = .null)
    (accepted : Template.delimitersOf (config.delimiters.settled s.edits) = .ok pair) :
    ∃ result after, renderUpTo depth host (.text source) (.value view) (.mapping entries) setting s
        = some (result, after)
      ∧ (∀ failure, result = .error failure → failure.isOfSize = true)
      ∧ (view.isModerate = true → Template.Legible pair source →
        (∀ entry ∈ entries, ∀ t, entry.2 = .text t → Template.Legible pair t) →
        ∃ output, result = .ok output) := by
  obtain ⟨depth, rfl⟩ : ∃ inner, depth = inner + 1 := ⟨depth - 1, by omega⟩
  have nest : Token.NestWithin entries pair depth tokens :=
    Token.nestWithin_of_acyclic acyclic (Nat.lt_succ_iff.mp deep) tokens
  -- All that is given is moderate if the view is and all references can be looked for.
  let moderate : Prop := view.isModerate = true ∧ Template.Legible pair source
    ∧ ∀ entry ∈ entries, ∀ t, entry.2 = .text t → Template.Legible pair t
  have fits : view.Fits moderate := ⟨plain, And.left⟩
  have scene : Scene.Plain moderate s.edits pair entries
      ⟨⟨view, []⟩, .mapping entries, config, none⟩ :=
    ⟨fun other member => List.mem_singleton.mp member ▸ fits, rfl, unset, accepted⟩
  -- What is written can be put together.
  have renders : Copes moderate s.edits ((Nested.upTo host (depth + 1)).render
      ⟨⟨view, []⟩, .mapping entries, config, none⟩ (.text source)) fun _ => True := by
    refine .bind (.request parses accepted) fun found same => ?_
    rw [same]
    have writes := Writes.upTo host solid clean (fun size => size.2.2)
      (scene.within (some source)) (fun size => size.2.1 tokens parses) nest
    exact .bind (.inTemplate source (.render writes)) fun output _ =>
      .bind (.account _) fun _ _ => .pure trivial
  -- To settle the configuration leaves the cache and the shared values alone.
  have consulted := Consults.ofSetting setting s _ _ settles
  obtain ⟨result, after, ran, -, -, -, concludes⟩ :=
    renders.inNewScope_of_sound consulted.edits (sound.of_cache_eq consulted.cache)
  refine ⟨result, after, ?_, ?_, fun size legible clear => ?_⟩
  · rw [renderUpTo, Render.bind_apply, settles]
    exact ran
  · rintro failure rfl
    exact concludes.2
  · obtain ⟨output, same, -⟩ := concludes.exists_ok ⟨size, legible, clear⟩
    exact ⟨output, same⟩

/--
An indented partial that includes another one, which includes one that there is none of, beside
indices out of bounds, names that nothing knows, and sections over them.
-/
theorem Engine.renderUpTo_succeeds_misses :
    let host : Host Unit := ⟨fun _ _ state => (.ok .null, state), fun _ _ state =>
      .value .null state⟩
    let outer := Text.ofString "\x7b\x7bx.y\x7d\x7d\n\x7b\x7b>r\x7d\x7d"
    let inner := Text.ofString "\x7b\x7b^n\x7d\x7d\x7b\x7b>q\x7d\x7d\x7b\x7b/n\x7d\x7d"
    let entries : List (Value × Value) := [(.text ['p'], .text outer), (.text ['r'], .text inner)]
    let view : Value := .mapping [(.text ['a'], .list [.int 1, .null])]
    let source := Text.ofString
      "\x7b\x7b#a.0.b\x7d\x7d\x7b\x7b/a.0.b\x7d\x7d\n \x7b\x7b>p\x7d\x7d\n\x7b\x7ba.-7\x7d\x7d"
    ∃ output after, renderUpTo 3 host (.text source) (.value view) (.mapping entries)
      (.value .null) { host := () } = some (.ok output, after) := by
  intro host outer inner entries view source
  -- The partials are parsed as well, none of which has a line break in a tag.
  have parses : Template.parse source Delimiters.default = .ok [
      .block false ['a', '.', '0', '.', 'b'] ⟨0, 10⟩ [] 10,
      .inclusion ['p'] ⟨22, 28⟩ ⟨[' '], 0, false⟩,
      .variable true ['a', '.', '-', '7'] ⟨29, 37⟩] := by decide +kernel
  have parses_outer : Template.parse outer Delimiters.default = .ok [
      .variable true ['x', '.', 'y'] ⟨0, 7⟩, .text ['\n'] ⟨7, 8⟩,
      .inclusion ['r'] ⟨8, 14⟩ ⟨[], 0, false⟩] := by decide +kernel
  have parses_inner : Template.parse inner Delimiters.default = .ok [
      .block true ['n'] ⟨0, 6⟩ [.inclusion ['q'] ⟨6, 12⟩ ⟨[], 1, false⟩] 12] := by decide +kernel
  have plain : view.Plain := by
    refine .mapping fun entry member => ?_
    rw [List.mem_singleton.mp member]
    refine .list fun item member => ?_
    rcases List.mem_pair.mp member with rfl | rfl
    · exact .int 1
    · exact .null
  have clean : ∀ entry ∈ entries, ∃ t, entry.2 = .text t ∧ Template.Clean Delimiters.default t := by
    intro entry member
    rcases List.mem_pair.mp member with rfl | rfl
    · exact ⟨outer, rfl, _, parses_outer, by decide⟩
    · exact ⟨inner, rfl, _, parses_inner, by decide⟩
  have legible : Template.Legible Delimiters.default source := by
    intro tokens same
    cases same.symm.trans parses
    decide
  have clear : ∀ entry ∈ entries, ∀ t, entry.2 = .text t → Template.Legible Delimiters.default t := by
    intro entry member t same tokens parsed
    rcases List.mem_pair.mp member with rfl | rfl
    · cases same
      cases parsed.symm.trans parses_outer
      decide
    · cases same
      cases parsed.symm.trans parses_inner
      decide
  let rank : Text → Nat := fun t => if t = ['p'] then 0 else if t = ['r'] then 1 else 2
  have later : ∀ name other, Template.Refers entries Delimiters.default name other →
      rank name < rank other := by
    rintro name other ⟨t, tokens, known, parses, member⟩
    -- The first partial refers to the second one, which refers to none of them.
    rcases List.mem_pair.mp (Value.mem_of_named? known) with same | same
    · cases same
      cases parses.symm.trans parses_outer
      have refers : other = ['r'] := by simpa [Token.referencesAll, Token.references] using member
      rw [refers]
      decide
    · cases same
      cases parses.symm.trans parses_inner
      have refers : other = ['q'] := by simpa [Token.referencesAll, Token.references] using member
      rw [refers]
      decide
  have sound : ({ host := () } : Session Unit).Sound := by
    rintro _ ⟨⟩
    exact Cache.sound_of_entries_nil rfl
  have deep : entries.length < 3 := by decide
  have settles : Config.ofSetting (.value .null) ({ host := () } : Session Unit)
      = some (.ok {}, { host := () }) := rfl
  -- The view holds one small number, so that there is nothing too long to be shown.
  obtain ⟨result, after, ran, -, gives⟩ := renderUpTo_succeeds host (by decide) parses plain clean
    (Template.acyclic_of_rank rank later) deep sound settles rfl rfl
  obtain ⟨output, rfl⟩ := gives (by decide) legible clear
  exact ⟨output, after, ran⟩

end Mustache
