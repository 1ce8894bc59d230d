import Mustache.Proofs.Mirrored.Rendering

/-!
Entries of a view that no template asks for.

Such an entry makes no difference to a rendering, whatever its value is.
-/

namespace Mustache

variable {σ : Type}

namespace Value

/-- The same key goes by the same name. -/
theorem isNamed_of_sameKey {left right : Value} (same : left.sameKey right = true) (name : Text) :
    left.isNamed name = right.isNamed name := by
  -- A text is the same key as nothing but itself, and nothing else goes by a name.
  cases left with
  | text t =>
    cases right with
    | text t' =>
      obtain rfl : t = t' := by simpa [sameKey] using same
      rfl
    | _ => simp [sameKey, sameNumber, asInteger] at same
  | _ =>
    -- No key other than a text goes by any name.
    cases right with
    | text t' => simp [sameKey, sameNumber, asInteger] at same
    | _ => rfl

/-- What is put under a key that does not go by a name is not found under this name. -/
theorem named?_insert {key : Value} {name : Text} (other : key.isNamed name = false) (value : Value)
    (entries : List (Value × Value)) :
    named? (insert entries key value) name = named? entries name := by
  -- The new entry replaces one with the same key, which has another name too, or stands last.
  induction entries with
  | nil => simp [insert, named?, other]
  | cons entry rest ih =>
    obtain ⟨before, old⟩ := entry
    unfold insert
    split
    · rename_i same
      have unnamed : before.isNamed name = false := by rw [isNamed_of_sameKey same, other]
      simp [named?, unnamed]
    · -- The first entry is another one, and the new one comes somewhere behind it.
      unfold named? at ih ⊢
      cases named : before.isNamed name <;> simp [named, ih]

/-- A mapping answers as before to a name that the key of one more entry does not go by. -/
theorem member_insert {key : Value} {name : Text} (other : key.isNamed name = false)
    (value : Value) (entries : List (Value × Value)) :
    (Value.mapping (insert entries key value)).member name
      = (Value.mapping entries).member name := by
  -- A mapping answers with the entry that goes by the name.
  rw [member, member, named?_insert other]

/-- A mapping into which texts were written answers to names as before. -/
theorem member_edited (edits : Edits) (entries : List (Value × Value)) (name : Text) :
    ((Value.mapping entries).edited edits).member name = (Value.mapping entries).member name := by
  -- To write texts into a mapping is to insert them one by one.
  have edited : (Value.mapping entries).edited edits = .mapping
      (edits.foldl (fun all edit => insert all (.int edit.1) (.text edit.2)) entries) := by
    cases edits <;> rfl
  rw [edited]
  clear edited
  -- The places of the texts are integers, which do not go by any name.
  induction edits generalizing entries with
  | nil => rfl
  | cons edit rest ih =>
    rw [List.foldl_cons, ih, member_insert rfl]

/-- A value with an entry, new or changed, if it is a mapping. -/
def withEntry (view key value : Value) : Value :=
  match view with
  | .mapping entries => .mapping (insert entries key value)
  | .shared id (.mapping entries) => .shared id (.mapping (insert entries key value))
  | other => other

/-- With an inert entry what is inert stays so. -/
theorem Inert.withEntry {view value : Value} (inert : view.Inert) (key : Value)
    (new : value.Inert) : (view.withEntry key value).Inert := by
  unfold Value.withEntry
  split
  · exact .mapping (.insert (fun _ => inert.of_mem_mapping) key new)
  · -- The entries are those of the mapping that is shared.
    have shared := inert.part (List.mem_singleton_self _)
    refine .of_parts nofun rfl (List.forall_mem_singleton.mpr ?_)
    exact .mapping (.insert (fun _ => shared.of_mem_mapping) key new)
  · exact inert

/-- With an entry under a key that does not go by a name a view answers to this name as before. -/
theorem resolve_withEntry {view value : Value} (inert : view.Inert) {key : Value}
    (new : value.Inert) (host : Host σ) {name : Text} (other : key.isNamed name = false)
    (s : Session σ) :
    (view.withEntry key value).resolve host name s = view.resolve host name s := by
  rw [(inert.withEntry key new).resolve_apply, inert.resolve_apply]
  -- What was written into a shared mapping does not concern the new entry.
  have same : ((view.withEntry key value).openedIn s.edits).member name
      = (view.openedIn s.edits).member name := by
    unfold withEntry
    split
    · exact member_insert other value _
    · refine (member_edited _ _ _).trans (.trans ?_ (member_edited _ _ _).symm)
      exact member_insert other value _
    · rfl
  rw [same]

end Value

namespace Template

/-- Whether no name in a template is a single dot or begins with a key. -/
def Avoids (key : Value) (pair : Delimiters) (template : Text) : Prop :=
  ∀ tokens, parse template pair = .ok tokens → ∀ path, .value path ∈ Token.referencesAll tokens →
    path ≠ ['.'] ∧ key.isNamed (Text.pieces '.' path).1 = false

/--
The texts that a rendering comes to: they can be reached from its template and, if it has an
outcome, they are entered.
-/
structure Visited {α : Type} (entries : List (Value × Value)) (pair : Delimiters) (source : Text)
    (run : Render σ α) (s : Session σ) (template : Text) : Prop where
  /-- The template or what it includes leads to the text. -/
  reached : Reached entries pair source template
  /-- That the text is entered is among what happens. -/
  entered : ∀ result after, run s = some (result, after) →
    ∃ events, after.journal = events ++ s.journal ∧ .entered template ∈ events

end Template

/-- The names of a template that avoids the key of an entry stand for the same with this entry. -/
theorem Template.Avoids.agree {host : Host σ} {pair : Delimiters} {template : Text} {key : Value}
    (avoids : Template.Avoids key pair template) {view value : Value} (data : view.Inert)
    (new : value.Inert) {tokens : List Token} (parses : Template.parse template pair = .ok tokens)
    {path : Text} (member : .value path ∈ Token.referencesAll tokens) :
    Value.AgreeOn host view (view.withEntry key value) path := by
  obtain ⟨pathful, other⟩ := avoids tokens parses path member
  exact .inr ⟨pathful, Value.resolve_withEntry data new host other⟩

/-- A template comes to the same in a scene with an entry that no template asks for. -/
theorem Nested.render_withEntry {host : Host σ} {depth : Nat} {source : Text} {view : Value}
    {entries : List (Value × Value)} (texts : ∀ entry ∈ entries, ∃ t, entry.2 = .text t)
    {config : Config} {key value : Value} (new : value.Inert) {s : Session σ}
    {scene scene' : Scene}
    (beside : Scene.Beside s.edits view (view.withEntry key value) entries config scene scene')
    (calm : s.Calm s.edits)
    (avoids : ∀ pair, Template.delimitersOf (config.delimiters.settled s.edits) = .ok pair →
      ∀ template, Template.Visited entries pair source
        ((Nested.upTo host depth).render scene (.text source)) s template →
      Template.Avoids key pair template) :
    (Nested.upTo host depth).render scene' (.text source) s
      = (Nested.upTo host depth).render scene (.text source) s := by
  have data := beside.scope.outermost
  cases accepted : Template.delimitersOf (config.delimiters.settled s.edits) with
  | error failure =>
    -- Nothing is parsed, let alone looked up.
    cases depth with
    | zero => rfl
    | succ depth =>
      have same : scene'.config = scene.config := by rw [beside.rest]
      rw [← beside.config] at accepted
      change (Template.request (.text source) scene'.config.delimiters >>= _) s
        = (Template.request (.text source) scene.config.delimiters >>= _) s
      rw [same, Render.bind_apply, Render.bind_apply, Template.request_of_refused accepted]
      rfl
  | ok pair =>
    have agree (template : Text) (avoids : Template.Avoids key pair template) (all : List Token)
        (parses : Template.parse template pair = .ok all) (path : Text)
        (member : .value path ∈ Token.referencesAll all) :
        Value.AgreeOn host view (view.withEntry key value) path :=
      avoids.agree data new parses member
    exact Mirrors.agree (.output texts accepted depth agree beside)
      (.output texts accepted depth
        (fun template avoids all parses path member =>
          (agree template avoids all parses path member).symm)
        (beside.symm (data.withEntry key new)))
      calm fun template reached entered => avoids pair accepted template ⟨reached, entered⟩

namespace Engine

/-- What a rendering comes to once it is configured is what it comes to. -/
theorem visited_renderUpTo {host : Host σ} {depth : Nat} {source template : Text} {view : Value}
    {partials : Value} {entries : List (Value × Value)} {pair : Delimiters} {setting : Setting}
    {config : Config} {s configured : Session σ}
    (configures : Config.ofSetting setting s = some (.ok config, configured))
    (visited : Template.Visited entries pair source
      ((Nested.upTo host depth).render ⟨⟨view, []⟩, partials, config, none⟩ (.text source))
      (configured.onStage (configured.stage.knowing [])) template) :
    Template.Visited entries pair source
      (renderUpTo depth host (.text source) (.value view) partials setting) s template := by
  refine ⟨visited.reached, fun result after ran => ?_⟩
  rw [renderUpTo, Render.bind_apply, configures] at ran
  change Render.inNewScope _ configured = _ at ran
  rw [Render.inNewScope_apply, Option.map_eq_some_iff] at ran
  obtain ⟨⟨outcome, rendered⟩, renders, ⟨⟩⟩ := ran
  -- The template is entered while it is rendered.
  obtain ⟨events, journal, entered⟩ := visited.entered outcome rendered renders
  -- To read the configuration comes first.
  obtain ⟨before, earlier, -⟩ := (Consults.ofSetting setting s _ _ configures).journal
  refine ⟨events ++ before, ?_, List.mem_append_left before entered⟩
  rw [List.append_assoc, ← earlier]
  exact journal

/--
An entry of a view that no template asks for makes no difference to a rendering.

Neither the view nor the new value has anything in it that could be called, and no name in any of
the templates that the rendering comes to is a single dot or begins with the key of the entry.
-/
theorem renderUpTo_withEntry (host : Host σ) (depth : Nat) (source : Text) {view : Value}
    (data : view.Inert) {partials : Value} {entries : List (Value × Value)} {s : Session σ}
    (named : partials.openedIn s.edits = .mapping entries)
    (texts : ∀ entry ∈ entries, ∃ t, entry.2 = .text t) (setting : Setting) (sound : s.Sound)
    {key value : Value} (new : value.Inert)
    (avoids : ∀ config configured pair,
      Config.ofSetting setting s = some (.ok config, configured) →
      Template.delimitersOf (config.delimiters.settled s.edits) = .ok pair →
      ∀ template, Template.Visited entries pair source
        (renderUpTo depth host (.text source) (.value view) partials setting) s template →
      Template.Avoids key pair template) :
    renderUpTo depth host (.text source) (.value (view.withEntry key value)) partials setting s
      = renderUpTo depth host (.text source) (.value view) partials setting s := by
  rw [renderUpTo, renderUpTo, Render.bind_apply, Render.bind_apply]
  cases configures : Config.ofSetting setting s with
  | none => rfl
  | some outcome =>
    -- A setting that cannot be read is read by neither rendering, and both end with its failure.
    obtain ⟨result, configured⟩ := outcome
    cases result with
    | error failure => rfl
    | ok config =>
      have consulted := Consults.ofSetting setting s _ _ configures
      -- The rendering of the view begins with nothing remembered.
      let begun := configured.onStage (configured.stage.knowing [])
      have calm : begun.Calm begun.edits :=
        ⟨rfl, sound.of_cache_eq consulted.cache, fun _ _ => (absurd · List.not_mem_nil)⟩
      have beside : Scene.Beside begun.edits view (view.withEntry key value) entries config
          ⟨⟨view, []⟩, partials, config, none⟩
          ⟨⟨view.withEntry key value, []⟩, partials, config, none⟩ := by
        -- The two scenes differ in the entry of the view and in nothing else.
        refine ⟨⟨data, [], List.forall_mem_nil _, rfl, rfl⟩, rfl, ?_, rfl⟩
        exact consulted.edits ▸ named
      have same : (Nested.upTo host depth).render _ (.text source) begun
          = (Nested.upTo host depth).render _ (.text source) begun :=
        Nested.render_withEntry texts new beside calm fun pair accepted template visited =>
          avoids config configured pair configures (consulted.edits ▸ accepted) template
            (visited_renderUpTo configures visited)
      change Render.inNewScope _ configured = Render.inNewScope _ configured
      rw [Render.inNewScope_apply, Render.inNewScope_apply, same]

/--
An entry that goes by a name which only stands behind other names, beside a section and an indented
partial.
-/
theorem renderUpTo_withEntry_behind :
    let host : Host Unit := ⟨fun _ _ state => (.ok .null, state), fun _ _ state =>
      .value .null state⟩
    let source := Text.ofString "\x7b\x7b#a\x7d\x7d\n \x7b\x7b>p\x7d\x7d\n\x7b\x7b/a\x7d\x7d"
      ++ .ofString "\x7b\x7b^c.k\x7d\x7d-\x7b\x7b/c.k\x7d\x7d"
    let part := Text.ofString "\x7b\x7bb\x7d\x7d\n\x7b\x7bc\x7d\x7d\n"
    let view : Value := .mapping [(.text ['a'], .list [.mapping [(.text ['b'], .int 1)], .null]),
      (.text ['c'], .text ['<']), (.text ['k'], .null)]
    let changed := view.withEntry (.text ['k']) (.list [.int 0])
    let run := fun view => renderUpTo 3 host (.text source) (.value view)
      (.mapping [(.text ['p'], .text part)]) (.value .null) { host := () }
    changed.member ['k'] = .ok (.list [.int 0]) ∧ run changed = run view := by
  intro host source part view changed run
  have parses_source : Template.parse source Delimiters.default = .ok [
      .block false ['a'] ⟨0, 6⟩ [.inclusion ['p'] ⟨8, 14⟩ ⟨[' '], 0, false⟩] 15,
      .block true ['c', '.', 'k'] ⟨21, 29⟩ [.text ['-'] ⟨29, 30⟩] 30] := by decide +kernel
  have parses_part : Template.parse (LinePrefix.indented ⟨[' '], 0, false⟩ part) Delimiters.default
      = .ok [.text [' '] ⟨0, 1⟩, .variable true ['b'] ⟨1, 6⟩, .text ['\n', ' '] ⟨6, 8⟩,
        .variable true ['c'] ⟨8, 13⟩, .text ['\n'] ⟨13, 14⟩] := by decide +kernel
  -- What is reached is the template itself, or the partial with the margin it is included by.
  have reaches (template : Text) (reached : Template.Reached [(.text ['p'], .text part)]
      Delimiters.default source template) :
      template = source ∨ template = LinePrefix.indented ⟨[' '], 0, false⟩ part := by
    induction reached with
    | itself => exact .inl rfl
    | included _ parses member known ih =>
      -- The template includes the partial, and that one includes nothing.
      rcases ih with rfl | rfl
      · cases parses.symm.trans parses_source
        obtain ⟨rfl, rfl⟩ := Prod.mk.inj (List.mem_singleton.mp member)
        cases known
        exact .inr rfl
      · cases parses.symm.trans parses_part
        cases member
  -- Nothing in the view can be called, at whatever depth it stands.
  have data : view.Inert := by
    refine .mapping fun entry member => ?_
    simp only [List.mem_cons, List.not_mem_nil, or_false] at member
    rcases member with rfl | rfl | rfl
    · refine .list fun item member => ?_
      rcases List.mem_pair.mp member with rfl | rfl
      · exact .mapping (List.forall_mem_singleton.mpr (.int 1))
      · exact .null
    · exact .text _
    · exact .null
  have sound : ({ host := () } : Session Unit).Sound := by
    rintro _ ⟨⟩
    exact Cache.sound_of_entries_nil rfl
  refine ⟨rfl, renderUpTo_withEntry host 3 source data rfl ?_ _ sound ?_ ?_⟩
  · rintro _ (_ | ⟨_, ⟨⟩⟩)
    exact ⟨part, rfl⟩
  · exact .list fun item member => List.mem_singleton.mp member ▸ .int 0
  · -- No reference of the two templates begins with the key of the new entry.
    rintro config configured pair ⟨⟩ ⟨⟩ template visited tokens parses path member
    rcases reaches template visited.reached with rfl | rfl
    · cases parses.symm.trans parses_source
      have among : path = ['a'] ∨ path = ['c', '.', 'k'] := by
        simpa [Token.referencesAll, Token.references] using member
      rcases among with rfl | rfl <;> decide
    · cases parses.symm.trans parses_part
      have among : path = ['b'] ∨ path = ['c'] := by
        simpa [Token.referencesAll, Token.references] using member
      rcases among with rfl | rfl <;> decide

end Engine

end Mustache
