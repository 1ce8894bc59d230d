import Mustache.Proofs.Mirrored
import Mustache.Proofs.References

/-!
Renderings over views that differ in their outermost value.

What is written is the same where both values answer alike to all names that they are asked for.
-/

namespace Mustache

variable {σ : Type} {edits : Nat → Edits} {reached fine : Text → Prop} {root root' : Value}

/-- Whether a path stands for the same, whichever of two values is the outermost one in scope. -/
def Value.AgreeOn (host : Host σ) (root root' : Value) (path : Text) : Prop :=
  root' = root ∨ path ≠ ['.'] ∧ ∀ s : Session σ,
    root'.resolve host (Text.pieces '.' path).1 s = root.resolve host (Text.pieces '.' path).1 s

/-- A path stands for the same either way round. -/
theorem Value.AgreeOn.symm {host : Host σ} {path : Text}
    (agree : Value.AgreeOn host root root' path) :
    Value.AgreeOn host root' root path :=
  -- Both ways to agree can be turned round.
  agree.imp Eq.symm fun other => ⟨other.1, fun s => (other.2 s).symm⟩

/-- Scopes of inert values that are the same but for the outermost value. -/
structure Scope.Beside (root root' : Value) (scope scope' : Scope) : Prop where
  /-- The outermost value is inert. -/
  outermost : root.Inert
  /-- The other values are the same and inert. -/
  inner : ∃ inner : List Value, (∀ view ∈ inner, view.Inert)
    ∧ scope.views = inner ++ [root] ∧ scope'.views = inner ++ [root']

namespace Scope.Beside

variable {scope scope' : Scope}

/-- An inert value may be pushed. -/
theorem push (beside : Scope.Beside root root' scope scope') {view : Value} (inert : view.Inert) :
    Scope.Beside root root' (scope.push view) (scope'.push view) := by
  obtain ⟨outermost, inner, inside, views, views'⟩ := beside
  -- The value is one more inside of the outermost one.
  refine ⟨outermost, view :: inner, List.forall_mem_cons.mpr ⟨inert, inside⟩, ?_, ?_⟩
  · exact congrArg (view :: ·) views
  · exact congrArg (view :: ·) views'

/-- All values in the first scope are inert. -/
theorem inert (beside : Scope.Beside root root' scope scope') :
    ∀ view ∈ scope.views, view.Inert := by
  -- The views are some inert values inside the outermost one.
  obtain ⟨outermost, inner, inside, views, -⟩ := beside
  rw [views, List.forall_mem_append, List.forall_mem_singleton]
  exact ⟨inside, outermost⟩

/-- The first scope is beside itself. -/
theorem self (beside : Scope.Beside root root' scope scope') :
    Scope.Beside root root scope scope := by
  obtain ⟨outermost, inner, inside, views, -⟩ := beside
  exact ⟨outermost, inner, inside, views, views⟩

/-- The scopes are beside each other either way round if the other outermost value is inert. -/
theorem symm (beside : Scope.Beside root root' scope scope') (inert : root'.Inert) :
    Scope.Beside root' root scope' scope := by
  -- The values inside are the same, whichever outermost value comes first.
  obtain ⟨-, inner, inside, views, views'⟩ := beside
  exact ⟨inert, inner, inside, views', views⟩

/-- There is only one scope if there is only one outermost value. -/
theorem eq_of_root (beside : Scope.Beside root root scope scope') : scope' = scope := by
  obtain ⟨-, inner, -, views, views'⟩ := beside
  obtain ⟨view, outer⟩ := scope
  obtain ⟨view', outer'⟩ := scope'
  -- The values make up the scope.
  obtain ⟨rfl, rfl⟩ := List.cons.inj (views'.trans views.symm)
  rfl

end Scope.Beside

/-- Scenes with the same templates that are the same but for the outermost value in scope. -/
structure Scene.Beside (edits : Nat → Edits) (root root' : Value)
    (entries : List (Value × Value)) (config : Config) (scene scene' : Scene) : Prop where
  /-- The values in scope are the same but for the outermost one. -/
  scope : Scope.Beside root root' scene.scope scene'.scope
  /-- Everything else is the same. -/
  rest : scene' = { scene with scope := scene'.scope }
  /-- The templates are entries, by name. -/
  partials : scene.partials.openedIn edits = .mapping entries
  /-- The configuration is the given one. -/
  config : scene.config = config

namespace Scene.Beside

variable {entries : List (Value × Value)} {config : Config} {scene scene' : Scene}

/-- An inert value may be pushed in both scenes. -/
theorem push (beside : Scene.Beside edits root root' entries config scene scene') {view : Value}
    (inert : view.Inert) :
    Scene.Beside edits root root' entries config (scene.push view) (scene'.push view) := by
  refine ⟨beside.scope.push inert, ?_, beside.partials, beside.config⟩
  rw [beside.rest]
  rfl

/-- The source may be another one in both scenes. -/
theorem within (beside : Scene.Beside edits root root' entries config scene scene')
    (source : Option Text) : Scene.Beside edits root root' entries config
      { scene with source := source } { scene' with source := source } := by
  -- Only the source is another one, and the same in both.
  refine ⟨beside.scope, ?_, beside.partials, beside.config⟩
  rw [beside.rest]

/-- The first scene is beside itself. -/
theorem self (beside : Scene.Beside edits root root' entries config scene scene') :
    Scene.Beside edits root root entries config scene scene :=
  ⟨beside.scope.self, rfl, beside.partials, beside.config⟩

/-- The scenes are beside each other either way round if the other outermost value is inert. -/
theorem symm (beside : Scene.Beside edits root root' entries config scene scene')
    (inert : root'.Inert) : Scene.Beside edits root' root entries config scene' scene := by
  -- But for their scopes the scenes are the same.
  obtain ⟨scope, rest, partials, config⟩ := beside
  refine ⟨scope.symm inert, ?_, ?_, ?_⟩ <;> rw [rest]
  · exact partials
  · exact config

end Scene.Beside

namespace Mirrors

section Names

/-- An inert value is asked for a name, or another one that gives the same answer. -/
theorem resolve {value value' : Value} (inert : value.Inert) (host : Host σ) (name : Text)
    (same : ∀ s : Session σ, value'.resolve host name s = value.resolve host name s) :
    Mirrors edits reached fine (value.resolve host name) (value'.resolve host name)
      Value.Inert := by
  intro s calm result t ran
  -- An inert value answers without a call, and its answer is inert.
  rw [inert.resolve_apply] at ran
  cases ran
  refine ⟨calm, fun answer answers => (inert.openedIn _).member answers, [], rfl, nofun,
    fun _ => ?_⟩
  rw [same, inert.resolve_apply]

/-- A name is looked for from the inside out, up to values that give the same answer. -/
theorem resolveAmong (host : Host σ) (name : Text) {inner : List Value}
    (inside : ∀ view ∈ inner, view.Inert) (outermost : root.Inert)
    (same : ∀ s : Session σ, root'.resolve host name s = root.resolve host name s) :
    Mirrors edits reached fine (Scope.resolveAmong host name (inner ++ [root]))
      (Scope.resolveAmong host name (inner ++ [root'])) Value.Inert := by
  induction inner with
  | nil =>
    refine .bind (.resolve outermost host name same) fun found inert => ?_
    -- There is nothing around the outermost value.
    split
    · exact .pure .absent
    · exact .pure inert
  | cons view inner ih =>
    obtain ⟨first, others⟩ := List.forall_mem_cons.mp inside
    refine .bind (.resolve first host name fun _ => rfl) fun found inert => ?_
    split
    · -- The view does not know the name, and those around it are asked.
      exact ih others
    · exact .pure inert

/-- Behind the first name of a path the others are looked for in what is found. -/
theorem resolveWithin (host : Host σ) (names : List Text) {value : Value} (inert : value.Inert) :
    Mirrors edits reached fine (Scope.resolveWithin host value names)
      (Scope.resolveWithin host value names) Value.Inert := by
  -- The path ends where nothing is found, or goes on in an inert value.
  induction names generalizing value with
  | nil =>
    unfold Scope.resolveWithin
    split
    · exact .pure .null
    · exact .pure inert
    · contradiction
  | cons name rest ih =>
    unfold Scope.resolveWithin
    split
    · exact .pure .null
    · contradiction
    · rename_i same
      cases same
      -- The next name is looked for in what was found, which is inert as well.
      exact .bind (.resolve inert host name fun _ => rfl) fun found inert => ih inert

/-- Paths that stand for the same are looked up with the same result. -/
theorem lookup (host : Host σ) {scope scope' : Scope}
    (beside : Scope.Beside root root' scope scope') {path : Text}
    (agree : Value.AgreeOn host root root' path) :
    Mirrors edits reached fine (scope.lookup host path) (scope'.lookup host path) Value.Inert := by
  have inert := beside.inert
  unfold Scope.lookup
  by_cases dot : path = ['.']
  · -- A dot is the innermost value, which is no other one if the outermost value is not.
    rcases agree with rfl | ⟨other, -⟩
    · rw [if_pos dot, if_pos dot, beside.eq_of_root]
      exact .pure (inert scope.view List.mem_cons_self)
    · exact absurd dot other
  · rw [if_neg dot, if_neg dot]
    -- Any other path is remembered, or its first name is asked for among the values.
    refine .read fun s calm => ?_
    cases known : s.memo.lookup path with
    | some value =>
      obtain ⟨before, behind, memo, -⟩ := List.lookup_eq_some_iff.mp known
      exact .pure (calm.remembered path value (by simp [memo]))
    | none =>
      have same (s : Session σ) : root'.resolve host (Text.pieces '.' path).1 s
          = root.resolve host (Text.pieces '.' path).1 s := by
        rcases agree with rfl | ⟨-, same⟩
        · rfl
        · exact same s
      obtain ⟨outermost, inner, inside, views, views'⟩ := beside
      have resolves : Mirrors edits reached fine (scope.resolvePath host path)
          (scope'.resolvePath host path) Value.Inert := by
        unfold Scope.resolvePath
        rw [views, views']
        exact .bind (.resolveAmong host _ inside outermost same) fun found inert =>
          .resolveWithin host _ inert
      exact .bind resolves fun value found => .bind (.remember found) fun _ _ => .pure found

end Names

section Sections

variable {write write' : Value → Render σ (List Chunk)}

/-- What one step writes and then another one is mirrored if either is. -/
theorem append {first first' second second' : Render σ (List Chunk)}
    (writes : Mirrors edits reached fine first first' fun _ => True)
    (others : Mirrors edits reached fine second second' fun _ => True) :
    Mirrors edits reached fine
      (do let chunks ← first; let more ← second; Pure.pure (chunks ++ more))
      (do let chunks ← first'; let more ← second'; Pure.pure (chunks ++ more)) fun _ => True :=
  -- Whatever both steps have written is joined without looking at a session.
  .bind writes fun _ _ => .bind others fun _ _ => .pure trivial

/-- What is written for each item in turn is mirrored if it is for inert items. -/
theorem writeEach (writes : ∀ item, item.Inert →
      Mirrors edits reached fine (write item) (write' item) fun _ => True) {items : List Value}
    (inert : ∀ item ∈ items, item.Inert) :
    Mirrors edits reached fine (Mustache.writeEach items write) (Mustache.writeEach items write')
      fun _ => True := by
  -- The items are written in turn, each one as was assumed.
  induction items with
  | nil => exact .pure trivial
  | cons item rest ih =>
    obtain ⟨first, others⟩ := List.forall_mem_cons.mp inert
    exact append (writes item first) (ih others)

/-- What is written for each item of a shared list is mirrored if it is for inert items. -/
theorem writeShared (writes : ∀ item, item.Inert →
      Mirrors edits reached fine (write item) (write' item) fun _ => True) (id place : Nat)
    {items : List Value} (inert : ∀ item ∈ items, item.Inert) :
    Mirrors edits reached fine (Mustache.writeShared id write place items)
      (Mustache.writeShared id write' place items) fun _ => True := by
  induction items generalizing place with
  | nil => exact .pure trivial
  | cons item rest ih =>
    obtain ⟨first, others⟩ := List.forall_mem_cons.mp inert
    -- A text may have been written in the place of the item.
    exact .read fun s _ => append (writes _ (first.editedItem _ place)) (ih (place + 1) others)

/-- What is written for each item of a stream is mirrored if it is for inert items. -/
theorem writeStream (writes : ∀ item, item.Inert →
      Mirrors edits reached fine (write item) (write' item) fun _ => True) (id : Nat)
    {items : List Value} (inert : ∀ item ∈ items, item.Inert) (most : Nat) :
    Mirrors edits reached fine (Mustache.writeStream id items write most)
      (Mustache.writeStream id items write' most) fun _ => True := by
  -- The induction is on the number of items that may be handed out at most.
  induction most with
  | zero => exact .pure trivial
  | succ most ih =>
    -- What is handed out is an item of the stream.
    have next : Mirrors edits reached fine (Render.next? id items : Render σ (Option Value))
        (Render.next? id items) fun found => ∀ item, found = some item → item.Inert := by
      refine .of_quiet (Session.Quiet.next? id items) fun s _ found t ran => ?_
      rw [Render.next?, Render.get_bind] at ran
      cases there : items[s.taken id]? with
      | none =>
        simp only [there] at ran
        cases ran
        rintro _ ⟨⟩
      | some item =>
        simp only [there] at ran
        cases ran
        rintro _ ⟨⟩
        exact inert item (List.mem_of_getElem? there)
    refine .bind next fun found among => ?_
    cases found with
    | none => exact .pure trivial
    | some item => exact append (writes item (among item rfl)) ih

/-- What is written for integers in equal steps is mirrored if it is for inert values. -/
theorem writeSteps (writes : ∀ item, item.Inert →
      Mirrors edits reached fine (write item) (write' item) fun _ => True) (start step : Int)
    (count : Nat) :
    Mirrors edits reached fine (Mustache.writeSteps start step write count)
      (Mustache.writeSteps start step write' count) fun _ => True := by
  -- An integer is inert, whatever it is.
  induction count generalizing start with
  | zero => exact .pure trivial
  | succ count ih => exact append (writes _ (.int start)) (ih (start + step))

/-- What a section over an inert value writes is mirrored if what is inside is. -/
theorem writeSection {entries : List (Value × Value)} {config : Config} {scene scene' : Scene}
    (beside : Scene.Beside edits root root' entries config scene scene') {value : Value}
    (inert : value.Inert) {inside : Scene → Render σ (List Chunk)}
    {applied applied' : Function → Render σ (List Chunk)}
    (writes : ∀ inner inner' : Scene, Scene.Beside edits root root' entries config inner inner' →
      Mirrors edits reached fine (inside inner) (inside inner') fun _ => True) :
    Mirrors edits reached fine (scene.writeSection value inside applied)
      (scene'.writeSection value inside applied') fun _ => True := by
  have within (item : Value) (inert : item.Inert) : Mirrors edits reached fine
      (Render.inNewScope (inside (scene.push item))) (Render.inNewScope (inside (scene'.push item)))
      fun _ => True := .inNewScope (writes _ _ (beside.push inert))
  unfold Scene.writeSection
  dsimp only
  split
  · exact .pure trivial
  · split
    · exact writeStream within _ (fun item member => inert.part member) _
    · exact writeSteps within _ _ _
    · -- No function is inert, so that none is applied.
      exact absurd rfl (inert.ne_function _)
    · exact writes scene scene' beside
    · -- The items of a shared list are parts of what is shared.
      have shared := inert.part (List.mem_singleton_self _)
      exact writeShared within _ _ fun item member => shared.part member
    · split
      · rename_i collection
        exact writeEach within fun item member => inert.of_mem_collection collection member
      · exact within _ inert

end Sections

end Mirrors

mutual

/-- The names of the templates that a token includes, itself or inside, and what stands before. -/
def Token.inclusions : Token → List (Text × LinePrefix)
  | .inclusion name _ line => [(name, line)]
  | .block _ _ _ children _ => inclusionsAll children
  | _ => []

/-- The names of the templates that the tokens of a row include. -/
def Token.inclusionsAll : List Token → List (Text × LinePrefix)
  | [] => []
  | token :: tokens => token.inclusions ++ inclusionsAll tokens

end

/-- A text as it is included behind a line prefix: indented if its tag is the first there. -/
def LinePrefix.indented (line : LinePrefix) (template : Text) : Text :=
  if line.tagIndex = 0 ∧ line.indentation ≠ [] then
    Indentation.indent template line.indentation line.hasText
  else template

/-- A text is included as it is indented. -/
theorem Scene.indented_eq (host : Host σ) (line : LinePrefix) (template : Text) :
    (Scene.indented host line (.text template) : Render σ Value)
      = pure (.text (line.indented template)) := by
  -- The tag asks for an indentation, or the text is taken as it is.
  unfold Scene.indented LinePrefix.indented
  split <;> rfl

/-- The texts that can be included from a template, which may be indented: itself to begin with. -/
inductive Template.Reached (entries : List (Value × Value)) (pair : Delimiters) (source : Text) :
    Text → Prop
  /-- The template can be reached. -/
  | itself : Reached entries pair source source
  /-- What a text that can be reached includes can be reached. -/
  | included {outer template name : Text} {line : LinePrefix} {tokens : List Token}
      (reached : Reached entries pair source outer) (parses : parse outer pair = .ok tokens)
      (member : (name, line) ∈ Token.inclusionsAll tokens)
      (known : Value.named? entries name = some (.text template)) :
      Reached entries pair source (line.indented template)

namespace Mirrors

variable {host : Host σ} {entries : List (Value × Value)} {config : Config} {scene scene' : Scene}

/-- What a name writes is mirrored if it stands for the same. -/
theorem writeVariable (beside : Scene.Beside edits root root' entries config scene scene')
    (escaped : Bool) {path : Text} (agree : Value.AgreeOn host root root' path) :
    Mirrors edits reached fine (scene.writeVariable host escaped path)
      (scene'.writeVariable host escaped path) fun _ => True := by
  have found : Mirrors edits reached fine (scene.interpolated host path)
      (scene'.interpolated host path) fun _ => True := by
    refine .bind (.lookup host beside.scope agree) fun value inert => ?_
    -- There is no function that could be called.
    split
    · exact absurd rfl (inert.ne_function _)
    · exact .pure trivial
  -- The scenes differ in what they look at, and not in how they escape.
  have escape (value : Value) : scene'.escape host value = scene.escape host value := by
    rw [beside.rest]
    rfl
  refine .bind found fun value _ => ?_
  split
  · exact .pure trivial
  · refine .bind (.idle (.settled _)) fun value _ => ?_
    split
    · rw [escape]
      exact .bind (.idle (.escape host scene value)) fun _ _ => .pure trivial
    · exact .bind (.idle (.ofExcept _)) fun _ _ => .pure trivial

/-- What a section is over is mirrored if its name stands for the same. -/
theorem subject (beside : Scene.Beside edits root root' entries config scene scene')
    {name : Text} (agree : Value.AgreeOn host root root' name) :
    Mirrors edits reached fine (scene.subject host name) (scene'.subject host name)
      Value.Inert := by
  -- What is counted is the value itself.
  refine .bind (.lookup host beside.scope agree) fun value inert => .ofExcept fun found same => ?_
  rw [(Value.counted_eq_ok_iff.mp same).2]
  exact inert

/-- A template is looked for among the entries by its name. -/
theorem template (beside : Scene.Beside edits root root' entries config scene scene')
    (name : Text) :
    Mirrors edits reached fine (scene.template host (.text name))
      (scene'.template host (.text name)) (· = (Value.named? entries name).getD .null) := by
  -- The entries are held as they are, since nothing was written to what is shared.
  have same : scene'.template host (.text name) = scene.template host (.text name) := by
    rw [beside.rest]
    rfl
  rw [same]
  refine .of_quiet (.template host scene (.text name)) fun s calm found t ran => ?_
  -- What is found is the entry by the name, or nothing.
  rw [Scene.template, Render.bind_apply, Render.opened_apply, calm.unwritten,
    beside.partials] at ran
  cases ran
  rfl

/-- What an inclusion writes is mirrored if what the included text writes is. -/
theorem writeInclusion {nested : Nested σ} (texts : ∀ entry ∈ entries, ∃ t, entry.2 = .text t)
    (beside : Scene.Beside edits root root' entries config scene scene') (name : Text)
    (line : LinePrefix)
    (included : ∀ t, Value.named? entries name = some (.text t) →
      Mirrors edits reached fine (nested.inclusion scene (.text (line.indented t)))
        (nested.inclusion scene' (.text (line.indented t))) fun _ => True) :
    Mirrors edits reached fine
      (scene.writeInclusion host nested (.text name) (Scene.indented host line))
      (scene'.writeInclusion host nested (.text name) (Scene.indented host line))
      fun _ => True := by
  refine .bind (template beside name) fun found same => ?_
  -- A name without an entry is reported as missing, on either side.
  cases known : Value.named? entries name with
  | none =>
    rw [same, known]
    exact .bind (.idle (Session.Quiet.report nofun)) fun _ _ =>
      .bind (.idle (Session.Quiet.account _)) fun _ _ => .pure trivial
  | some value =>
    -- The partials are texts, and the margin is put in front of their lines in both scenes.
    obtain ⟨t, rfl⟩ := texts _ (Value.mem_of_named? known)
    rw [same, known]
    change Mirrors edits reached fine (Scene.indented host line (.text t) >>= _)
      (Scene.indented host line (.text t) >>= _) _
    rw [Scene.indented_eq, pure_bind, pure_bind]
    exact included t known

section Tokens

variable (host) (nested : Nested σ)

mutual

/-- What a token writes is mirrored if its names stand for the same and its inclusions are. -/
theorem token {scene scene' : Scene}
    (beside : Scene.Beside edits root root' entries config scene scene') (token : Token)
    (agree : ∀ path, .value path ∈ token.references → Value.AgreeOn host root root' path)
    (included : ∀ name line, (name, line) ∈ token.inclusions →
      ∀ inner inner' : Scene, Scene.Beside edits root root' entries config inner inner' →
        Mirrors edits reached fine
          (inner.writeInclusion host nested (.text name) (Scene.indented host line))
          (inner'.writeInclusion host nested (.text name) (Scene.indented host line))
          fun _ => True) :
    Mirrors edits reached fine (Token.write host nested scene token)
      (Token.write host nested scene' token) fun _ => True := by
  -- The cases are the kinds of tokens; only names are asked of the view.
  match token with
  | .text _ _ | .comment _ _ | .switch _ _ => exact .pure trivial
  | .variable escaped path _ =>
    exact writeVariable beside escaped (agree path (List.mem_singleton_self _))
  | .inclusion name _ line =>
    exact included name line (List.mem_singleton_self _) scene scene' beside
  | .block inverted name _ children _ =>
    -- What is inside is mirrored in all scenes that are beside each other.
    have inside (inner inner' : Scene)
        (beside : Scene.Beside edits root root' entries config inner inner') :
        Mirrors edits reached fine (Token.writeAll host nested inner children)
          (Token.writeAll host nested inner' children) fun _ => True :=
      tokens beside children (fun path member => agree path (List.mem_cons_of_mem _ member))
        included
    refine .bind (.subject beside (agree name List.mem_cons_self)) fun value inert => ?_
    split
    · split
      · exact inside scene scene' beside
      · exact .pure trivial
    · exact writeSection beside inert inside

/-- What the tokens of a row write is mirrored if their names stand for the same. -/
theorem tokens {scene scene' : Scene}
    (beside : Scene.Beside edits root root' entries config scene scene') (all : List Token)
    (agree : ∀ path, .value path ∈ Token.referencesAll all → Value.AgreeOn host root root' path)
    (included : ∀ name line, (name, line) ∈ Token.inclusionsAll all →
      ∀ inner inner' : Scene, Scene.Beside edits root root' entries config inner inner' →
        Mirrors edits reached fine
          (inner.writeInclusion host nested (.text name) (Scene.indented host line))
          (inner'.writeInclusion host nested (.text name) (Scene.indented host line))
          fun _ => True) :
    Mirrors edits reached fine (Token.writeAll host nested scene all)
      (Token.writeAll host nested scene' all) fun _ => True := by
  -- Each token is about some of the names and inclusions of the row.
  match all with
  | [] => exact .pure trivial
  | first :: others =>
    exact append
      (token beside first (fun path member => agree path (List.mem_append_left _ member))
        fun name line member => included name line (List.mem_append_left _ member))
      (tokens beside others (fun path member => agree path (List.mem_append_right _ member))
        fun name line member => included name line (List.mem_append_right _ member))

end

end Tokens

section Templates

variable {pair : Delimiters} {source : Text}

/-- What the tokens of a text write is mirrored if what is included in its scene is. -/
theorem written {nested : Nested σ} (texts : ∀ entry ∈ entries, ∃ t, entry.2 = .text t)
    (beside : Scene.Beside edits root root' entries config scene scene') {outer : Text}
    {all : List Token} (reaches : Template.Reached entries pair source outer)
    (parses : Template.parse outer pair = .ok all)
    (agree : ∀ path, .value path ∈ Token.referencesAll all → Value.AgreeOn host root root' path)
    (nests : ∀ template, Template.Reached entries pair source template →
      ∀ inner inner' : Scene, Scene.Beside edits root root' entries config inner inner' →
        Mirrors edits reached fine (nested.inclusion inner (.text template))
          (nested.inclusion inner' (.text template)) fun _ => True) :
    Mirrors edits reached fine
      (Token.writeAll host nested { scene with source := some outer } all)
      (Token.writeAll host nested { scene' with source := some outer } all) fun _ => True :=
  -- Inclusions among the tokens reach further templates, which are covered by assumption.
  tokens host nested (beside.within (some outer)) all agree
    fun name line member inner inner' beside =>
      writeInclusion texts beside name line fun _ known =>
        nests _ (.included reaches parses member known) inner inner' beside

/-- To ask for a text in scenes with the same configuration gives its tokens. -/
theorem requested (beside : Scene.Beside edits root root' entries config scene scene')
    (accepted : Template.delimitersOf (config.delimiters.settled edits) = .ok pair)
    (template : Text) :
    Mirrors edits reached fine
      (Template.request (.text template) scene.config.delimiters : Render σ (List Token))
      (Template.request (.text template) scene'.config.delimiters)
      (Template.parse template pair = .ok ·) := by
  -- The configuration is none of the things in which the scenes differ.
  have same : scene'.config = scene.config := by rw [beside.rest]
  rw [same, beside.config]
  exact .request template accepted

/-- What included templates write is mirrored if the names in them stand for the same. -/
theorem inclusion (texts : ∀ entry ∈ entries, ∃ t, entry.2 = .text t)
    (accepted : Template.delimitersOf (config.delimiters.settled edits) = .ok pair)
    (depth : Nat) {root' : Value}
    (agree : ∀ template, fine template → ∀ all, Template.parse template pair = .ok all →
      ∀ path, .value path ∈ Token.referencesAll all → Value.AgreeOn host root root' path)
    {template : Text} (reaches : Template.Reached entries pair source template)
    {scene scene' : Scene} (beside : Scene.Beside edits root root' entries config scene scene') :
    Mirrors edits (Template.Reached entries pair source) fine
      ((Nested.upTo host depth).inclusion scene (.text template))
      ((Nested.upTo host depth).inclusion scene' (.text template)) fun _ => True := by
  -- The induction is on the depth; what is included in a template lies one level deeper.
  induction depth generalizing root' template scene scene' with
  | zero => exact .tooDeep _
  | succ depth ih =>
    refine .bind (requested beside accepted template) fun all parses => .inTemplate reaches ?_ ?_
    · -- Over the same outermost value all names stand for the same.
      exact written texts beside.self reaches parses (fun _ _ => .inl rfl)
        fun _ reaches _ _ beside => ih (fun _ _ _ _ _ _ => .inl rfl) reaches beside
    · exact fun fits => written texts beside reaches parses (agree template fits all parses)
        fun _ reaches _ _ beside => ih agree reaches beside

/-- The output of a template is mirrored if the names in it and in those it includes agree. -/
theorem output (texts : ∀ entry ∈ entries, ∃ t, entry.2 = .text t)
    (accepted : Template.delimitersOf (config.delimiters.settled edits) = .ok pair)
    (depth : Nat)
    (agree : ∀ template, fine template → ∀ all, Template.parse template pair = .ok all →
      ∀ path, .value path ∈ Token.referencesAll all → Value.AgreeOn host root root' path)
    (beside : Scene.Beside edits root root' entries config scene scene') :
    Mirrors edits (Template.Reached entries pair source) fine
      ((Nested.upTo host depth).render scene (.text source))
      ((Nested.upTo host depth).render scene' (.text source)) fun _ => True := by
  cases depth with
  -- With no depth left both give up.
  | zero => exact .tooDeep _
  | succ depth =>
    refine .bind (requested beside accepted source) fun all parses =>
      .bind (P := fun _ => True) (.inTemplate .itself ?_ fun fits => ?_) fun _ _ =>
        .bind (.idle (.account _)) fun _ _ => .pure trivial
    · -- Over the same outermost value all names stand for the same.
      refine .bind (written texts beside.self .itself parses (fun _ _ => .inl rfl)
        fun _ reaches _ _ beside => ?_) fun _ _ => .idle (.ofExcept _)
      exact inclusion texts accepted depth (fun _ _ _ _ _ _ => .inl rfl) reaches beside
    · refine .bind (written texts beside .itself parses (agree source fits all parses)
        fun _ reaches _ _ beside => ?_) fun _ _ => .idle (.ofExcept _)
      exact inclusion texts accepted depth agree reaches beside

end Templates

end Mirrors

end Mustache
