import Mustache.Proofs.Contexts
import Mustache.Proofs.Laws.Requests
import Mustache.Proofs.Laws.Rendering
import Mustache.Proofs.Turns

/-!
A section and an inverted section of one name are complementary.

The value of the name is remembered while the first of them is written, so that both go by the same
value, and exactly one of them writes what is inside.
-/

namespace Mustache

variable {σ : Type}

/-- The law that what is remembered in a scope stays remembered there. -/
def Law.remembering : Law σ := fun s _ t =>
  ∀ path value, s.memo.lookup path = some value → t.memo.lookup path = some value

namespace Law

/-- What leaves the memory of names alone remembers them. -/
theorem remembering_of_memo_eq {s t : Session σ} (failure : Option Failure)
    (same : t.memo = s.memo) : remembering s failure t := by
  -- The value of any path is in the same memory.
  intro path value known
  rw [same]
  exact known

/-- A note in an account leaves the memory of names alone. -/
theorem remembering_accounted (s : Session σ) (failure : Option Failure)
    (note : Profile → Profile) : remembering s failure (s.accounted note) :=
  -- What is remembered is on the stage, and the account is not.
  remembering_of_memo_eq failure (congrArg Stage.memo (s.stage_accounted note))

/-- Whatever is remembered before a step and after it, failures included, is remembered. -/
theorem remembering_blind : (remembering : Law σ).Blind := fun _ _ _ => id

instance : (remembering : Law σ).Dividing where
  done := fun _ _ _ => id
  next := fun first second path value known => second path value (first path value known)
  failed := fun _ _ _ _ _ => id
  hosting := fun _ _ _ _ => id
  called := fun _ _ _ _ _ _ => id
  refused := fun _ _ _ _ _ => id
  taken := fun _ _ _ _ => id
  remembered := by
    intro s path new value other found known
    have different : other ≠ path := by
      rintro rfl
      rw [new] at known
      cases known
    change List.lookup other ((path, value) :: s.memo) = some found
    rw [List.lookup_cons, beq_false_of_ne different]
    exact known
  inScope := fun _ _ _ => id
  inContext := fun _ _ _ _ => id
  written := fun _ _ _ _ => id

/-- A request for a template leaves the memory of names alone. -/
theorem remembering_request (template delimiters : Value) :
    Obeys remembering (Template.request template delimiters : Render σ (List Token)) := by
  -- All that steps go by stays the same, of which the memory is a part.
  intro s result t ran
  exact remembering_of_memo_eq _
    (congrArg Stage.memo (Obeys.request template delimiters s result t ran).2.stage)

instance : (remembering : Law σ).Rendering where
  requested := remembering_request
  vacant := fun _ delimiters _ _ blindly =>
    .bind (remembering_request _ delimiters) fun tokens => blindly remembering_blind tokens
  entered := fun _ _ _ _ => id
  left := fun inside => inside
  missing := fun s name =>
    remembering_accounted (s.reported (.noted (.missingTemplate name))) none _
  applied := fun s _ _ => remembering_accounted s none _
  rejected := fun s _ => remembering_accounted s none _
  asked := fun _ _ _ _ => id
  rendered := fun s _ => remembering_accounted s none _
  caught := fun inside => inside
  passed := fun inside => inside

end Law

/-- A path that was looked up is looked up again as the same value, as long as it is remembered. -/
theorem Scope.lookup_again {host : Host σ} {scope : Scope} {path : Text} {s t u : Session σ}
    {value : Value} {failure : Option Failure}
    (found : scope.lookup host path s = some (.ok value, t))
    (remembers : Law.remembering t failure u) :
    scope.lookup host path u = some (.ok value, u) := by
  by_cases several : path = ['.']
  · -- A single dot is not remembered, but always the innermost value.
    subst several
    cases found
    rfl
  · refine lookup_of_memo host scope several (remembers path value ?_)
    rw [lookup, if_neg several, Render.get_bind] at found
    -- A path that is new is remembered with the value that was found.
    cases known : s.memo.lookup path with
    | some old =>
      rw [known] at found
      cases found
      exact known
    | none =>
      rw [known] at found
      dsimp only at found
      rw [Render.bind_apply] at found
      obtain ⟨⟨outcome, middle⟩, resolved, ended⟩ := Option.bind_eq_some_iff.mp found
      cases outcome with
      | error failure => cases ended
      | ok given =>
        cases ended
        change List.lookup path ((path, _) :: middle.memo) = _
        rw [List.lookup_cons, beq_self_eq_true]

namespace Value

/-- Whether a value is taken as a whole, even if it has items: texts, bytes, mappings, providers. -/
def isWhole (value : Value) : Bool :=
  match value with
  | .text _ => true
  | .bytes _ => true
  | .mapping _ => true
  | .object _ _ _ _ _ => value.resolver?.isSome
  | .shared _ content => content.isWhole
  | _ => false

/-- The collections are the values that have items and are not taken as a whole. -/
theorem isCollection_eq (value : Value) :
    value.isCollection = (value.items?.isSome && !value.isWhole) := by
  -- Each kind of value is compared by itself; what a shared value holds decides for it.
  match value with
  | .shared _ content => exact isCollection_eq content
  | .object _ _ _ _ items =>
    -- An object without items is none, and one that is a provider is taken as a whole.
    cases items with
    | none => rfl
    | some items =>
      simp only [isCollection, items?, isWhole, Option.isSome_some, Bool.true_and,
        Option.not_isSome]
  | .null | .bool _ | .int _ | .float _ | .complex _ _ | .text _ | .list _ | .tuple _ | .set _
  | .frozenSet _ | .mapping _ | .range _ _ _ | .bytes _ | .buffer _ | .stream _ _ | .kind _ _
  | .function _ | .absent => rfl

end Value

/--
What a section writes over a value that is not falsy, with the children that are in it.

They are written once for each item in its turn, once in the scene of the section, or once over the
value.
-/
inductive Scene.WritesOver (host : Host σ) (nested : Nested σ) (scene : Scene) (value : Value)
    (children : List Token) (s : Session σ) (chunks : List Chunk) (t : Session σ) : Prop
  /-- The value has items, at least one of them, and is not taken as a whole. -/
  | items {count : Nat} (several : value.items?.isSome = true) (apart : value.isWhole = false)
      (size : value.size? = some count) (positive : 0 < count)
      (turned : value.Turned
        (fun item => Render.inNewScope (Token.writeAll host nested (scene.push item) children))
        0 s chunks count t)
  /-- The value is true. -/
  | here (truth : value = .bool true)
      (written : Token.writeAll host nested scene children s = some (.ok chunks, t))
  /-- The value is any other one. -/
  | single (other : value ≠ .bool true) (whole : value.items? = none ∨ value.isWhole = true)
      (written : Render.inNewScope (Token.writeAll host nested (scene.push value) children) s
        = some (.ok chunks, t))

section Sections

variable {host : Host σ} {nested : Nested σ} {scene : Scene} {value : Value}

/-- A collection counts as false if its size is zero. -/
theorem Value.isFalsy_of_isCollection (collection : value.isCollection = true) :
    value.isFalsy = (value.size? == some 0) := by
  -- None of the values that are looked at before is a collection.
  have falsy : value.isFalsy = (value.isCollection && value.size? == some 0) := by
    cases value <;> first | rfl | cases collection
  rw [falsy, collection, Bool.true_and]

/-- A collection that is not falsy has items if they can be counted. -/
theorem Value.size_pos_of_truthy (collection : value.isCollection = true)
    (countable : value.isUncountable = false) (truthy : value.isFalsy = false) :
    ∃ count, value.size? = some count ∧ 0 < count := by
  obtain ⟨items, -, size⟩ := exists_items_of_isCollection collection countable
  -- A collection without items would count as false.
  refine ⟨items.length, size, Nat.pos_of_ne_zero fun empty => ?_⟩
  rw [isFalsy_of_isCollection collection, size, empty] at truthy
  cases truthy

/-- A collection whose items cannot be counted does not count as false. -/
theorem Value.isFalsy_of_isUncountable (many : value.isUncountable = true) :
    value.isFalsy = false := by
  -- Without a size there is nothing that could be zero.
  rw [isUncountable, Bool.and_eq_true, Option.isNone_iff_eq_none] at many
  rw [isFalsy_of_isCollection many.1, many.2]
  rfl

/-- Nothing can be written over a collection whose items cannot be counted. -/
theorem Scene.not_writesOver_of_uncountable (many : value.isUncountable = true)
    {children : List Token} {s t : Session σ} {chunks : List Chunk} :
    ¬ scene.WritesOver host nested value children s chunks t := by
  rw [Value.isUncountable, Bool.and_eq_true, Option.isNone_iff_eq_none] at many
  obtain ⟨collection, none⟩ := many
  -- A collection has items and is not taken as a whole, so only its size is missing.
  have kinds := value.isCollection_eq
  rw [collection, eq_comm, Bool.and_eq_true, Bool.not_eq_true'] at kinds
  -- Each of the three ways to be written asks for what this value is not.
  rintro (⟨several, apart, size, -⟩ | ⟨rfl, -⟩ | ⟨-, itemless | whole, -⟩)
  · rw [none] at size
    cases size
  · cases collection
  · simp [itemless] at kinds
  · simp [whole] at kinds

/-- A section is written over a collection that is not falsy once for each of its items. -/
theorem Scene.writeSection_eq_ok_iff_turned (collection : value.isCollection = true)
    (countable : value.isUncountable = false) (truthy : value.isFalsy = false)
    (inside : Scene → Render σ (List Chunk)) (applied : Function → Render σ (List Chunk))
    {s t : Session σ} {chunks : List Chunk} :
    scene.writeSection value inside applied s = some (.ok chunks, t)
      ↔ ∃ count, value.size? = some count ∧ 0 < count ∧ value.Turned
        (fun item => Render.inNewScope (inside (scene.push item))) 0 s chunks count t := by
  obtain ⟨count, size, positive⟩ := Value.size_pos_of_truthy collection countable truthy
  obtain ⟨repeats, counted⟩ : value.repeats = true ∧ value.turnCount = value.size?.getD 0 := by
    cases value <;> first | exact ⟨collection, rfl⟩ | cases collection
  rw [writeSection_of_repeats scene repeats countable truthy, counted, size, Option.getD_some]
  constructor
  · intro ran
    rcases writeTurns_cases ran with ⟨stop, _, same, turned, within, last⟩ |
      ⟨_, _, _, _, _, _, same, -⟩
    · cases same
      -- There is a turn for each item, and the last one is that of the last item.
      have whole : stop = count := by
        rw [Value.turn?_eq_none_iff collection size] at last
        omega
      exact ⟨count, rfl, positive, whole ▸ turned⟩
    · cases same
  · rintro ⟨_, same, -, turned⟩
    cases same
    have enough : 0 + count = count + 0 := Nat.zero_add count
    rw [writeTurns_of_turned turned enough]
    -- Nothing is written behind the last turn.
    change some (Except.ok (chunks ++ []), t) = _
    rw [List.append_nil]

/-- A section writes over a value that is not falsy as the kind of the value says. -/
theorem Scene.writeSection_eq_ok_iff (countable : value.isUncountable = false)
    (truthy : value.isFalsy = false)
    (noFunction : ∀ f, value ≠ .function f) (noStream : ∀ id items, value ≠ .stream id items)
    (children : List Token) (applied : Function → Render σ (List Chunk)) {s t : Session σ}
    {chunks : List Chunk} :
    scene.writeSection value (fun inner => Token.writeAll host nested inner children) applied s
        = some (.ok chunks, t)
      ↔ scene.WritesOver host nested value children s chunks t := by
  -- The kinds exclude each other: a collection, the value true, and whatever else stands alone.
  have kinds := value.isCollection_eq
  cases collection : value.isCollection with
  | true =>
    rw [writeSection_eq_ok_iff_turned collection countable truthy]
    rw [collection, eq_comm, Bool.and_eq_true, Bool.not_eq_true'] at kinds
    -- A collection is written item by item, and is neither true nor single.
    constructor
    · rintro ⟨count, size, positive, turned⟩
      exact .items kinds.1 kinds.2 size positive turned
    · rintro (⟨-, -, size, positive, turned⟩ | ⟨rfl, -⟩ | ⟨-, none | whole, -⟩)
      · exact ⟨_, size, positive, turned⟩
      · cases collection
      · simp [none] at kinds
      · simp [whole] at kinds
  | false =>
    have repeats : value.repeats = false := by
      cases value <;> first | exact collection | exact absurd rfl (noStream _ _)
    rw [collection, eq_comm, Bool.and_eq_false_iff, Option.isSome_eq_false_iff,
      Option.isNone_iff_eq_none, Bool.not_eq_false'] at kinds
    -- The value true leaves the scope as it is.
    by_cases truth : value = .bool true
    · subst truth
      constructor
      · exact .here rfl
      · rintro (⟨several, -⟩ | ⟨-, written⟩ | ⟨other, -⟩)
        · cases several
        · exact written
        · exact absurd rfl other
    · rw [writeSection_of_single scene repeats truthy noFunction
        (Value.ne_bool_of_truthy truthy truth)]
      -- Any other value is pushed once.
      constructor
      · exact .single truth kinds
      · rintro (⟨several, apart, -⟩ | ⟨same, -⟩ | ⟨-, -, written⟩)
        · simp [apart, Option.isSome_iff_ne_none.mp several] at kinds
        · exact absurd same truth
        · exact written

/-- Two tokens are written one after the other. -/
theorem Token.writeAll_pair (first second : Token) :
    Token.writeAll host nested scene [first, second]
      = Token.write host nested scene first >>= fun chunks =>
        Token.write host nested scene second >>= fun others => pure (chunks ++ others) := by
  -- Nothing comes behind the second one, so that no chunks are added.
  simp only [Token.writeAll, bind_assoc, pure_bind, List.append_nil]

/-- No section is written over a collection whose items cannot be counted. -/
theorem Token.write_of_uncountable {name : Text} {s t : Session σ}
    (found : scene.scope.lookup host name s = some (.ok value, t))
    (many : value.isUncountable = true) (inverted : Bool) (children : List Token) (span : Span)
    (close : Int) :
    Token.write host nested scene (.block inverted name span children close) s
      = some (.error .uncountable, t) := by
  -- The value is looked up before its items are counted.
  rw [Token.write, Render.bind_apply, Scene.subject_of_lookup found, Value.counted, if_pos many]
  rfl

/-- A section is written over the value of its name. -/
theorem Token.write_section {name : Text} {s t : Session σ}
    (found : scene.subject host name s = some (.ok value, t)) (children : List Token)
    (span : Span) (close : Int) :
    Token.write host nested scene (.block false name span children close) s
      = scene.writeSection value (fun inner => Token.writeAll host nested inner children)
        (fun f => scene.writeApplied host nested f fun source =>
          .ok (Text.slice source span.stop close)) t := by
  -- The value is looked up first, and it decides the rest.
  rw [Token.write, Render.bind_apply, found]
  rfl

/-- An inverted section is written if the value of its name is falsy. -/
theorem Token.write_inverted {name : Text} {s t : Session σ}
    (found : scene.subject host name s = some (.ok value, t)) (children : List Token)
    (span : Span) (close : Int) :
    Token.write host nested scene (.block true name span children close) s
      = if value.isFalsy then Token.writeAll host nested scene children t
        else some (.ok [], t) := by
  -- The value that was found decides, without another lookup.
  rw [Token.write, Render.bind_apply, found, Option.bind_some]
  dsimp only
  rw [if_pos rfl]
  split <;> rfl

/-- What is remembered in the scope of a section stays remembered while the section is written. -/
theorem Scene.remembering_writeSection (nests : nested.Lawful Law.remembering)
    (children : List Token) {applied : Function → Render σ (List Chunk)}
    (applies : ∀ f, Obeys Law.remembering (applied f)) :
    Obeys Law.remembering (scene.writeSection value
      (fun inner => Token.writeAll host nested inner children) applied) := by
  -- The children are written in the scope of the section or inside of one item.
  have inside (inner : Scene) :
      Obeys Law.remembering (Token.writeAll host nested inner children) :=
    .writeTokens nests (fun _ => Law.remembering_blind) children
  exact .writeSection value (inside scene) (fun item => inside (scene.push item)) applies

end Sections

/--
A section and an inverted section of one name are complementary.

Over a falsy value only what is in the inverted section is written, once and in the same scene. Over
any other one only what is in the section is written: once for each item, which is put into scope,
if the value has items and is neither a text nor bytes nor a mapping nor a provider; once in the
same scene if it is true; and otherwise once with the value put into scope.
-/
theorem Token.writeAll_complementary (host : Host σ) (depth : Nat) {scene : Scene} {name : Text}
    {value : Value} {s t : Session σ}
    (found : scene.scope.lookup host name s = some (.ok value, t))
    (noFunction : ∀ f, value ≠ .function f) (noStream : ∀ id items, value ≠ .stream id items)
    (children otherwise : List Token) (span span' : Span) (close close' : Int)
    (chunks : List Chunk) (after : Session σ) :
    Token.writeAll host (Nested.upTo host depth) scene
        [.block false name span children close, .block true name span' otherwise close'] s
        = some (.ok chunks, after)
      ↔ value.isFalsy = true
          ∧ Token.writeAll host (Nested.upTo host depth) scene otherwise t
            = some (.ok chunks, after)
        ∨ value.isFalsy = false
          ∧ scene.WritesOver host (Nested.upTo host depth) value children t chunks after := by
  have nests : (Nested.upTo host depth).Lawful Law.remembering := Nested.upTo_lawful host depth
  rw [Token.writeAll_pair, Render.bind_apply]
  -- What cannot be counted makes the section fail, and is neither falsy nor written over.
  rcases Bool.eq_false_or_eq_true value.isUncountable with many | countable
  · rw [Token.write_of_uncountable found many, Value.isFalsy_of_isUncountable many]
    refine iff_of_false nofun ?_
    rintro (⟨falsy, -⟩ | ⟨-, writes⟩)
    · cases falsy
    · exact Scene.not_writesOver_of_uncountable many writes
  rw [Token.write_section (Scene.subject_eq_ok_iff.mpr ⟨found, countable⟩)]
  cases falsy : value.isFalsy with
  | true =>
    -- The section writes nothing, and the value is remembered.
    have again : scene.subject host name t = some (.ok value, t) := Scene.subject_eq_ok_iff.mpr
      ⟨Scope.lookup_again found (Law.remembering_of_memo_eq none rfl), countable⟩
    rw [Scene.writeSection_of_falsy scene falsy]
    change (Token.write _ _ _ _ >>= fun others => pure ([] ++ others)) t = _ ↔ _
    simp only [List.nil_append, bind_pure, Token.write_inverted again, falsy, if_true, true_and,
      Bool.true_eq_false, false_and, or_false]
  | false =>
    let applied (f : Function) : Render σ (List Chunk) :=
      scene.writeApplied host (Nested.upTo host depth) f fun source =>
        .ok (Text.slice source span.stop close)
    have applies (f : Function) : Obeys Law.remembering (applied f) :=
      .writeApplied nests (fun _ => Law.remembering_blind) f fun _ => ⟨_, rfl⟩
    -- Whatever the section has done, the value is remembered, and the inverted one writes nothing.
    have nothing {first : List Chunk} {u : Session σ} (written : scene.writeSection value
        (fun inner => Token.writeAll host (Nested.upTo host depth) inner children) applied t
        = some (.ok first, u)) :
        Token.write host (Nested.upTo host depth) scene (.block true name span' otherwise close') u
          = some (.ok [], u) := by
      have remembers := Scene.remembering_writeSection nests children applies t _ u written
      have again := Scene.subject_eq_ok_iff.mpr ⟨Scope.lookup_again found remembers, countable⟩
      rw [Token.write_inverted again, falsy]
      rfl
    rw [← Scene.writeSection_eq_ok_iff countable falsy noFunction noStream children applied]
    simp only [Bool.false_eq_true, false_and, false_or, true_and]
    constructor
    · intro ran
      obtain ⟨⟨outcome, u⟩, written, ended⟩ := Option.bind_eq_some_iff.mp ran
      cases outcome with
      | error failure => cases ended
      | ok first =>
        dsimp only at ended
        rw [Render.bind_apply, nothing written] at ended
        cases ended
        rw [List.append_nil]
        exact written
    · intro written
      have last :
          (pure (chunks ++ []) : Render σ (List Chunk)) after = some (.ok chunks, after) := by
        rw [List.append_nil]
        rfl
      rw [written, Option.bind_some]
      dsimp only
      rw [Render.bind_apply, nothing written, Option.bind_some]
      exact last

/-- Two items are written in turn, and nothing of what is in the inverted section. -/
theorem Token.writeAll_complementary_items :
    let host : Host Unit := ⟨fun _ _ s => (.ok .null, s), fun _ _ s => .value .null s⟩
    let value : Value := .list [.text ['x'], .text ['y']]
    let scene : Scene := ⟨{ view := .mapping [(.text ['a'], value)] }, .null, {}, none⟩
    let children : List Token := [.variable false ['.'] ⟨6, 12⟩]
    let otherwise : List Token := [.text ['n', 'o'] ⟨24, 26⟩]
    let start : Session Unit := { host := () }
    let t := { start with memo := [(['a'], value)] }
    ∃ after, scene.scope.lookup host ['a'] start = some (.ok value, t)
      ∧ (∀ f, value ≠ .function f) ∧ (∀ id items, value ≠ .stream id items)
      ∧ Token.writeAll host (Nested.upTo host 0) scene
          [.block false ['a'] ⟨0, 6⟩ children 12, .block true ['a'] ⟨18, 24⟩ otherwise 26] start
          = some (.ok [.value ['x'], .value ['y']], after)
      ∧ scene.WritesOver host (Nested.upTo host 0) value children t [.value ['x'], .value ['y']]
          after := by
  intro host value scene children otherwise start t
  -- The path is looked up, which remembers it for the inverted section.
  have found : scene.scope.lookup host ['a'] start = some (.ok value, t) := by
    with_unfolding_all rfl
  have ran : (Token.writeAll host (Nested.upTo host 0) scene
      [.block false ['a'] ⟨0, 6⟩ children 12, .block true ['a'] ⟨18, 24⟩ otherwise 26] start).map
        (·.1) = some (.ok [.value ['x'], .value ['y']]) := by
    with_unfolding_all rfl
  obtain ⟨⟨_, after⟩, written, rfl⟩ := Option.map_eq_some_iff.mp ran
  have noFunction (f : Function) : value ≠ .function f := nofun
  have noStream (id : Nat) (items : List Value) : value ≠ .stream id items := nofun
  refine ⟨after, found, noFunction, noStream, written, ?_⟩
  -- The list is not falsy, so that it is written over.
  rcases (writeAll_complementary host 0 found noFunction noStream children otherwise _ _ _ _ _ _).mp
    written with ⟨falsy, -⟩ | ⟨-, writes⟩
  · cases falsy
  · exact writes

end Mustache
