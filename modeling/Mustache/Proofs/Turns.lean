import Mathlib.Data.List.Basic
import Mustache.Proofs.Consulting

/-!
The turns of a section that is written over one item after the other.

Each turn takes the item at its place as it is then, since what is written before may have changed
it or taken items itself.
-/

namespace Mustache

variable {σ : Type}

namespace Value

/-- The item over which a section is written at a turn, if there is one, and the session then. -/
def turn? (value : Value) (place : Nat) (s : Session σ) : Option (Value × Session σ) :=
  match value with
  | .stream id items =>
    if place < items.length then
      items[s.taken id]?.map fun item =>
        (item, { s with taken := fun n => if n = id then s.taken id + 1 else s.taken n })
    else none
  | other => ((other.openedIn s.edits).items?.bind (·[place]?)).map (·, s)

/--
The turns of a section, from one place on up to another one, that have been written over a value.

Each of them takes the item at its place and writes it, and what they write is put together.
-/
inductive Turned (write : Value → Render σ (List Chunk)) (value : Value) :
    Nat → Session σ → List Chunk → Nat → Session σ → Prop
  /-- There have been no turns. -/
  | none (place : Nat) (s : Session σ) : Turned write value place s [] place s
  /-- There has been a turn, and others after it. -/
  | next {place stop : Nat} {s begun t u : Session σ} {item : Value} {first others : List Chunk}
      (turn : value.turn? place s = some (item, begun))
      (written : write item begun = some (.ok first, t))
      (later : Turned write value (place + 1) t others stop u) :
      Turned write value place s (first ++ others) stop u

/-- Turns are counted upwards. -/
theorem Turned.le {write : Value → Render σ (List Chunk)} {value : Value} {place stop : Nat}
    {s t : Session σ} {chunks : List Chunk} (turned : Turned write value place s chunks stop t) :
    place ≤ stop := by
  -- Each turn adds one.
  induction turned with
  | none => exact Nat.le_refl _
  | next _ _ _ ih => omega

/-- The number of turns that a section has over a value, or has at most if it is a stream. -/
def turnCount (value : Value) : Nat :=
  match value with
  | .stream _ items => items.length
  | other => other.size?.getD 0

/-- Whether a section is written over each item of a value, which is a collection or a stream. -/
def repeats (value : Value) : Bool :=
  match value with
  | .stream _ _ => true
  | other => other.isCollection

/-- What has a size can be counted. -/
theorem countable_of_size {value : Value} {count : Nat} (size : value.size? = some count) :
    value.isUncountable = false := by
  -- Only what has no size is uncountable.
  rw [isUncountable, size, Option.isNone_some, Bool.and_false]

/-- A range whose items can be counted is no longer than counting goes. -/
theorem rangeLength_le_of_countable {start stop step : Int}
    (countable : (range start stop step).isUncountable = false) :
    rangeLength start stop step ≤ countLimit := by
  -- A range has a size up to the limit, and none beyond it.
  simpa [isUncountable, isCollection, size?] using countable

/-- A collection whose items can be counted has as many of them as its size says. -/
theorem exists_items_of_isCollection {value : Value} (collection : value.isCollection = true)
    (countable : value.isUncountable = false) :
    ∃ items, value.items? = some items ∧ value.size? = some items.length := by
  -- A range is the only collection that may have too many items to be counted.
  fun_induction isCollection value with
  | case1 | case2 | case3 | case4 => exact ⟨_, rfl, rfl⟩
  | case5 start stop step =>
    have few := rangeLength_le_of_countable countable
    exact ⟨_, rfl, by simp [size?, rangeItems, few]⟩
  | case6 data => exact ⟨_, rfl, by simp [size?, byteItems]⟩
  | case7 => exact ⟨_, rfl, rfl⟩
  | case8 id content ih => exact ih collection countable
  | case9 => cases collection

/-- It still has as many items when texts were written into it. -/
theorem exists_items_edited {value : Value} (collection : value.isCollection = true)
    (countable : value.isUncountable = false) (edits : Edits) :
    ∃ items, (value.edited edits).items? = some items ∧ value.size? = some items.length := by
  -- Only lists and mappings are written into, and a mapping is no collection.
  unfold edited
  split
  · exact exists_items_of_isCollection collection countable
  · exact ⟨_, rfl, by simp [size?]⟩
  · cases collection
  · exact exists_items_of_isCollection collection countable

/-- A collection that is opened has as many items as its size says. -/
theorem exists_items_openedIn {value : Value} (collection : value.isCollection = true)
    (countable : value.isUncountable = false) (edits : Nat → Edits) :
    ∃ items, (value.openedIn edits).items? = some items ∧ value.size? = some items.length := by
  -- Only a shared collection may have been written to, which keeps its size.
  cases value with
  | shared id content =>
    have inner : content.isCollection = true := collection
    exact exists_items_edited inner countable (edits id)
  | _ => exact exists_items_of_isCollection collection countable

/-- Only a list has other items when it is opened. -/
theorem items?_openedIn {value : Value} (collection : value.isCollection = true)
    (noList : ∀ id items, value ≠ .shared id (.list items)) (edits : Nat → Edits) :
    (value.openedIn edits).items? = value.items? := by
  -- Writing to anything else than a list does not change its items.
  cases value with
  | shared id content =>
    change (content.edited (edits id)).items? = content.items?
    unfold edited
    split
    · rfl
    · exact absurd rfl (noList _ _)
    · cases collection
    · rfl
  | _ => rfl

/-- A turn over a collection changes nothing of the session. -/
theorem turn?_of_isCollection {value : Value} (collection : value.isCollection = true)
    (place : Nat) (s : Session σ) :
    value.turn? place s = ((value.openedIn s.edits).items?.bind (·[place]?)).map (·, s) := by
  -- Only a stream takes something from the session.
  unfold turn?
  split
  · cases collection
  · rfl

/-- There is a turn over a collection for each of its items, and for nothing else. -/
theorem turn?_eq_none_iff {value : Value} (collection : value.isCollection = true) {count : Nat}
    (size : value.size? = some count) (place : Nat) (s : Session σ) :
    value.turn? place s = none ↔ count ≤ place := by
  -- The item at a place is there as long as the place is less than their number.
  obtain ⟨items, same, size'⟩ := exists_items_openedIn collection (countable_of_size size) s.edits
  rw [size, Option.some.injEq] at size'
  rw [turn?_of_isCollection collection, same, size', Option.bind_some, Option.map_eq_none_iff,
    List.getElem?_eq_none_iff]

/-- There are no more turns than are counted. -/
theorem lt_turnCount_of_turn? {value : Value} (repeats : value.repeats = true)
    (countable : value.isUncountable = false) {place : Nat} {s begun : Session σ} {item : Value}
    (turn : value.turn? place s = some (item, begun)) : place < value.turnCount := by
  -- A collection has no item at a place past its last one.
  have counted (collection : value.isCollection = true)
      (count : value.turnCount = value.size?.getD 0) : place < value.turnCount := by
    obtain ⟨items, -, size⟩ := exists_items_of_isCollection collection countable
    rw [count, size, Option.getD_some]
    refine Nat.lt_of_not_le fun past => ?_
    rw [(turn?_eq_none_iff collection size place s).mpr past] at turn
    cases turn
  cases value with
  | stream id items =>
    -- A stream hands out no more items than it ever had.
    simp only [turn?] at turn
    split at turn
    · assumption
    · cases turn
  | _ => exact counted repeats rfl

end Value

section Loops

variable {write : Value → Render σ (List Chunk)} {value : Value}

/-- Write an item at each turn from a place on, as long as there are items, and at most so many. -/
def writeTurns (write : Value → Render σ (List Chunk)) (value : Value) :
    Nat → Nat → Render σ (List Chunk)
  | _, 0 => pure []
  | place, most + 1 => fun s =>
    match value.turn? place s with
    | none => some (.ok [], s)
    | some (item, begun) =>
      (write item >>= fun first => writeTurns write value (place + 1) most >>= fun others =>
        pure (first ++ others)) begun

/-- At a turn its item is written, and then those of the turns after it. -/
theorem writeTurns_of_turn {place : Nat} {s begun : Session σ} {item : Value}
    (turn : value.turn? place s = some (item, begun)) (most : Nat) :
    writeTurns write value place (most + 1) s =
      (write item >>= fun first => writeTurns write value (place + 1) most >>= fun others =>
        pure (first ++ others)) begun := by
  -- The turn is taken first, by definition.
  simp only [writeTurns, turn]

/-- Nothing is written where there is no turn. -/
theorem writeTurns_of_none {place : Nat} {s : Session σ} (none : value.turn? place s = none)
    (most : Nat) : writeTurns write value place most s = some (.ok [], s) := by
  -- However many turns are left, the first one already fails.
  cases most with
  | zero => rfl
  | succ most => simp only [writeTurns, none]

/-- The items of a collection are written turn by turn. -/
theorem writeEach_eq_writeTurns {items : List Value}
    (turns : ∀ place (s : Session σ), value.turn? place s = items[place]?.map (·, s))
    (place : Nat) :
    writeEach (items.drop place) write = writeTurns write value place (items.length - place) := by
  -- By induction on how many items are left.
  generalize rest : items.length - place = most
  induction most generalizing place with
  | zero =>
    rw [List.drop_eq_nil_of_le (by omega)]
    rfl
  | succ most ih =>
    -- The first item left is that of the turn at hand.
    have inside : place < items.length := by omega
    rw [List.drop_eq_getElem_cons inside]
    funext s
    have turn : value.turn? place s = some (items[place], s) := by
      rw [turns, List.getElem?_eq_getElem inside, Option.map_some]
    rw [writeEach, ih (place + 1) (by omega), writeTurns_of_turn turn]

/-- The items of a shared list are written turn by turn. -/
theorem writeShared_eq_writeTurns (id : Nat) (items : List Value) (place : Nat) :
    writeShared id write place (items.drop place)
      = writeTurns write (.shared id (.list items)) place (items.length - place) := by
  -- The induction is on the items that are left; those of a shared list may have been edited.
  generalize rest : items.length - place = most
  induction most generalizing place with
  | zero =>
    rw [List.drop_eq_nil_of_le (by omega)]
    rfl
  | succ most ih =>
    have inside : place < items.length := by omega
    rw [List.drop_eq_getElem_cons inside]
    funext s
    -- The item is the one that was there, or the text that was written in its place.
    have turn : (Value.shared id (.list items)).turn? place s
        = some ((s.edits id).itemAt place items[place], s) := by
      have opened : ((Value.list items).edited (s.edits id)).items?
          = some (items.mapIdx (s.edits id).itemAt) := by
        cases s.edits id with
        | nil =>
          have same : items.mapIdx (Edits.itemAt []) = items :=
            List.mapIdx_eq_iff.mpr fun _ => (Option.map_id').symm
          rw [Value.edited_nil, same]
          rfl
        | cons edit edits => rfl
      rw [Value.turn?_of_isCollection rfl]
      simp only [Value.openedIn, opened, Option.bind_some, List.getElem?_mapIdx,
        List.getElem?_eq_getElem inside, Option.map_some]
    rw [writeShared, Render.get_bind, ih (place + 1) (by omega), writeTurns_of_turn turn]

/-- The integers of a range are written turn by turn. -/
theorem writeSteps_eq_writeTurns (write : Value → Render σ (List Chunk)) (start stop step : Int)
    (place : Nat) :
    writeSteps (start + place * step) step write (Value.rangeLength start stop step - place)
      = writeTurns write (.range start stop step) place
        (Value.rangeLength start stop step - place) := by
  -- By induction on how many integers are left.
  generalize rest : Value.rangeLength start stop step - place = most
  induction most generalizing place with
  | zero => rfl
  | succ most ih =>
    -- The item of this turn is the start and a multiple of the step.
    funext s
    have turn : (Value.range start stop step).turn? place s
        = some (.int (start + place * step), s) := by
      rw [Value.turn?_of_isCollection rfl]
      have inside : place < Value.rangeLength start stop step := by omega
      simp [Value.openedIn, Value.items?, Value.rangeItems, inside]
    have next : start + place * step + step = start + (place + 1 : Nat) * step := by
      rw [Int.natCast_succ, Int.add_mul, Int.one_mul, Int.add_assoc]
    rw [writeSteps, next, ih (place + 1) (by omega), writeTurns_of_turn turn]

/-- The items that a stream hands out are written turn by turn. -/
theorem writeStream_eq_writeTurns (id : Nat) (items : List Value) (place : Nat) :
    writeStream id items write (items.length - place)
      = writeTurns write (.stream id items) place (items.length - place) := by
  -- The induction is on the items that the stream might still have to hand out.
  generalize rest : items.length - place = most
  induction most generalizing place with
  | zero => rfl
  | succ most ih =>
    funext s
    have inside : place < items.length := by omega
    rw [writeStream, ih (place + 1) (by omega), Render.bind_apply, Render.next?, Render.get_bind]
    -- The stream may have handed out all its items already.
    cases left : items[s.taken id]? with
    | none =>
      have turn : (Value.stream id items).turn? place s = none := by
        simp [Value.turn?, left]
      rw [writeTurns_of_none turn]
      rfl
    | some item =>
      have turn : (Value.stream id items).turn? place s = some (item,
          { s with taken := fun n => if n = id then s.taken id + 1 else s.taken n }) := by
        simp [Value.turn?, left, inside]
      rw [writeTurns_of_turn turn]
      rfl

/-- What is neither falsy nor true is no truth value. -/
theorem Value.ne_bool_of_truthy (truthy : value.isFalsy = false) (other : value ≠ .bool true)
    (b : Bool) : value ≠ .bool b := by
  rintro rfl
  -- There are two truth values, one of which is falsy.
  cases b with
  | true => exact other rfl
  | false => cases truthy

/-- A section writes nothing over a falsy value. -/
theorem Scene.writeSection_of_falsy (scene : Scene) (falsy : value.isFalsy = true)
    (inside : Scene → Render σ (List Chunk)) (applied : Function → Render σ (List Chunk)) :
    scene.writeSection value inside applied = pure [] := by
  -- That the value is falsy is looked at first.
  unfold writeSection
  rw [falsy]
  rfl

/-- A section is written turn by turn over a collection or a stream that is not falsy. -/
theorem Scene.writeSection_of_repeats (scene : Scene) (repeats : value.repeats = true)
    (countable : value.isUncountable = false) (truthy : value.isFalsy = false)
    (inside : Scene → Render σ (List Chunk))
    (applied : Function → Render σ (List Chunk)) :
    scene.writeSection value inside applied = writeTurns
      (fun item => Render.inNewScope (inside (scene.push item))) value 0 value.turnCount := by
  unfold writeSection
  rw [truthy]
  dsimp only
  rw [if_neg Bool.false_ne_true]
  -- A stream, a range and a shared list have loops of their own; all others have items.
  split
  · exact writeStream_eq_writeTurns _ _ 0
  · rename_i start stop step
    have first : start + (0 : Nat) * step = start := by simp
    have steps := writeSteps_eq_writeTurns
      (fun item => Render.inNewScope (inside (scene.push item))) start stop step 0
    have few := Value.rangeLength_le_of_countable countable
    have count : (Value.range start stop step).turnCount = Value.rangeLength start stop step := by
      simp [Value.turnCount, Value.size?, few]
    rw [first] at steps
    rw [count]
    exact steps
  · cases repeats
  · cases repeats
  · exact writeShared_eq_writeTurns _ _ 0
  · rename_i noStream _ _ _ noList
    -- It is no stream, and so a collection, and no shared list.
    have collection : value.isCollection = true := by
      unfold Value.repeats at repeats
      split at repeats
      · exact absurd rfl (noStream _ _)
      · exact repeats
    obtain ⟨items, given, size⟩ := Value.exists_items_of_isCollection collection countable
    have count : value.turnCount = items.length := by
      unfold Value.turnCount
      split
      · exact absurd rfl (noStream _ _)
      · rw [size, Option.getD_some]
    have turns (place : Nat) (s : Session σ) :
        value.turn? place s = items[place]?.map (·, s) := by
      rw [Value.turn?_of_isCollection collection, Value.items?_openedIn collection noList, given,
        Option.bind_some]
    rw [Value.collection?, if_pos collection, given, count]
    exact writeEach_eq_writeTurns turns 0

/-- A section is written once over a value that is neither a collection nor of a kind of its own. -/
theorem Scene.writeSection_of_single (scene : Scene) (single : value.repeats = false)
    (truthy : value.isFalsy = false) (noFunction : ∀ f, value ≠ .function f)
    (noBool : ∀ b, value ≠ .bool b) (inside : Scene → Render σ (List Chunk))
    (applied : Function → Render σ (List Chunk)) :
    scene.writeSection value inside applied = Render.inNewScope (inside (scene.push value)) := by
  unfold writeSection
  rw [truthy]
  dsimp only
  rw [if_neg Bool.false_ne_true]
  -- All kinds with a way of their own are excluded.
  split
  · cases single
  · cases single
  · exact absurd rfl (noFunction _)
  · exact absurd rfl (noBool _)
  · cases single
  · -- No value that is written once is a collection.
    rename_i noStream _ _ _ _
    have noCollection : value.isCollection = false := by
      unfold Value.repeats at single
      split at single
      · exact absurd rfl (noStream _ _)
      · exact single
    rw [Value.collection?, noCollection]
    rfl

/-- What is written behind some turns is put behind what they have written. -/
theorem writeTurns_of_turned {place stop : Nat} {s u : Session σ} {chunks : List Chunk}
    (turned : Value.Turned write value place s chunks stop u) {most rest : Nat}
    (enough : place + most = stop + rest) :
    writeTurns write value place most s
      = (writeTurns write value stop rest u).map fun o => (o.1.map (chunks ++ ·), o.2) := by
  -- The induction is on the turns; those left are as many as those behind them and the rest.
  induction turned generalizing most with
  | none place s =>
    have same : most = rest := by omega
    rw [same]
    cases writeTurns write value place rest s with
    | none => rfl
    | some outcome =>
      obtain ⟨result, after⟩ := outcome
      cases result <;> rfl
  | @next place stop s begun t u item first others turn written later ih =>
    have further := later.le
    obtain ⟨more, rfl⟩ : ∃ more, most = more + 1 := ⟨most - 1, by omega⟩
    rw [writeTurns_of_turn turn, Render.bind_apply, written]
    dsimp only [Option.bind_some]
    rw [Render.bind_apply, ih (by omega)]
    -- The turns behind the first one fail or give their chunks, which stand behind its own.
    cases writeTurns write value stop rest u with
    | none => rfl
    | some outcome =>
      obtain ⟨result, after⟩ := outcome
      cases result with
      | error failure => rfl
      | ok chunks =>
        simp only [Option.map_some, Option.bind_some, Except.map, List.append_assoc]
        rfl

/-- All turns are written, or one fails after those before it were written. -/
theorem writeTurns_cases {place most : Nat} {s t : Session σ} {result : Except Failure (List Chunk)}
    (ran : writeTurns write value place most s = some (result, t)) :
    (∃ stop chunks, result = .ok chunks ∧ Value.Turned write value place s chunks stop t
        ∧ stop ≤ place + most ∧ (stop = place + most ∨ value.turn? stop t = none))
      ∨ ∃ stop chunks u item begun failure, result = .error failure
        ∧ Value.Turned write value place s chunks stop u
        ∧ value.turn? stop u = some (item, begun)
        ∧ write item begun = some (.error failure, t) := by
  -- The induction is on the turns; a first one that fails ends the row.
  induction most generalizing place s t result with
  | zero =>
    cases ran
    exact .inl ⟨place, [], rfl, .none place _, Nat.le_refl _, .inl rfl⟩
  | succ most ih =>
    cases turn : value.turn? place s with
    | none =>
      rw [writeTurns_of_none turn] at ran
      cases ran
      exact .inl ⟨place, [], rfl, .none place _, Nat.le_add_right _ _, .inr turn⟩
    | some taken =>
      obtain ⟨item, begun⟩ := taken
      rw [writeTurns_of_turn turn, Render.bind_apply] at ran
      obtain ⟨⟨outcome, middle⟩, written, ended⟩ := Option.bind_eq_some_iff.mp ran
      cases outcome with
      | error failure =>
        cases ended
        exact .inr ⟨place, [], s, item, begun, failure, rfl, .none place s, turn, written⟩
      | ok first =>
        dsimp only at ended
        rw [Render.bind_apply] at ended
        obtain ⟨⟨outcome, after⟩, later, ended⟩ := Option.bind_eq_some_iff.mp ended
        -- The turns after the first one are all written, or one of them fails.
        rcases ih later with ⟨stop, others, rfl, turned, within, last⟩ |
            ⟨stop, others, u, item', begun', failure, rfl, turned, turn', failed⟩
        · cases ended
          refine .inl ⟨stop, first ++ others, rfl, .next turn written turned, by omega, ?_⟩
          exact last.imp (fun last => by omega) id
        · cases ended
          exact .inr ⟨stop, first ++ others, u, item', begun', failure, rfl,
            .next turn written turned, turn', failed⟩

end Loops

end Mustache
