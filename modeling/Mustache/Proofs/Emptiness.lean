import Mustache.Proofs.Complementary
import Mustache.Value.Key

/-!
Which values count as false.

Of the values that have a length these are the empty ones, and of the numbers the zeros and the one
that is no number. Bytes that cannot change and complex numbers never count as false.
-/

namespace Mustache

variable {σ : Type}

/-- A number is the integer zero if it is one of the zeros. -/
theorem Binary64.isInt_zero (x : Binary64) : x.isInt 0 = x.isZero := by
  -- Neither a value that is no number nor an infinite one is an integer.
  match x with
  | .nan => rfl
  | .infinite negative => rfl
  | .finite negative mantissa exponent =>
    -- A power of two is not zero, so a multiple of it is zero only if the mantissa is.
    have power : Int.pow 2 exponent.toNat ≠ 0 := Int.ne_of_gt (Int.pow_pos (by decide))
    have same : (Binary64.finite negative mantissa exponent).isInt 0 = (mantissa == 0) := by
      rw [isInt, Int.zero_mul, Bool.eq_iff_iff, beq_iff_eq, beq_iff_eq, Int.mul_eq_zero,
        or_iff_left power]
      cases negative <;> simp
    rw [same]
    cases mantissa <;> rfl

namespace Value

/-- Whether a value is a mapping, which may be shared. -/
def isMapping : Value → Bool
  | .mapping _ => true
  | .shared _ content => content.isMapping
  | _ => false

/-- Whether a value is a string of bytes that cannot change. -/
def isBytes : Value → Bool
  | .bytes _ => true
  | _ => false

/-- Whether a value is a number of any kind, to which the truth values belong. -/
def isNumber : Value → Bool
  | .bool _ => true
  | .int _ => true
  | .float _ => true
  | .complex _ _ => true
  | _ => false

/-- What is shared is a list or a mapping. -/
def SharesProperly (value : Value) : Prop :=
  ∀ id content, value = .shared id content →
    (∃ items, content = .list items) ∨ ∃ entries, content = .mapping entries

/-- A mapping is no collection. -/
theorem isCollection_of_isMapping {value : Value} (mapping : value.isMapping = true) :
    value.isCollection = false := by
  -- A value that is shared is a mapping if its content is one.
  fun_induction isMapping value with
  | case1 entries => rfl
  | case2 id content ih => exact ih mapping
  | case3 => cases mapping

/-- A mapping never counts as false, even if it is empty. -/
theorem isFalsy_of_isMapping {value : Value} (mapping : value.isMapping = true) :
    value.isFalsy = false := by
  -- Only collections are asked for their size.
  have single := isCollection_of_isMapping mapping
  cases value with
  | mapping entries => rfl
  | shared id content => simp only [isFalsy, single, Bool.false_and]
  | _ => cases mapping

/-- A collection counts as false if it is empty. -/
theorem isFalsy_iff_of_isCollection {value : Value} (collection : value.isCollection = true)
    {length : Nat} (size : value.size? = some length) : value.isFalsy = true ↔ length = 0 := by
  -- The size is what a collection is asked for.
  rw [isFalsy_of_isCollection collection, size, beq_iff_eq, Option.some.injEq]

/--
A value with a length counts as false if it is empty, unless it is a string of bytes.

It is neither a mapping nor a provider.
-/
theorem isFalsy_iff_of_size {value : Value} {length : Nat} (size : value.size? = some length)
    (noMapping : value.isMapping = false) (noProvider : value.resolver? = none)
    (proper : value.SharesProperly) :
    value.isFalsy = true ↔ length = 0 ∧ value.isBytes = false := by
  -- Each kind of value with a length is a text, bytes, a mapping or a collection.
  cases value with
  | text t =>
    cases size
    simp [isFalsy, isBytes]
  | bytes data =>
    -- Bytes are no text, and sections do not repeat over them.
    exact iff_of_false nofun fun empty => nomatch empty.2
  | mapping entries => cases noMapping
  | object id className display attributes items =>
    obtain ⟨items, rfl⟩ : ∃ inside, items = some inside := by
      obtain ⟨inside, same, -⟩ := Option.map_eq_some_iff.mp size
      exact ⟨inside, same⟩
    have collection : (object id className display attributes (some items)).isCollection = true :=
      Option.isNone_iff_eq_none.mpr noProvider
    simp [isFalsy_iff_of_isCollection collection size, isBytes]
  | shared id content =>
    obtain ⟨items, rfl⟩ | ⟨entries, rfl⟩ := proper id content rfl
    · have collection : (shared id (list items)).isCollection = true := rfl
      simp [isFalsy_iff_of_isCollection collection size, isBytes]
    · cases noMapping
  | list _ | tuple _ | set _ | frozenSet _ | range _ _ _ | buffer _ =>
    simp [isFalsy_iff_of_isCollection rfl size, isBytes]
  | _ => cases size

/-- A number counts as false if it is zero or no number at all, unless it is a complex one. -/
theorem isFalsy_iff_of_isNumber {value : Value} (number : value.isNumber = true) :
    value.isFalsy = true
      ↔ (value.sameNumber (.int 0) = true ∨ value = .float .nan)
        ∧ ∀ re im, value ≠ .complex re im := by
  -- Each kind of number has its own zero, and complex numbers are not asked.
  cases value with
  | bool b => cases b <;> simp [isFalsy, sameNumber, asInteger]
  | int n => simp [isFalsy, sameNumber, asInteger]
  | float x => simp [isFalsy, sameNumber, asInteger, Binary64.isInt_zero]
  | complex re im => exact iff_of_false nofun fun zero => zero.2 re im rfl
  | _ => cases number

end Value

/--
What counts as false.

A value with a length that is neither a mapping nor a provider counts as false if it is empty and no
string of bytes that cannot change, and in this case only an inverted section over it writes what is
inside. A number counts as false if it is zero or no number at all, and is not complex. Mappings
never count as false.
-/
theorem Value.isFalsy_by_kind (value : Value) :
    (∀ length, value.size? = some length → value.isMapping = false → value.resolver? = none →
      value.SharesProperly →
      (value.isFalsy = true ↔ length = 0 ∧ value.isBytes = false)
      ∧ ∀ (host : Host σ) (nested : Nested σ) (scene : Scene) (name : Text) (s t : Session σ),
        scene.scope.lookup host name s = some (.ok value, t) →
        ∀ (children : List Token) (span : Span) (close : Int),
          Token.write host nested scene (.block true name span children close) s
            = if length = 0 ∧ value.isBytes = false then Token.writeAll host nested scene children t
              else some (.ok [], t))
    ∧ (value.isNumber = true →
      (value.isFalsy = true
        ↔ (value.sameNumber (.int 0) = true ∨ value = .float .nan)
          ∧ ∀ re im, value ≠ .complex re im))
    ∧ (value.isMapping = true → value.isFalsy = false) := by
  refine ⟨fun length size noMapping noProvider proper => ?_, isFalsy_iff_of_isNumber,
    isFalsy_of_isMapping⟩
  -- An inverted section goes by whether the value that is looked up counts as false.
  have empty := isFalsy_iff_of_size size noMapping noProvider proper
  refine ⟨empty, fun host nested scene name s t found children span close => ?_⟩
  -- The items could be counted, as there is a length.
  have countable := countable_of_size size
  rw [Token.write_inverted (Scene.subject_eq_ok_iff.mpr ⟨found, countable⟩)]
  simp only [empty]

/-- An empty list that is shared, no bytes, the zero of complex numbers, and an empty mapping. -/
theorem Value.isFalsy_by_kind_empty :
    let host : Host Unit := ⟨fun _ _ s => (.ok .null, s), fun _ _ s => .value .null s⟩
    let scene := fun view => (⟨{ view := view }, .null, {}, none⟩ : Scene)
    let s : Session Unit := { host := () }
    let nested := Nested.upTo host 1
    let children : List Token := [.text ['x'] ⟨6, 7⟩]
    let items : Value := .shared 3 (.list [])
    let bytes : Value := .bytes []
    let number : Value := .complex .zero .zero
    let entries : Value := .mapping []
    (items.size? = some 0 ∧ items.isMapping = false ∧ items.resolver? = none
      ∧ items.SharesProperly
      ∧ (scene items).scope.lookup host ['.'] s = some (.ok items, s)
      ∧ items.isFalsy = true
      ∧ Token.write host nested (scene items) (.block true ['.'] ⟨0, 6⟩ children 7) s
        = some (.ok [.literal ['x']], s))
    ∧ (bytes.size? = some 0 ∧ bytes.isMapping = false ∧ bytes.resolver? = none
      ∧ bytes.SharesProperly
      ∧ (scene bytes).scope.lookup host ['.'] s = some (.ok bytes, s)
      ∧ bytes.isFalsy = false
      ∧ Token.write host nested (scene bytes) (.block true ['.'] ⟨0, 6⟩ children 7) s
        = some (.ok [], s))
    ∧ (number.isNumber = true ∧ number.sameNumber (.int 0) = true ∧ number.isFalsy = false)
    ∧ (entries.isMapping = true ∧ entries.isFalsy = false) := by
  intro host scene s nested children items bytes number entries
  have shares : (Value.shared 3 (.list [])).SharesProperly := by
    rintro _ _ ⟨⟩
    exact .inl ⟨[], rfl⟩
  have unshared : bytes.SharesProperly := nofun
  -- The list has no items and counts as false, but so do the bytes only in what they have.
  obtain ⟨falsy, inverted⟩ := (isFalsy_by_kind items).1 0 rfl rfl rfl shares
  obtain ⟨truthy, inverted'⟩ := (isFalsy_by_kind bytes).1 0 rfl rfl rfl unshared
  refine ⟨⟨rfl, rfl, rfl, shares, rfl, falsy.mpr ⟨rfl, rfl⟩, ?_⟩,
    ⟨rfl, rfl, rfl, unshared, rfl, ?_, ?_⟩, ⟨rfl, by decide +kernel, ?_⟩, rfl, ?_⟩
  · rw [inverted host nested (scene items) ['.'] s s rfl, if_pos ⟨rfl, rfl⟩]
    rfl
  · exact Bool.eq_false_iff.mpr fun empty => nomatch (truthy.mp empty).2
  · rw [inverted' host nested (scene bytes) ['.'] s s rfl, if_neg fun empty => nomatch empty.2]
  · -- The number is zero, but a complex one.
    have complex := (isFalsy_by_kind (σ := Unit) number).2.1 rfl
    exact Bool.eq_false_iff.mpr fun zero => (complex.mp zero).2 _ _ rfl
  · exact (isFalsy_by_kind (σ := Unit) entries).2.2 rfl

end Mustache
