import Mathlib.Logic.Function.Defs
import Mustache.Proofs.Harmless

/-!
Escaping a text for HTML loses nothing.

The text comes back when each entity is replaced by its character, in one pass from left to right.
-/

namespace Mustache.Html

/-- The entity at the front of a text, with the character that it stands for. -/
def leading? (t : Text) : Option (Char × Text) :=
  entities.find? (·.2.isPrefixOf t)

/-- A text with each entity replaced by its character, in one pass from left to right. -/
def unescape : Text → Text
  | [] => []
  | c :: t =>
    match leading? (c :: t) with
    | some (meant, entity) => meant :: unescape (t.drop (entity.length - 1))
    | none => c :: unescape t
termination_by t => t.length

/-- No entity is the beginning of another one. -/
theorem eq_of_entity_prefix : ∀ entry ∈ entities, ∀ other ∈ entities,
    entry.2 <+: other.2 → entry = other := by
  -- There are few entities, which are compared with each other.
  decide +kernel

/-- At the front of a text there is at most one entity. -/
theorem leading?_entity {c : Char} {entity : Text} (known : (c, entity) ∈ entities) (t : Text) :
    leading? (entity ++ t) = some (c, entity) := by
  -- The entity itself is one that is found there, unless another one is.
  have there : (leading? (entity ++ t)).isSome :=
    List.find?_isSome.mpr ⟨(c, entity), known, by simp⟩
  obtain ⟨other, found⟩ := Option.isSome_iff_exists.mp there
  have known' : other ∈ entities := List.mem_of_find?_eq_some found
  have stands : other.2 <+: entity ++ t := by simpa using List.find?_some found
  -- Of two entities at the front of a text one is the beginning of the other.
  rcases List.prefix_or_prefix_of_prefix stands (List.prefix_append entity t) with within | within
  · rw [found, eq_of_entity_prefix other known' (c, entity) known within]
  · rw [found, eq_of_entity_prefix (c, entity) known other known' within]

/-- An entity begins with its mark, so there is none at the front of any other character. -/
theorem leading?_of_ne_mark {c : Char} (noMark : c ≠ '&') (t : Text) : leading? (c :: t) = none := by
  refine List.find?_eq_none.mpr fun entry known stands => ?_
  -- The letters of an entity stand behind its mark.
  obtain ⟨letters, same, -⟩ := letters_of_entity entry known
  rw [same, List.isPrefixOf_cons_cons, Bool.and_eq_true, beq_iff_eq] at stands
  exact noMark stands.1.symm

/-- An entity gives its character, whatever stands behind it. -/
theorem unescape_entity {c : Char} {entity : Text} (known : (c, entity) ∈ entities) (t : Text) :
    unescape (entity ++ t) = c :: unescape t := by
  have found := leading?_entity known t
  -- Entities are compared with the front of the text, where this one is found first.
  obtain ⟨letters, same, -⟩ := letters_of_entity _ known
  cases same
  rw [List.cons_append] at found ⊢
  rw [unescape, found]
  simp

/-- A character that is not the mark of an entity stands for itself. -/
theorem unescape_of_ne_mark {c : Char} (noMark : c ≠ '&') (t : Text) :
    unescape (c :: t) = c :: unescape t := by
  -- No entity begins with anything but its mark.
  rw [unescape, leading?_of_ne_mark noMark]

/-- An escaped character comes back, whatever stands behind it. -/
theorem unescape_escapeChar (c : Char) (t : Text) :
    unescape (escapeChar c ++ t) = c :: unescape t := by
  rw [escapeChar]
  cases found : entities.lookup c with
  | none =>
    -- The mark of an entity has an entity itself.
    have noMark : c ≠ '&' := by
      rintro rfl
      cases found
    exact unescape_of_ne_mark noMark t
  | some entity =>
    -- The entity was found for the character, so that it is one of those known.
    obtain ⟨before, behind, entries, -⟩ := List.lookup_eq_some_iff.mp found
    exact unescape_entity (by simp [entries]) t

/-- An escaped text comes back. -/
theorem unescape_escape (t : Text) : unescape (escape t) = t := by
  -- The characters are escaped one by one, and come back one by one.
  induction t with
  | nil => rw [escape, List.flatMap_nil, unescape]
  | cons c t ih =>
    rw [escape] at ih ⊢
    rw [List.flatMap_cons, unescape_escapeChar, ih]

/-- An entity in a text is escaped like any other text, and comes back as it was. -/
example : escape (.ofString "&lt;<") = .ofString "&amp;lt;&lt;"
    ∧ unescape (.ofString "&amp;lt;&lt;") = .ofString "&lt;<" := by
  simp [escape, escapeChar, unescape, leading?, entities, Text.ofString, List.lookup]

/-- A character stands for itself in an escaped text unless it is reserved or the mark of an entity. -/
theorem escapeChar_eq_self_iff {c : Char} : escapeChar c = [c] ↔ c ∉ '&' :: reserved := by
  rw [← map_entities, escapeChar]
  cases found : entities.lookup c with
  | none =>
    -- The character has no entity, so that it is none of those that have one.
    have others := List.lookup_eq_none_iff.mp found
    refine iff_of_true rfl fun member => ?_
    obtain ⟨entry, known, rfl⟩ := List.mem_map.mp member
    exact absurd (others entry known) (by simp)
  | some entity =>
    obtain ⟨before, behind, entries, -⟩ := List.lookup_eq_some_iff.mp found
    have known : (c, entity) ∈ entities := by simp [entries]
    -- Entities are longer than one character.
    have long : ∀ entry ∈ entities, entry.2.length ≠ 1 := by decide +kernel
    refine iff_of_false (fun same => long _ known ?_) fun none => none ?_
    · exact congrArg List.length same
    · exact List.mem_map.mpr ⟨_, known, rfl⟩

/--
Escaping is safe and loses nothing.

Exactly the reserved characters and the mark of an entity are replaced. An escaped text has no
reserved characters, and each mark in it is that of one of the entities. It comes back when the
entities are replaced by their characters, so no two texts are escaped alike. Two texts behind each
other are escaped one by one.
-/
theorem safe_and_lossless_escape :
    (∀ c, escapeChar c = [c] ↔ c ∉ '&' :: reserved)
    ∧ (∀ t, (∀ c ∈ escape t, c ∉ reserved)
      ∧ (∀ before behind, escape t = before ++ '&' :: behind →
        ∃ entity ∈ entities.map (·.2), entity <+: '&' :: behind)
      ∧ unescape (escape t) = t)
    ∧ Function.Injective escape
    ∧ ∀ s t, escape (s ++ t) = escape s ++ escape t := by
  refine ⟨fun c => escapeChar_eq_self_iff, fun t => ⟨?_, ?_, unescape_escape t⟩,
    fun s t same => ?_, fun s t => ?_⟩
  · exact (harmless_escape t).unreserved
  · exact (harmless_escape t).entity
  · -- Two texts that are escaped alike come back as one.
    calc
      s = unescape (escape s) := (unescape_escape s).symm
      _ = unescape (escape t) := by rw [same]
      _ = t := unescape_escape t
  · -- Each character is escaped on its own.
    exact List.flatMap_append

end Mustache.Html
