import Mathlib.Data.List.Perm.Subperm
import Mathlib.Logic.Relation
import Mustache.Proofs.Spread.Parse

/-!
What templates refer to by name: values, and other templates.

Where no template refers to itself, not even through others, they nest no deeper than there are.
-/

namespace Mustache

open Text (spread)

/-- What a tag refers to by name. -/
inductive Reference where
  /-- A value, by its path. -/
  | value (path : Text)
  /-- A template, by its name. -/
  | template (name : Text)

namespace Reference

/-- The body of the tag that refers to something. -/
def body : Reference → Text
  | .value path => path
  | .template name => name

/-- The same reference with margins in the body of its tag. -/
def spread (margin : Text) : Reference → Reference
  | .value path => .value (Text.spread margin path)
  | .template name => .template (Text.spread margin name)

/-- A reference without line breaks gets no margins. -/
theorem spread_eq_self {margin : Text} {reference : Reference} (single : '\n' ∉ reference.body) :
    reference.spread margin = reference := by
  -- Margins stand behind line breaks only.
  cases reference with
  | value path => exact congrArg value (Text.spread_eq_self single)
  | template name => exact congrArg template (Text.spread_eq_self single)

end Reference

mutual

/-- What a token refers to, itself or inside. -/
def Token.references : Token → List Reference
  | .variable _ path _ => [.value path]
  | .inclusion name _ _ => [.template name]
  | .block _ name _ children _ => .value name :: referencesAll children
  | _ => []

/-- What the tokens of a row refer to. -/
def Token.referencesAll : List Token → List Reference
  | [] => []
  | token :: tokens => token.references ++ referencesAll tokens

end

/-- What an element refers to. -/
def Flat.reference? : Flat → Option Reference
  | .leaf (.variable _ path _) => some (.value path)
  | .leaf (.inclusion name _ _) => some (.template name)
  | .opening _ name _ => some (.value name)
  | _ => none

mutual

/-- A token refers to what its elements do. -/
theorem Token.references_eq (token : Token) :
    token.references = token.flatten.filterMap Flat.reference? := by
  match token with
  | .text _ _ | .variable _ _ _ | .comment _ _ | .switch _ _ | .inclusion _ _ _ => rfl
  | .block _ _ _ children _ =>
    -- The closing tag refers to nothing.
    simp [references, flatten, Flat.reference?, Token.referencesAll_eq children]

/-- Tokens refer to what their elements do. -/
theorem Token.referencesAll_eq (tokens : List Token) :
    referencesAll tokens = (flattenAll tokens).filterMap Flat.reference? := by
  -- The elements of a row are those of its tokens one after the other.
  match tokens with
  | [] => rfl
  | token :: tokens =>
    rw [referencesAll, flattenAll, List.filterMap_append, Token.references_eq token,
      Token.referencesAll_eq tokens]

end

/-- Nothing but margins in the bodies of tags makes a difference to what is referred to. -/
theorem Token.referencesAll_outline (margin : Text) (tokens : List Token) :
    referencesAll (outline margin tokens)
      = (referencesAll tokens).map (Reference.spread margin) := by
  -- An element that shows nothing refers to nothing, and any other one to the same in its margins.
  have each (flat : Flat) : (flat.unlined.visible?).bind (fun shown =>
      (shown.spread margin).reference?) = flat.reference?.map (Reference.spread margin) := by
    rcases flat with token | _ | _
    · cases token with
      | text value span =>
        have plain : (Flat.leaf (.text value span)).unlined = .leaf (.text value span) := rfl
        by_cases blank : value.filter (!Text.isBlank ·) = []
        · rw [plain, Flat.visible?_blank blank]
          rfl
        · rw [plain, Flat.visible?_text blank]
          rfl
      | _ => rfl
    · rfl
    · rfl
  -- References are those of the elements, one after the other.
  rw [referencesAll_eq, referencesAll_eq, outline, flattenAll_spreadAll, flattenAll_visibleAll,
    flattenAll_unlinedAll, List.filterMap_map, List.filterMap_filterMap, List.filterMap_map,
    List.map_filterMap]
  exact congrArg (List.filterMap · _) (funext each)

/-- Without line breaks in its references an indented template refers to the same as before. -/
theorem Template.references_of_indent {margin : Text} {tokens tokens' : List Token}
    (same : Token.outline [] tokens' = Token.outline margin tokens)
    (single : ∀ reference ∈ Token.referencesAll tokens, '\n' ∉ reference.body) :
    Token.referencesAll tokens' = Token.referencesAll tokens := by
  -- Both outlines refer to the same, one of them in margins that come to nothing.
  have references := congrArg Token.referencesAll same
  rw [Token.referencesAll_outline, Token.referencesAll_outline] at references
  have unchanged (reference : Reference) : reference.spread [] = reference := by
    cases reference <;> simp only [Reference.spread, Text.spread_nil]
  rwa [List.map_congr_left fun reference _ => unchanged reference, List.map_id',
    List.map_congr_left fun reference member => Reference.spread_eq_self (single reference member),
    List.map_id'] at references

section Nesting

variable {entries : List (Value × Value)} {pair : Delimiters}

/-- A template of some partials refers to another name. -/
def Template.Refers (entries : List (Value × Value)) (pair : Delimiters) (name other : Text) :
    Prop :=
  ∃ source tokens, Value.named? entries name = some (.text source)
    ∧ Template.parse source pair = .ok tokens ∧ .template other ∈ Token.referencesAll tokens

/-- Whether the templates that some tokens include nest no deeper than a given number. -/
def Token.NestWithin (entries : List (Value × Value)) (pair : Delimiters) :
    Nat → List Token → Prop
  | 0, tokens => ∀ name source, .template name ∈ referencesAll tokens →
    Value.named? entries name ≠ some (.text source)
  | depth + 1, tokens => ∀ name source, .template name ∈ referencesAll tokens →
    Value.named? entries name = some (.text source) →
    ∀ tokens', Template.parse source pair = .ok tokens' → NestWithin entries pair depth tokens'

/-- How deep templates nest depends on nothing but what is referred to. -/
theorem Token.NestWithin.congr {depth : Nat} {tokens tokens' : List Token}
    (same : referencesAll tokens' = referencesAll tokens)
    (nest : NestWithin entries pair depth tokens) :
    NestWithin entries pair depth tokens' := by
  -- At each depth the tokens come in only through what they refer to.
  -- At depth zero no template at all may be referred to.
  cases depth with
  | zero =>
    rw [NestWithin, same]
    exact nest
  | succ depth =>
    rw [NestWithin, same]
    exact nest

/-- The names that some entries have templates for. -/
def Template.namesIn (entries : List (Value × Value)) : List Text :=
  entries.filterMap fun entry => match entry.1 with
    | .text name => some name
    | _ => none

/-- What is found under a name is an entry. -/
theorem Value.mem_of_named? {name : Text} {value : Value}
    (found : named? entries name = some value) : (.text name, value) ∈ entries := by
  -- What is found is the value of some entry.
  obtain ⟨⟨key, value⟩, there, rfl⟩ := Option.map_eq_some_iff.mp found
  have named := List.find?_some there
  -- Only a text is a name.
  cases key with
  | text t =>
    obtain rfl : t = name := by simpa [Value.isNamed] using named
    exact List.mem_of_find?_eq_some there
  | _ => cases named

/-- A name that something is found under is one of those that the entries have. -/
theorem Template.mem_namesIn {name : Text} {template : Value}
    (found : Value.named? entries name = some template) : name ∈ namesIn entries :=
  -- It is the name of the entry that was found.
  List.mem_filterMap.mpr ⟨_, Value.mem_of_named? found, rfl⟩

/-- Templates that can be put in an order, in which they refer to later ones, have no cycles. -/
theorem Template.acyclic_of_rank (rank : Text → Nat)
    (later : ∀ name other, Refers entries pair name other → rank name < rank other) (name : Text) :
    ¬ Relation.TransGen (Refers entries pair) name name := by
  -- Along a chain the order rises, so that no chain comes back.
  have rises {other : Text} (chain : Relation.TransGen (Refers entries pair) name other) :
      rank name < rank other := by
    induction chain with
    | single refers => exact later _ _ refers
    | tail _ refers ih => exact ih.trans (later _ _ refers)
  -- A cycle would have a name come before itself.
  exact fun cycle => lt_irrefl _ (rises cycle)

/-- A name with a template that was not passed yet can be passed. -/
theorem Template.pass {passed : List Text} {name source : Text} (distinct : passed.Nodup)
    (known : passed ⊆ namesIn entries) (found : Value.named? entries name = some (.text source))
    (fresh : name ∉ passed) : (name :: passed).Nodup ∧ (name :: passed) ⊆ namesIn entries
      ∧ passed.length + 1 ≤ (namesIn entries).length := by
  have distinct' : (name :: passed).Nodup := List.nodup_cons.mpr ⟨fresh, distinct⟩
  have known' : (name :: passed) ⊆ namesIn entries :=
    -- A row of different names among those that there are is not longer than they are.
    List.cons_subset.mpr ⟨mem_namesIn found, known⟩
  exact ⟨distinct', known', (List.subperm_of_subset distinct' known').length_le⟩

/-- Without cycles templates do not nest deeper than there are names left that were not passed. -/
theorem Token.nestWithin_of_passed (acyclic : ∀ name,
      ¬ Relation.TransGen (Template.Refers entries pair) name name) (depth : Nat)
    {tokens : List Token} {passed : List Text} (distinct : passed.Nodup)
    (known : passed ⊆ Template.namesIn entries)
    (leads : ∀ before ∈ passed, ∀ name, .template name ∈ referencesAll tokens →
      Relation.TransGen (Template.Refers entries pair) before name)
    (enough : (Template.namesIn entries).length ≤ depth + passed.length) :
    NestWithin entries pair depth tokens := by
  -- Each name that is passed leaves one less, and none can be passed twice without a cycle.
  induction depth generalizing tokens passed with
  | zero =>
    intro name source member found
    obtain ⟨-, -, fewer⟩ := Template.pass distinct known found fun before =>
      acyclic name (leads name before name member)
    omega
  | succ depth ih =>
    intro name source member found tokens' parsed
    obtain ⟨distinct', known', -⟩ := Template.pass distinct known found fun before =>
      acyclic name (leads name before name member)
    -- All names passed so far lead to those in the template that is entered now.
    have leads' : ∀ before ∈ name :: passed, ∀ other, .template other ∈ referencesAll tokens' →
        Relation.TransGen (Template.Refers entries pair) before other := by
      intro before there other member'
      have refers : Template.Refers entries pair name other :=
        ⟨source, tokens', found, parsed, member'⟩
      rcases List.mem_cons.mp there with rfl | there
      · exact .single refers
      · exact (leads before there name member).tail refers
    exact ih distinct' known' leads' (by rw [List.length_cons]; omega)

/-- Without cycles templates nest no deeper than there are entries. -/
theorem Token.nestWithin_of_acyclic (acyclic : ∀ name,
      ¬ Relation.TransGen (Template.Refers entries pair) name name) {depth : Nat}
    (deep : entries.length ≤ depth) (tokens : List Token) :
    NestWithin entries pair depth tokens := by
  -- Nothing was passed at the beginning.
  have few : (Template.namesIn entries).length ≤ entries.length := List.length_filterMap_le _ _
  exact nestWithin_of_passed acyclic depth List.nodup_nil (List.nil_subset _) nofun (by
    rw [List.length_nil]
    omega)

end Nesting

end Mustache
