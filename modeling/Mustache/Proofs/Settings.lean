import Mustache.Proofs.Consulting
import Mustache.Proofs.References
import Mustache.Proofs.Settings.Delimiters

/-!
Settings are read by what they mean.

An entry that is null asks for nothing, entries of other names are ignored, and the order of
entries makes no difference. The one exception is an entry `delimiters` that is null: it hides the
delimiters which `tags` asks for.
-/

namespace Mustache

variable {σ : Type}

namespace Value

/-- What an entry asks for, which is nothing if it is null. -/
def given? (entries : List (Value × Value)) (name : Text) : Option Value :=
  match named? entries name with
  | some .null => none
  | found => found

/-- Whether a value is null. -/
def isNull : Value → Bool
  | .null => true
  | _ => false

/-- Only null is null. -/
theorem isNull_iff {value : Value} : value.isNull = true ↔ value = .null := by
  cases value <;> simp [isNull]

/-- An entry asks for what it is, unless it is null. -/
theorem given?_eq_some_iff {entries : List (Value × Value)} {name : Text} {value : Value} :
    given? entries name = some value ↔ named? entries name = some value ∧ value.isNull = false := by
  unfold given?
  -- Null is the only value that is left out.
  cases named? entries name with
  | none => simp
  | some found => cases found <;> simp <;> rintro rfl <;> rfl

/-- Only a text is a name, which is that text. -/
theorem isNamed_iff {key : Value} {name : Text} : key.isNamed name = true ↔ key = .text name := by
  cases key <;> simp [isNamed]

/-- Where no name is there twice, what is found under a name is the entry of that name. -/
theorem named?_eq_some_iff {entries : List (Value × Value)}
    (distinct : (Template.namesIn entries).Nodup) {name : Text} {value : Value} :
    named? entries name = some value ↔ (.text name, value) ∈ entries := by
  -- The entry may be the first one, or stand behind one of another name.
  refine ⟨mem_of_named?, fun member => ?_⟩
  induction entries with
  | nil => cases member
  | cons entry entries ih =>
    have distinct' : (Template.namesIn entries).Nodup :=
      distinct.sublist ((List.sublist_cons_self entry entries).filterMap _)
    rcases List.mem_cons.mp member with rfl | behind
    · simp [named?, isNamed]
    · have found := ih distinct' behind
      by_cases same : entry.1.isNamed name = true
      · -- The name would be there twice.
        obtain ⟨key, other⟩ := entry
        obtain rfl := isNamed_iff.mp same
        exact absurd (Template.mem_namesIn found) (List.nodup_cons.mp distinct).1
      · rw [named?, List.find?_cons_of_neg (by simpa using same)]
        exact found

/-- What an entry asks for does not change when entries that are null are left out. -/
theorem given?_filter {entries : List (Value × Value)}
    (distinct : (Template.namesIn entries).Nodup) (name : Text) :
    given? (entries.filter fun entry => !entry.2.isNull) name = given? entries name := by
  -- Names that are there once are so among fewer entries.
  have distinct' : (Template.namesIn (entries.filter fun entry => !entry.2.isNull)).Nodup :=
    distinct.sublist (List.filter_sublist.filterMap _)
  ext value
  rw [given?_eq_some_iff, given?_eq_some_iff, named?_eq_some_iff distinct,
    named?_eq_some_iff distinct', List.mem_filter]
  -- An entry that is left out asks for nothing.
  constructor
  · rintro ⟨⟨member, -⟩, asks⟩
    exact ⟨member, asks⟩
  · rintro ⟨member, asks⟩
    exact ⟨⟨member, by simp [asks]⟩, asks⟩

/-- What is found under a name does not depend on the order of the entries. -/
theorem named?_perm {entries entries' : List (Value × Value)} (order : entries.Perm entries')
    (distinct : (Template.namesIn entries).Nodup) (name : Text) :
    named? entries name = named? entries' name := by
  -- In another order the names are different still, and the entries are the same.
  have distinct' : (Template.namesIn entries').Nodup :=
    (order.filterMap _).nodup_iff.mp distinct
  ext value
  rw [named?_eq_some_iff distinct, named?_eq_some_iff distinct', order.mem_iff]

end Value

namespace Config

/-- The escape that some entries ask for. -/
def escapeIn (entries : List (Value × Value)) : Value :=
  (Value.named? entries (.ofString "escape")).getD .null

/-- An escape that is null is that of HTML, as is one that is not asked for. -/
theorem escapeIn_eq (entries : List (Value × Value)) :
    escapeIn entries = (Value.given? entries (.ofString "escape")).getD .null := by
  -- An entry that is null and one that is missing come to the same.
  rw [escapeIn, Value.given?]
  cases Value.named? entries (.ofString "escape") with
  | none => rfl
  | some value => cases value <;> rfl

/-- The delimiters that some entries mean: those under `delimiters`, or else those under `tags`. -/
def meantIn? (entries : List (Value × Value)) : Option Value :=
  (Value.given? entries (.ofString "delimiters")).or (Value.given? entries (.ofString "tags"))

/-- The delimiters under `tags` are hidden by an entry `delimiters` that is null. -/
def Hides (entries : List (Value × Value)) : Prop :=
  Value.named? entries (.ofString "delimiters") = some .null
    ∧ Value.given? entries (.ofString "tags") ≠ none

/-- The configuration with an escape, and with delimiters if some are meant. -/
def meaning (escape : Value) (delimiters? : Option Value) : Render σ Config :=
  match delimiters? with
  | some value => do pure { delimiters := .tuple (← Render.unpack value), escape := escape }
  | none => pure { escape := escape }

/-- Entries are read by what they mean, if they do not hide any delimiters. -/
theorem ofEntries_eq_meaning {entries : List (Value × Value)} (shown : ¬ Hides entries) :
    (ofEntries entries : Render σ Config) = meaning (escapeIn entries) (meantIn? entries) := by
  -- The delimiters that are looked up are those that are meant.
  have same : delimitersIn? entries = meantIn? entries := by
    rw [delimitersIn?, meantIn?]
    cases asked : Value.named? entries (.ofString "delimiters") with
    | none =>
      have given : Value.given? entries (.ofString "delimiters") = none := by
        rw [Value.given?, asked]
      rw [given, Option.none_or]
      rfl
    | some value =>
      by_cases null : value.isNull = true
      · -- With null in front of them there are no other delimiters.
        obtain rfl := Value.isNull_iff.mp null
        have given : Value.given? entries (.ofString "delimiters") = none := by
          rw [Value.given?, asked]
        rw [given, Option.none_or]
        exact (not_not.mp fun some => shown ⟨asked, some⟩).symm
      · have given := Value.given?_eq_some_iff.mpr ⟨asked, by simpa using null⟩
        rw [given, Option.some_or]
        cases value <;> first | rfl | exact absurd rfl null
  rw [ofEntries, same]
  cases meantIn? entries <;> rfl

/-- Entries that hide their delimiters are read as if they meant none. -/
theorem ofEntries_of_hides {entries : List (Value × Value)} (hides : Hides entries) :
    (ofEntries entries : Render σ Config) = meaning (escapeIn entries) none := by
  -- The entry that is null is found first.
  have none : delimitersIn? entries = none := by
    rw [delimitersIn?, hides.1]
  rw [ofEntries, none]
  rfl

/-- Whether an entry under a key makes a difference to a configuration. -/
def knows (key : Value) : Bool :=
  key.isNamed (.ofString "delimiters") || key.isNamed (.ofString "tags")
    || key.isNamed (.ofString "escape")

/-- Entries with the same values under the names that count are read alike. -/
theorem ofEntries_congr {entries entries' : List (Value × Value)}
    (same : ∀ name, knows (.text name) = true →
      Value.named? entries name = Value.named? entries' name) :
    (ofEntries entries : Render σ Config) = ofEntries entries' := by
  -- There are three names that count.
  have delimiters := same (.ofString "delimiters") (by simp [knows, Value.isNamed])
  have tags := same (.ofString "tags") (by simp [knows, Value.isNamed])
  have escape := same (.ofString "escape") (by simp [knows, Value.isNamed])
  rw [ofEntries, ofEntries, delimitersIn?, delimitersIn?, delimiters, tags, escape]

/-- An entry under a name that counts is found among the entries that count. -/
theorem named?_filter_knows (entries : List (Value × Value)) {name : Text}
    (counts : knows (.text name) = true) :
    Value.named? (entries.filter fun entry => knows entry.1) name = Value.named? entries name := by
  rw [Value.named?, List.find?_filter, Value.named?]
  congr 2
  funext entry
  -- Every key of that name counts.
  by_cases same : entry.1.isNamed name = true
  · have key := Value.isNamed_iff.mp same
    simp [key, counts]
  · simp [same]

/-- One change to entries that makes no difference to their meaning. -/
inductive Restates : List (Value × Value) → List (Value × Value) → Prop
  /-- Entries that are null are left out, if none of them hides delimiters. -/
  | withoutNulls {entries : List (Value × Value)} (shown : ¬ Hides entries) :
    Restates entries (entries.filter fun entry => !entry.2.isNull)
  /-- Entries under names that do not count are left out. -/
  | withoutOthers {entries : List (Value × Value)} :
    Restates entries (entries.filter fun entry => knows entry.1)
  /-- The entries stand in another order. -/
  | reordered {entries entries' : List (Value × Value)} (order : entries.Perm entries') :
    Restates entries entries'

/-- Entries that are restated are read as they were. -/
theorem Restates.ofEntries_eq {entries entries' : List (Value × Value)}
    (restates : Restates entries entries') (distinct : (Template.namesIn entries).Nodup) :
    (ofEntries entries' : Render σ Config) = ofEntries entries := by
  -- What counts is which value each of the known names is given.
  cases restates with
  | withoutOthers => exact ofEntries_congr fun name counts => named?_filter_knows entries counts
  | reordered order =>
    exact ofEntries_congr fun name _ => (Value.named?_perm order distinct name).symm
  | withoutNulls shown =>
    -- No null is left that could hide anything, and the meaning is the same.
    have shown' : ¬ Hides (entries.filter fun entry => !entry.2.isNull) := by
      rintro ⟨null, -⟩
      simpa [Value.isNull] using List.mem_filter.mp (Value.mem_of_named? null)
    have same := Value.given?_filter distinct
    rw [ofEntries_eq_meaning shown, ofEntries_eq_meaning shown', meantIn?, meantIn?, same, same,
      escapeIn_eq, escapeIn_eq, same]

/-- A mapping is read as its entries are now. -/
theorem ofValue_of_mapping (host : Host σ) {s : Session σ} {value : Value}
    {entries : List (Value × Value)} (mapping : value.openedIn s.edits = .mapping entries) :
    ofValue host value s = ofEntries entries s := by
  rw [ofValue, Render.bind_apply, Render.opened_apply, mapping]
  rfl

/-- A mapping that is given as a setting is read in the same way. -/
theorem ofSetting_of_mapping {s : Session σ} {value : Value} {entries : List (Value × Value)}
    (mapping : value.openedIn s.edits = .mapping entries) :
    (ofSetting (.value value) : Render σ Config) s = ofEntries entries s := by
  rw [ofSetting, Render.bind_apply, Render.opened_apply, mapping]
  rfl

end Config

/-- A value is the pair of two texts, as a list or as a tuple. -/
def Value.IsPair (edits : Nat → Edits) (pair : Delimiters) (value : Value) : Prop :=
  value.openedIn edits = .list [.text pair.opening, .text pair.closing]
    ∨ value.openedIn edits = .tuple [.text pair.opening, .text pair.closing]

/-- A pair in any form is taken apart into its two texts. -/
theorem Value.IsPair.unpack {s : Session σ} {pair : Delimiters} {value : Value}
    (isPair : value.IsPair s.edits pair) :
    (Render.unpack value : Render σ (List Value)) s
      = some (.ok [.text pair.opening, .text pair.closing], s) := by
  rw [Render.unpack, Render.bind_apply, Render.opened_apply]
  -- A list and a tuple are taken apart in the same way.
  rcases isPair with list | tuple
  · rw [list]
    rfl
  · rw [tuple]
    rfl

/-- The settings that ask for a pair of delimiters and for an escape. -/
inductive Setting.Asks (edits : Nat → Edits) (pair : Delimiters) : Value → Setting → Prop
  /-- A configuration has both of them, whatever form its delimiters have. -/
  | config {delimiters escape : Value} (same : delimiters.SamePair pair.toValue) :
    Asks edits pair escape (.config ⟨delimiters, escape⟩)
  /-- A list or a tuple is the pair, and asks for no escape. -/
  | row {value : Value} (isPair : value.IsPair edits pair) : Asks edits pair .null (.value value)
  /-- A mapping means both of them, and does not hide its delimiters. -/
  | mapping {value delimiters : Value} {entries : List (Value × Value)}
    (opened : value.openedIn edits = .mapping entries) (shown : ¬ Config.Hides entries)
    (meant : Config.meantIn? entries = some delimiters) (isPair : delimiters.IsPair edits pair) :
    Asks edits pair (Config.escapeIn entries) (.value value)

/-- A setting that asks for a pair and for an escape stands for a configuration with both. -/
theorem Setting.Asks.ofSetting {s : Session σ} {pair : Delimiters} {escape : Value}
    {setting : Setting} (asks : setting.Asks s.edits pair escape) :
    ∃ delimiters, delimiters.SamePair pair.toValue
      ∧ (Config.ofSetting setting : Render σ Config) s
        = some (.ok { delimiters := delimiters, escape := escape }, s) := by
  -- A configuration is taken as it is, a row is a pair without an escape, and a mapping is read.
  cases asks with
  | config same => exact ⟨_, same, rfl⟩
  | row isPair =>
    refine ⟨pair.toValue, fun _ => rfl, ?_⟩
    -- Both kinds of rows are unpacked into two texts.
    rw [Config.ofSetting, Render.bind_apply, Render.opened_apply]
    rcases isPair with list | tuple
    · rw [list]
      rfl
    · rw [tuple]
      rfl
  | mapping opened shown meant isPair =>
    refine ⟨pair.toValue, fun _ => rfl, ?_⟩
    rw [Config.ofSetting_of_mapping opened, Config.ofEntries_eq_meaning shown, meant,
      Config.meaning, Render.bind_apply, isPair.unpack]
    rfl

/-- Settings that are read alike make no difference to what is rendered. -/
theorem Engine.renderUpTo_congr {host : Host σ} {s : Session σ} {setting other : Setting}
    (same : (Config.ofSetting setting : Render σ Config) s = Config.ofSetting other s) (depth : Nat)
    (template : Value) (view : View) (partials : Value) :
    renderUpTo depth host template view partials setting s
      = renderUpTo depth host template view partials other s := by
  -- The setting comes in only where a text is rendered.
  cases template with
  | text source => rw [renderUpTo, renderUpTo, Render.bind_apply, Render.bind_apply, same]
  | _ => rfl

/-- A setting that asks for a pair and for an escape has templates rendered with both of them. -/
theorem Setting.Asks.renderUpTo_eq {s : Session σ} {pair : Delimiters} {escape : Value}
    {setting : Setting} (asks : setting.Asks s.edits pair escape) (host : Host σ) (depth : Nat)
    (template : Value) (view : View) (partials : Value) :
    Engine.renderUpTo depth host template view partials setting s
      = Engine.renderUpTo depth host template view partials (.config ⟨pair.toValue, escape⟩) s := by
  obtain ⟨delimiters, same, stands⟩ := asks.ofSetting
  -- The setting may be replaced by the configuration, and its delimiters by the pair.
  have read : Engine.renderUpTo depth host template view partials setting s
      = Engine.renderUpTo depth host template view partials (.config ⟨delimiters, escape⟩) s :=
    Engine.renderUpTo_congr stands depth template view partials
  rw [read, Engine.renderUpTo_of_samePair depth host template view partials same]

/--
Mappings are read by what they mean, unless they hide their delimiters.

The configuration depends on their escape and on the delimiters that are meant. It stays the same
when entries that are null or have other names are left out, and when the entries stand in another
order. Where an entry `delimiters` that is null hides those under `tags`, it has none of its own.

All settings that ask for a pair and an escape have templates rendered with the same results.
-/
theorem Config.read_by_meaning (host : Host σ) (s : Session σ) :
    (∀ (value : Value) (entries : List (Value × Value)),
        value.openedIn s.edits = .mapping entries →
        (ofSetting (.value value) : Render σ Config) s = ofValue host value s
          ∧ (¬ Hides entries →
              ofValue host value s = meaning (escapeIn entries) (meantIn? entries) s)
          ∧ (Hides entries → ofValue host value s = meaning (escapeIn entries) none s)
          ∧ ((Template.namesIn entries).Nodup →
              ∀ (value' : Value) (entries' : List (Value × Value)),
                value'.openedIn s.edits = .mapping entries' → Restates entries entries' →
                  ofValue host value' s = ofValue host value s))
      ∧ ∀ (pair : Delimiters) (escape : Value) (setting other : Setting),
          setting.Asks s.edits pair escape → other.Asks s.edits pair escape →
          ∀ (depth : Nat) (template : Value) (view : View) (partials : Value),
            Engine.renderUpTo depth host template view partials setting s
              = Engine.renderUpTo depth host template view partials other s := by
  -- All forms of a mapping are read as the entries that it has.
  refine ⟨fun value entries mapping => ⟨?_, fun shown => ?_, fun hides => ?_, ?_⟩, ?_⟩
  · rw [ofSetting_of_mapping mapping, ofValue_of_mapping host mapping]
  · rw [ofValue_of_mapping host mapping, ofEntries_eq_meaning shown]
  · rw [ofValue_of_mapping host mapping, ofEntries_of_hides hides]
  · intro distinct value' entries' mapping' restates
    rw [ofValue_of_mapping host mapping', ofValue_of_mapping host mapping,
      restates.ofEntries_eq distinct]
  · -- Both settings have templates rendered as the pair and the escape do.
    intro pair escape setting other asks asks' depth template view partials
    rw [asks.renderUpTo_eq, asks'.renderUpTo_eq]

/-- Bars as delimiters of a configuration, and in a mapping with entries that make no difference. -/
theorem Config.read_by_meaning_bars :
    let host : Host Unit := ⟨fun _ _ state => (.ok .null, state),
      fun _ _ state => .value .null state⟩
    let s : Session Unit := { host := () }
    let bars : Value := .list [.text ['|'], .text ['|']]
    let entries := [(Value.text (.ofString "other"), Value.int 1),
      (.text (.ofString "escape"), .null), (.text (.ofString "tags"), bars)]
    ¬ Hides entries ∧ (Template.namesIn entries).Nodup
      ∧ ofValue host (.mapping entries) s = meaning .null (some bars) s
      ∧ ofValue host (.mapping [(.text (.ofString "other"), .int 1),
          (.text (.ofString "tags"), bars)]) s = ofValue host (.mapping entries) s
      ∧ ∀ (depth : Nat) (template : Value) (view : View) (partials : Value),
          Engine.renderUpTo depth host template view partials (.value (.mapping entries)) s
            = Engine.renderUpTo depth host template view partials (.config ⟨bars, .null⟩) s := by
  intro host s bars entries
  have shown : ¬ Hides entries := by
    simp [entries, Hides, Value.named?, Value.isNamed, Text.ofString]
  -- Only the entry under the other name has delimiters.
  have meant : meantIn? entries = some bars := by
    simp [entries, bars, meantIn?, Value.given?, Value.named?, Value.isNamed, Text.ofString]
  -- No name is there twice.
  have distinct : (Template.namesIn entries).Nodup := by decide +kernel
  obtain ⟨mappings, settings⟩ := read_by_meaning host s
  obtain ⟨-, means, -, restated⟩ := mappings (.mapping entries) entries rfl
  have escape : escapeIn entries = .null := by
    simp [entries, escapeIn, Value.named?, Value.isNamed, Text.ofString]
  rw [meant, escape] at means
  let pair : Delimiters := ⟨['|'], ['|'], by decide, by decide⟩
  have asks : Setting.Asks s.edits pair .null (.value (.mapping entries)) :=
    escape ▸ .mapping rfl shown meant (.inl rfl)
  exact ⟨shown, distinct, means shown, restated distinct _ _ rfl (.withoutNulls shown),
    settings _ _ _ _ asks (.config (Value.samePair_list pair))⟩

end Mustache
