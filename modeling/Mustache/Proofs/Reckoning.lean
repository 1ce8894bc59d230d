import Mathlib.Algebra.GroupWithZero.Nat
import Mustache.Proofs.Keeping

/-!
Work, and when an account of it is exact.

The work between two sessions is what came to the innermost account and to the cache, what
happened, and the outputs that nobody was told of.
-/

namespace Mustache

namespace Profile

/-- An account with more work added to it. -/
def add (p work : Profile) : Profile where
  renders := p.renders + work.renders
  outputLength := p.outputLength + work.outputLength
  parses := p.parses + work.parses
  cacheHits := p.cacheHits + work.cacheHits
  sectionCalls := p.sectionCalls + work.sectionCalls
  missing := p.missing ++ work.missing

/-- To add nothing changes no account. -/
theorem add_empty (p : Profile) : p.add {} = p := by
  -- Zero is added to each number, and nothing to the row of names.
  simp [add]

/-- To an empty account comes all work that is added. -/
theorem empty_add (work : Profile) : ({} : Profile).add work = work := by
  simp [add]

/-- Work is added bit by bit or all at once. -/
theorem add_assoc (p work more : Profile) : (p.add work).add more = p.add (work.add more) := by
  -- Numbers are added, and rows of names are put side by side.
  simp [add, Nat.add_assoc, Int.add_assoc]

/-- A rendering is work. -/
theorem addRender_eq (p : Profile) (length : Int) :
    p.addRender length = p.add { renders := 1, outputLength := length } := by
  simp [addRender, add]

/-- To have a template from the cache is work. -/
theorem addParse_true (p : Profile) : p.addParse true = p.add { cacheHits := 1 } := by
  simp [addParse, add]

/-- To parse a template is work. -/
theorem addParse_false (p : Profile) : p.addParse false = p.add { parses := 1 } := by
  simp [addParse, add]

/-- To call a section function is work. -/
theorem addSectionCall_eq (p : Profile) : p.addSectionCall = p.add { sectionCalls := 1 } := by
  simp [addSectionCall, add]

/-- To find no template is work. -/
theorem addMissing_eq (p : Profile) (name : Text) :
    p.addMissing name = p.add { missing := [name] } := by
  simp [addMissing, add]

end Profile

/-- A note is made in the innermost account. -/
theorem Session.accounted_eq {σ : Type} (s : Session σ) (note : Profile → Profile) :
    s.accounted note = { s with profiles := s.profiles.modifyHead note } := by
  -- Without an account there is no first one to be changed.
  obtain ⟨host, taken, edits, memo, cache, profiles, journal, contexts, count⟩ := s
  cases profiles <;> rfl

namespace Event

/-- Whether an event tells that the tokens of a template could be had, from the cache or newly. -/
def isServed : Event → Bool
  | .cacheRead _ _ hit => hit
  | .cacheWritten _ _ => true
  | _ => false

/-- Whether an event is the call of a section function, which alone is given two arguments. -/
def isSectionCall : Event → Bool
  | .applied _ _ => true
  | .refused _ count => count == 2
  | _ => false

/-- The output that a section function is told of. -/
def output? : Event → Option Text
  | .answered (.ok output) => some output
  | _ => none

/-- The name of a template that is not there. -/
def missing? : Event → Option Text
  | .noted (.missingTemplate name) => some name.display
  | _ => none

/-- An event that comes into no account. -/
structure IsIdle (event : Event) : Prop where
  /-- It tells of no template. -/
  served : event.isServed = false
  /-- It is no call of a section function. -/
  sectionCall : event.isSectionCall = false
  /-- It tells of no output. -/
  output : event.output? = none
  /-- It tells of no missing template. -/
  missing : event.missing? = none

end Event

namespace Cache

/-- What a cache keeps: a template, the delimiters it was parsed with, and its tokens. -/
abbrev Entry := (Source × Delimiters) × List Token

/-- A cache to which entries come that were not in it, none of them twice. -/
structure Gains (cache : Cache) (gained : List Entry) (later : Cache) : Prop where
  /-- The entries come behind those that the cache has. -/
  entries : later = { cache with entries := cache.entries ++ gained }
  /-- Nothing was kept under what they are kept under. -/
  new : ∀ entry ∈ gained, cache.find? entry.1.1 entry.1.2 = none
  /-- They are kept under different templates or delimiters. -/
  nodup : (gained.map (·.1)).Nodup

/-- A cache may gain nothing. -/
theorem Gains.nothing (cache : Cache) : cache.Gains [] cache where
  entries := by simp
  new := nofun
  nodup := List.nodup_nil

/-- A cache may gain what was not in it. -/
theorem Gains.insert {cache : Cache} {source : Source} {pair : Delimiters}
    (missed : cache.find? source pair = none) (tokens : List Token) :
    cache.Gains [((source, pair), tokens)] (cache.insert source pair tokens) where
  entries := rfl
  new := by
    intro entry member
    rw [List.mem_singleton.mp member]
    exact missed
  nodup := by simp

/-- A cache may gain more. -/
theorem Gains.append {cache middle later : Cache} {gained more : List Entry}
    (first : cache.Gains gained middle) (second : middle.Gains more later) :
    cache.Gains (gained ++ more) later := by
  obtain ⟨rfl, new, nodup⟩ := first
  obtain ⟨rfl, new', nodup'⟩ := second
  -- What comes later was neither in the cache before nor among what came first.
  have missed : ∀ entry ∈ more,
      cache.find? entry.1.1 entry.1.2 = none ∧ gained.lookup entry.1 = none := by
    intro entry member
    have missed := new' entry member
    rw [find?, List.lookup_append] at missed
    exact Option.or_eq_none_iff.mp missed
  refine ⟨by simp, fun entry member => ?_, ?_⟩
  · rcases List.mem_append.mp member with early | late
    · exact new entry early
    · exact (missed entry late).1
  · rw [List.map_append, List.nodup_append]
    refine ⟨nodup, nodup', fun key early other late same => ?_⟩
    obtain ⟨entry, member, rfl⟩ := List.mem_map.mp late
    obtain ⟨kept, there, rfl⟩ := List.mem_map.mp early
    -- An entry under the same key would have been found.
    have absent := List.lookup_eq_none_iff.mp (missed entry member).2 kept there
    simp [same] at absent

end Cache

/-- The work between two sessions. -/
structure Work where
  /-- What came to the innermost account. -/
  account : Profile := {}
  /-- The outputs of renderings of which nobody was told. -/
  outputs : List Text := []
  /-- What happened, the latest first. -/
  events : List Event := []
  /-- What came to the cache. -/
  gained : List Cache.Entry := []

namespace Work

/-- Work with more work behind it. -/
def append (work more : Work) : Work where
  account := work.account.add more.account
  outputs := work.outputs ++ more.outputs
  events := more.events ++ work.events
  gained := work.gained ++ more.gained

/-- The outputs of all renderings. -/
def allOutputs (work : Work) : List Text := work.outputs ++ work.events.filterMap Event.output?

/-- Work whose account is exact, given whether uses of the cache are told. -/
structure Exact (work : Work) (told : Bool) : Prop where
  /-- Every rendering that gave an output is counted. -/
  renders : work.account.renders = work.allOutputs.length
  /-- The lengths of their outputs are added up. -/
  outputLength : work.account.outputLength = (work.allOutputs.map List.length).sum
  /-- Every template that came to the cache is counted. -/
  parses : work.account.parses = work.gained.length
  /-- Every template that could be had is counted. -/
  requests : told = true →
    work.account.parses + work.account.cacheHits = work.events.countP Event.isServed
  /-- Every call of a section function is counted. -/
  sectionCalls : work.account.sectionCalls = work.events.countP Event.isSectionCall
  /-- Every name without a template is listed. -/
  missing : work.account.missing = work.events.reverse.filterMap Event.missing?

/-- The account of work with more work behind it is exact if those of both are. -/
theorem Exact.append {work more : Work} {told : Bool} (first : work.Exact told)
    (second : more.Exact told) : (work.append more).Exact told where
  renders := by
    have renders := first.renders
    -- Each number is the sum of two that are right.
    have renders' := second.renders
    simp only [Work.append, Profile.add, allOutputs, List.filterMap_append, List.length_append]
      at renders renders' ⊢
    omega
  outputLength := by
    have length := first.outputLength
    have length' := second.outputLength
    simp only [Work.append, Profile.add, allOutputs, List.filterMap_append, List.map_append,
      List.sum_append, Int.natCast_add] at length length' ⊢
    omega
  parses := by
    -- What is missed is told in turn, the latest last.
    simp only [Work.append, Profile.add, List.length_append]
    rw [first.parses, second.parses]
  requests := by
    intro hears
    have requests := first.requests hears
    have requests' := second.requests hears
    simp only [Work.append, Profile.add, List.countP_append]
    omega
  sectionCalls := by
    simp only [Work.append, Profile.add, List.countP_append]
    rw [first.sectionCalls, second.sectionCalls, Nat.add_comm]
  missing := by
    simp only [Work.append, Profile.add, List.reverse_append, List.filterMap_append]
    rw [first.missing, second.missing]

/-- Events that come into no account need none. -/
theorem Exact.idle {events : List Event} (idle : ∀ event ∈ events, event.IsIdle) (told : Bool) :
    ({ events := events } : Work).Exact told := by
  -- None of the events is counted anywhere.
  have outputs : events.filterMap Event.output? = [] :=
    List.filterMap_eq_nil_iff.mpr fun event member => (idle event member).output
  -- Each counter is zero, and the row of missing templates is empty.
  constructor
  · simp [allOutputs, outputs]
  · simp [allOutputs, outputs]
  · rfl
  · intro _
    refine (List.countP_eq_zero.mpr fun event member => ?_).symm
    rw [(idle event member).served]
    exact Bool.false_ne_true
  · refine (List.countP_eq_zero.mpr fun event member => ?_).symm
    rw [(idle event member).sectionCall]
    exact Bool.false_ne_true
  · refine (List.filterMap_eq_nil_iff.mpr fun event member => ?_).symm
    exact (idle event (List.mem_reverse.mp member)).missing

end Work

end Mustache
