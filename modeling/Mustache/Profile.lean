import Mustache.Binary64
import Mustache.Text.Order

/-! An account of the work that rendering takes. -/

namespace Mustache

/-- The work done so far. -/
structure Profile where
  /-- The number of renderings that succeeded. -/
  renders : Nat := 0
  /-- The length of all their outputs together. -/
  outputLength : Int := 0
  /-- The number of templates that were parsed. -/
  parses : Nat := 0
  /-- The number of templates that were found in the cache. -/
  cacheHits : Nat := 0
  /-- The number of calls of section functions. -/
  sectionCalls : Nat := 0
  /-- The names of the templates that were not found, in order and with repetitions. -/
  missing : List Text := []
  deriving DecidableEq, Repr

namespace Profile

/-- The account with one more rendering. -/
def addRender (p : Profile) (length : Int) : Profile :=
  { p with renders := p.renders + 1, outputLength := p.outputLength + length }

/-- The account with one more request for a template. -/
def addParse (p : Profile) (cached : Bool) : Profile :=
  if cached then { p with cacheHits := p.cacheHits + 1 } else { p with parses := p.parses + 1 }

/-- The account with one more call of a section function. -/
def addSectionCall (p : Profile) : Profile := { p with sectionCalls := p.sectionCalls + 1 }

/-- The account with one more template that was not found. -/
def addMissing (p : Profile) (name : Text) : Profile := { p with missing := p.missing ++ [name] }

/-- The share of requests that the cache served, which is zero when there were none. -/
def hitRate (p : Profile) : Binary64 :=
  if p.parses + p.cacheHits = 0 then .zero
  else Binary64.nearest false p.cacheHits (p.parses + p.cacheHits)

/-- The share of requests that the cache served, in thousandths. -/
def roundedHitRate (p : Profile) : Binary64 := p.hitRate.toThousandths

/-- The names of the templates that were not found, each once and in order. -/
def missingNames (p : Profile) : List Text :=
  Text.sortBy id p.missing.eraseDups

end Profile

end Mustache
