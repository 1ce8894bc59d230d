import Mustache.Delimiters
import Mustache.Source
import Mustache.Token

/-! Parsed templates kept under their source and the delimiters they were parsed with. -/

namespace Mustache

/-- A cache of parsed templates. -/
structure Cache where
  /-- Whether the uses of the cache are reported. -/
  reported : Bool := false
  /-- The parsed templates, in the order in which they came. -/
  entries : List ((Source × Delimiters) × List Token) := []

namespace Cache

/-- The tokens kept for a template. -/
def find? (cache : Cache) (source : Source) (pair : Delimiters) : Option (List Token) :=
  cache.entries.lookup (source, pair)

/-- The cache with the tokens of a template, which is not in it yet. -/
def insert (cache : Cache) (source : Source) (pair : Delimiters) (tokens : List Token) : Cache :=
  { cache with entries := cache.entries ++ [((source, pair), tokens)] }

/-- The number of templates in the cache. -/
def size (cache : Cache) : Nat := cache.entries.length

/-- The cache without its templates. -/
def clear (cache : Cache) : Cache := { cache with entries := [] }

end Cache

end Mustache
