import Mustache.Json
import Mustache.Value

/-! JSON values as values of a view. -/

namespace Mustache.Json

mutual

/-- The value that a JSON value stands for: an array is a list, and an object is a mapping. -/
def toValue : Json → Value
  | .null => .null
  | .bool b => .bool b
  | .int n => .int n
  | .float x => .float x
  | .text t => .text t
  | .array items => .list (toValues items)
  | .object entries => .mapping (toEntries entries)

/-- The values that the items of an array stand for. -/
def toValues : List Json → List Value
  | [] => []
  | item :: items => toValue item :: toValues items

/-- The entries that the entries of an object stand for. -/
def toEntries : List (Text × Json) → List (Value × Value)
  | [] => []
  | (name, value) :: entries => (.text name, toValue value) :: toEntries entries

end

end Mustache.Json
