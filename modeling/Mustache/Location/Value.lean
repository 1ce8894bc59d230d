import Mustache.Failure
import Mustache.Value.Truth

/-! Places in sources of any type. -/

namespace Mustache.Location

/--
The place at an offset in a source of any type.

Only texts have places. A value without a length fails at once, one that is no sequence when its
line breaks are counted, and a sequence of anything else when they are sought in it.
-/
def ofValue (source : Value) (offset : Int) : Except Failure Location :=
  match source, source.size? with
  | .text t, _ => .ok (ofOffset t offset)
  | _, none => .error (if source.isUncountable then .uncountable else .notSized)
  | .set _, _ => .error .notSource
  | .frozenSet _, _ => .error .notSource
  | .mapping _, _ => .error .notSource
  | .object _ _ _ _ _, _ => .error .notSource
  | _, _ => .error .notText

end Mustache.Location
