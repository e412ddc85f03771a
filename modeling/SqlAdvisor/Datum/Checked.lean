import SqlAdvisor.Datum
import SqlAdvisor.Fault

/-! # Questions that a datum may refuse

Data of the wrong type cannot be compared with a number, nor asked for a member.
-/

namespace SqlAdvisor

namespace Datum

/-- Whether a datum is a number greater than `n`. What is no number cannot be compared. -/
def exceeds (n : Int) : Datum → Except Fault Bool
  | .int value => .ok (n < value)
  | .bool value => .ok (n < if value then 1 else 0)
  | .float shown =>
    match floatValue? shown with
    | some value => .ok (value.exceeds n)
    | none => .ok (shown = "inf")
  | _ => .error .wrongType

def isOne : Datum → Bool
  | .int value => value = 1
  | .bool value => value
  | .float shown => shown = "1.0"
  | _ => false

/-- Whether a datum has a member of the given name: as a key, an item, or a part of its text. -/
def hasMember (name : String) : Datum → Except Fault Bool
  | .table entries => .ok (entries.any fun entry => entry.1 = name)
  | .list items => .ok (items.any fun | .text value => value = name | _ => false)
  | .text value => .ok (Text.contains value name)
  | _ => .error .wrongType

end Datum

end SqlAdvisor
