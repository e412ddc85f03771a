import SqlAdvisor.Numeral.Decimal

/-! # Labels

A label is what something is called. It is a text, unless a tree holds another plain value in a name's place.
Numbers and truth values are the same label if they are the same number.
-/

namespace SqlAdvisor

/-- What something is called. -/
inductive Label where
  | text (value : String)
  | number (value : Int)
  /-- A floating number, by its shortest text. -/
  | float (shown : String)
  | flag (value : Bool)
  /-- An empty place. -/
  | nothing
  deriving DecidableEq

namespace Label

instance : Inhabited Label := ⟨.nothing⟩
instance : Coe String Label := ⟨.text⟩

def text? : Label → Option String
  | .text value => some value
  | _ => none

/-- Whether the label counts as given: it is neither nothing, false, zero nor empty. -/
def truthy : Label → Bool
  | .text value => !value.isEmpty
  | .number value => value ≠ 0
  | .float shown =>
    match Numeral.decimal? shown.toList with
    | some value => !value.isZero
    | none => true
  | .flag value => value
  | .nothing => false

def display : Label → String
  | .text value => value
  | .number value => toString value
  | .float shown => shown
  | .flag true => "True"
  | .flag false => "False"
  | .nothing => "None"

/-- The finite number that the label stands for, as a multiple of the least one. -/
def quanta? : Label → Option Int
  | .number value => some (value * Numeral.Binary64.quantaPerUnit)
  | .float shown => (Numeral.decimal? shown.toList).bind Numeral.Decimal.quanta?
  | .flag value => some (if value then Numeral.Binary64.quantaPerUnit else 0)
  | .text _ | .nothing => none

/-- Whether two labels are the same one. -/
def same (first second : Label) : Bool :=
  first = second || first.quanta?.isSome && first.quanta? = second.quanta?

end Label

end SqlAdvisor
