import SqlAdvisor.Text.Digit

/-! # Integer numerals

An integer numeral is an optional sign and a run of decimal digits of any script, in which a single
underscore may stand between two digits.
-/

namespace SqlAdvisor.Numeral

/-- The digits of a run, read from its whole text. -/
def digits? : List Char → Option (List Nat)
  | [] => none
  | [c] => (Text.digitValue? c).map fun digit => [digit]
  | c :: '_' :: rest => do
    let digit ← Text.digitValue? c
    return digit :: (← digits? rest)
  | c :: rest => do
    let digit ← Text.digitValue? c
    return digit :: (← digits? rest)

/-- The number with the given decimal digits, the highest first. -/
def ofDigits (digits : List Nat) : Nat :=
  digits.foldl (fun value digit => 10 * value + digit) 0

/-- Whether a numeral has a minus sign, and what follows its sign. -/
def splitSign : List Char → Bool × List Char
  | '-' :: rest => (true, rest)
  | '+' :: rest => (false, rest)
  | unsigned => (false, unsigned)

def signed (negative : Bool) (magnitude : Nat) : Int :=
  if negative then -magnitude else magnitude

/-- The most digits, leading zeros included, that an integer numeral may have. -/
def digitLimit : Nat := 4300

/-- The value of an integer numeral of at most `digitLimit` digits. -/
def integer? (text : List Char) : Option Int :=
  let (negative, run) := splitSign text
  match digits? run with
  | some digits => if digits.length ≤ digitLimit then some (signed negative (ofDigits digits)) else none
  | none => none

end SqlAdvisor.Numeral
