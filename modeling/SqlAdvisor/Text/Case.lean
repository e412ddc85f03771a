import SqlAdvisor.Text.CaseTable
import SqlAdvisor.Text.Range

/-! # Lower and upper case

Full case conversion: a character may become several, and the lower case of `Σ` depends on whether a
word ends there. SQL names are compared through `lower`.
-/

namespace SqlAdvisor.Text

/-- The other-case partner that the runs give a code point, if they reach it. -/
def CaseRun.partner? (runs : List CaseRun) (code : Nat) : Option Char :=
  (runs.find? (·.covers code)).map fun run => Char.ofNat (Int.toNat (code + run.shift))

/-- The lower case of one character, out of context. -/
def lowerChar (c : Char) : List Char :=
  if c.toNat < 128 then [c.toLower]
  else if c = 'İ' then ['i', '\u0307']
  else [(CaseRun.partner? lowerRuns c.toNat).getD c]

def upperChar (c : Char) : List Char :=
  if c.toNat < 128 then [c.toUpper]
  else match upperExpansions.lookup c.toNat with
    | some codes => codes.map Char.ofNat
    | none => [(CaseRun.partner? upperRuns c.toNat).getD c]

/-- Whether the first character of a text that is not case-ignorable is a letter with a case. -/
def meetsCased (text : List Char) : Bool :=
  match text.dropWhile (inRanges caseIgnorableRanges) with
  | [] => false
  | c :: _ => inRanges casedRanges c

/-- The lower case of a text whose earlier characters, last one first, are `before`. A `Σ` is final
    when a cased letter precedes it and none follows, case-ignorable characters aside. -/
def lowerFrom (before : List Char) : List Char → List Char
  | [] => []
  | c :: rest =>
    let lowered :=
      if c = 'Σ' then [if meetsCased before && !meetsCased rest then 'ς' else 'σ'] else lowerChar c
    lowered ++ lowerFrom (c :: before) rest

def lower (s : String) : String :=
  String.ofList (lowerFrom [] s.toList)

def upper (s : String) : String :=
  String.ofList (s.toList.flatMap upperChar)

end SqlAdvisor.Text
