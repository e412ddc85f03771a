import SqlAdvisor.Text.PrintableTable
import SqlAdvisor.Text.Range

/-! # Quoted text

The quoted form shows a text on one line of printable characters. Single quotes enclose it unless it
holds a single quote and no double one; the enclosing quote and the backslash are escaped, and what has
no printed form is written by its number.
-/

namespace SqlAdvisor.Text

/-- Whether a character is shown as itself inside quotes. -/
def isPrintable (c : Char) : Bool :=
  !inRanges unprintableRanges c

def enclosingQuote (cs : List Char) : Char :=
  if cs.contains '\'' && !cs.contains '"' then '"' else '\''

/-- A number in lower-case hexadecimal digits, filled with zeros to the width. -/
def hexPadded (width n : Nat) : List Char :=
  let digits := Nat.toDigits 16 n
  List.replicate (width - digits.length) '0' ++ digits

/-- The escape of a character by its number, in the shortest of the three widths. -/
def numericEscape (c : Char) : List Char :=
  if c.toNat < 0x100 then ['\\', 'x'] ++ hexPadded 2 c.toNat
  else if c.toNat < 0x10000 then ['\\', 'u'] ++ hexPadded 4 c.toNat
  else ['\\', 'U'] ++ hexPadded 8 c.toNat

/-- A character as it stands between two `quote`s. -/
def quoteChar (quote c : Char) : List Char :=
  if c = quote || c = '\\' then ['\\', c]
  else if c = '\n' then ['\\', 'n']
  else if c = '\r' then ['\\', 'r']
  else if c = '\t' then ['\\', 't']
  else if isPrintable c then [c]
  else numericEscape c

def quoted (s : String) : String :=
  let quote := enclosingQuote s.toList
  String.ofList ([quote] ++ s.toList.flatMap (quoteChar quote) ++ [quote])

end SqlAdvisor.Text
