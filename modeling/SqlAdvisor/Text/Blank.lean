import SqlAdvisor.Text.Range

/-! # White space

The characters that count as white space at the ends of a text, in any script.
-/

namespace SqlAdvisor.Text

/-- The blank code points: controls that move the cursor, the separators, and the spaces. -/
def blankRanges : List (Nat × Nat) :=
  [(9, 13), (28, 32), (133, 133), (160, 160), (5760, 5760), (8192, 8202), (8232, 8233), (8239, 8239),
   (8287, 8287), (12288, 12288)]

/-- Whether a character is white space. -/
def isBlank (c : Char) : Bool :=
  inRanges blankRanges c

def dropBlankEnd (cs : List Char) : List Char :=
  (cs.reverse.dropWhile isBlank).reverse

/-- A text without the white space at its end. -/
def stripEnd (s : String) : String :=
  String.ofList (dropBlankEnd s.toList)

/-- A text without the white space at its two ends. -/
def strip (s : String) : String :=
  String.ofList (dropBlankEnd (s.toList.dropWhile isBlank))

end SqlAdvisor.Text
