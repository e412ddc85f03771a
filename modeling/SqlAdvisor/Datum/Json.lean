import SqlAdvisor.Datum
import SqlAdvisor.Dictionary
import SqlAdvisor.Numeral.Shortest

/-! # JSON documents

A document is cut into tokens, and the tokens are read as one datum. A list or a table that is begun waits on
a stack until it ends, so that neither step looks back. A document that breaks the grammar has no datum.
-/

namespace SqlAdvisor

namespace Json

/-- A part of a document that cannot be divided. -/
inductive Token where
  /-- A bracket, a brace, a comma or a colon. -/
  | mark (c : Char)
  /-- A number, or the name of a constant. -/
  | word (s : String)
  /-- A text, without its quotes. -/
  | text (value : String)

/-- Whether a character may stand between tokens. -/
def isGap (c : Char) : Bool := c = ' ' || c = '\t' || c = '\n' || c = '\r'

/-- Whether a character is a token of its own. -/
def isMark (c : Char) : Bool := "[]\x7b\x7d,:".toList.contains c

def isWordChar (c : Char) : Bool := !isGap c && !isMark c && c ≠ '"'

def hexDigit? (c : Char) : Option Nat :=
  if '0' ≤ c && c ≤ '9' then some (c.toNat - '0'.toNat)
  else if 'a' ≤ c.toLower && c.toLower ≤ 'f' then some (c.toLower.toNat - 'a'.toNat + 10)
  else none

def hexNumber? (digits : List Char) : Option Nat := do
  return (← digits.mapM hexDigit?).foldl (fun value digit => 16 * value + digit) 0

/-- What a character means after a backslash. -/
def escaped? : Char → Option Nat
  | 'b' => some 8
  | 't' => some 9
  | 'n' => some 10
  | 'f' => some 12
  | 'r' => some 13
  | c => if c = '"' || c = '\\' || c = '/' then some c.toNat else none

/-- The code units of a text up to its closing quote, and what follows the quote. An escape of four digits
    is one unit, of which a character may need two. -/
def unquote? : List Char → Option (List Nat × List Char)
  | [] => none
  | '"' :: rest => some ([], rest)
  | '\\' :: 'u' :: a :: b :: c :: d :: rest => do
    let unit ← hexNumber? [a, b, c, d]
    let (units, after) ← unquote? rest
    return (unit :: units, after)
  | '\\' :: c :: rest => do
    let unit ← escaped? c
    let (units, after) ← unquote? rest
    return (unit :: units, after)
  | c :: rest => do
    let (units, after) ← unquote? rest
    return (c.toNat :: units, after)

theorem length_of_unquote? {cs after : List Char} {units : List Nat}
    (h : unquote? cs = some (units, after)) : after.length < cs.length := by
  fun_induction unquote? cs generalizing units after with
  | case1 => simp at h
  | case2 rest => simp_all
  | case3 a b c d rest ih =>
    simp only [bind, Option.bind_eq_some_iff, pure, Option.some.injEq, Prod.exists,
      Prod.mk.injEq] at h
    obtain ⟨_, _, units', after', inner, _, rfl⟩ := h
    have := ih inner
    simp only [List.length_cons]
    omega
  | case4 c rest _ ih =>
    simp only [bind, Option.bind_eq_some_iff, pure, Option.some.injEq, Prod.exists,
      Prod.mk.injEq] at h
    obtain ⟨_, _, units', after', inner, _, rfl⟩ := h
    have := ih inner
    simp only [List.length_cons]
    omega
  | case5 c rest _ _ _ ih =>
    simp only [bind, Option.bind_eq_some_iff, pure, Option.some.injEq, Prod.exists,
      Prod.mk.injEq] at h
    obtain ⟨units', after', inner, _, rfl⟩ := h
    have := ih inner
    simp only [List.length_cons]
    omega

/-- The characters of some code units. Two units of a surrogate pair are one character. -/
def characters : List Nat → List Char
  | [] => []
  | high :: low :: rest =>
    if 0xD800 ≤ high && high < 0xDC00 && 0xDC00 ≤ low && low < 0xE000 then
      Char.ofNat (0x10000 + 0x400 * (high - 0xD800) + (low - 0xDC00)) :: characters rest
    else Char.ofNat high :: characters (low :: rest)
  | [unit] => [Char.ofNat unit]

def tokens? (document : List Char) : Option (List Token) :=
  match document with
  | [] => some []
  | c :: rest =>
    if isGap c then tokens? rest
    else if isMark c then (tokens? rest).map (.mark c :: ·)
    else if c = '"' then
      match _h : unquote? rest with
      | some (units, after) =>
        (tokens? after).map (.text (String.ofList (characters units)) :: ·)
      | none => none
    else
      let word := String.ofList (c :: rest.takeWhile isWordChar)
      (tokens? (rest.dropWhile isWordChar)).map (.word word :: ·)
termination_by document.length
decreasing_by
  · simp
  · simp
  · have := length_of_unquote? _h
    simp only [List.length_cons]
    omega
  · have := (List.dropWhile_suffix isWordChar (l := rest)).length_le
    simp only [List.length_cons]
    omega

def wordDatum? (word : String) : Option Datum :=
  match word with
  | "null" => some .null
  | "true" => some (.bool true)
  | "false" => some (.bool false)
  | _ =>
    let written := word.toList
    if !written.all "+-.0123456789eE".toList.contains then none
    else match Numeral.integer? written with
      | some value => some (.int value)
      | none => (Numeral.decimal? written).map fun value => .float value.shortestText

/-- A list or a table that is begun, the latest member first. -/
inductive Unfinished where
  | list (items : List Datum)
  /-- A table whose next entry has the key. -/
  | table (entries : List (String × Datum)) (key : String)

mutual

/-- Reads on where a datum begins. -/
def readDatum? : List Token → List Unfinished → Option Datum
  | .text value :: rest, outer => readOn? rest outer (.text value)
  | .word word :: rest, outer => (wordDatum? word).bind fun value => readOn? rest outer value
  | .mark '[' :: .mark ']' :: rest, outer => readOn? rest outer (.list [])
  | .mark '[' :: rest, outer => readDatum? rest (.list [] :: outer)
  | .mark '\x7b' :: .mark '\x7d' :: rest, outer => readOn? rest outer (.table [])
  | .mark '\x7b' :: .text key :: .mark ':' :: rest, outer => readDatum? rest (.table [] key :: outer)
  | _, _ => none

def readOn? : List Token → List Unfinished → Datum → Option Datum
  | [], [], value => some value
  | .mark ',' :: rest, .list items :: outer, value => readDatum? rest (.list (value :: items) :: outer)
  | .mark ']' :: rest, .list items :: outer, value => readOn? rest outer (.list (value :: items).reverse)
  | .mark ',' :: .text next :: .mark ':' :: rest, .table entries key :: outer, value =>
    readDatum? rest (.table ((key, value) :: entries) next :: outer)
  | .mark '\x7d' :: rest, .table entries key :: outer, value =>
    readOn? rest outer (.table (Dictionary.ofList ((key, value) :: entries).reverse).entries)
  | _, _, _ => none

end

end Json

def Datum.ofJson? (document : String) : Option Datum :=
  (Json.tokens? document.toList).bind (Json.readDatum? · [])

end SqlAdvisor
