/-! # Lines of a text -/

namespace SqlAdvisor.Text

/-- The characters that end a line: the controls from line feed to carriage return, the information
    separators, the next-line control, and the line and paragraph separators. -/
def isLineBreak (c : Char) : Bool :=
  "\n\x0b\x0c\r\x1c\x1d\x1e\u0085\u2028\u2029".toList.contains c

/-- The text before the first line break. -/
def firstLine (s : String) : String :=
  String.ofList (s.toList.takeWhile fun c => !isLineBreak c)

/-- Every line ending as one line feed: a carriage return alone or before a line feed is one, too. -/
def unifyBreaks : List Char → List Char
  | [] => []
  | '\r' :: '\n' :: rest => '\n' :: unifyBreaks rest
  | c :: rest => (if c = '\r' then '\n' else c) :: unifyBreaks rest

/-- A text file's content as it is read: with one kind of line ending. -/
def withLineFeeds (s : String) : String :=
  String.ofList (unifyBreaks s.toList)

end SqlAdvisor.Text
