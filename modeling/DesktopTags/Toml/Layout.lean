namespace DesktopTags.Toml

/-! ## Blanks, line ends and comments -/

def isBlank (c : Char) : Bool :=
  c = ' ' || c = '\t'

/-- A character that may stand in a comment or a string: no control character but
the tab. -/
def isPlain (c : Char) : Bool :=
  c = '\t' || (0x20 ≤ c.toNat && c.toNat ≠ 0x7f)

def skipBlanks (ahead : List Char) : List Char :=
  ahead.dropWhile isBlank

/-- Pass one line end, a line feed with or without a carriage return. -/
def newline? : List Char → Option (List Char)
  | '\n' :: rest => some rest
  | '\r' :: '\n' :: rest => some rest
  | _ => none

/-- Pass a comment, if one begins here. -/
def skipComment (ahead : List Char) : List Char :=
  match ahead with
  | '#' :: rest => rest.dropWhile isPlain
  | _ => ahead

/-- Pass what may follow the last token of a line: blanks, a comment and the line
end or the end of the text. -/
def lineEnd? (ahead : List Char) : Option (List Char) :=
  match skipComment (skipBlanks ahead) with
  | [] => some []
  | rest => newline? rest

/-- Pass blanks, line ends and comments, in any number. The flag tells whether
the reader is within a comment. -/
def skipLines (comment : Bool) : List Char → List Char
  | [] => []
  | '\r' :: '\n' :: rest => skipLines false rest
  | c :: rest =>
      if c = '\n' then skipLines false rest
      else if comment then if isPlain c then skipLines true rest else c :: rest
      else if isBlank c then skipLines false rest
      else if c = '#' then skipLines true rest
      else c :: rest

end DesktopTags.Toml
