import Dialplan.Json.Fault

/-! A place in a text that is being read, with the rest of the text after it. Columns
count bytes of the UTF-8 form. -/

namespace Dialplan.Json

structure Cursor where
  rest : List Char
  line : Nat
  column : Nat

namespace Cursor

/-- The start of a text. -/
def start (text : List Char) : Cursor := ⟨text, 1, 0⟩

/-- The place before the next character. -/
def place (at_ : Cursor) : Place := ⟨at_.line, at_.column⟩

/-- The place one byte further on: a line feed starts a new line. -/
def nextPlace (at_ : Cursor) : Place :=
  match at_.rest with
  | [] => at_.place
  | c :: _ => if c = '\n' then ⟨at_.line + 1, 0⟩ else ⟨at_.line, at_.column + 1⟩

/-- Steps over one character. -/
def step (at_ : Cursor) : Cursor :=
  match at_.rest with
  | [] => at_
  | c :: rest =>
    if c = '\n' then ⟨rest, at_.line + 1, 0⟩ else ⟨rest, at_.line, at_.column + c.utf8Size⟩

/-- The cursor after a run of characters that holds no line feed and only ASCII. -/
def past (at_ : Cursor) (count : Nat) : Cursor :=
  ⟨at_.rest.drop count, at_.line, at_.column + count⟩

/-- The place `bytes` bytes further on, or the end of the text. -/
def placeAfter (at_ : Cursor) (bytes : Nat) : Place :=
  go bytes at_.rest at_.line at_.column
where
  go (bytes : Nat) : List Char → Nat → Nat → Place
    | [], line, column => ⟨line, column⟩
    | c :: rest, line, column =>
      if bytes = 0 then ⟨line, column⟩
      else if c = '\n' then go (bytes - 1) rest (line + 1) 0
      else if bytes < c.utf8Size then ⟨line, column + bytes⟩
      else go (bytes - c.utf8Size) rest line (column + c.utf8Size)

/-- Is `c` a blank between tokens? -/
def isBlank (c : Char) : Bool := c = ' ' || c = '\n' || c = '\t' || c = '\r'

/-- Steps over blanks. -/
def skipBlanks (at_ : Cursor) : Cursor := go at_.rest at_.line at_.column
where
  go : List Char → Nat → Nat → Cursor
    | [], line, column => ⟨[], line, column⟩
    | c :: rest, line, column =>
      if c = '\n' then go rest (line + 1) 0
      else if isBlank c then go rest line (column + 1)
      else ⟨c :: rest, line, column⟩

/-- A fault before the next character. -/
def fault (at_ : Cursor) (cause : Cause) : Fault := ⟨cause, some at_.place⟩

/-- A fault at the next character. -/
def faultNext (at_ : Cursor) (cause : Cause) : Fault := ⟨cause, some at_.nextPlace⟩

end Cursor

end Dialplan.Json
