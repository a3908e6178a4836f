import Dialplan.Text.Unshown

/-! Strings shown for a reader: quoted, with quotes, backslashes, controls and
characters that cannot be seen written as escapes. -/

namespace Dialplan.Text

/-- The escape of a code point by its number. -/
def codePointEscape (c : Char) : List Char :=
  ['\\', 'u', '\x7b'] ++ Nat.toDigits 16 c.toNat ++ ['\x7d']

/-- The shown form of one character. -/
def showChar (c : Char) : List Char :=
  match c with
  | '"' => ['\\', '"']
  | '\\' => ['\\', '\\']
  | '\n' => ['\\', 'n']
  | '\r' => ['\\', 'r']
  | '\t' => ['\\', 't']
  | c =>
    if c.toNat = 0 then ['\\', '0']
    else if c.toNat < 32 || c.toNat = 127 then codePointEscape c
    else if 127 < c.toNat && isUnshown c then codePointEscape c
    else [c]

/-- A string as shown between quotes. -/
def quoted (text : String) : String :=
  String.ofList ('"' :: text.toList.flatMap showChar ++ ['"'])

end Dialplan.Text
