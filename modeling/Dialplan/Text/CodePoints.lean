import Dialplan.Text.Hex

/-! Tables of code points, written as words. A word names one code point in hexadecimal
digits, a span `first-last`, or every second one of a span `first/last`; a colon and a
note may follow. -/

namespace Dialplan.CodePoints

/-- The code points from `first` to `last`, `step` apart. -/
structure Span where
  first : Nat
  last : Nat
  step : Nat

/-- What a table says about the code points of a span. -/
structure Entry (α : Type) where
  span : Span
  note : α

def Span.contains (span : Span) (n : Nat) : Bool :=
  span.first ≤ n && n ≤ span.last && (n - span.first) % span.step = 0

/-- A number in hexadecimal digits. -/
def readNumber (digits : List Char) : Nat :=
  digits.foldl (fun n c => 16 * n + (Hex.value? c).getD 0) 0

def readSpan (word : List Char) : Span :=
  match word.splitOn '-', word.splitOn '/' with
  | [first, last], _ => ⟨readNumber first, readNumber last, 1⟩
  | _, [first, last] => ⟨readNumber first, readNumber last, 2⟩
  | _, _ => ⟨readNumber word, readNumber word, 1⟩

/-- The words of a table. -/
def words (table : String) : List (List Char) :=
  (table.toList.splitOnP Char.isWhitespace).filter fun word => !word.isEmpty

/-- A table without notes. -/
def readSpans (table : String) : Array Span := ((words table).map readSpan).toArray

/-- A table with a note at every word. -/
def readEntries {α : Type} (readNote : List Char → α) (table : String) : Array (Entry α) :=
  let entry (word : List Char) : Entry α :=
    ⟨readSpan (word.takeWhile (· != ':')), readNote ((word.dropWhile (· != ':')).drop 1)⟩
  ((words table).map entry).toArray

/-- Is a character in a table? -/
def covers (table : Array Span) (c : Char) : Bool := table.any (·.contains c.toNat)

/-- What a table says about a character. -/
def find? {α : Type} (table : Array (Entry α)) (c : Char) : Option (Entry α) :=
  table.find? (·.span.contains c.toNat)

end Dialplan.CodePoints
