/-! Labels of any characters written in ASCII. The ASCII characters come first; after a
hyphen come the others, in ascending order, each as the number of places and characters
passed over since the one before. The numbers have digits of changing weight, so that no
separator stands between them. -/

namespace Dialplan.Domain.Punycode

/-! ### Digits -/

/-- The digit of a value below 36: letters, then decimal digits. -/
def digit (n : Nat) : Char := if n < 26 then Char.ofNat (97 + n) else Char.ofNat (22 + n)

def value? (c : Char) : Option Nat :=
  if 'a' ≤ c && c ≤ 'z' then some (c.toNat - 97)
  else if 'A' ≤ c && c ≤ 'Z' then some (c.toNat - 65)
  else if '0' ≤ c && c ≤ '9' then some (c.toNat - 22)
  else none

/-- A digit below this ends its number; `place` is 36 for the first digit, 72 for the
second, and so on. -/
def threshold (bias place : Nat) : Nat := min 26 (max 1 (place - bias))

theorem threshold_bounds (bias place : Nat) :
    1 ≤ threshold bias place ∧ threshold bias place ≤ 26 := by
  unfold threshold
  omega

/-- Scales a number down until its digits suit the first threshold. -/
def scale (n places : Nat) : Nat × Nat :=
  if 455 < n then scale (n / 35) (places + 36) else (n, places)
termination_by n
decreasing_by omega

/-- The bias for the next number, after one of this size brought a label to this length. -/
def adapt (number length : Nat) (first : Bool) : Nat :=
  let start := if first then number / 700 else number / 2
  let (n, places) := scale (start + start / length) 0
  places + 36 * n / (n + 38)

/-! ### Writing -/

def writeNumber (bias place n : Nat) : List Char :=
  let t := threshold bias place
  if n < t then [digit n]
  else digit (t + (n - t) % (36 - t)) :: writeNumber bias (place + 36) ((n - t) / (36 - t))
termination_by n
decreasing_by
  have bounds := threshold_bounds bias place
  calc (n - threshold bias place) / (36 - threshold bias place)
      ≤ n - threshold bias place := Nat.div_le_self _ _
    _ < n := by omega

/-- The writing of a label in progress. -/
structure Writing where
  written : List Char
  /-- How much was passed over since the last number. -/
  passed : Nat
  bias : Nat
  /-- How many characters are written. -/
  length : Nat

/-- Passes one character of the label while those with a code point are written. -/
def Writing.pass (basic point : Nat) (s : Writing) (c : Char) : Writing :=
  if c.toNat < point then { s with passed := s.passed + 1 }
  else if c.toNat = point then
    ⟨s.written ++ writeNumber s.bias 36 s.passed, 0,
      adapt s.passed (s.length + 1) (s.length = basic), s.length + 1⟩
  else s

/-- Writes the characters with the given code points, which ascend from `next` on. -/
def writePoints (label : List Char) (basic : Nat) : List Nat → Nat → Writing → List Char
  | [], _, s => s.written
  | point :: points, next, s =>
    let s := { s with passed := s.passed + (point - next) * (s.length + 1) }
    let s := label.foldl (Writing.pass basic point) s
    writePoints label basic points (point + 1) { s with passed := s.passed + 1 }

/-- A label in ASCII. -/
def encode (label : List Char) : List Char :=
  let basic := label.filter fun c => c.toNat < 128
  let points := ((label.filter fun c => 128 ≤ c.toNat).map Char.toNat).mergeSort.eraseDups
  let start := if basic.isEmpty then [] else basic ++ ['-']
  start ++ writePoints label basic.length points 128 ⟨[], 0, 72, basic.length⟩

/-! ### Reading -/

/-- Adds the number at the start of a text to a sum that has to fit 32 bits. -/
def readNumber (bias place weight sum : Nat) : List Char → Option (Nat × List Char)
  | [] => none
  | c :: rest =>
    match value? c with
    | none => none
    | some d =>
      let t := threshold bias place
      let sum := sum + d * weight
      let weight := weight * (36 - t)
      if UInt32.size ≤ sum then none
      else if d < t then some (sum, rest)
      else if UInt32.size ≤ weight then none
      else readNumber bias (place + 36) weight sum rest

theorem readNumber_length {bias place weight sum n : Nat} {text rest : List Char}
    (h : readNumber bias place weight sum text = some (n, rest)) :
    rest.length < text.length := by
  fun_induction readNumber bias place weight sum text <;> simp_all
  omega

/-- Reads the characters outside ASCII into a label: the next one is placed by a number
that goes on from `position` and from the code point `point`. -/
def readPoints (label : List Char) (point position bias : Nat) (text : List Char) :
    Option (List Char) :=
  if text.isEmpty then some label
  else
    match _h : readNumber bias 36 1 position text with
    | none => none
    | some (sum, rest) =>
      let places := label.length + 1
      let point := point + sum / places
      if point.isValidChar then
        readPoints (label.insertIdx (sum % places) (Char.ofNat point)) point (sum % places + 1)
          (adapt (sum - position) places (position = 0)) rest
      else none
termination_by text.length
decreasing_by exact readNumber_length _h

/-- The label that is written in ASCII. -/
def decode? (text : List Char) : Option (List Char) :=
  let last := (text.reverse.takeWhile (· != '-')).length
  if last = text.length then readPoints [] 128 0 72 text
  else
    match text.take (text.length - last - 1) with
    | [] => none
    | basic => readPoints basic 128 0 72 (text.drop (text.length - last))

end Dialplan.Domain.Punycode
