import Dialplan.Text.Composed.Table

/-! Composed text: of the many ways to write a character with its marks, the one with the
fewest characters, after marks of different classes have been put in order. -/

namespace Dialplan.Text

/-- The combining class of a character; zero starts a new sequence. -/
def combiningClass (c : Char) : Nat :=
  if c.toNat < 0x300 then 0 else ((CodePoints.find? combiningClasses c).map (·.note)).getD 0

/-! ### Pairs -/

/-- A consonant, a vowel, and a consonant at the end compose a syllable by this rule. -/
private def composeSyllable? (first second : Nat) : Option Nat :=
  if 0x1100 ≤ first && first < 0x1113 && 0x1161 ≤ second && second < 0x1176 then
    some (0xac00 + ((first - 0x1100) * 21 + (second - 0x1161)) * 28)
  else if 0xac00 ≤ first && first < 0xd7a4 && (first - 0xac00) % 28 = 0 && 0x11a7 < second &&
      second < 0x11c3 then
    some (first + (second - 0x11a7))
  else none

/-- The character a pair composes. -/
def composePair? (first second : Char) : Option Char :=
  match composeSyllable? first.toNat second.toNat with
  | some n => some (Char.ofNat n)
  | none =>
    (composedPairs.find? (·.note = (first.toNat, second.toNat))).map fun entry =>
      Char.ofNat entry.span.first

/-- The characters of a composed one, with marks in the order they were written. `depth`
bounds how often a first part is composed itself. -/
def expand (depth : Nat) (c : Char) : List Char :=
  match depth with
  | 0 => [c]
  | depth + 1 =>
    if c.toNat < 0xc0 then [c]
    else if 0xac00 ≤ c.toNat && c.toNat < 0xd7a4 then
      let index := c.toNat - 0xac00
      [Char.ofNat (0x1100 + index / 588), Char.ofNat (0x1161 + index % 588 / 28)] ++
        if index % 28 = 0 then [] else [Char.ofNat (0x11a7 + index % 28)]
    else
      match CodePoints.find? composedPairs c with
      | some entry => expand depth (Char.ofNat entry.note.1) ++ expand depth (Char.ofNat entry.note.2)
      | none => [c]

/-! ### Texts -/

/-- Puts a character before a text in order, after marks of lower classes. -/
def insertMark (c : Char) : List Char → List Char
  | [] => [c]
  | next :: rest =>
    if combiningClass next != 0 && combiningClass next < combiningClass c then
      next :: insertMark c rest
    else c :: next :: rest

/-- A composition in progress, backwards. -/
structure Composing where
  /-- What is finished. -/
  done : List Char
  /-- The character that marks may join. -/
  base : Option Char
  /-- The marks that could not join it. -/
  marks : List Char

namespace Composing

/-- The text so far, backwards. -/
def text (s : Composing) : List Char := s.marks ++ s.base.toList ++ s.done

/-- A mark is kept from its base by one of its own class or a higher one before it. -/
def isBlocked (s : Composing) (c : Char) : Bool :=
  s.marks.head?.any fun mark => combiningClass c ≤ combiningClass mark

def next (s : Composing) (c : Char) : Composing :=
  let joined := s.base.bind fun base => if s.isBlocked c then none else composePair? base c
  match joined with
  | some base => { s with base := some base }
  | none =>
    if combiningClass c = 0 then ⟨s.text, some c, []⟩ else { s with marks := c :: s.marks }

end Composing

/-- The composed form of a text. -/
def compose (text : List Char) : List Char :=
  if text.all fun c => c.toNat < 0x300 then text
  else
    let parts := (text.flatMap (expand 4)).foldr insertMark []
    (parts.foldl Composing.next ⟨[], none, []⟩).text.reverse

end Dialplan.Text
