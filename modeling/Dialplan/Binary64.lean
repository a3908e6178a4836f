/-! Finite binary64 numbers, held exactly. Every finite value is a whole number of
least units `2 ^ -1074`, so a value is a sign and a count of units, and each
operation computes the exact result and rounds it once, to the nearest
representable count, ties to even. -/

namespace Dialplan

/-- The quotient of two numbers rounded to the nearest whole number, ties to even. -/
def divHalfEven (num den : Nat) : Nat :=
  let quotient := num / den
  let twice := 2 * (num % den)
  if twice < den then quotient
  else if den < twice then quotient + 1
  else quotient + quotient % 2

/-- A finite binary64 number: a sign and a count of units `2 ^ -1074`. -/
structure Binary64 where
  negative : Bool
  units : Nat
deriving DecidableEq, Repr, Inhabited

namespace Binary64

/-- Units per whole one. -/
def one : Nat := 1 <<< 1074

/-- Counts from here on are out of range. -/
def limit : Nat := 1 <<< 2098

/-- The distance between neighbouring representable counts around `units`. -/
def spacing (units : Nat) : Nat := 1 <<< (units.log2 - 52)

/-- The representable count nearest to `num / den` units. -/
def nearest (num den : Nat) : Nat :=
  let step := spacing (num / den)
  divHalfEven num (den * step) * step

/-- Rounds `num / den` units, if the result is in range. -/
def round? (num den : Nat) : Option Nat :=
  let units := nearest num den
  if units < limit then some units else none

/-- The product of two counts, if it is in range. -/
def mul? (x y : Nat) : Option Nat := round? (x * y) one

/-- The quotient of two counts. -/
def div (x y : Nat) : Nat := nearest (x * one) y

/-- The count nearest to a whole number. -/
def ofNat (n : Nat) : Nat := nearest (n * one) 1

/-- The count nearest to a power of ten. -/
def tenTo (k : Nat) : Nat := ofNat (Nat.pow 10 k)

/-- `significand * 10 ^ exponent` by one multiplication or one division by a power of
ten, after as many divisions by `10 ^ 308` as a very negative exponent needs.
`none` when the value is out of range. -/
def ofDecimal (significand : Nat) (exponent : Int) : Option Nat :=
  match exponent with
  | .ofNat k =>
    if k ≤ 308 then mul? (ofNat significand) (tenTo k)
    else if significand = 0 then some 0 else none
  | .negSucc k => some (shrink (k + 1) (k + 1) (ofNat significand))
where
  shrink : Nat → Nat → Nat → Nat
    | 0, _, units => units
    | fuel + 1, k, units =>
      if k ≤ 308 then div units (tenTo k)
      else if units = 0 then 0
      else shrink fuel (k - 308) (div units (tenTo 308))

/-- Numeric equality: the two zeros are equal. -/
def sameNumber (x y : Binary64) : Bool :=
  x.units == y.units && (x.negative == y.negative || x.units == 0)

/-! ### Shortest decimal text -/

/-- A run of decimal digits with the power of ten of the first one. -/
structure Decimal where
  digits : List Char
  exponent : Int
deriving DecidableEq, Repr

/-- Half-open distances, in quarter units, from a count to the ends of the interval of
reals that round to it. The lower gap is half as wide above a power of two. -/
def gaps (units : Nat) : Nat × Nat :=
  let step := spacing units
  let low := if units = step <<< 52 ∧ 1 < step then step else 2 * step
  (low, 2 * step)

/-- Is `digits * 10 ^ exponent` read back as `units`? -/
def readsBack (units digits : Nat) (exponent : Int) : Bool :=
  let (low, high) := gaps units
  let scaleUp := if 0 ≤ exponent then Nat.pow 10 exponent.toNat else 1
  let scaleDown := if 0 ≤ exponent then 1 else Nat.pow 10 (-exponent).toNat
  let candidate := 4 * digits * scaleUp * one
  let least := (4 * units - low) * scaleDown
  let most := (4 * units + high) * scaleDown
  if units / spacing units % 2 = 0 then least ≤ candidate && candidate ≤ most
  else least < candidate && candidate < most

/-- The power of ten of the first decimal digit. -/
def magnitude (units : Nat) : Int :=
  ((Nat.toDigits 10 (units * Nat.pow 10 330 / one)).length : Int) - 331

/-- The best decimal of exactly `count` digits, if one reads back: of the value's two
neighbours on that grid the nearer, the even one in a tie. -/
def withDigits? (units count : Nat) : Option (Nat × Int) :=
  let exponent := magnitude units - (count : Int) + 1
  let scaleUp := if 0 ≤ exponent then Nat.pow 10 exponent.toNat else 1
  let scaleDown := if 0 ≤ exponent then 1 else Nat.pow 10 (-exponent).toNat
  let below := units * scaleDown / (one * scaleUp)
  let closer := divHalfEven (units * scaleDown) (one * scaleUp)
  if readsBack units closer exponent then some (closer, exponent)
  else if readsBack units below exponent then some (below, exponent)
  else if readsBack units (below + 1) exponent then some (below + 1, exponent)
  else none

/-- The shortest decimal that reads back as `units`; of the shortest the nearest. -/
def shortest (units : Nat) : Decimal :=
  match (List.range 17).findSome? fun k => withDigits? units (k + 1) with
  | some (digits, exponent) =>
    let text := Nat.toDigits 10 digits
    let kept := (text.reverse.dropWhile (· = '0')).reverse
    ⟨kept, exponent + (text.length : Int) - 1⟩
  | none => ⟨['0'], 0⟩

/-- Reals are written plainly from `10 ^ -5` up to `10 ^ 16`, whole ones with `.0`, and
otherwise with one leading digit and a signed exponent. -/
def render (x : Binary64) : List Char :=
  let sign := if x.negative then ['-'] else []
  if x.units = 0 then sign ++ ['0', '.', '0']
  else
    let ⟨digits, exponent⟩ := shortest x.units
    sign ++
      if exponent < -5 ∨ 15 < exponent then
        let tail := digits.drop 1
        digits.take 1 ++ (if tail.isEmpty then [] else '.' :: tail) ++ ['e'] ++
          (if exponent < 0 then ['-'] else ['+']) ++ Nat.toDigits 10 exponent.natAbs
      else if exponent < 0 then
        ['0', '.'] ++ List.replicate (exponent.natAbs - 1) '0' ++ digits
      else
        let whole := exponent.toNat + 1
        let tail := digits.drop whole
        digits.take whole ++ List.replicate (whole - digits.length) '0' ++
          '.' :: (if tail.isEmpty then ['0'] else tail)

end Binary64

end Dialplan
