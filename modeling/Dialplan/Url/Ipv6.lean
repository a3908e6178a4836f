import Dialplan.Url.Ipv4

/-! IPv6 addresses: eight groups of sixteen bits. Two colons stand for the groups that
are left out, which are zero; the last two groups may be written as an IPv4 address. -/

namespace Dialplan

structure Ipv6 where
  groups : List Nat
  /-- There are eight groups. -/
  length_groups : groups.length = 8
deriving DecidableEq

namespace Ipv6

/-! ### Reading -/

/-- Up to four hexadecimal digits. -/
def group? (text : List Char) : Option Nat :=
  if text.isEmpty || 4 < text.length then none else Ipv4.digits? 16 text

/-- A decimal number below 256, without a zero in front. -/
def byte? : List Char → Option Nat
  | [] => none
  | ['0'] => some 0
  | '0' :: _ => none
  | digits => (Ipv4.digits? 10 digits).filter (· < 256)

/-- Four bytes with dots between them, as two groups. -/
def dotted? (text : List Char) : Option (List Nat) :=
  match (text.splitOn '.').mapM byte? with
  | some [a, b, c, d] => some [a * 256 + b, c * 256 + d]
  | _ => none

/-- Groups with colons between them; none at all are an empty text. -/
def groups? (text : List Char) : Option (List Nat) :=
  if text.isEmpty then some [] else (text.splitOn ':').mapM group?

/-- Groups of which the last two may be dotted. -/
def finalGroups? (text : List Char) : Option (List Nat) :=
  if text.contains '.' then do
    let parts := text.splitOn ':'
    let leading ← parts.dropLast.mapM group?
    let final ← parts.getLast?.bind dotted?
    pure (leading ++ final)
  else groups? text

/-- What stands before and after the first two colons. -/
def splitAtGap? : List Char → Option (List Char × List Char)
  | ':' :: ':' :: rest => some ([], rest)
  | c :: rest => (splitAtGap? rest).map fun (before, after) => (c :: before, after)
  | [] => none

def ofGroups? (groups : List Nat) : Option Ipv6 :=
  if h : groups.length = 8 then some ⟨groups, h⟩ else none

def parse? (text : List Char) : Option Ipv6 :=
  match splitAtGap? text with
  | none => (finalGroups? text).bind ofGroups?
  | some (before, after) => do
    let before ← groups? before
    let after ← finalGroups? after
    let given := before.length + after.length
    if given < 8 then ofGroups? (before ++ List.replicate (8 - given) 0 ++ after) else none

/-! ### Writing -/

/-- How many groups from a place on are zero. -/
def zerosFrom (groups : List Nat) (i : Nat) : Nat :=
  ((groups.drop i).takeWhile (· = 0)).length

/-- Where the longest run of zeros starts; the first of equals. -/
def longestZeros (groups : List Nat) : Nat :=
  (List.range 8).foldl (fun best i =>
    if zerosFrom groups best < zerosFrom groups i then i else best) 0

private def joined (groups : List Nat) : List Char :=
  [':'].intercalate (groups.map (Nat.toDigits 16))

/-- The shortest form: two colons stand for the longest run of at least two zeros. -/
def render (address : Ipv6) : List Char :=
  let start := longestZeros address.groups
  let count := zerosFrom address.groups start
  if count < 2 then joined address.groups
  else joined (address.groups.take start) ++ [':', ':'] ++
    joined (address.groups.drop (start + count))

end Ipv6

end Dialplan
