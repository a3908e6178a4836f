import Dialplan.Url.Percent

/-! Paths of addresses: segments between slashes, where a dot stands for the place itself
and two dots lead up. -/

namespace Dialplan.Path

/-- Both kinds of slashes stand between segments. -/
def isSlash (c : Char) : Bool := c = '/' || c = '\\'

/-- Is a segment the given number of dots, each of them plain or escaped? -/
def isDots : Nat → List Char → Bool
  | 0, segment => segment.isEmpty
  | n + 1, '.' :: rest => isDots n rest
  | n + 1, '%' :: '2' :: e :: rest => (e = 'e' || e = 'E') && isDots n rest
  | _, _ => false

/-- A letter and a colon or a bar name a drive; nothing leads up from there. -/
def isDrive : List Char → Bool
  | [letter, sign] => letter.isAlpha && (sign = ':' || sign = '|')
  | _ => false

/-- Leads up from a place, given as its segments backwards. -/
def up : List (List Char) → List (List Char)
  | [] => []
  | segment :: place => if isDrive segment then segment :: place else place

/-- Follows segments from a place, which is given backwards. The last one may be empty:
then the path ends in a slash. -/
def follow (place : List (List Char)) : List (List Char) → List (List Char)
  | [] => place.reverse
  | segment :: rest =>
    let next :=
      if isDots 2 segment then up place
      else if isDots 1 segment then place
      else segment :: place
    let ends := rest.isEmpty && (isDots 1 segment || isDots 2 segment)
    if ends then ([] :: next).reverse else follow next rest

/-- The segments of a written path, which starts with a slash or is empty. -/
def segments (text : List Char) : List (List Char) :=
  let written :=
    match text with
    | c :: rest => if isSlash c then rest else text
    | [] => []
  follow [] ((written.splitOnP isSlash).map (Percent.encode Percent.inPath))

/-- A slash in front of every segment. -/
def render (segments : List (List Char)) : List Char := segments.flatMap ('/' :: ·)

theorem render_append (s t : List (List Char)) : render (s ++ t) = render s ++ render t := by
  simp [render]

end Dialplan.Path
