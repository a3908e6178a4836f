import Dialplan.Domain.Mapping.Table

/-! What the characters of a written domain name stand for. -/

namespace Dialplan.Domain

/-- What an entry of the table says about one of its characters. -/
private def replacement (entry : CodePoints.Entry (List Nat)) (c : Char) : List Char :=
  match entry.note with
  | [first] => [Char.ofNat (first + (c.toNat - entry.span.first))]
  | many => many.map Char.ofNat

/-- What a character stands for, if it may be written: capitals for small letters, and
many others for simpler ones or for nothing. -/
def replace? (c : Char) : Option (List Char) :=
  if c.toNat < 128 then some [c.toLower]
  else if !CodePoints.covers writable c then none
  else
    match CodePoints.find? replacements c with
    | some entry => some (replacement entry c)
    | none => if CodePoints.covers ignored c then some [] else some [c]

/-- Does a character stand for itself? -/
def isPlain (c : Char) : Bool := replace? c = some [c]

end Dialplan.Domain
