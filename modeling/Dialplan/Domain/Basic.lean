import Dialplan.Domain.Direction
import Dialplan.Domain.Joining
import Dialplan.Domain.Mapping
import Dialplan.Domain.Punycode
import Dialplan.Text.Composed
import Dialplan.Text.Mark

/-! Domain names: what is asked for when a name is written in any script. Labels that
need more than ASCII are written in it with a mark in front. -/

namespace Dialplan.Domain

/-- What stands in front of a label that is written in ASCII but means more. -/
def encodedMark : List Char := ['x', 'n', '-', '-']

/-- Characters that no domain name may hold, whatever their script. -/
def isForbidden (c : Char) : Bool :=
  c.toNat ≤ 0x20 || c.toNat = 0x7f ||
    ['%', '#', '/', ':', '<', '>', '?', '@', '[', '\\', ']', '^', '|'].contains c

def isAscii (text : List Char) : Bool := text.all fun c => c.toNat < 128

/-- The longest label that is written in ASCII, and the longest one that is read. -/
private def longestWritten : Nat := 1000
private def longestRead : Nat := 2000

/-- What a label means. An encoded one has to be in ASCII and mean more than that, in
plain and composed characters, and must not mean an encoded one. -/
def readLabel? (label : List Char) : Option (List Char) :=
  if encodedMark.isPrefixOf label then
    let text := label.drop encodedMark.length
    if !isAscii text || longestRead < text.length then none
    else
      match Punycode.decode? text with
      | none => none
      | some meant =>
        if isAscii meant || !meant.all isPlain || Text.compose meant != meant ||
          encodedMark.isPrefixOf meant then none
        else some meant
  else some label

/-- May a label stand in a domain name? -/
def isLabel (label : List Char) : Bool :=
  !label.any isForbidden && !label.head?.any Text.isMark && joinersFit [] label

/-- A label in ASCII. -/
def writeLabel? (label : List Char) : Option (List Char) :=
  if isAscii label then some label
  else if longestWritten < label.length then none
  else some (encodedMark ++ Punycode.encode label)

/-- The labels of a written domain name. -/
def labels? (text : List Char) : Option (List (List Char)) := do
  let parts ← text.mapM replace?
  ((Text.compose parts.flatten).splitOn '.').mapM readLabel?

/-- A domain name in ASCII. A written name has none if a label may not stand in it, or if
some of it is written from right to left and its labels would not keep their order. -/
def toAscii? (text : List Char) : Option (List Char) := do
  let labels ← labels? text
  if !labels.all isLabel then none
  if labels.any (fun label => label.any isRightToLeft) && !labels.all keepsOrder then none
  let written ← labels.mapM writeLabel?
  pure (['.'].intercalate written)

end Dialplan.Domain
