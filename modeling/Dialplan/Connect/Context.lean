import Dialplan.Json.Record

/-! The demands that one attempt makes of every connection it opens. -/

namespace Dialplan

structure Context where
  /-- Must the connection be encrypted? -/
  encrypted : Bool
  /-- Transports of lower priority are not opened. -/
  minPriority : Int64
deriving DecidableEq

namespace Context

/-- No demands. -/
def plain : Context := ⟨false, 0⟩

def record : Json.Record Context where
  title := "ConnectContext"
  fields := [
    .of "encrypted" false .bool encrypted fun b c => { c with encrypted := b },
    .of "minPriority" false .int64 minPriority fun n c => { c with minPriority := n }]
  blank := plain
  lenient := true

def codec : Json.Codec Context := record.codec

end Context

end Dialplan
