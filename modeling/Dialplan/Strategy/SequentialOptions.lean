import Dialplan.Duration
import Dialplan.Json.Record

/-! Options of a sequence: whether it starts over, and how long each try may take. -/

namespace Dialplan

structure SequentialOptions where
  /-- Start over when every child has failed. -/
  looping : Bool
  /-- The bound of the first try in milliseconds; zero and none leave tries unbounded. -/
  timeout : Option UInt64
  /-- The bound is doubled after each try, up to this many milliseconds; none keeps it. -/
  timeoutLimit : Option UInt64
  /-- Go on at once after a failure instead of waiting out the bound. -/
  failFast : Bool
deriving DecidableEq

namespace SequentialOptions

def default : SequentialOptions := ⟨false, none, none, true⟩

/-- The bound of the first try. -/
def firstBound (options : SequentialOptions) : Option Duration :=
  match options.timeout with
  | some ms => if ms = 0 then none else some (Duration.ofMillis ms.toNat)
  | none => none

/-- The greatest bound. -/
def boundLimit (options : SequentialOptions) : Option Duration :=
  options.timeoutLimit.map fun ms => Duration.ofMillis ms.toNat

/-- The bound of the try after one that was bounded by `bound`. -/
def nextBound (options : SequentialOptions) (bound : Option Duration) : Option Duration :=
  match bound, options.boundLimit with
  | some bound, some limit => some (min (bound * 2) limit)
  | bound, _ => bound

def record : Json.Record SequentialOptions where
  title := "SequentialOptions"
  fields := [
    .of "loop" false .bool looping fun b o => { o with looping := b },
    .of "timeout" false (.optional .uint64) timeout fun ms o => { o with timeout := ms },
    .of "timeoutLimit" false (.optional .uint64) timeoutLimit
      fun ms o => { o with timeoutLimit := ms },
    .of "failFast" false .bool failFast fun b o => { o with failFast := b }]
  blank := default
  lenient := true

def codec : Json.Codec SequentialOptions := record.codec

end SequentialOptions

end Dialplan
