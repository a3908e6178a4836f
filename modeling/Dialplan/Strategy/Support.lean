import Dialplan.Strategy.Tree

/-! Which strategies can run at all. A strategy is supported when some path through it
leads to a transport that is; a cached node asks under its own partition, and a branch
asks only the side its condition picks. -/

namespace Dialplan

mutual

/-- Can the strategy run, given which mechanisms support encrypted and plain
connections? -/
def Strategy.isSupported (supports : Nat → Bool → Bool) : Strategy → Bool → Bool
  | .transport leaf, encrypted => supports leaf.mechanism encrypted
  | .unsupported _, _ => false
  | .delayed _ child, encrypted => Strategy.isSupported supports child encrypted
  | .sequential _ children, encrypted => Strategy.anySupported supports children encrypted
  | .cached settings _ child, _ => Strategy.isSupported supports child settings.encrypted
  | .firstConnected children, encrypted => Strategy.anySupported supports children encrypted
  | .bestConnectedEver _ children, encrypted =>
    Strategy.anySupported supports children encrypted
  | .branch test onTrue onFalse, encrypted =>
    if Condition.holds supports test encrypted
    then Strategy.isSupported supports onTrue encrypted
    else Strategy.isSupported supports onFalse encrypted

/-- Is any of the strategies supported? -/
def Strategy.anySupported (supports : Nat → Bool → Bool) : List Strategy → Bool → Bool
  | [], _ => false
  | child :: rest, encrypted =>
    Strategy.isSupported supports child encrypted ||
      Strategy.anySupported supports rest encrypted

/-- The outcome of a condition. -/
def Condition.holds (supports : Nat → Bool → Bool) : Condition Strategy → Bool → Bool
  | .isSupported strategy, encrypted => Strategy.isSupported supports strategy encrypted
  | .constant outcome, _ => outcome

end

end Dialplan
