import Dialplan.Json.Fault

/-! Everything that can go wrong, from reading a plan to opening a connection, and how
it is worded. -/

namespace Dialplan

/-- Why a web address is refused. -/
inductive AddressFault where
  | emptyHost
  | invalidDomain
  | invalidPort
  | invalidIpv4
  | invalidIpv6
  | missingScheme
deriving DecidableEq

def AddressFault.message : AddressFault → String
  | .emptyHost => "empty host"
  | .invalidDomain => "invalid international domain name"
  | .invalidPort => "invalid port number"
  | .invalidIpv4 => "invalid IPv4 address"
  | .invalidIpv6 => "invalid IPv6 address"
  | .missingScheme => "relative URL without a base"

inductive Error where
  /-- A transport definition names a type that is not registered. -/
  | unsupportedTransport (type : String)
  | unresolvedSymbol (name : String)
  /-- An invocation names no combinator. -/
  | invalidOperator (tag : String)
  | missingStrategy
  | invalidArgument (message : String)
  | invalidProgram (message : String)
  /-- A transport cannot run here. -/
  | transportUnsupported (name : String)
  | priorityTooLow (name : String) (priority least : Int64)
  | allFailed (failures : List Error)
  | cancelled
  | connection (message : String)
  | connectionTimeout (ms : UInt64)
  | timeout (operation : String) (ms : UInt64)
  | io (message : String)
  | json (fault : Json.Fault)
  | webSocket (message : String)
  | address (fault : AddressFault)
deriving Inhabited

namespace Error

def message : Error → String
  | unsupportedTransport type => "Unsupported transport: " ++ type
  | unresolvedSymbol name => "Undefined symbol :" ++ name
  | invalidOperator tag => "Calling non-function :" ++ tag
  | missingStrategy => "Program does not define a strategy"
  | invalidArgument message => "Invalid argument: " ++ message
  | invalidProgram message => "Invalid program: " ++ message
  | transportUnsupported name => "Transport " ++ name ++ " is not supported"
  | priorityTooLow name priority least =>
    "Transport " ++ name ++ " priority " ++ toString priority.toInt ++ " is below minimum " ++
      toString least.toInt
  | allFailed failures => "All " ++ toString failures.length ++ " strategies failed"
  | cancelled => "Attempt cancelled"
  | connection message => "Connection failed: " ++ message
  | connectionTimeout ms => "Connection timeout after " ++ toString ms.toNat ++ "ms"
  | timeout operation ms => "Timeout after " ++ toString ms.toNat ++ "ms: " ++ operation
  | io message => "IO error: " ++ message
  | json fault => "JSON error: " ++ fault.message
  | webSocket message => "WebSocket error: " ++ message
  | address fault => "URL error: " ++ fault.message

/-- Did building fail, before anything was tried? -/
def isBuild : Error → Bool
  | unsupportedTransport _ | unresolvedSymbol _ | invalidOperator _ | missingStrategy
  | invalidArgument _ | invalidProgram _ => true
  | _ => false

def isTimeout : Error → Bool
  | connectionTimeout _ | timeout _ _ => true
  | _ => false

def isCancelled : Error → Bool
  | cancelled => true
  | _ => false

/-- Did a transport fail to connect? -/
def isConnection : Error → Bool
  | connection _ | connectionTimeout _ | webSocket _ | io _ => true
  | _ => false

end Error

end Dialplan
