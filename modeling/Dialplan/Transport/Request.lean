import Dialplan.Json.Value
import Dialplan.Text.Hex
import Dialplan.Url.Basic

/-! What a transport is asked to open, and the address that follows from it. -/

namespace Dialplan

structure OpenRequest where
  /-- The name of the transport definition. -/
  name : String
  key : Option String
  encrypted : Bool
  options : Json.Fields

namespace OpenRequest

/-- A text among the options; options of other kinds do not count. -/
def option? (request : OpenRequest) (name : String) : Option String :=
  (Table.find request.options name).bind Json.Value.string?

/-- The host for the demanded kind of connection, else the one for both kinds. -/
def host? (request : OpenRequest) : Option String :=
  let own := if request.encrypted then "hostEncrypted" else "hostUnencrypted"
  (request.option? own).or (request.option? "host")

def host (request : OpenRequest) : Except Error String :=
  match request.host? with
  | some host => .ok host
  | none => .error (.connection ("transport " ++ request.name ++ " has no host option"))

/-- The path of the application: its own option, else one made from the key, which names
the revision of the protocol. -/
def applicationPath (request : OpenRequest) : String :=
  (request.option? "path").getD ("/app/" ++ request.key.getD "" ++ "?protocol=7")

/-- What stands in front of the paths of sessions. -/
def httpPath (request : OpenRequest) : String := (request.option? "httpPath").getD "/pusher"

/-- The path of a session of 128 bits, below a server number that is made from it. -/
def sessionPath (request : OpenRequest) (session : Nat) : String :=
  let base := (request.httpPath.toList.reverse.dropWhile (· = '/')).reverse
  let digit (n : Nat) : Char := Hex.digit (n % 10)
  let server := [digit (session / 100), digit (session / 10), digit session]
  let digits := (List.range 32).reverse.map fun place => Hex.digit ((session >>> (4 * place)) % 16)
  String.ofList (base ++ '/' :: server ++ '/' :: digits ++ "/websocket".toList)

def scheme (request : OpenRequest) : Scheme := if request.encrypted then .wss else .ws

/-- The address of a path on the host. -/
def url (request : OpenRequest) (path : String) : Except Error Url :=
  match request.host with
  | .ok host =>
    match Url.parse (request.scheme.name ++ "://" ++ host ++ path).toList with
    | .ok url => .ok url
    | .error fault => .error (.address fault)
  | .error e => .error e

end OpenRequest

end Dialplan
