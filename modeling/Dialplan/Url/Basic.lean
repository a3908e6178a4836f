import Dialplan.Url.Host
import Dialplan.Url.Path

/-! Addresses of WebSocket servers. Reading puts an address into its one canonical form:
the scheme and the host in small letters, no port that the scheme implies, dot segments
followed, and everything escaped that its part escapes. -/

namespace Dialplan

inductive Scheme where
  | ws
  | wss
deriving DecidableEq

namespace Scheme

def name : Scheme → String
  | ws => "ws"
  | wss => "wss"

/-- The port that need not be written. -/
def port : Scheme → Nat
  | ws => 80
  | wss => 443

/-- The scheme of a name, in capitals or small letters. -/
def ofName? (name : List Char) : Option Scheme :=
  [ws, wss].find? fun scheme => scheme.name.toList = name.map Char.toLower

end Scheme

/-- An address. Texts are as they are written in it, with escapes. -/
structure Url where
  scheme : Scheme
  user : List Char
  password : List Char
  host : Host
  /-- The port, unless it is the one of the scheme. -/
  port : Option Nat
  path : List (List Char)
  query : Option (List Char)
  fragment : Option (List Char)
deriving DecidableEq

namespace Url

/-! ### Parts of a written address -/

/-- Blanks and controls around an address are no part of it, nor are tabs and line breaks
within. -/
def clean (text : List Char) : List Char :=
  let isBlank (c : Char) : Bool := c ≤ ' '
  let isBreak (c : Char) : Bool := c = '\t' || c = '\n' || c = '\r'
  let trimmed := ((text.dropWhile isBlank).reverse.dropWhile isBlank).reverse
  trimmed.filter (!isBreak ·)

/-- Does a character end the part of an address that says where to connect? -/
def endsAuthority (c : Char) : Bool := Path.isSlash c || c = '?' || c = '#'

/-- A user name and a password, with a colon between them, in front of the last `@` of an
authority; and what follows that. -/
def splitUser (authority : List Char) : List Char × List Char × List Char :=
  if authority.contains '@' then
    let place := (authority.reverse.takeWhile (· != '@')).reverse
    let user := authority.take (authority.length - place.length - 1)
    (user.takeWhile (· != ':'), (user.dropWhile (· != ':')).drop 1, place)
  else ([], [], authority)

/-- A host ends at a colon that is not between brackets. -/
def splitHost (bracketed : Bool) : List Char → List Char × List Char
  | [] => ([], [])
  | c :: rest =>
    if c = ':' && !bracketed then ([], c :: rest)
    else
      let (host, rest) := splitHost (c = '[' || (bracketed && c != ']')) rest
      (c :: host, rest)

/-- The port after a host: digits after a colon, or nothing after it. -/
def readPort (scheme : Scheme) (text : List Char) : Except AddressFault (Option Nat) :=
  let digits := text.drop 1
  if !digits.all Char.isDigit then .error .invalidPort
  else
    match Ipv4.digits? 10 digits with
    | some port =>
      if 65535 < port then .error .invalidPort
      else if digits.isEmpty || port = scheme.port then .ok none
      else .ok (some port)
    | none => .error .invalidPort

/-- Where an address leads: its host and its port. -/
def readPlace (scheme : Scheme) (text : List Char) : Except AddressFault (Host × Option Nat) := do
  let (host, rest) := splitHost false text
  let host ← Host.parse host
  let port ← readPort scheme rest
  pure (host, port)

/-! ### Reading -/

/-- Reads what follows the scheme and its colon; any number of slashes may come first. -/
def readRest (scheme : Scheme) (text : List Char) : Except AddressFault Url := do
  let text := text.dropWhile Path.isSlash
  let (user, password, place) := splitUser (text.takeWhile (!endsAuthority ·))
  let (host, port) ← readPlace scheme place
  let text := text.dropWhile (!endsAuthority ·)
  let path := text.takeWhile fun c => c != '?' && c != '#'
  let text := text.dropWhile fun c => c != '?' && c != '#'
  let query := (text.takeWhile (· != '#')).drop 1
  let fragment := (text.dropWhile (· != '#')).drop 1
  pure
    { scheme, host, port
      user := Percent.encode Percent.inUser user
      password := Percent.encode Percent.inUser password
      path := Path.segments path
      query := if text.head? = some '?' then some (Percent.encode Percent.inQuery query) else none
      fragment :=
        if text.contains '#' then some (Percent.encode Percent.inFragment fragment) else none }

/-- Reads an address of one of the schemes. -/
def parse (text : List Char) : Except AddressFault Url :=
  let text := clean text
  match Scheme.ofName? (text.takeWhile (· != ':')), text.dropWhile (· != ':') with
  | some scheme, ':' :: rest => readRest scheme rest
  | _, _ => .error .missingScheme

/-! ### Writing -/

/-- The path as it is written. -/
def pathText (url : Url) : List Char := Path.render url.path

/-- The whole address. -/
def render (url : Url) : List Char :=
  let password := if url.password.isEmpty then [] else ':' :: url.password
  let user := url.user ++ password
  let port := (url.port.map fun port => ':' :: Nat.toDigits 10 port).getD []
  let query := (url.query.map ('?' :: ·)).getD []
  let fragment := (url.fragment.map ('#' :: ·)).getD []
  url.scheme.name.toList ++ [':', '/', '/'] ++ (if user.isEmpty then [] else user ++ ['@']) ++
    url.host.render ++ port ++ url.pathText ++ query ++ fragment

end Url

end Dialplan
