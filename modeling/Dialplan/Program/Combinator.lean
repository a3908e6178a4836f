import Dialplan.Error

/-! The combinators that a plan may invoke, and the marker that sets names apart from
plain strings. -/

namespace Dialplan

inductive Combinator where
  | delayed
  | sequential
  | cached
  | firstConnected
  | bestConnectedEver
  | branch
  | isSupported
deriving DecidableEq, Repr

namespace Combinator

/-- All combinators, in order of their numbers. -/
def all : List Combinator :=
  [delayed, sequential, cached, firstConnected, bestConnectedEver, branch, isSupported]

def tag : Combinator → String
  | delayed => "delayed"
  | sequential => "sequential"
  | cached => "cached"
  | firstConnected => "first_connected"
  | bestConnectedEver => "best_connected_ever"
  | branch => "if"
  | isSupported => "is_supported"

/-- The combinator of a tag. -/
def ofTag? (tag : String) : Option Combinator := all.find? (·.tag = tag)

/-- The combinator that an invocation calls. -/
def resolve (tag : String) : Except Error Combinator :=
  match ofTag? tag with
  | some combinator => .ok combinator
  | none => .error (.invalidOperator tag)

/-- The tag with its marker. -/
def display (combinator : Combinator) : String := ":" ++ combinator.tag

theorem ofTag?_tag (combinator : Combinator) : ofTag? combinator.tag = some combinator := by
  cases combinator <;> decide

end Combinator

/-- The name in a marked string: a colon and at least one more character. -/
def symbolName? (text : String) : Option String :=
  match text.toList with
  | ':' :: first :: rest => some (String.ofList (first :: rest))
  | _ => none

end Dialplan
