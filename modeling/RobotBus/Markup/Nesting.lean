import RobotBus.Markup.Token

namespace RobotBus.Markup

/-- The names of the open elements, innermost first. -/
structure Nesting where
  opened : List (List Char)
deriving DecidableEq, Repr

namespace Nesting

def start : Nesting := ⟨[]⟩

def step (n : Nesting) : Token → Except Fault Nesting
  | .start tag => .ok ⟨tagName tag :: n.opened⟩
  | .empty _ => .ok n
  | .close name =>
    match n.opened with
    | top :: rest => if top = name then .ok ⟨rest⟩ else .error .unmatchedEnd
    | [] => .error .unmatchedEnd

end Nesting

end RobotBus.Markup
