import RobotBus.EventList.Failure
import RobotBus.Markup.Nesting
import RobotBus.Markup.Attribute
import RobotBus.Markup.Reference

namespace RobotBus.EventList.Aesl

open RobotBus.Markup

def eventTag : List Char := ['e', 'v', 'e', 'n', 't']

def nameKey : List Char := ['n', 'a', 'm', 'e']

def eventName (tag : List Char) : Except Failure String :=
  match search nameKey (tagAttributes tag) with
  | .absent => .error .missingName
  | .malformed => .error .malformedAttribute
  | .found value =>
    match unescape value with
    | some name => .ok (String.ofList name)
    | none => .error .malformedReference

/-- What has been gathered of a document; names are kept newest first. -/
structure Gathered where
  depth : Nat
  sawRoot : Bool
  names : List String
deriving DecidableEq, Repr

namespace Gathered

def start : Gathered := ⟨0, false, []⟩

def addName (g : Gathered) (tag : List Char) : Except Failure Gathered :=
  if g.depth = 1 ∧ tagName tag = eventTag then
    match eventName tag with
    | .ok name => .ok { g with names := name :: g.names }
    | .error e => .error e
  else .ok g

def step (g : Gathered) : Token → Except Failure Gathered
  | .start tag =>
    match g.addName tag with
    | .ok g => .ok { g with sawRoot := true, depth := g.depth + 1 }
    | .error e => .error e
  | .empty tag =>
    match g.addName tag with
    | .ok g => .ok { g with sawRoot := true }
    | .error e => .error e
  | .close _ => .ok { g with depth := g.depth - 1 }

def finish (g : Gathered) : Except Failure (List String) :=
  if g.sawRoot then if g.depth = 0 then .ok g.names.reverse else .error .unclosedRoot
  else .error .noRoot

end Gathered

structure Reader where
  nesting : Nesting
  gathered : Gathered
deriving DecidableEq, Repr

namespace Reader

def start : Reader := ⟨.start, .start⟩

/-- An end tag is matched before its element is left. -/
def step (r : Reader) (t : Token) : Except Failure Reader :=
  match r.nesting.step t with
  | .error f => .error (.markup f)
  | .ok nesting =>
    match r.gathered.step t with
    | .error e => .error e
    | .ok gathered => .ok ⟨nesting, gathered⟩

def run (r : Reader) : List Token → Except Failure Reader
  | [] => .ok r
  | t :: ts =>
    match r.step t with
    | .ok r' => r'.run ts
    | .error e => .error e

theorem run_append (r : Reader) (ts us : List Token) :
    r.run (ts ++ us) = (r.run ts).bind (fun r' ↦ r'.run us) := by
  induction ts generalizing r with
  | nil => rfl
  | cons t ts ih =>
    simp only [List.cons_append, run]
    cases r.step t with
    | error e => rfl
    | ok r' => exact ih r'

end Reader

/-- A failure met in an earlier token is reported before a later fault of the text. -/
def parseChars (s : List Char) : Except Failure (List String) :=
  match Reader.start.run (tokens s).1 with
  | .error e => .error e
  | .ok r =>
    match (tokens s).2 with
    | some f => .error (.markup f)
    | none => r.gathered.finish

/-- The names are those of the `event` elements that have exactly one open element around them, in
document order. -/
def parse (s : String) : Except Failure (List String) := parseChars s.toList

end RobotBus.EventList.Aesl
