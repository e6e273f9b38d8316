import RobotBus.EventList.Aesl
import RobotBus.EventList.Records

namespace RobotBus.EventList

def pathParts (path : List Char) : List (List Char) :=
  (path.splitOn '/').filter (fun p ↦ p ≠ [] ∧ p ≠ ['.'])

/-- What follows the last dot, unless nothing stands before that dot. -/
def extension? (name : List Char) : Option (List Char) :=
  match name.reverse.span (· ≠ '.') with
  | (_, []) => none
  | (_, [_]) => none
  | (rev, _) => some rev.reverse

def pathExtension? (path : List Char) : Option (List Char) :=
  match (pathParts path).getLast? with
  | none => none
  | some name => if name = ['.', '.'] then none else extension? name

inductive Format
  | aesl
  | json
deriving DecidableEq, Repr

namespace Format

def ofPath (path : String) : Format :=
  match pathExtension? path.toList with
  | some ext => if Text.equalFolded ext ['j', 's', 'o', 'n'] then json else aesl
  | none => aesl

def parse : Format → String → Except Failure (List String)
  | aesl => Aesl.parse
  | json => Records.parse

end Format

def load (path : String) (file : StoredFile) : Except LoadFailure (List String) :=
  match file.read with
  | .error f => .error (.unreadable f)
  | .ok text =>
    match (Format.ofPath path).parse text with
    | .error f => .error (.malformed f)
    | .ok names => .ok names

end RobotBus.EventList
