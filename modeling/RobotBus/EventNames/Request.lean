import RobotBus.EventNames

namespace RobotBus.EventNames

inductive Request
  | replace (names : List String)
  | reload (path : String) (file : StoredFile)
  | find (name : String)
  | locate (event : Mention)
  | nameOfId (id : EventId)
  | names
  | listed
  | size

inductive Answer
  | size (n : Nat)
  | event (id : EventId)
  | name (n : Option String)
  | names (ns : List String)
  | listed (es : List ListedEvent)
  | emptiness (size : Nat) (empty : Bool)
  | failed (e : Problem)
deriving DecidableEq, Repr

def replaceBy (e : EventNames) : Except Problem EventNames → Answer × EventNames
  | .ok e' => (.size e'.size, e')
  | .error p => (.failed p, e)

def found : Except Problem EventId → Answer
  | .ok id => .event id
  | .error p => .failed p

def run (e : EventNames) : Request → Answer × EventNames
  | .replace ns => e.replaceBy (ofList ns)
  | .reload path file => e.replaceBy (ofFile path file)
  | .find name => (found (e.find name), e)
  | .locate event => (found (e.locate event), e)
  | .nameOfId id => (.name (e.name? id), e)
  | .names => (.names e.names.toList, e)
  | .listed => (.listed e.listed, e)
  | .size => (.emptiness e.size e.names.isEmpty, e)

end RobotBus.EventNames
