import RobotBus.EventList.Format
import RobotBus.Problem
import Std.Data.HashMap

namespace RobotBus

/-- The number of an event is its position in the event list, so the list must be the one that the
nodes were programmed with. -/
structure EventNames where
  names : Array String
  ids : Std.HashMap String EventId

namespace EventNames

def empty : EventNames := ⟨#[], ∅⟩

def limit : Nat := 65536

/-- Numbers the names from `position` on; stops at the first name that has a number already. -/
def enumerate (ids : Std.HashMap String EventId) (position : Nat) :
    List String → Except String (Std.HashMap String EventId)
  | [] => .ok ids
  | name :: names =>
    if ids.contains name then .error name
    else enumerate (ids.insert name (.ofPosition position)) (position + 1) names

/-- A list that is too long is refused for its length, whatever names it repeats. -/
def ofList (names : List String) : Except Problem EventNames :=
  if limit < names.length then .error (.tooManyNames names.length)
  else
    match enumerate ∅ 0 names with
    | .ok ids => .ok ⟨names.toArray, ids⟩
    | .error name => .error (.repeatedName name)

def ofFile (path : String) (file : StoredFile) : Except Problem EventNames :=
  match EventList.load path file with
  | .error f => .error (.unreadableList path f)
  | .ok names => ofList names

def find (e : EventNames) (name : String) : Except Problem EventId :=
  match e.ids[name]? with
  | some id => .ok id
  | none => .error (.unknownName name)

def locate (e : EventNames) : Mention → Except Problem EventId
  | .byId id => .ok id
  | .byName name => e.find name
  | .outOfRange n => .error (.numberOutOfRange n)

def name? (e : EventNames) (id : EventId) : Option String := e.names[id.val.toNat]?

def listed (e : EventNames) : List ListedEvent :=
  e.names.toList.zipIdx.map (fun p ↦ ⟨p.1, .ofPosition p.2⟩)

def size (e : EventNames) : Nat := e.names.size

end EventNames

end RobotBus
