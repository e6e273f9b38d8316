import RobotBus.Event.Basic

namespace RobotBus

inductive Value
  | uint16 (n : UInt16)
  | text (s : String)
  | path (p : String)
  | words (ws : List Word)
  | texts (ss : List String)
deriving DecidableEq, Repr

namespace Value

def text? : Value → Option String
  | text s => some s
  | _ => none

def uint16? : Value → Option UInt16
  | uint16 n => some n
  | _ => none

def words? : Value → Option (List Word)
  | words ws => some ws
  | _ => none

def texts? : Value → Option (List String)
  | texts ss => some ss
  | _ => none

def kind : Value → String
  | uint16 _ => "uint16"
  | text _ => "string"
  | path _ => "object path"
  | words _ => "int16 array"
  | texts _ => "string array"

end Value

structure Fault where
  name : String
  message : String
deriving DecidableEq, Repr

abbrev Reply := Except Fault (List Value)

namespace Fault

def text (f : Fault) : String := f.name ++ ": " ++ f.message

def unknownObjectName : String := "org.freedesktop.DBus.Error.UnknownObject"

def unknownObject (path : String) : Fault :=
  ⟨unknownObjectName, "No such object path '" ++ path ++ "'"⟩

def isUnknownObject (f : Fault) : Bool := f.name = unknownObjectName

def serviceUnknown (service : String) : Fault :=
  ⟨"org.freedesktop.DBus.Error.ServiceUnknown",
    "The name " ++ service ++ " was not provided by any service files"⟩

def unknownMethod (interface method : String) : Fault :=
  ⟨"org.freedesktop.DBus.Error.UnknownMethod",
    "No such method '" ++ method ++ "' in interface '" ++ interface ++ "'"⟩

def invalidArguments (message : String) : Fault :=
  ⟨"org.freedesktop.DBus.Error.InvalidArgs", message⟩

end Fault

end RobotBus
