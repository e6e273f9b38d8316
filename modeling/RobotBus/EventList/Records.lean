import RobotBus.EventList.Failure
import RobotBus.Json.Builder
import RobotBus.Json.Fields

namespace RobotBus.EventList.Records

open RobotBus

def recordName? (v : Json) : Option String :=
  match v.fields? ["name"] with
  | some [some name] => name.string?
  | _ => none

def names? : Json → Option (List String)
  | .array records => records.mapM recordName?
  | _ => none

def parse (s : String) : Except Failure (List String) :=
  match (Json.ofText? s).bind names? with
  | some names => .ok names
  | none => .error .json

end RobotBus.EventList.Records
