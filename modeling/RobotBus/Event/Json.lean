import RobotBus.Event.Basic
import RobotBus.Json.Builder
import RobotBus.Json.Fields
import RobotBus.Json.Printer

namespace RobotBus

namespace EventId

def ofJson? (v : Json) : Option EventId := (v.natural? 65536).map ofPosition

def toJson (id : EventId) : Json := .ofInt id.val.toNat

end EventId

namespace ListedEvent

def ofJson? (v : Json) : Option ListedEvent :=
  match v.fields? ["name", "id"] with
  | some [some name, some id] =>
    match name.string?, EventId.ofJson? id with
    | some name, some id => some ⟨name, id⟩
    | _, _ => none
  | _ => none

def toJson (e : ListedEvent) : Json :=
  .ofMembers [("name", .ofString e.name), ("id", e.id.toJson)]

end ListedEvent

end RobotBus
