import RobotBus.Json.Builder
import RobotBus.Json.Fields
import RobotBus.Json.Printer
import RobotBus.Settings

namespace RobotBus

namespace Scope

def name : Scope → String
  | session => "session"
  | system => "system"

def ofJson? : Json → Option Scope := Json.variant? [("session", session), ("system", system)]

def toJson (s : Scope) : Json := .ofString s.name

end Scope

namespace PanicPolicy

def name : PanicPolicy → String
  | isolate => "isolate"
  | abort => "abort"

def ofJson? : Json → Option PanicPolicy := Json.variant? [("isolate", isolate), ("abort", abort)]

def toJson (p : PanicPolicy) : Json := .ofString p.name

end PanicPolicy

namespace Settings

def fieldNames : List String :=
  ["scope", "offline", "reclaim_orphans", "frequency_window", "callback_policy",
    "offline_read_len"]

def sizeBound : Nat := 18446744073709551616

def ofJson? (v : Json) : Option Settings :=
  match v.fields? fieldNames with
  | some [scope, offline, sweepFirst, window, panicPolicy, offlineLength] => do
    let scope ← Json.orDefault default.scope Scope.ofJson? scope
    let offline ← Json.orDefault default.offline Json.bool? offline
    let sweepFirst ← Json.orDefault default.sweepFirst Json.bool? sweepFirst
    let window ← Json.orDefault default.window (Json.natural? sizeBound) window
    let panicPolicy ← Json.orDefault default.panicPolicy PanicPolicy.ofJson? panicPolicy
    let offlineLength ←
      Json.orDefault default.offlineLength (Json.natural? sizeBound) offlineLength
    some ⟨scope, offline, sweepFirst, window, panicPolicy, offlineLength⟩
  | _ => none

def toJson (c : Settings) : Json :=
  .ofMembers
    [("scope", c.scope.toJson),
      ("offline", .bool c.offline),
      ("reclaim_orphans", .bool c.sweepFirst),
      ("frequency_window", .ofInt c.window),
      ("callback_policy", c.panicPolicy.toJson),
      ("offline_read_len", .ofInt c.offlineLength)]

/-- A text that holds no settings is refused before the settings are checked. -/
def ofText (s : String) : Except Problem Settings :=
  match (Json.ofText? s).bind ofJson? with
  | none => .error .malformedSettings
  | some c =>
    match c.check with
    | .error e => .error e
    | .ok () => .ok c

def ofFile (file : StoredFile) : Except Problem Settings :=
  match file.read with
  | .error f => .error (.unreadableFile f)
  | .ok s => ofText s

end Settings

end RobotBus
