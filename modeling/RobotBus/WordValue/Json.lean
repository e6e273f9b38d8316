import RobotBus.WordValue
import RobotBus.Json.Builder
import RobotBus.Json.Fields
import RobotBus.Json.Printer

namespace RobotBus

namespace Word

def ofJson? (v : Json) : Option Word :=
  match v.integer? with
  | some n => if -32768 ≤ n ∧ n < 32768 then some (Int16.ofInt n) else none
  | none => none

def toJson (w : Word) : Json := .ofInt w.toInt

end Word

namespace WordValue

def ofJson? : Json → Option WordValue
  | .array vs => (vs.mapM Word.ofJson?).map array
  | v => (Word.ofJson? v).map scalar

def toJson : WordValue → Json
  | scalar w => Word.toJson w
  | array ws => .array (ws.map Word.toJson)

end WordValue

end RobotBus
