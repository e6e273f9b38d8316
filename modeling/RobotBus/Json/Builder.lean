import RobotBus.Json.Token

namespace RobotBus.Json

/-- An open array or object that waits for the value of an item or a member. What came before is
kept newest first. -/
inductive Context
  | item (done : List Json)
  | member (done : List (List Symbol × Json)) (key : List Symbol)

inductive Builder
  | value (up : List Context)
  | firstItem (up : List Context)
  | firstMember (up : List Context)
  | key (up : List Context) (done : List (List Symbol × Json))
  | colon (up : List Context) (done : List (List Symbol × Json)) (key : List Symbol)
  | afterItem (up : List Context) (done : List Json)
  | afterMember (up : List Context) (done : List (List Symbol × Json))
  | complete (v : Json)

namespace Builder

def put (v : Json) : List Context → Builder
  | [] => complete v
  | .item done :: up => afterItem up (v :: done)
  | .member done k :: up => afterMember up ((k, v) :: done)

def begin (up : List Context) : Token → Option Builder
  | .null => some (put .null up)
  | .bool b => some (put (.bool b) up)
  | .number s => some (put (.number s) up)
  | .string s => some (put (.string s) up)
  | .openArray => some (firstItem up)
  | .openObject => some (firstMember up)
  | _ => none

def step : Builder → Token → Option Builder
  | value up, t => begin up t
  | firstItem up, .closeArray => some (put (.array []) up)
  | firstItem up, t => begin (.item [] :: up) t
  | firstMember up, .closeObject => some (put (.object []) up)
  | firstMember up, .string k => some (colon up [] k)
  | key up done, .string k => some (colon up done k)
  | colon up done k, .colon => some (value (.member done k :: up))
  | afterItem up done, .comma => some (value (.item done :: up))
  | afterItem up done, .closeArray => some (put (.array done.reverse) up)
  | afterMember up done, .comma => some (key up done)
  | afterMember up done, .closeObject => some (put (.object done.reverse) up)
  | _, _ => none

def run (b : Builder) : List Token → Option Builder
  | [] => some b
  | t :: ts =>
    match b.step t with
    | some b' => b'.run ts
    | none => none

theorem run_append (b : Builder) (ts us : List Token) :
    b.run (ts ++ us) = (b.run ts).bind (fun b' ↦ b'.run us) := by
  induction ts generalizing b with
  | nil => rfl
  | cons t ts ih =>
    simp only [List.cons_append, run]
    cases b.step t with
    | none => rfl
    | some b' => exact ih b'

def result? : Builder → Option Json
  | complete v => some v
  | _ => none

end Builder

def ofTokens? (ts : List Token) : Option Json := ((Builder.value []).run ts).bind Builder.result?

def ofText? (s : String) : Option Json := (tokens? s.toList).bind ofTokens?

end RobotBus.Json
