import RobotBus.Json.Tree
import RobotBus.Text.Digits

namespace RobotBus.Json

variable {α : Type}

/-- Whole numbers only, without fraction or exponent; a zero with a sign is not whole. -/
def integerOf? : List Char → Option Int
  | '-' :: s =>
    match Text.number? 10 s with
    | some (n + 1) => some (-(n + 1 : Nat))
    | _ => none
  | s => (Text.number? 10 s).map Int.ofNat

def integer? : Json → Option Int
  | number s => integerOf? s
  | _ => none

def natural? (bound : Nat) (v : Json) : Option Nat :=
  match v.integer? with
  | some (.ofNat n) => if n < bound then some n else none
  | _ => none

def bool? : Json → Option Bool
  | bool b => some b
  | _ => none

def string? : Json → Option String
  | string s => Symbol.text? s
  | _ => none

/-- A case without data is its name, or an object with that one name and null. -/
def variant? (cases : List (String × α)) : Json → Option α
  | string s => (Symbol.text? s).bind (cases.lookup ·)
  | object [(k, null)] => (Symbol.text? k).bind (cases.lookup ·)
  | _ => none

def ofInt (n : Int) : Json := number (toString n).toList

def ofString (s : String) : Json := string (Symbol.ofText s)

def ofMembers (ms : List (String × Json)) : Json :=
  object (ms.map (fun m ↦ (Symbol.ofText m.1, m.2)))

/-- The value of a field, if there is one; a field given twice is refused. -/
def member? (ms : List (String × Json)) (name : String) : Option (Option Json) :=
  match ms.filter (fun m ↦ m.1 = name) with
  | [] => some none
  | [m] => some (some m.2)
  | _ => none

/-- A record is an object, whose unknown members are passed over, or an array of its fields in
order. -/
def fields? (names : List String) : Json → Option (List (Option Json))
  | object ms =>
    match ms.mapM (fun m ↦ (Symbol.text? m.1).map (fun k ↦ (k, m.2))) with
    | some ms => names.mapM (member? ms)
    | none => none
  | array vs =>
    if vs.length ≤ names.length then some ((List.range names.length).map (fun i ↦ vs[i]?))
    else none
  | _ => none

def orDefault (d : α) (read : Json → Option α) : Option Json → Option α
  | none => some d
  | some v => read v

end RobotBus.Json
