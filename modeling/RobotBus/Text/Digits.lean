namespace RobotBus.Text

def digit? (base : Nat) (c : Char) : Option Nat :=
  let n :=
    if '0' ≤ c ∧ c ≤ '9' then some (c.toNat - 48)
    else if 'a' ≤ c ∧ c ≤ 'f' then some (c.toNat - 87)
    else if 'A' ≤ c ∧ c ≤ 'F' then some (c.toNat - 55)
    else none
  n.filter (· < base)

/-- Continues a number whose digits so far have the value `n`. -/
def numberFrom? (base n : Nat) : List Char → Option Nat
  | [] => some n
  | c :: s =>
    match digit? base c with
    | some d => numberFrom? base (base * n + d) s
    | none => none

def number? (base : Nat) : List Char → Option Nat
  | [] => none
  | s => numberFrom? base 0 s

/-- A number that may have a plus sign in front. -/
def unsigned? (base : Nat) : List Char → Option Nat
  | '+' :: s => number? base s
  | s => number? base s

def hexadecimal (n : Nat) : List Char := Nat.toDigits 16 n

end RobotBus.Text
