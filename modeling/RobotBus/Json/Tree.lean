namespace RobotBus

namespace Json

/-- One symbol of a string: a character, or half of a surrogate pair named by an escape. -/
inductive Symbol
  | char (c : Char)
  | half (n : Nat)
deriving DecidableEq, Repr

namespace Symbol

def ofCode (n : Nat) : Symbol := if 0xd800 ≤ n ∧ n < 0xe000 then half n else char (Char.ofNat n)

def joined (high low : Nat) : Char :=
  Char.ofNat (0x10000 + (high - 0xd800) * 0x400 + (low - 0xdc00))

def textFrom? (rev : List Char) : List Symbol → Option (List Char)
  | [] => some rev.reverse
  | char c :: s => textFrom? (c :: rev) s
  | half h :: half l :: s =>
    if h < 0xdc00 ∧ 0xdc00 ≤ l then textFrom? (joined h l :: rev) s else none
  | half _ :: _ => none

/-- Two halves that form a pair are one character; a half on its own has no text. -/
def text? (s : List Symbol) : Option String := (textFrom? [] s).map String.ofList

def ofText (s : String) : List Symbol := s.toList.map char

theorem textFrom?_map_char (rev s : List Char) :
    textFrom? rev (s.map char) = some (rev.reverse ++ s) := by
  induction s generalizing rev with
  | nil => simp [textFrom?]
  | cons c s ih => simp [textFrom?, ih]

@[simp] theorem text?_ofText (s : String) : text? (ofText s) = some s := by
  simp [text?, ofText, textFrom?_map_char]

end Symbol

end Json

/-- Numbers keep their spelling and strings the symbols they were written with, so that a value can
be held before it is known whether anybody reads it. -/
inductive Json
  | null
  | bool (b : Bool)
  | number (spelling : List Char)
  | string (symbols : List Json.Symbol)
  | array (items : List Json)
  | object (members : List (List Json.Symbol × Json))

end RobotBus
