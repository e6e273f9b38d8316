import RobotBus.Event.Basic

namespace RobotBus

/-- A variable of one word is read as a scalar, any other as an array. -/
inductive WordValue
  | scalar (word : Word)
  | array (words : List Word)
deriving DecidableEq, Repr

namespace WordValue

def ofList : List Word → WordValue
  | [w] => scalar w
  | ws => array ws

def scalar? : WordValue → Option Word
  | scalar w => some w
  | array _ => none

def words : WordValue → List Word
  | scalar w => [w]
  | array ws => ws

@[simp] theorem words_ofList (ws : List Word) : (ofList ws).words = ws := by
  unfold ofList; split <;> rfl

end WordValue

end RobotBus
