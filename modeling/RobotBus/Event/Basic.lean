import RobotBus.Directory

namespace RobotBus

abbrev Word := Int16

structure EventId where
  val : UInt16
deriving DecidableEq, Repr, Hashable, Inhabited

namespace EventId

instance : LT EventId := ⟨fun a b ↦ a.val < b.val⟩

instance : DecidableLT EventId := fun a b ↦ inferInstanceAs (Decidable (a.val < b.val))

def text (id : EventId) : String := toString id.val.toNat

def label (id : EventId) : String := "EventId(" ++ id.text ++ ")"

def ofPosition (n : Nat) : EventId := ⟨UInt16.ofNat n⟩

end EventId

abbrev EventSet := Directory EventId Unit

/-- An event as a caller mentions it. Numbers that no event can have are kept, to be refused when
the event is looked for. -/
inductive Mention
  | byName (name : String)
  | byId (id : EventId)
  | outOfRange (n : Int)
deriving DecidableEq, Repr

namespace Mention

def ofInt (n : Int) : Mention :=
  if 0 ≤ n ∧ n < 65536 then .byId (.ofPosition n.toNat) else .outOfRange n

def largest : Nat := 9223372036854775807

def ofSize (n : Nat) : Mention := if n < largest then ofInt n else ofInt largest

def text : Mention → String
  | byName name => name
  | byId id => "#" ++ id.text
  | outOfRange n => "#" ++ toString n

end Mention

structure ListedEvent where
  name : String
  id : EventId
deriving DecidableEq, Repr

structure Event where
  id : EventId
  name : String
  values : List Word
deriving DecidableEq, Repr

end RobotBus
