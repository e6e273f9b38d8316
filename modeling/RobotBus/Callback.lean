import RobotBus.WordValue

namespace RobotBus

/-- What a callback, or anybody else who has a remote, may ask of a session. -/
inductive Request (κ : Type)
  | send (event : Mention) (args : List Word)
  | write (node name : String) (value : WordValue)
  | subscribe (event : Mention) (callback : κ)
  | stop

inductive Effect (κ : Type)
  | request (r : Request κ)
  | emit (id : EventId) (name : String) (values : List Word)

inductive Panic
  | text (s : String)
  | other
deriving DecidableEq, Repr

def Panic.message : Panic → String
  | text s => s
  | other => "non-string panic payload"

/-- The effects come before the panic, and are not undone by it. -/
structure Reaction (κ : Type) where
  next : κ
  effects : List (Effect κ)
  panic : Option Panic

class Callback (κ : Type) where
  react : κ → List Word → Reaction κ

end RobotBus
