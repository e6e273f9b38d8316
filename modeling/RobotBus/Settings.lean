import RobotBus.Problem

namespace RobotBus

inductive Scope
  | session
  | system
deriving DecidableEq, Repr

inductive PanicPolicy
  | isolate
  | abort
deriving DecidableEq, Repr

structure Settings where
  scope : Scope
  offline : Bool
  /-- Whether filters that others left are freed first. -/
  sweepFirst : Bool
  /-- How many arrivals make up one estimate of a rate. -/
  window : Nat
  panicPolicy : PanicPolicy
  /-- How many words are read offline. -/
  offlineLength : Nat
deriving DecidableEq, Repr

namespace Settings

def default : Settings := ⟨.session, false, true, 10, .isolate, 10⟩

def check (c : Settings) : Except Problem Unit :=
  if c.window = 0 then .error .emptyWindow else .ok ()

end Settings

end RobotBus
