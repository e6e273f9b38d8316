import RobotBus.Callback
import RobotBus.RateWindow

namespace RobotBus

structure Subscription (κ : Type) where
  callback : κ
  window : RateWindow

structure Subscriptions (κ : Type) where
  entries : Directory EventId (Subscription κ)
  windowSize : Nat

namespace Subscriptions

variable {κ : Type}

def empty (windowSize : Nat) : Subscriptions κ := ⟨.empty, windowSize⟩

def contains (s : Subscriptions κ) (id : EventId) : Bool := s.entries.contains id

def put (s : Subscriptions κ) (id : EventId) (e : Subscription κ) : Subscriptions κ :=
  { s with entries := s.entries.insert id e }

/-- A new callback replaces an older one, and starts a window of its own. -/
def subscribe (s : Subscriptions κ) (id : EventId) (callback : κ) (now : Instant) :
    Subscriptions κ :=
  s.put id ⟨callback, .start s.windowSize now⟩

def rate (s : Subscriptions κ) (id : EventId) : Float :=
  match s.entries.get? id with
  | some e => e.window.rate
  | none => 0

def rates (s : Subscriptions κ) : List (EventId × Float) :=
  s.entries.entries.map (fun e ↦ (e.1, e.2.window.rate))

def size (s : Subscriptions κ) : Nat := s.entries.size

def clear (s : Subscriptions κ) : Subscriptions κ := empty s.windowSize

end Subscriptions

end RobotBus
