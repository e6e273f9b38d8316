import RobotBus.Settings
import RobotBus.Subscriptions

namespace RobotBus

inductive Routing
  | dropped
  | delivered (rate : Option Float)

structure Call (κ : Type) where
  callback : κ
  values : List Word
  effects : List (Effect κ)

structure Router (κ : Type) where
  subscriptions : Subscriptions κ
  policy : PanicPolicy

structure Routed (κ : Type) where
  outcome : Except Problem Routing
  call : Option (Call κ)
  router : Router κ

namespace Router

variable {κ : Type}

def start (windowSize : Nat) (policy : PanicPolicy) : Router κ := ⟨.empty windowSize, policy⟩

def subscribe (r : Router κ) (id : EventId) (callback : κ) (now : Instant) : Router κ :=
  { r with subscriptions := r.subscriptions.subscribe id callback now }

def put (r : Router κ) (id : EventId) (e : Subscription κ) : Router κ :=
  { r with subscriptions := r.subscriptions.put id e }

def clear (r : Router κ) : Router κ := { r with subscriptions := r.subscriptions.clear }

variable [Callback κ]

/-- The callback runs first, then the arrival is counted. Under the aborting policy a panic is the
outcome, and the arrival is not counted. -/
def route (r : Router κ) (id : EventId) (values : List Word) (now : Instant) : Routed κ :=
  match r.subscriptions.entries.get? id with
  | none => ⟨.ok .dropped, none, r⟩
  | some e =>
    let reaction := Callback.react e.callback values
    let call := some ⟨e.callback, values, reaction.effects⟩
    match reaction.panic, r.policy with
    | some p, .abort =>
      ⟨.error (.panicked id p.message), call, r.put id ⟨reaction.next, e.window⟩⟩
    | _, _ =>
      let (rate, window) := e.window.arrive now
      ⟨.ok (.delivered rate), call, r.put id ⟨reaction.next, window⟩⟩

end Router

end RobotBus
