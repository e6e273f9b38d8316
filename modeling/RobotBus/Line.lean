import RobotBus.Bus.Traffic

namespace RobotBus

/-- Where the reply of a submitted call goes. A mailbox and `failures` only take faults. -/
inductive ReplyTarget
  | mailbox (n : Nat)
  | log (tag : String)
  | failures (tag : String)
deriving DecidableEq, Repr

inductive Override.Answer
  | call (r : Reply)
  | listChildren (r : Except Fault (List String))
  | reach (f : Fault)
  | watch (f : Fault)
  | unwatch (f : Fault)

/-- An answer to be given in place of the bus, for one key or for all. -/
structure Override where
  key : String
  uses : Option Nat
  answer : Override.Answer

class Line (σ : Type) where
  bus : σ → Bus ReplyTarget
  withBus : σ → Bus ReplyTarget → σ
  reach : σ → String → Except Fault Unit × σ
  call : σ → (path interface method : String) → List Value → Reply × σ
  watch : σ → (path interface signal : String) → Listener → Except Fault Nat × σ
  unwatch : σ → Nat → Except Fault Unit × σ
  listChildren : σ → String → Except Fault (List String) × σ
  addOverride : σ → Override → σ
  clearOverrides : σ → σ

namespace Line

variable {σ : Type} [Line σ]

def connect (l : σ) (scope : Scope) : Except Fault Unit × σ :=
  let (r, b) := (bus l).connect scope
  (r, withBus l b)

def disconnect (l : σ) : σ := withBus l (bus l).disconnect

def submit (l : σ) (path interface method : String) (args : List Value) (target : ReplyTarget) :
    Option Reply × σ :=
  let (r, b) := (bus l).submit path interface method args target
  (r, withBus l b)

end Line

instance : Line (Bus ReplyTarget) where
  bus b := b
  withBus _ b := b
  reach b path := b.reach path
  call b path interface method args := b.call path interface method args
  watch b path interface signal listener :=
    let (token, b) := b.watch path interface signal listener
    (.ok token, b)
  unwatch b token := (.ok (), b.unwatch token)
  listChildren b path := b.listChildren path
  addOverride b _ := b
  clearOverrides b := b

end RobotBus
