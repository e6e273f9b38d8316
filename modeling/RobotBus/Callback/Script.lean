import RobotBus.Callback

namespace RobotBus

/-- One line of a script. Where the values to send are left out, those of the event are sent. -/
inductive Action
  | stop
  | send (event : Mention) (args : Option (List Word))
  | write (node name : String) (value : Option WordValue)
  | subscribe (event : Mention) (tag : String) (times : Option Nat) (actions : List Action)
  | emit (id : EventId) (values : List Word)
  | panic (p : Panic)

/-- With `times`, only that many calls perform the actions. -/
structure Script where
  tag : String
  times : Option Nat
  actions : List Action
  calls : Nat

namespace Action

def effect (values : List Word) : Action → Except Panic (Effect Script)
  | stop => .ok (.request .stop)
  | send event args => .ok (.request (.send event (args.getD values)))
  | write node name value => .ok (.request (.write node name (value.getD (.array values))))
  | subscribe event tag times actions =>
    .ok (.request (.subscribe event ⟨tag, times, actions, 0⟩))
  | emit id values => .ok (.emit id "nested" values)
  | panic p => .error p

def perform (values : List Word) : List Action → List (Effect Script) × Option Panic
  | [] => ([], none)
  | a :: rest =>
    match a.effect values with
    | .error p => ([], some p)
    | .ok e =>
      let (es, p) := perform values rest
      (e :: es, p)

end Action

namespace Script

def acts (s : Script) : Bool :=
  match s.times with
  | some n => s.calls < n
  | none => true

instance : Callback Script where
  react s values :=
    let next := { s with calls := s.calls + 1 }
    if s.acts then
      let (effects, p) := Action.perform values s.actions
      ⟨next, effects, p⟩
    else ⟨next, [], none⟩

end Script

/-- A callback that only panics: on every call, or on the call with a given number. -/
structure Fuse where
  tag : String
  panic : Option Panic
  call : Option Nat
  calls : Nat

namespace Fuse

def blows (f : Fuse) : Bool :=
  match f.call with
  | some n => f.calls + 1 = n
  | none => true

instance : Callback Fuse where
  react f _ := ⟨{ f with calls := f.calls + 1 }, [], if f.blows then f.panic else none⟩

end Fuse

end RobotBus
