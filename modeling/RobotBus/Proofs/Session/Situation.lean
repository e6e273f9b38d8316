import RobotBus.Proofs.Session.Loop

namespace RobotBus

open Bus

variable {κ : Type}

structure Situation (κ : Type) where
  session : Session κ
  hub : Hub (Bus ReplyTarget) κ

inductive Move (κ : Type)
  /-- An operation of the session; nothing, if it is a loop that `fuel` messages do not end. -/
  | step (fuel : Nat) (s : Simulation.SessionStep κ)
  /-- The loop handles one message. -/
  | turn
  | drop
  /-- The work that the session was opened for has ended. -/
  | conclude (result : Except Problem Unit)
  | other (a : Hub.Act κ)

def Move.Own (m : Move κ) : Prop := ∀ a, m ≠ .other a

theorem Move.own_or_other (m : Move κ) : m.Own ∨ ∃ a, m = .other a := by
  cases m with
  | other a => exact .inr ⟨a, rfl⟩
  | step | turn | drop | conclude => exact .inl fun _ h ↦ nomatch h

/-- What decides which events an open session is to be told of. -/
inductive Occurrence
  | subscribed (id : EventId)
  | emitted (id : EventId) (values : List Word)
deriving DecidableEq

namespace Occurrence

def ofEffect? : Effect κ → Option Occurrence
  | .emit id _ values => some (emitted id values)
  | .request _ => none

def ofAct : Hub.Act κ → List Occurrence
  | .emit id _ values => [emitted id values]
  | _ => []

def ofSubscription : Except Problem EventId → List Occurrence
  | .ok id => [subscribed id]
  | .error _ => []

end Occurrence

namespace Session

structure Live (s : Session κ) (path : String) (token : Nat) : Prop where
  opened : s.closed = false
  presence : ∃ ids, s.presence = some ⟨⟨some path, ids⟩, some token⟩

variable [Callback κ]

/-- What occurs while a message is handled: the emissions of the callback, or the subscription that
is asked for. -/
def occurrences (s : Session κ) (h : Hub (Bus ReplyTarget) κ) : Message κ → List Occurrence
  | .event e =>
    (s.router.route e.id e.values h.now.1).call.elim []
      (fun c ↦ c.effects.filterMap Occurrence.ofEffect?)
  | .request (.subscribe event callback) =>
    Occurrence.ofSubscription (s.subscribe h event callback).1
  | _ => []

def first : Session κ := fresh 0 .default (some ⟨⟨some (pathOfFilter 0), .empty⟩, some 0⟩)

def firstHub : Hub (Bus ReplyTarget) κ := (connect (.start Bus.start) .default).2

omit [Callback κ] in
theorem connect_first :
    connect (.start Bus.start : Hub (Bus ReplyTarget) κ) .default = (.ok first, firstHub) := rfl

end Session

namespace Situation

variable [Callback κ]

def close (w : Situation κ) : Situation κ :=
  ⟨(w.session.close w.hub).2.1, (w.session.close w.hub).2.2⟩

def turn (w : Situation κ) : Situation κ :=
  if w.session.closed then w
  else
    match w.hub.take w.session.mailbox with
    | none => w
    | some (m, h) => ⟨(w.session.handle h m).2.1, (w.session.handle h m).2.2⟩

def turns : Nat → Situation κ → Situation κ
  | 0, w => w
  | n + 1, w => turns n w.turn

def after (w : Situation κ) : Move κ → Situation κ
  | .step fuel s =>
    (Simulation.sessionStep fuel w.session w.hub s).elim w (fun r ↦ ⟨r.2.1, r.2.2⟩)
  | .turn => w.turn
  | .drop => w.close
  | .conclude result => ⟨w.close.session, (w.session.conclude w.hub result).2⟩
  | .other a => { w with hub := w.hub.after a }

def run (w : Situation κ) (ms : List (Move κ)) : Situation κ := ms.foldl after w

def duringTurn (w : Situation κ) : List Occurrence :=
  if w.session.closed then []
  else
    match w.hub.take w.session.mailbox with
    | none => []
    | some (m, h) => w.session.occurrences h m

def duringTurns : Nat → Situation κ → List Occurrence
  | 0, _ => []
  | n + 1, w => w.duringTurn ++ duringTurns n w.turn

/-- What occurs during a move, for as long as the session is open. -/
def during (w : Situation κ) : Move κ → List Occurrence
  | .step _ (.subscribe event callback) =>
    Occurrence.ofSubscription (w.session.subscribe w.hub event callback).1
  | .step fuel .runQueued =>
    if (w.session.runQueued fuel w.hub).isSome then duringTurns fuel w else []
  | .step fuel .runBriefly =>
    if (w.session.runBriefly fuel w.hub).isSome then duringTurns fuel w else []
  | .step fuel .run => if (w.session.run fuel w.hub).isSome then duringTurns fuel w else []
  | .turn => w.duringTurn
  | .other a => if w.session.closed then [] else Occurrence.ofAct a
  | _ => []

def history (w : Situation κ) : List (Move κ) → List Occurrence
  | [] => []
  | m :: ms => w.during m ++ history (w.after m) ms

theorem turn_of_closed {w : Situation κ} (h : w.session.closed = true) : w.turn = w := by
  rw [turn, if_pos h]

theorem turn_of_empty {w : Situation κ} (h : w.hub.take w.session.mailbox = none) : w.turn = w := by
  rw [turn, h]
  exact ite_self w

theorem turns_of_turn_eq {w : Situation κ} (h : w.turn = w) (n : Nat) : turns n w = w := by
  induction n with
  | zero => rfl
  | succ n ih => rw [turns, h, ih]

theorem turns_of_drain {fuel : Nat} {w : Situation κ} {handled : Nat}
    {d : Session.Drained (Bus ReplyTarget) κ} (hw : w.session.closed = false)
    (hd : w.session.drain fuel w.hub handled = some d) : turns fuel w = ⟨d.session, d.hub⟩ := by
  induction fuel generalizing w handled with
  | zero =>
    unfold Session.drain at hd
    split at hd
    · cases hd; rfl
    · cases hd
  | succ fuel ih =>
    cases ht : w.hub.take w.session.mailbox with
    | none =>
      rw [Session.drain, ht] at hd
      cases hd
      exact turns_of_turn_eq (turn_of_empty ht) _
    | some mh =>
      obtain ⟨m, h⟩ := mh
      have hturn : w.turn = ⟨(w.session.handle h m).2.1, (w.session.handle h m).2.2⟩ := by
        simp [turn, hw, ht]
      have hclosed := Session.handle_closed w.session h m hw
      rw [Session.drain, ht] at hd
      rw [turns, hturn]
      rcases heq : w.session.handle h m with ⟨_ | _ | p, s', h'⟩ <;>
        simp only [heq] at hd hclosed ⊢
      · exact ih (w := ⟨s', h'⟩) (by simpa using hclosed) hd
      · cases hd
        exact turns_of_turn_eq (turn_of_closed (by simpa using hclosed)) _
      · cases hd
        exact turns_of_turn_eq (turn_of_closed (by simpa using hclosed)) _

theorem turns_of_handles {s s' : Session κ} {h h' : Hub (Bus ReplyTarget) κ}
    {ms ps : List (Message κ)} (hh : Session.Handles s h ms ps s' h') (hs : s.closed = false) :
    turns ms.length ⟨s, h⟩ = ⟨s', h'⟩ := by
  induction hh with
  | nothing => rfl
  | @next s s₁ _ h g h₁ _ m ms _ _ ht hc hm _ _ ih =>
    have hturn : turn ⟨s, h⟩ = ⟨s₁, h₁⟩ := by simp [turn, hs, ht, hm]
    have hopen := Session.handle_closed s g m hs
    rw [hm] at hopen
    rw [List.length_cons, turns, hturn]
    exact ih (by simpa using hopen)

theorem turns_of_runLoop {α : Type} {fuel : Nat} {w : Situation κ}
    {result : Session.Drained (Bus ReplyTarget) κ → Option (Except Problem α)}
    {r : Except Problem α × Session κ × Hub (Bus ReplyTarget) κ}
    (h : w.session.runLoop fuel w.hub result = some r) : turns fuel w = ⟨r.2.1, r.2.2⟩ := by
  unfold Session.runLoop at h
  cases hc : w.session.closed with
  | true =>
    simp only [hc, if_true] at h
    cases h
    exact turns_of_turn_eq (turn_of_closed hc) _
  | false =>
    simp only [hc, Bool.false_eq_true, if_false] at h
    split at h
    · cases h
    · next d hd =>
      obtain ⟨a, -, rfl⟩ := Option.map_eq_some_iff.mp h
      exact turns_of_drain hc hd

end Situation

end RobotBus
