import RobotBus.Session.Basic

namespace RobotBus

structure Remote where
  mailbox : Nat
deriving DecidableEq, Repr

namespace Remote

variable {σ κ : Type}

def request (r : Remote) (h : Hub σ κ) (q : Request κ) : Hub σ κ :=
  h.post r.mailbox (.request q)

end Remote

namespace Session

inductive Progress
  | running
  | stopped
  | failed (p : Problem)
deriving DecidableEq, Repr

variable {σ κ : Type} [Line σ]

def remote (s : Session κ) : Remote := ⟨s.mailbox⟩

/-- Closes the session because of a problem, which is told whatever closing comes to. -/
def breakOff (s : Session κ) (h : Hub σ κ) (p : Problem) : Progress × Session κ × Hub σ κ :=
  let (_, s, h) := s.close h
  (.failed p, s, h)

/-- A request that comes to nothing is passed over, unless its problem ends the session. -/
def judge {α : Type} (r : Except Problem α) (s : Session κ) (h : Hub σ κ) :
    Progress × Session κ × Hub σ κ :=
  match r with
  | .ok _ => (.running, s, h)
  | .error p => if p.endsSession then s.breakOff h p else (.running, s, h)

def carryOut (s : Session κ) (h : Hub σ κ) : Request κ → Progress × Session κ × Hub σ κ
  | .send event args =>
    let (r, h) := s.send h event args
    judge r s h
  | .write node name value =>
    let (r, h) := s.write h node name value
    judge r s h
  | .subscribe event callback =>
    let (r, s, h) := s.subscribe h event callback
    judge r s h
  | .stop =>
    match s.close h with
    | (.ok (), s, h) => (.stopped, s, h)
    | (.error p, s, h) => (.failed p, s, h)

variable [Callback κ]

/-- A call is logged before its effects. -/
def logCall (s : Session κ) (h : Hub σ κ) (id : EventId) : Option (Call κ) → Hub σ κ
  | none => h
  | some c => (h.note (.called s.mailbox id c.callback c.values)).performAll s.mailbox c.effects

def receive (s : Session κ) (h : Hub σ κ) (e : Event) : Progress × Session κ × Hub σ κ :=
  let (now, h) := h.now
  let routed := s.router.route e.id e.values now
  let h := s.logCall h e.id routed.call
  let s := { s with router := routed.router }
  match routed.outcome with
  | .ok _ => (.running, s, h)
  | .error p => s.breakOff h p

def handle (s : Session κ) (h : Hub σ κ) : Message κ → Progress × Session κ × Hub σ κ
  | .event e => s.receive h e
  | .problem p => s.breakOff h p
  | .request q => s.carryOut h q

/-- How the loop ended: with nothing left in the mailbox, stopped, or with a problem. -/
inductive Ending
  | idle
  | stopped
  | failed (p : Problem)
deriving DecidableEq, Repr

structure Drained (σ κ : Type) where
  ending : Ending
  handled : Nat
  session : Session κ
  hub : Hub σ κ

/-- Handles what is in the mailbox, and what is posted meanwhile. There is no result if `fuel`
messages do not suffice. -/
def drain (fuel : Nat) (s : Session κ) (h : Hub σ κ) (handled : Nat) : Option (Drained σ κ) :=
  match h.take s.mailbox with
  | none => some ⟨.idle, handled, s, h⟩
  | some (m, h) =>
    match fuel with
    | 0 => none
    | fuel + 1 =>
      match s.handle h m with
      | (.running, s, h) => drain fuel s h (handled + 1)
      | (.stopped, s, h) => some ⟨.stopped, handled + 1, s, h⟩
      | (.failed p, s, h) => some ⟨.failed p, handled + 1, s, h⟩

abbrev Ran (σ κ α : Type) := Option (Except Problem α × Session κ × Hub σ κ)

def runLoop {α : Type} (fuel : Nat) (s : Session κ) (h : Hub σ κ)
    (result : Drained σ κ → Option (Except Problem α)) : Ran σ κ α :=
  if s.closed then some (.error .closedSession, s, h)
  else
    match s.drain fuel h 0 with
    | none => none
    | some d => (result d).map (fun r ↦ (r, d.session, d.hub))

def runQueued (fuel : Nat) (s : Session κ) (h : Hub σ κ) : Ran σ κ Nat :=
  s.runLoop fuel h (fun d ↦
    match d.ending with
    | .failed p => some (.error p)
    | .stopped => some (.ok d.handled)
    | .idle => some (.ok d.handled))

/-- Runs for some time in which nobody else posts anything. Tells whether the session was
stopped. -/
def runBriefly (fuel : Nat) (s : Session κ) (h : Hub σ κ) : Ran σ κ Bool :=
  s.runLoop fuel h (fun d ↦
    match d.ending with
    | .failed p => some (.error p)
    | .stopped => some (.ok true)
    | .idle => some (.ok false))

/-- Runs until the session is stopped or fails. A loop left with an empty mailbox waits for ever,
and has no result. -/
def run (fuel : Nat) (s : Session κ) (h : Hub σ κ) : Ran σ κ Unit :=
  s.runLoop fuel h (fun d ↦
    match d.ending with
    | .failed p => some (.error p)
    | .stopped => some (.ok ())
    | .idle => none)

/-- Closes a session whose work is done. The problem of the work is told before that of closing. -/
def conclude {α : Type} (s : Session κ) (h : Hub σ κ) (result : Except Problem α) :
    Except Problem α × Hub σ κ :=
  match result, s.close h with
  | .error p, (_, _, h) => (.error p, h)
  | .ok _, (.error p, _, h) => (.error p, h)
  | .ok a, (.ok (), _, h) => (.ok a, h)

/-- Connects, hands the session to `body`, and closes it whatever `body` came to. -/
def bracket {α : Type} (h : Hub σ κ) (c : Settings)
    (body : Session κ → Hub σ κ → Except Problem α × Session κ × Hub σ κ) :
    Except Problem α × Hub σ κ :=
  match Session.connect h c with
  | (.error p, h) => (.error p, h)
  | (.ok s, h) =>
    let (result, s, h) := body s h
    s.conclude h result

end Session

end RobotBus
