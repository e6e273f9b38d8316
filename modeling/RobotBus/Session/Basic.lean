import RobotBus.EventNames
import RobotBus.FilterKeeper
import RobotBus.NodeAccess

namespace RobotBus

structure Presence where
  filters : FilterKeeper
  /-- The token of the watch by which events reach the mailbox. -/
  watch : Option Nat
deriving DecidableEq, Repr

/-- One client of the bus. It is closed once, and a closed session answers every request that
concerns the bus by saying so. -/
structure Session (κ : Type) where
  mailbox : Nat
  settings : Settings
  names : EventNames
  router : Router κ
  /-- Nothing when offline, and after the session has been closed. -/
  presence : Option Presence
  closed : Bool

namespace Presence

variable {σ : Type} [Line σ]

def unwatch (p : Presence) (l : σ) : Except Problem Unit × σ :=
  match p.watch with
  | none => (.ok (), l)
  | some token =>
    match Line.unwatch l token with
    | (.ok (), l) => (.ok (), l)
    | (.error f, l) => (.error (.refusedCall "remove Event signal" f), l)

/-- Every part is undone even if an earlier one refuses; the first problem is the one told. -/
def dismantle (p : Presence) (l : σ) : Except Problem Unit × σ :=
  let (unwatched, l) := p.unwatch l
  let (freed, _, l) := p.filters.giveUp l
  let l := Line.disconnect l
  match unwatched with
  | .error e => (.error e, l)
  | .ok () => (freed, l)

def sweepFirst (p : Presence) (l : σ) (c : Settings) : Except Problem Nat × σ :=
  if c.sweepFirst then p.filters.sweep l else (.ok 0, l)

def furnish (p : Presence) (l : σ) (c : Settings) (mailbox : Nat) :
    Except Problem Unit × Presence × σ :=
  match p.sweepFirst l c with
  | (.error e, l) => (.error e, p, l)
  | (.ok _, l) =>
    match p.filters.obtain l with
    | (.error e, k, l) => (.error e, { p with filters := k }, l)
    | (.ok path, k, l) =>
      match Line.watch l path filterInterface eventSignal (.mailbox mailbox) with
      | (.error f, l) =>
        (.error (.refusedCall "connect Event signal" f), { p with filters := k }, l)
      | (.ok token, l) => (.ok (), ⟨k, some token⟩, l)

/-- Takes up presence on a bus that is connected. If a part of it fails the rest is undone. -/
def enter (l : σ) (c : Settings) (mailbox : Nat) : Except Problem Presence × σ :=
  match Line.reach l networkPath with
  | (.error f, l) => (.error (.noConnection f), Line.disconnect l)
  | (.ok (), l) =>
    match furnish ⟨.start, none⟩ l c mailbox with
    | (.ok (), p, l) => (.ok p, l)
    | (.error e, p, l) => (.error e, (p.dismantle l).2)

end Presence

namespace Session

variable {σ κ : Type}

def fresh (mailbox : Nat) (c : Settings) (presence : Option Presence) : Session κ where
  mailbox := mailbox
  settings := c
  names := .empty
  router := .start c.window c.panicPolicy
  presence := presence
  closed := false

def withoutBus (h : Hub σ κ) (c : Settings) : Session κ × Hub σ κ :=
  let (mailbox, h) := h.openMailbox
  (fresh mailbox { c with offline := true } none, h)

def offline (h : Hub σ κ) : Session κ × Hub σ κ := withoutBus h .default

def filterPath (s : Session κ) : Option String := s.presence.bind (fun p ↦ p.filters.filter)

def access (s : Session κ) : NodeAccess :=
  if s.settings.offline then .offline s.settings.offlineLength else .online

def locate (s : Session κ) (event : Mention) : Except Problem EventId := s.names.locate event

def rate (s : Session κ) (event : Mention) : Except Problem Float :=
  (s.locate event).map s.router.subscriptions.rate

def rates (s : Session κ) : List (EventId × Float) := s.router.subscriptions.rates

/-- If the list cannot be loaded the names stay as they were. -/
def loadNames (s : Session κ) (path : String) (file : StoredFile) :
    Except Problem Unit × Session κ :=
  match EventNames.ofFile path file with
  | .error e => (.error e, s)
  | .ok names => (.ok (), { s with names := names })

variable [Line σ]

def connect (h : Hub σ κ) (c : Settings) : Except Problem (Session κ) × Hub σ κ :=
  match c.check with
  | .error e => (.error e, h)
  | .ok () =>
    if c.offline then
      let (s, h) := withoutBus h c
      (.ok s, h)
    else
      match Line.connect h.line c.scope with
      | (.error f, l) => (.error (.noConnection f), { h with line := l })
      | (.ok (), l) =>
        match Presence.enter l c h.mailboxes.length with
        | (.error e, l) => (.error e, { h with line := l })
        | (.ok p, l) =>
          let (mailbox, h) := { h with line := l }.openMailbox
          (.ok (fresh mailbox c (some p)), h)

/-- Closing a closed session does nothing. -/
def close (s : Session κ) (h : Hub σ κ) : Except Problem Unit × Session κ × Hub σ κ :=
  if s.closed then (.ok (), s, h)
  else
    let closed := { s with router := s.router.clear, presence := none, closed := true }
    match s.presence with
    | none => (.ok (), closed, h)
    | some p =>
      let (r, l) := p.dismantle h.line
      (r, closed, { h with line := l })

def ask {α : Type} (s : Session κ) (h : Hub σ κ) (f : σ → Except Problem α × σ) :
    Except Problem α × Hub σ κ :=
  if s.closed then (.error .closedSession, h)
  else
    let (r, l) := f h.line
    (r, { h with line := l })

def nodes (s : Session κ) (h : Hub σ κ) : Except Problem (List String) × Hub σ κ :=
  s.ask h s.access.nodes

def read (s : Session κ) (h : Hub σ κ) (node name : String) :
    Except Problem WordValue × Hub σ κ :=
  s.ask h (fun l ↦ s.access.read l node name)

def write (s : Session κ) (h : Hub σ κ) (node name : String) (value : WordValue) :
    Except Problem Unit × Hub σ κ :=
  s.ask h (fun l ↦ s.access.write l node name value)

def loadScript (s : Session κ) (h : Hub σ κ) (path : String) : Except Problem Unit × Hub σ κ :=
  s.ask h (fun l ↦ s.access.loadScript l path)

def sweep (s : Session κ) (h : Hub σ κ) : Except Problem Nat × Hub σ κ :=
  s.ask h (fun l ↦
    match s.presence with
    | some p => p.filters.sweep l
    | none => (.ok 0, l))

/-- Only the mention of the event can be refused here; a refusal of the bus goes to the mailbox. -/
def send (s : Session κ) (h : Hub σ κ) (event : Mention) (args : List Word) :
    Except Problem Unit × Hub σ κ :=
  if s.closed then (.error .closedSession, h)
  else
    match s.locate event with
    | .error e => (.error e, h)
    | .ok id => (.ok (), s.access.send h id args (.mailbox s.mailbox))

def allow (s : Session κ) (h : Hub σ κ) (id : EventId) :
    Except Problem Unit × Session κ × Hub σ κ :=
  match s.presence with
  | none => (.ok (), s, h)
  | some p =>
    let (r, k, l) := p.filters.allow h.line id
    (r, { s with presence := some { p with filters := k } }, { h with line := l })

/-- A callback is kept only once the filter passes its event on. -/
def subscribe (s : Session κ) (h : Hub σ κ) (event : Mention) (callback : κ) :
    Except Problem EventId × Session κ × Hub σ κ :=
  if s.closed then (.error .closedSession, s, h)
  else
    match s.locate event with
    | .error e => (.error e, s, h)
    | .ok id =>
      match s.allow h id with
      | (.error e, s, h) => (.error e, s, h)
      | (.ok (), s, h) =>
        let (now, h) := h.now
        (.ok id, { s with router := s.router.subscribe id callback now }, h)

end Session

end RobotBus
