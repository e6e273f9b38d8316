import RobotBus.Simulation.Step
import RobotBus.Text.Quoted

namespace RobotBus

structure Simulation (σ κ : Type) where
  hub : Hub σ κ
  sessions : Directory String (Session κ)
  /-- Of every session there has been; a remote outlives its session. -/
  remotes : Directory String Remote
  keepers : Directory String FilterKeeper
  accesses : Directory String NodeAccess

namespace Simulation

variable {σ κ : Type}

def start (l : σ) : Simulation σ κ := ⟨.start l, .empty, .empty, .empty, .empty⟩

def describe (path interface : String) : String :=
  "Proxy \x7b path: " ++ Text.quoted path ++ ", interface: " ++ Text.quoted interface ++ " \x7d"

variable [Line σ]

def onBus (h : Hub σ κ) (f : Bus ReplyTarget → Bus ReplyTarget) : Answer × Hub σ κ :=
  (.nothing, h.withBus (f h.bus))

def onLine {α : Type} (h : Hub σ κ) (f : α → Answer) (r : Except Fault α × σ) :
    Answer × Hub σ κ :=
  (.ofReply f r.1, { h with line := r.2 })

def busStep (h : Hub σ κ) : BusStep → Answer × Hub σ κ
  | .addNode name values => onBus h (Bus.addNode · name values)
  | .setServing serving => onBus h (Bus.setServing · serving)
  | .refuseConnections f => onBus h (Bus.refuseConnections · f)
  | .refuseMethod method f => onBus h (Bus.refuseMethod · method f)
  | .clearRefusals => onBus h Bus.clearRefusals
  | .setHolding holding => onBus h (Bus.setHolding · holding)
  | .clearJournal => onBus h Bus.clearJournal
  | .deliver =>
    let (n, h) := h.deliver
    (.count n, h)
  | .addFilter =>
    let (path, b) := h.bus.addFilter
    (.text path, h.withBus b)
  | .emit id name values =>
    let (n, h) := h.emit id name values
    (.count n, h)
  | .wordsOf node name => (.words (h.bus.wordsOf node name), h)
  | .livePaths => (.texts h.bus.livePaths, h)
  | .allowed path => (.events (h.bus.allowed? path), h)
  | .sent => (.sent h.bus.sent, h)
  | .scripts => (.texts h.bus.scripts, h)
  | .countWatches => (.count h.bus.watches.size, h)
  | .connected => (.flag h.bus.connected, h)
  | .journal => (.journal h.bus.journal, h)
  | .signal token body =>
    match h.bus.watches.get? token with
    | some w => (.flag true, h.receive w.listener body)
    | none => (.flag false, h)
  | .addOverride o => (.nothing, { h with line := Line.addOverride h.line o })
  | .clearOverrides => (.nothing, { h with line := Line.clearOverrides h.line })
  | .connect scope => onLine h (fun _ ↦ .nothing) (Line.connect h.line scope)
  | .disconnect => (.nothing, { h with line := Line.disconnect h.line })
  | .reach path interface =>
    onLine h (fun _ ↦ .object path (describe path interface)) (Line.reach h.line path)
  | .call path interface method args =>
    onLine h .values (Line.call h.line path interface method args)
  | .submit tag path interface method args =>
    (.nothing, h.submit path interface method args (.log tag))
  | .watch tag path interface signal =>
    onLine h .count (Line.watch h.line path interface signal (.log tag))
  | .unwatch token => onLine h (fun _ ↦ .nothing) (Line.unwatch h.line token)
  | .listChildren path => onLine h .texts (Line.listChildren h.line path)

def stateOf (s : Session κ) : SessionState :=
  ⟨s.closed, s.settings.offline, s.filterPath, s.settings⟩

/-- What a step of a session comes to; nothing if its loop does not end. -/
abbrev Stepped (σ κ : Type) := Option (Except Problem Answer × Session κ × Hub σ κ)

def unchanged {α : Type} (s : Session κ) (f : α → Answer) (r : Except Problem α × Hub σ κ) :
    Stepped σ κ :=
  some (r.1.map f, s, r.2)

def changed {α : Type} (f : α → Answer) (r : Except Problem α × Session κ × Hub σ κ) :
    Stepped σ κ :=
  some (r.1.map f, r.2)

variable [Callback κ]

def sessionStep (fuel : Nat) (s : Session κ) (h : Hub σ κ) : SessionStep κ → Stepped σ κ
  | .subscribe event callback => changed .event (s.subscribe h event callback)
  | .send event args => unchanged s (fun _ ↦ .nothing) (s.send h event args)
  | .locate event => unchanged s .event (s.locate event, h)
  | .sweep => unchanged s .count (s.sweep h)
  | .nodes => unchanged s .texts (s.nodes h)
  | .read node name => unchanged s .wordValue (s.read h node name)
  | .write node name value => unchanged s (fun _ ↦ .nothing) (s.write h node name value)
  | .loadScript path => unchanged s (fun _ ↦ .nothing) (s.loadScript h path)
  | .loadNames path file =>
    let (r, s) := s.loadNames path file
    changed (fun _ ↦ .count s.names.size) (r, s, h)
  | .rate event => unchanged s (fun x ↦ .rate (.ofFloat x)) (s.rate event, h)
  | .rates => some (.ok (.rates (s.rates.map (fun e ↦ (e.1, .ofFloat e.2)))), s, h)
  | .names q =>
    let (a, names) := s.names.run q
    some (.ok (.names a), { s with names := names }, h)
  | .runQueued => (s.runQueued fuel h).bind (changed .count)
  | .runBriefly => (s.runBriefly fuel h).bind (changed .flag)
  | .run => (s.run fuel h).bind (changed (fun _ ↦ .nothing))
  | .close => changed (fun _ ↦ .nothing) (s.close h)
  | .state => some (.ok (.session (stateOf s)), s, h)

structure BodyRun (σ κ : Type) where
  answers : List Answer
  result : Except Problem Unit
  session : Session κ
  hub : Hub σ κ

def bodyRun (fuel : Nat) (answers : List Answer) (s : Session κ) (h : Hub σ κ) :
    List (BodyStep κ) → BodyRun σ κ
  | [] => ⟨answers, .ok (), s, h⟩
  | .bus b :: rest =>
    let (a, h) := busStep h b
    bodyRun fuel (a :: answers) s h rest
  | .remote e :: rest => bodyRun fuel (.nothing :: answers) s (h.perform s.mailbox e) rest
  | .session step caught :: rest =>
    match sessionStep fuel s h step with
    | none => ⟨.unfinished :: answers, .ok (), s, h⟩
    | some (.ok a, s, h) => bodyRun fuel (a :: answers) s h rest
    | some (.error p, s, h) =>
      if caught then bodyRun fuel (.problem p :: answers) s h rest else ⟨answers, .error p, s, h⟩

def bracketStep (fuel : Nat) (h : Hub σ κ) (c : Settings) (body : List (BodyStep κ)) :
    Answer × Hub σ κ :=
  match Session.connect h c with
  | (.error p, h) => (.bracket [] (.error p), h)
  | (.ok s, h) =>
    let r := bodyRun fuel [] s h body
    let (result, h) := r.session.conclude r.hub r.result
    (.bracket r.answers.reverse result, h)

def filterStep (k : FilterKeeper) (h : Hub σ κ) : FilterStep → Answer × FilterKeeper × Hub σ κ
  | .sweep =>
    let (r, l) := k.sweep h.line
    (.ofResult .count r, k, { h with line := l })
  | .obtain =>
    let (r, k, l) := k.obtain h.line
    (.ofResult .text r, k, { h with line := l })
  | .allow id =>
    let (r, k, l) := k.allow h.line id
    (.ofResult (fun _ ↦ .nothing) r, k, { h with line := l })
  | .giveUp =>
    let (r, k, l) := k.giveUp h.line
    (.ofResult (fun _ ↦ .nothing) r, k, { h with line := l })
  | .state id => (.filter k.filter k.filter.isSome (k.allows id), k, h)

def accessStep (a : NodeAccess) (h : Hub σ κ) : AccessStep → Answer × Hub σ κ
  | .nodes =>
    let (r, l) := a.nodes h.line
    (.ofResult .texts r, { h with line := l })
  | .read node name =>
    let (r, l) := a.read h.line node name
    (.ofResult .wordValue r, { h with line := l })
  | .write node name value =>
    let (r, l) := a.write h.line node name value
    (.ofResult (fun _ ↦ .nothing) r, { h with line := l })
  | .loadScript path =>
    let (r, l) := a.loadScript h.line path
    (.ofResult (fun _ ↦ .nothing) r, { h with line := l })
  | .send id args tag => (.nothing, a.send h id args (.failures tag))

/-- Puts a new session under a name, and then closes the one that had the name. -/
def keep (w : Simulation σ κ) (name : String) (s : Session κ) (h : Hub σ κ) : Simulation σ κ :=
  let h :=
    match w.sessions.get? name with
    | some old => (old.close h).2.2
    | none => h
  { w with
    hub := h
    sessions := w.sessions.insert name s
    remotes := w.remotes.insert name s.remote }

/-- Whether the network object can be reached, which is asked before there is a keeper or an
access. -/
def opened (w : Simulation σ κ) (keep : Simulation σ κ → Simulation σ κ) :
    Answer × Simulation σ κ :=
  match Line.reach w.hub.line networkPath with
  | (.error f, l) => (.fault f, { w with hub := { w.hub with line := l } })
  | (.ok (), l) => (.nothing, keep { w with hub := { w.hub with line := l } })

def step (fuel : Nat) (w : Simulation σ κ) : Step κ → Answer × Simulation σ κ
  | .bus b =>
    let (a, h) := busStep w.hub b
    (a, { w with hub := h })
  | .session name step =>
    match w.sessions.get? name with
    | none => (.absent, w)
    | some s =>
      match sessionStep fuel s w.hub step with
      | none => (.unfinished, w)
      | some (r, s, h) =>
        (.ofResult id r, { w with hub := h, sessions := w.sessions.insert name s })
  | .connect name c =>
    match Session.connect w.hub c with
    | (.error p, h) => (.problem p, { w with hub := h })
    | (.ok s, h) => (.nothing, w.keep name s h)
  | .offline name =>
    let (s, h) := Session.offline w.hub
    (.nothing, w.keep name s h)
  | .drop name =>
    match w.sessions.get? name with
    | none => (.flag false, w)
    | some s =>
      (.flag true, { w with hub := (s.close w.hub).2.2, sessions := w.sessions.erase name })
  | .remote name e =>
    match w.remotes.get? name with
    | none => (.absent, w)
    | some r => (.nothing, { w with hub := w.hub.perform r.mailbox e })
  | .openFilters name => w.opened (fun w ↦ { w with keepers := w.keepers.insert name .start })
  | .filters name step =>
    match w.keepers.get? name with
    | none => (.absent, w)
    | some k =>
      let (a, k, h) := filterStep k w.hub step
      (a, { w with hub := h, keepers := w.keepers.insert name k })
  | .openAccess name => w.opened (fun w ↦ { w with accesses := w.accesses.insert name .online })
  | .offlineAccess name n =>
    (.nothing, { w with accesses := w.accesses.insert name (.offline n) })
  | .access name step =>
    match w.accesses.get? name with
    | none => (.absent, w)
    | some a =>
      let (r, h) := accessStep a w.hub step
      (r, { w with hub := h })
  | .bracket c body =>
    let (a, h) := bracketStep fuel w.hub c body
    (a, { w with hub := h })

def finish (w : Simulation σ κ) : Simulation σ κ :=
  { w with
    hub := w.sessions.entries.foldl (fun h e ↦ (e.2.close h).2.2) w.hub
    sessions := .empty }

end Simulation

end RobotBus
