import RobotBus.Proofs.Session.Loop

namespace RobotBus

variable {σ κ α β : Type}

namespace Hub

/-- A mailbox to look away from, and what stays true meanwhile: its session makes no calls, and no
mailbox is lost. -/
structure Aside where
  mailbox : Nat
  calls : List (EventId × List Word)
  opened : Nat

structure Beside (z : Aside) (h h' : Hub σ κ) : Prop where
  line : h.line = h'.line
  log : h.log = h'.log
  clock : h.clock = h'.clock
  length : h.mailboxes.length = h'.mailboxes.length
  queue : ∀ k, k ≠ z.mailbox → h.queue k = h'.queue k
  opened : z.opened ≤ h.mailboxes.length
  calls : h.calls z.mailbox = z.calls

def Alike (z : Aside) (x x' : α × Hub σ κ) : Prop :=
  ∃ a h h', x = (a, h) ∧ x' = (a, h') ∧ Beside z h h'

variable {z : Aside} {h h' : Hub σ κ}

def aside (h : Hub σ κ) (n : Nat) : Aside := ⟨n, h.calls n, h.mailboxes.length⟩

theorem Beside.refl (h : Hub σ κ) (n : Nat) : Beside (h.aside n) h h :=
  ⟨rfl, rfl, rfl, rfl, fun _ _ ↦ rfl, Nat.le_refl _, rfl⟩

theorem Alike.mk {x x' : α × Hub σ κ} (ha : x.1 = x'.1) (hb : Beside z x.2 x'.2) :
    Alike z x x' :=
  ⟨x.1, x.2, x'.2, rfl, by rw [ha], hb⟩

theorem Beside.withLine (hb : Beside z h h') (l : σ) :
    Beside z { h with line := l } { h' with line := l } :=
  ⟨rfl, hb.log, hb.clock, hb.length, hb.queue, hb.opened, hb.calls⟩

theorem Beside.note (hb : Beside z h h') {e : LogEntry κ} (he : e.call? z.mailbox = none) :
    Beside z (h.note e) (h'.note e) where
  line := hb.line
  log := congrArg (· ++ [e]) hb.log
  clock := hb.clock
  length := hb.length
  queue := hb.queue
  opened := hb.opened
  calls := by rw [calls_note, he, Option.toList_none, List.append_nil, hb.calls]

theorem Beside.now (hb : Beside z h h') : Alike z h.now h'.now := by
  refine .mk ?_ ⟨hb.line, hb.log, ?_, hb.length, hb.queue, hb.opened, hb.calls⟩
  · exact congrArg (· + 1) hb.clock
  · exact congrArg (· + 1) hb.clock

theorem Beside.post (hb : Beside z h h') (k : Nat) (m : Message κ) :
    Beside z (h.post k m) (h'.post k m) where
  line := hb.line
  log := hb.log
  clock := hb.clock
  length := by simp only [Hub.post, List.length_modify, hb.length]
  queue j hj := by simp only [queue_post, hb.queue j hj, hb.length]
  opened := by simpa only [Hub.post, List.length_modify] using hb.opened
  calls := hb.calls

/-- What is put into the mailbox itself is not seen beside it. -/
theorem Beside.post_left (hb : Beside z h h') (m : Message κ) :
    Beside z (h.post z.mailbox m) h' where
  line := hb.line
  log := hb.log
  clock := hb.clock
  length := by simp only [Hub.post, List.length_modify, hb.length]
  queue j hj := by rw [queue_post, if_neg (fun hnj ↦ hj hnj.1.symm), hb.queue j hj]
  opened := by simpa only [Hub.post, List.length_modify] using hb.opened
  calls := hb.calls

theorem Beside.openMailbox (hb : Beside z h h') :
    Alike z h.openMailbox h'.openMailbox := by
  refine .mk hb.length ⟨hb.line, hb.log, hb.clock, ?_, ?_, ?_, hb.calls⟩
  · simp only [Hub.openMailbox, List.length_append, hb.length]
  · intro k hk
    have hq := hb.queue k hk
    have hlen := hb.length
    simp only [Hub.queue] at hq
    simp only [Hub.openMailbox, Hub.queue, List.getElem?_append, hlen]
    split
    · exact hq
    · rfl
  · have hn := hb.opened
    simp only [Hub.openMailbox, List.length_append]
    omega

theorem Beside.take (hb : Beside z h h') {k : Nat} (hk : k ≠ z.mailbox) :
    (h.take k = none ∧ h'.take k = none) ∨
      ∃ m g g', h.take k = some (m, g) ∧ h'.take k = some (m, g') ∧ Beside z g g' := by
  have hq := hb.queue k hk
  simp only [Hub.take, hq]
  cases h'.queue k with
  | nil => exact .inl ⟨rfl, rfl⟩
  | cons m ms =>
    refine .inr ⟨m, _, _, rfl, rfl, hb.line, hb.log, hb.clock, ?_, ?_, ?_, hb.calls⟩
    · simp only [List.length_set, hb.length]
    · intro j hj
      have hj' := hb.queue j hj
      have hlen := hb.length
      simp only [Hub.queue] at hj'
      simp only [Hub.queue, List.getElem?_set, hlen]
      split
      · rfl
      · exact hj'
    · simpa only [List.length_set] using hb.opened

theorem Beside.receive (hb : Beside z h h') (l : Listener) (body : List Value) :
    Beside z (h.receive l body) (h'.receive l body) := by
  cases l with
  | log tag => exact hb.note rfl
  | mailbox k =>
    simp only [Hub.receive]
    split
    · exact hb.post k _
    · exact hb

theorem Beside.answer (hb : Beside z h h') (target : ReplyTarget) (r : Reply) :
    Beside z (h.answer target r) (h'.answer target r) := by
  rcases target with k | tag | tag <;> rcases r with f | vs
  · exact hb.post k _
  · exact hb
  · exact hb.note rfl
  · exact hb.note rfl
  · exact hb.note rfl
  · exact hb

theorem Beside.foldl {f : Hub σ κ → α → Hub σ κ}
    (hf : ∀ h h' a, Beside z h h' → Beside z (f h a) (f h' a)) (hb : Beside z h h')
    (as : List α) : Beside z (as.foldl f h) (as.foldl f h') := by
  induction as generalizing h h' with
  | nil => exact hb
  | cons a as ih => exact ih (hf h h' a hb)

variable [Line σ]

theorem Beside.bus (hb : Beside z h h') : h.bus = h'.bus := congrArg Line.bus hb.line

theorem Beside.withBus (hb : Beside z h h') (b : Bus ReplyTarget) :
    Beside z (h.withBus b) (h'.withBus b) := by
  simp only [Hub.withBus, hb.line]
  exact hb.withLine _

theorem Beside.emit (hb : Beside z h h') (id : EventId) (name : String) (values : List Word) :
    Alike z (h.emit id name values) (h'.emit id name values) := by
  simp only [Hub.emit, hb.bus]
  exact .mk rfl (Beside.foldl (fun _ _ l hb ↦ hb.receive l _) hb _)

theorem Beside.submit (hb : Beside z h h') (path interface method : String) (args : List Value)
    (target : ReplyTarget) :
    Beside z (h.submit path interface method args target)
      (h'.submit path interface method args target) := by
  simp only [Hub.submit, hb.line]
  rcases Line.submit h'.line path interface method args target with ⟨_ | r, l⟩
  · exact hb.withLine l
  · exact (hb.withLine l).answer target r

theorem Beside.deliver (hb : Beside z h h') : Alike z h.deliver h'.deliver := by
  simp only [Hub.deliver, hb.bus]
  exact .mk rfl (Beside.foldl (fun _ _ e hb ↦ hb.answer e.1 e.2) (hb.withBus _) _)

theorem Beside.perform (hb : Beside z h h') (k : Nat) (e : Effect κ) :
    Beside z (h.perform k e) (h'.perform k e) := by
  cases e with
  | request r => exact hb.post k _
  | emit id name values =>
    obtain ⟨_, g, g', he, he', hg⟩ := hb.emit id name values
    simp only [Hub.perform, he, he']
    exact hg

theorem Beside.performAll (hb : Beside z h h') (k : Nat) (es : List (Effect κ)) :
    Beside z (h.performAll k es) (h'.performAll k es) :=
  Beside.foldl (fun _ _ e hb ↦ hb.perform k e) hb es

end Hub

open Hub

variable {z : Aside} {h h' : Hub σ κ} [Line σ]

theorem NodeAccess.alike_send (a : NodeAccess) (hb : Beside z h h') (id : EventId)
    (args : List Word) (target : ReplyTarget) :
    Beside z (a.send h id args target) (a.send h' id args target) := by
  cases a with
  | offline k => exact hb
  | online => exact hb.submit _ _ _ _ _

namespace Session

def Alike (z : Aside) (mailbox : Nat)
    (x x' : α × Session κ × Hub σ κ) : Prop :=
  ∃ a s h h', x = (a, s, h) ∧ x' = (a, s, h') ∧ s.mailbox = mailbox ∧ Beside z h h'

omit [Line σ] in
theorem Alike.mk {mailbox : Nat} (a : α) {s : Session κ} (hs : s.mailbox = mailbox)
    (hb : Beside z h h') : Alike z mailbox (a, s, h) (a, s, h') :=
  ⟨a, s, h, h', rfl, rfl, hs, hb⟩

omit [Line σ] in
theorem alike_ask (s : Session κ) (hb : Beside z h h') (f : σ → Except Problem α × σ) :
    Hub.Alike z (s.ask h f) (s.ask h' f) := by
  unfold ask
  rw [hb.line]
  split
  · exact .mk rfl hb
  · exact .mk rfl (hb.withLine _)

theorem alike_close (s : Session κ) (hb : Beside z h h') :
    Alike z s.mailbox (s.close h) (s.close h') := by
  unfold close
  rw [hb.line]
  split
  · exact .mk _ rfl hb
  · split
    · exact .mk _ rfl hb
    · exact .mk _ rfl (hb.withLine _)

theorem alike_connect (hb : Beside z h h') (c : Settings) :
    Hub.Alike z (connect h c) (connect h' c) := by
  simp only [connect, withoutBus, hb.line, ← hb.length]
  split
  · exact .mk rfl hb
  · split
    · obtain ⟨k, g, g', ho, ho', hg⟩ := hb.openMailbox
      simp only [ho, ho']
      exact .mk rfl hg
    · split
      · exact .mk rfl (hb.withLine _)
      · split
        · exact .mk rfl (hb.withLine _)
        · next l _ p l' _ =>
          obtain ⟨k, g, g', ho, ho', hg⟩ := (hb.withLine l').openMailbox
          simp only [ho, ho']
          exact .mk rfl hg

theorem mailbox_of_connect {c : Settings} {s : Session κ} {g : Hub σ κ}
    (hc : connect h c = (.ok s, g)) :
    s.mailbox = h.mailboxes.length ∧ g.mailboxes.length = h.mailboxes.length + 1 := by
  simp only [connect, withoutBus, Hub.openMailbox] at hc
  split at hc
  · cases hc
  · split at hc
    · cases hc
      exact ⟨rfl, List.length_append⟩
    · split at hc
      · cases hc
      · split at hc
        · cases hc
        · cases hc
          exact ⟨rfl, List.length_append⟩

theorem alike_send (s : Session κ) (hb : Beside z h h') (event : Mention) (args : List Word) :
    Hub.Alike z (s.send h event args) (s.send h' event args) := by
  unfold send
  split
  · exact .mk rfl hb
  · split
    · exact .mk rfl hb
    · exact .mk rfl (s.access.alike_send hb _ _ _)

theorem alike_allow (s : Session κ) (hb : Beside z h h') (id : EventId) :
    Alike z s.mailbox (s.allow h id) (s.allow h' id) := by
  unfold allow
  rw [hb.line]
  split
  · exact .mk _ rfl hb
  · exact .mk _ rfl (hb.withLine _)

theorem alike_subscribe (s : Session κ) (hb : Beside z h h') (event : Mention) (callback : κ) :
    Alike z s.mailbox (s.subscribe h event callback) (s.subscribe h' event callback) := by
  unfold subscribe
  split
  · exact .mk _ rfl hb
  · split
    · exact .mk _ rfl hb
    · next id _ =>
      obtain ⟨r, s', g, g', he, he', hs, hg⟩ := s.alike_allow hb id
      simp only [he, he']
      cases r with
      | error e => exact .mk _ hs hg
      | ok =>
        obtain ⟨now, k, k', hn, hn', hk⟩ := hg.now
        simp only [hn, hn']
        exact .mk _ hs hk

theorem alike_breakOff (s : Session κ) (hb : Beside z h h') (p : Problem) :
    Alike z s.mailbox (s.breakOff h p) (s.breakOff h' p) := by
  obtain ⟨r, s', g, g', he, he', hs, hg⟩ := s.alike_close hb
  simp only [breakOff, he, he']
  exact .mk _ hs hg

theorem alike_judge (r : Except Problem α) (s : Session κ) (hb : Beside z h h') :
    Alike z s.mailbox (judge r s h) (judge r s h') := by
  cases r with
  | ok a => exact .mk _ rfl hb
  | error p =>
    simp only [judge]
    split
    · exact s.alike_breakOff hb p
    · exact .mk _ rfl hb

theorem alike_carryOut (s : Session κ) (hb : Beside z h h') (q : Request κ) :
    Alike z s.mailbox (s.carryOut h q) (s.carryOut h' q) := by
  cases q with
  | send event args =>
    obtain ⟨r, g, g', he, he', hg⟩ := s.alike_send hb event args
    simp only [carryOut, he, he']
    exact alike_judge r s hg
  | write node name value =>
    obtain ⟨r, g, g', he, he', hg⟩ := s.alike_ask hb (fun l ↦ s.access.write l node name value)
    simp only [carryOut, write, he, he']
    exact alike_judge r s hg
  | subscribe event callback =>
    obtain ⟨r, s', g, g', he, he', hs, hg⟩ := s.alike_subscribe hb event callback
    simp only [carryOut, he, he']
    exact hs ▸ alike_judge r s' hg
  | stop =>
    obtain ⟨r, s', g, g', he, he', hs, hg⟩ := s.alike_close hb
    simp only [carryOut, he, he']
    cases r <;> exact .mk _ hs hg

variable [Callback κ]

omit [Callback κ] in
theorem alike_logCall {s : Session κ} (hs : s.mailbox ≠ z.mailbox) (hb : Beside z h h')
    (id : EventId) (c : Option (Call κ)) : Beside z (s.logCall h id c) (s.logCall h' id c) := by
  cases c with
  | none => exact hb
  | some c =>
    have hcall : (LogEntry.called s.mailbox id c.callback c.values).call? z.mailbox = none :=
      if_neg hs
    exact (hb.note hcall).performAll _ _

theorem alike_handle {s : Session κ} (hs : s.mailbox ≠ z.mailbox) (hb : Beside z h h')
    (m : Message κ) : Alike z s.mailbox (s.handle h m) (s.handle h' m) := by
  cases m with
  | event e =>
    obtain ⟨now, g, g', hn, hn', hg⟩ := hb.now
    simp only [handle, receive, hn, hn']
    have hlog := alike_logCall hs hg e.id (s.router.route e.id e.values now).call
    split
    · exact .mk _ rfl hlog
    · exact alike_breakOff { s with router := (s.router.route e.id e.values now).router } hlog _
  | problem p => exact s.alike_breakOff hb p
  | request q => exact s.alike_carryOut hb q

def Drained.Alike (z : Aside) (mailbox : Nat)
    (d d' : Drained σ κ) : Prop :=
  ∃ e k s h h', d = ⟨e, k, s, h⟩ ∧ d' = ⟨e, k, s, h'⟩ ∧ s.mailbox = mailbox ∧ Beside z h h'

theorem alike_drain {s : Session κ} (hs : s.mailbox ≠ z.mailbox) (hb : Beside z h h')
    (fuel handled : Nat) :
    Option.Rel (Drained.Alike z s.mailbox) (s.drain fuel h handled)
      (s.drain fuel h' handled) := by
  induction fuel generalizing s h h' handled with
  | zero =>
    unfold drain
    rcases hb.take hs with ⟨ht, ht'⟩ | ⟨m, g, g', ht, ht', -⟩
    · rw [ht, ht']
      exact .some ⟨_, _, s, h, h', rfl, rfl, rfl, hb⟩
    · rw [ht, ht']
      exact .none
  | succ fuel ih =>
    unfold drain
    rcases hb.take hs with ⟨ht, ht'⟩ | ⟨m, g, g', ht, ht', hg⟩
    · rw [ht, ht']
      exact .some ⟨_, _, s, h, h', rfl, rfl, rfl, hb⟩
    · obtain ⟨p, s', k, k', hm, hm', hs', hk⟩ := alike_handle hs hg m
      simp only [ht, ht', hm, hm']
      cases p with
      | running =>
        rw [← hs'] at hs ⊢
        exact ih hs hk _
      | stopped => exact .some ⟨_, _, s', k, k', rfl, rfl, hs', hk⟩
      | failed p => exact .some ⟨_, _, s', k, k', rfl, rfl, hs', hk⟩

theorem alike_runLoop {s : Session κ} (hs : s.mailbox ≠ z.mailbox) (hb : Beside z h h') (fuel : Nat)
    {result : Drained σ κ → Option (Except Problem α)}
    (hr : ∀ e k s h s' h', result ⟨e, k, s, h⟩ = result ⟨e, k, s', h'⟩) :
    Option.Rel (Alike z s.mailbox) (s.runLoop fuel h result) (s.runLoop fuel h' result) := by
  unfold runLoop
  split
  · exact .some (.mk _ rfl hb)
  · have hd := alike_drain hs hb fuel 0
    cases hx : s.drain fuel h 0 <;> cases hx' : s.drain fuel h' 0 <;> rw [hx, hx'] at hd <;>
      cases hd
    · exact .none
    · next hd =>
      obtain ⟨e, k, s', g, g', rfl, rfl, hs', hg⟩ := hd
      dsimp only
      rw [hr e k s' g' s' g]
      cases result ⟨e, k, s', g⟩ with
      | none => exact .none
      | some a => exact .some (.mk _ hs' hg)

omit [Callback κ] in
theorem alike_conclude (s : Session κ) (hb : Beside z h h') (result : Except Problem α) :
    Hub.Alike z (s.conclude h result) (s.conclude h' result) := by
  obtain ⟨r, s', g, g', he, he', -, hg⟩ := s.alike_close hb
  simp only [conclude, he, he']
  cases result <;> cases r <;> exact .mk rfl hg

end Session

namespace Simulation

omit [Line σ] in
theorem alike_onLine (hb : Beside z h h') (f : α → Answer) {r r' : Except Fault α × σ}
    (hr : r = r') : Hub.Alike z (onLine h f r) (onLine h' f r') := by
  subst hr
  exact .mk rfl (hb.withLine _)

theorem alike_busStep (hb : Beside z h h') (b : BusStep) :
    Hub.Alike z (busStep h b) (busStep h' b) := by
  have hline := hb.line
  have hbus := hb.bus
  cases b with
  | deliver =>
    obtain ⟨k, g, g', he, he', hg⟩ := hb.deliver
    simp only [busStep, he, he']
    exact .mk rfl hg
  | emit id name values =>
    obtain ⟨k, g, g', he, he', hg⟩ := hb.emit id name values
    simp only [busStep, he, he']
    exact .mk rfl hg
  | submit tag path interface method args => exact .mk rfl (hb.submit _ _ _ _ _)
  | signal token body =>
    simp only [busStep, hbus]
    split
    · exact .mk rfl (hb.receive _ _)
    · exact .mk rfl hb
  | addFilter => simpa only [busStep, hbus] using .mk rfl (hb.withBus _)
  | addOverride | clearOverrides | disconnect =>
    simpa only [busStep, hline] using .mk rfl (hb.withLine _)
  | connect | reach | call | watch | unwatch | listChildren =>
    simp only [busStep, hline]
    exact alike_onLine hb _ rfl
  | wordsOf | livePaths | allowed | sent | scripts | countWatches | connected | journal =>
    simpa only [busStep, hbus] using .mk rfl hb
  | addNode | setServing | refuseConnections | refuseMethod | clearRefusals | setHolding
  | clearJournal =>
    simpa only [busStep, onBus, hbus] using .mk rfl (hb.withBus _)

variable [Callback κ]

omit [Line σ] [Callback κ] in
theorem alike_unchanged (s : Session κ) (f : α → Answer) {x x' : Except Problem α × Hub σ κ}
    (hx : Hub.Alike z x x') :
    Option.Rel (Session.Alike z s.mailbox) (unchanged s f x) (unchanged s f x') := by
  obtain ⟨r, g, g', rfl, rfl, hg⟩ := hx
  exact .some (.mk _ rfl hg)

omit [Line σ] [Callback κ] in
theorem alike_changed {mailbox : Nat} (f : α → Answer)
    {x x' : Except Problem α × Session κ × Hub σ κ} (hx : Session.Alike z mailbox x x') :
    Option.Rel (Session.Alike z mailbox) (changed f x) (changed f x') := by
  obtain ⟨r, s, g, g', rfl, rfl, hs, hg⟩ := hx
  exact .some (.mk _ hs hg)

omit [Line σ] [Callback κ] in
theorem alike_ran {mailbox : Nat} (f : α → Answer) {x x' : Session.Ran σ κ α}
    (hx : Option.Rel (Session.Alike z mailbox) x x') :
    Option.Rel (Session.Alike z mailbox) (x.bind (changed f)) (x'.bind (changed f)) := by
  cases hx with
  | none => exact .none
  | some hx => exact alike_changed f hx

theorem alike_sessionStep {s : Session κ} (hs : s.mailbox ≠ z.mailbox) (hb : Beside z h h')
    (fuel : Nat) (st : SessionStep κ) :
    Option.Rel (Session.Alike z s.mailbox) (sessionStep fuel s h st)
      (sessionStep fuel s h' st) := by
  cases st with
  | subscribe event callback => exact alike_changed _ (s.alike_subscribe hb event callback)
  | send event args => exact alike_unchanged s _ (s.alike_send hb event args)
  | sweep => exact alike_unchanged s _ (s.alike_ask hb _)
  | nodes => exact alike_unchanged s _ (s.alike_ask hb _)
  | read node name => exact alike_unchanged s _ (s.alike_ask hb _)
  | write node name value => exact alike_unchanged s _ (s.alike_ask hb _)
  | loadScript path => exact alike_unchanged s _ (s.alike_ask hb _)
  | locate event => exact alike_unchanged s _ (.mk rfl hb)
  | rate event => exact alike_unchanged s _ (.mk rfl hb)
  | loadNames path file =>
    simp only [sessionStep, Session.loadNames]
    cases EventNames.ofFile path file with
    | error e => exact .some (.mk _ rfl hb)
    | ok names => exact .some (.mk _ rfl hb)
  | rates => exact .some (.mk _ rfl hb)
  | names q => exact .some (.mk _ rfl hb)
  | state => exact .some (.mk _ rfl hb)
  | runQueued => exact alike_ran _ (Session.alike_runLoop hs hb fuel fun _ _ _ _ _ _ ↦ rfl)
  | runBriefly => exact alike_ran _ (Session.alike_runLoop hs hb fuel fun _ _ _ _ _ _ ↦ rfl)
  | run => exact alike_ran _ (Session.alike_runLoop hs hb fuel fun _ _ _ _ _ _ ↦ rfl)
  | close => exact alike_changed _ (s.alike_close hb)

theorem alike_bodyRun {s : Session κ} (hs : s.mailbox ≠ z.mailbox) (hb : Beside z h h') (fuel : Nat)
    (answers : List Answer) (body : List (BodyStep κ)) :
    ∃ as r s' g g', bodyRun fuel answers s h body = ⟨as, r, s', g⟩ ∧
      bodyRun fuel answers s h' body = ⟨as, r, s', g'⟩ ∧ Beside z g g' := by
  induction body generalizing answers s h h' with
  | nil => exact ⟨_, _, _, _, _, rfl, rfl, hb⟩
  | cons step body ih =>
    cases step with
    | bus b =>
      obtain ⟨a, g, g', he, he', hg⟩ := alike_busStep hb b
      simp only [bodyRun, he, he']
      exact ih hs hg _
    | remote e =>
      simp only [bodyRun]
      exact ih hs (hb.perform _ e) _
    | session st caught =>
      have hst := alike_sessionStep hs hb fuel st
      simp only [bodyRun]
      cases hx : sessionStep fuel s h st <;> cases hx' : sessionStep fuel s h' st <;>
        rw [hx, hx'] at hst <;> cases hst
      · exact ⟨_, _, _, _, _, rfl, rfl, hb⟩
      · next hst =>
        obtain ⟨r, s', g, g', rfl, rfl, hs', hg⟩ := hst
        rw [← hs'] at hs
        cases r with
        | ok a => exact ih hs hg _
        | error p =>
          dsimp only
          split
          · exact ih hs hg _
          · exact ⟨_, _, _, _, _, rfl, rfl, hg⟩

theorem alike_bracketStep (hz : z.mailbox ≠ h.mailboxes.length) (hb : Beside z h h') (fuel : Nat)
    (c : Settings) (body : List (BodyStep κ)) :
    Hub.Alike z (bracketStep fuel h c body) (bracketStep fuel h' c body) := by
  obtain ⟨r, g, g', he, he', hg⟩ := Session.alike_connect hb c
  simp only [bracketStep, he, he']
  cases r with
  | error p => exact .mk rfl hg
  | ok s =>
    have hs : s.mailbox ≠ z.mailbox := (Session.mailbox_of_connect he).1 ▸ hz.symm
    obtain ⟨as, r, s', k, k', hk, hk', hb'⟩ := alike_bodyRun hs hg fuel [] body
    obtain ⟨a, j, j', hj, hj', hb''⟩ := s'.alike_conclude hb' r
    simp only [hk, hk', hj, hj']
    exact .mk rfl hb''

omit [Callback κ] in
theorem alike_filterStep (k : FilterKeeper) (hb : Beside z h h') (st : FilterStep) :
    ∃ a k' g g', filterStep k h st = (a, k', g) ∧ filterStep k h' st = (a, k', g') ∧
      Beside z g g' := by
  have hline := hb.line
  cases st <;> simp only [filterStep, hline]
  case state => exact ⟨_, _, _, _, rfl, rfl, hb⟩
  all_goals exact ⟨_, _, _, _, rfl, rfl, hb.withLine _⟩

omit [Callback κ] in
theorem alike_accessStep (c : NodeAccess) (hb : Beside z h h') (st : AccessStep) :
    Hub.Alike z (accessStep c h st) (accessStep c h' st) := by
  have hline := hb.line
  cases st <;> simp only [accessStep, hline]
  case send => exact .mk rfl (c.alike_send hb _ _ _)
  all_goals exact .mk rfl (hb.withLine _)

end Simulation

end RobotBus
