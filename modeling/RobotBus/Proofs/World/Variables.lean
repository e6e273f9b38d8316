import RobotBus.Proofs.Bus.Service
import RobotBus.Proofs.Bus.Variables
import RobotBus.Proofs.Sending.Ledger
import RobotBus.Proofs.World.Crowd
import RobotBus.Proofs.World.Refusal

namespace RobotBus

open Bus Hub

variable {κ : Type}

def NodeAccess.written (a : NodeAccess) (b : Bus ReplyTarget) (node name : String)
    (value : WordValue) : List NodeRecord :=
  match a, (a.write b node name value).1 with
  | online, .ok () => [.written node name value.words]
  | _, _ => []

def Session.written (s : Session κ) (h : Hub (Bus ReplyTarget) κ) (node name : String)
    (value : WordValue) : List NodeRecord :=
  if s.closed then [] else s.access.written h.line node name value

namespace Situation

def written (w : Situation κ) : Move κ → List NodeRecord
  | .step _ (.write node name value) => w.session.written w.hub node name value
  | .turn =>
    match w.hub.take w.session.mailbox with
    | some (.request (.write node name value), h) => w.session.written h node name value
    | _ => []
  | _ => []

/-- The writes of a move; those of a loop are the writes of its turns. -/
def records [Callback κ] (w : Situation κ) (m : Move κ) : List NodeRecord :=
  gather written w (w.parts m)

end Situation

namespace Simulation

def accessRecords (a : NodeAccess) (h : Hub (Bus ReplyTarget) κ) : AccessStep → List NodeRecord
  | .write node name value => a.written h.line node name value
  | _ => []

def busRecords (h : Hub (Bus ReplyTarget) κ) : BusStep → List NodeRecord
  | .addNode name values => [.added name values]
  | .call path interface method args =>
    NodeRecord.ofCall path interface method args (h.line.call path interface method args).1
  | .submit _ path interface method args =>
    NodeRecord.ofCall path interface method args (h.line.serve path interface method args).1
  | _ => []

end Simulation

/-- What a hub and the sessions on it can come to, with the record of the nodes that were added and
the writes that were accepted, in order. -/
inductive Chronicle [Callback κ] :
    Hub (Bus ReplyTarget) κ → List (Session κ) → List NodeRecord → Prop
  | start : Chronicle (.start .start) [] []
  | connect {h h' : Hub (Bus ReplyTarget) κ} {s : Session κ} {ss : List (Session κ)}
      {es : List NodeRecord} (c : Settings) (hw : Chronicle h ss es)
      (hc : Session.connect h c = (.ok s, h')) : Chronicle h' (s :: ss) es
  | refused {h h' : Hub (Bus ReplyTarget) κ} {p : Problem} {ss : List (Session κ)}
      {es : List NodeRecord} (c : Settings) (hw : Chronicle h ss es)
      (hc : Session.connect h c = (.error p, h')) : Chronicle h' ss es
  | offline {h : Hub (Bus ReplyTarget) κ} {ss : List (Session κ)} {es : List NodeRecord}
      (hw : Chronicle h ss es) :
      Chronicle (Session.offline h).2 ((Session.offline h).1 :: ss) es
  | move {h : Hub (Bus ReplyTarget) κ} {s : Session κ} {ss : List (Session κ)}
      {es : List NodeRecord} (m : Move κ) (hm : m.Own) (hw : Chronicle h (s :: ss) es) :
      Chronicle (Situation.after ⟨s, h⟩ m).hub ((Situation.after ⟨s, h⟩ m).session :: ss)
        (es ++ Situation.records ⟨s, h⟩ m)
  | filters {h : Hub (Bus ReplyTarget) κ} {ss : List (Session κ)} {es : List NodeRecord}
      (k : FilterKeeper) (st : Simulation.FilterStep) (hw : Chronicle h ss es) :
      Chronicle (Simulation.filterStep k h st).2.2 ss es
  | access {h : Hub (Bus ReplyTarget) κ} {ss : List (Session κ)} {es : List NodeRecord}
      (a : NodeAccess) (st : Simulation.AccessStep) (hw : Chronicle h ss es) :
      Chronicle (Simulation.accessStep a h st).2 ss (es ++ Simulation.accessRecords a h st)
  | remote {h : Hub (Bus ReplyTarget) κ} {ss : List (Session κ)} {es : List NodeRecord}
      (r : Remote) (e : Effect κ) (hw : Chronicle h ss es) :
      Chronicle (h.perform r.mailbox e) ss es
  | bus {h : Hub (Bus ReplyTarget) κ} {ss : List (Session κ)} {es : List NodeRecord}
      (st : Simulation.BusStep) (hw : Chronicle h ss es) :
      Chronicle (Simulation.busStep h st).2 ss (es ++ Simulation.busRecords h st)
  | perm {h : Hub (Bus ReplyTarget) κ} {ss ss' : List (Session κ)} {es : List NodeRecord}
      (hp : ss.Perm ss') (hw : Chronicle h ss es) : Chronicle h ss' es

theorem Chronicle.crowd [Callback κ] {h : Hub (Bus ReplyTarget) κ} {ss : List (Session κ)}
    {es : List NodeRecord} (hw : Chronicle h ss es) : Crowd h ss := by
  induction hw with
  | start => exact .start
  | connect c _ hc ih => exact .connect c ih hc
  | refused c _ hc ih => exact .refused c ih hc
  | offline _ ih => exact .offline ih
  | move m hm _ ih => exact .move m hm ih
  | filters k st _ ih => exact .filters k st ih
  | access a st _ ih => exact .access a st ih
  | remote r e _ ih => exact .remote r e ih
  | bus st _ ih => exact .bus st ih
  | perm hp _ ih => exact .perm hp ih

theorem Crowd.chronicle [Callback κ] {h : Hub (Bus ReplyTarget) κ} {ss : List (Session κ)}
    (hw : Crowd h ss) : ∃ es, Chronicle h ss es := by
  induction hw with
  | start => exact ⟨_, .start⟩
  | connect c _ hc ih => exact ih.imp fun _ hw ↦ .connect c hw hc
  | refused c _ hc ih => exact ih.imp fun _ hw ↦ .refused c hw hc
  | offline _ ih => exact ih.imp fun _ hw ↦ .offline hw
  | move m hm _ ih => exact ⟨_, .move m hm ih.choose_spec⟩
  | filters k st _ ih => exact ih.imp fun _ hw ↦ .filters k st hw
  | access a st _ ih => exact ⟨_, .access a st ih.choose_spec⟩
  | remote r e _ ih => exact ih.imp fun _ hw ↦ .remote r e hw
  | bus st _ ih => exact ⟨_, .bus st ih.choose_spec⟩
  | perm hp _ ih => exact ih.imp fun _ hw ↦ .perm hp hw

namespace NodeAccess

variable {b : Bus ReplyTarget} {es : List NodeRecord}

theorem written_of_offline {a : NodeAccess} {n : Nat} (ha : a = .offline n)
    (b : Bus ReplyTarget) (node name : String) (value : WordValue) :
    a.written b node name value = [] := by
  rw [ha]
  rfl

/-- What is recorded of a write is what is recorded of the call that it makes. -/
theorem written_online (b : Bus ReplyTarget) (node name : String) (value : WordValue) :
    online.written b node name value =
      NodeRecord.ofCall networkPath networkInterface "SetVariable"
        [.text node, .text name, .words value.words]
        (b.call networkPath networkInterface "SetVariable"
          [.text node, .text name, .words value.words]).1 := by
  simp only [written, write, callNetwork, Line.call]
  rcases b.call networkPath networkInterface "SetVariable"
    [.text node, .text name, .words value.words] with ⟨f | vs, b'⟩ <;> rfl

theorem recorded_write (h : b.Recorded es) (a : NodeAccess) (node name : String)
    (value : WordValue) :
    (a.write b node name value).2.Recorded (es ++ a.written b node name value) := by
  cases a with
  | offline n =>
    rw [written_of_offline rfl, List.append_nil]
    exact h
  | online =>
    have hnote : (b.note (.call networkPath "SetVariable")).Recorded es := h.congr rfl
    rw [written_online, write, accepted_snd, callNetwork_snd]
    exact hnote.served _ _ _ _

theorem nodes_nodes (a : NodeAccess) (b : Bus ReplyTarget) : (a.nodes b).2.nodes = b.nodes := by
  cases a with
  | offline n => rfl
  | online =>
    rw [nodes_snd]
    rfl

theorem nodes_read (a : NodeAccess) (b : Bus ReplyTarget) (node name : String) :
    (a.read b node name).2.nodes = b.nodes := by
  cases a with
  | offline n => rfl
  | online =>
    rw [read_snd]
    rfl

theorem nodes_loadScript (a : NodeAccess) (b : Bus ReplyTarget) (path : String) :
    (a.loadScript b path).2.nodes = b.nodes := by
  cases a with
  | offline n => rfl
  | online =>
    rw [loadScript, accepted_snd, callNetwork_snd]
    have hm : "LoadScripts" ≠ "SetVariable" := by decide
    exact nodes_call_of_ne b networkPath networkInterface _ hm

theorem nodes_send (a : NodeAccess) (h : Hub (Bus ReplyTarget) κ) (id : EventId)
    (args : List Word) (target : ReplyTarget) :
    (a.send h id args target).line.nodes = h.line.nodes := by
  cases a with
  | offline n => rfl
  | online =>
    rw [send, (submit_extends h _ _ _ _ _).line]
    have hm : "SendEvent" ≠ "SetVariable" := by decide
    exact h.line.nodes_submit_of_ne networkPath networkInterface
      [.uint16 id.val, .words args] target hm

end NodeAccess

namespace FilterKeeper

theorem nodes_sweep (k : FilterKeeper) (b : Bus ReplyTarget) : (k.sweep b).2.nodes = b.nodes := by
  rw [(k.sweep_sweeps b).frame]

theorem nodes_of_call {b b' : Bus ReplyTarget} {path interface method : String}
    {args : List Value} {r : Reply} (hc : Line.call b path interface method args = (r, b'))
    (hm : method ≠ "SetVariable") : b'.nodes = b.nodes := by
  obtain rfl : (b.call path interface method args).2 = b' := congrArg Prod.snd hc
  exact nodes_call_of_ne b path interface args hm

theorem nodes_obtain (k : FilterKeeper) (b : Bus ReplyTarget) :
    (k.obtain b).2.2.nodes = b.nodes := by
  have hm : "CreateEventFilter" ≠ "SetVariable" := by decide
  unfold obtain
  split
  · rfl
  · split
    · next hc => exact nodes_of_call hc hm
    · next hc =>
      split
      · exact nodes_of_call hc hm
      · have hmade := nodes_of_call hc hm
        -- Reaching for the new filter is only seen to happen.
        split <;> next hr =>
          exact (congrArg (fun r ↦ r.2.nodes) hr).symm.trans hmade

theorem nodes_allow (k : FilterKeeper) (b : Bus ReplyTarget) (id : EventId) :
    (k.allow b id).2.2.nodes = b.nodes := by
  have hm : "ListenEvent" ≠ "SetVariable" := by decide
  have hobtain := k.nodes_obtain b
  unfold allow
  split
  · rfl
  · split
    · next heq =>
      rw [heq] at hobtain
      exact hobtain
    · next heq =>
      rw [heq] at hobtain
      split <;> next hc => exact (nodes_of_call hc hm).trans hobtain

theorem nodes_giveUp (k : FilterKeeper) (b : Bus ReplyTarget) :
    (k.giveUp b).2.2.nodes = b.nodes := by
  have hm : "Free" ≠ "SetVariable" := by decide
  unfold giveUp
  split
  · rfl
  · split <;> next hc => exact nodes_of_call hc hm

end FilterKeeper

namespace Situation

variable [Callback κ] {path : String} {token : Nat} {w : Situation κ} {es : List NodeRecord}

omit [Callback κ] in
theorem nodes_close (hl : w.session.Live path token) :
    w.close.hub.line.nodes = w.hub.line.nodes := by
  have hm : "Free" ≠ "SetVariable" := by decide
  rw [line_close hl]
  exact nodes_call_of_ne (w.hub.line.unwatch token) path filterInterface [] hm

omit [Callback κ] in
theorem nodes_subscribe (hl : w.session.Live path token) (event : Mention) (callback : κ) :
    (w.session.subscribe w.hub event callback).2.2.line.nodes = w.hub.line.nodes := by
  have hm : "ListenEvent" ≠ "SetVariable" := by decide
  have hlisten (id : EventId) : (w.hub.line.listen path id).2.nodes = w.hub.line.nodes :=
    nodes_call_of_ne w.hub.line path filterInterface [.uint16 id.val] hm
  obtain ⟨ids, hp⟩ := hl.presence
  have hs := subscribe_subscribes hl.opened hp event callback
  generalize hw' : (⟨(w.session.subscribe w.hub event callback).2.1,
    (w.session.subscribe w.hub event callback).2.2⟩ : Situation κ) = w' at hs
  have hhub : (w.session.subscribe w.hub event callback).2.2 = w'.hub := congrArg hub hw'
  rw [hhub]
  generalize (w.session.subscribe w.hub event callback).1 = r at hs
  cases hs with
  | unknown | again => rfl
  | refused p id => exact hlisten id
  | first id => exact hlisten id

omit [Callback κ] in
theorem nodes_send (w : Situation κ) (event : Mention) (args : List Word) :
    (w.session.send w.hub event args).2.line.nodes = w.hub.line.nodes := by
  unfold Session.send
  split
  · rfl
  · split
    · rfl
    · exact w.session.access.nodes_send w.hub _ args _

omit [Callback κ] in
theorem nodes_ask {α : Type} (w : Situation κ)
    {f : Bus ReplyTarget → Except Problem α × Bus ReplyTarget}
    (hf : (f w.hub.line).2.nodes = w.hub.line.nodes) :
    (w.session.ask w.hub f).2.line.nodes = w.hub.line.nodes := by
  unfold Session.ask
  split
  · rfl
  · exact hf

omit [Callback κ] in
theorem recorded_write (h : w.hub.line.Recorded es) (node name : String) (value : WordValue) :
    (w.session.write w.hub node name value).2.line.Recorded
      (es ++ w.session.written w.hub node name value) := by
  unfold Session.write Session.ask Session.written
  split
  · rw [List.append_nil]
    exact h
  · exact w.session.access.recorded_write h node name value

theorem nodes_received (w : Situation κ) (e : Event) :
    (w.received w.hub e).hub.line.nodes = w.hub.line.nodes := by
  rw [line_received]

def writtenOf (w : Situation κ) : Message κ → List NodeRecord
  | .request (.write node name value) => w.session.written w.hub node name value
  | _ => []

theorem recorded_handle (hl : w.session.Live path token) (h : w.hub.line.Recorded es)
    (m : Message κ) :
    (w.session.handle w.hub m).2.2.line.Recorded (es ++ w.writtenOf m) := by
  cases m with
  | event e =>
    apply h.same
    have hl' : (w.received w.hub e).session.Live path token := ⟨hl.opened, hl.presence⟩
    cases ho : (w.session.router.route e.id e.values w.hub.now.1).outcome with
    | ok routing =>
      simp only [Session.handle, Session.receive, ho]
      exact w.nodes_received e
    | error p =>
      simp only [Session.handle, Session.receive, ho]
      exact (nodes_close hl').trans (w.nodes_received e)
  | problem p => exact h.same (nodes_close hl)
  | request q =>
    cases q with
    | send event args =>
      apply h.same
      simp only [Session.handle, Session.carryOut,
        Session.judge_of_mild (w.session.mild_send w.hub event args)]
      exact w.nodes_send event args
    | write node name value =>
      simp only [Session.handle, Session.carryOut,
        Session.judge_of_mild (w.session.mild_write w.hub node name value)]
      exact recorded_write h node name value
    | subscribe event callback =>
      apply h.same
      simp only [Session.handle, Session.carryOut,
        Session.judge_of_mild (w.session.subscribe_frame w.hub event callback).1]
      exact nodes_subscribe hl event callback
    | stop =>
      apply h.same
      have hc := nodes_close hl
      simp only [Situation.close] at hc
      simp only [Session.handle, Session.carryOut]
      rcases hclose : w.session.close w.hub with ⟨_ | _, s', h'⟩ <;> rw [hclose] at hc <;> exact hc

theorem recorded_turn (hl : w.session.Live path token) (h : w.hub.line.Recorded es) :
    w.turn.hub.line.Recorded (es ++ w.written .turn) := by
  simp only [turn, written, hl.opened, Bool.false_eq_true, if_false]
  cases ht : w.hub.take w.session.mailbox with
  | none =>
    rw [List.append_nil]
    exact h
  | some r =>
    obtain ⟨m, g⟩ := r
    have hg : g.line.Recorded es := (queue_of_take ht).2.1.symm ▸ h
    have hm := recorded_handle (w := ⟨w.session, g⟩) hl hg m
    cases m with
    | event | problem => exact hm
    | request q => cases q <;> exact hm

/-- Whatever a live session does, what it writes is recorded. -/
theorem recorded_single (hl : w.session.Live path token) (h : w.hub.line.Recorded es) {m : Move κ}
    (hown : m.Own) (hsingle : m.Single) : (w.after m).hub.line.Recorded (es ++ w.written m) := by
  cases m with
  | turn => exact recorded_turn hl h
  | drop => exact h.same (nodes_close hl)
  | conclude result =>
    apply h.same
    simp only [after, Session.conclude_snd]
    exact nodes_close hl
  | other a => exact absurd rfl (hown a)
  | step fuel s =>
    cases s with
    | subscribe event callback => exact h.same (nodes_subscribe hl event callback)
    | send event args => exact h.same (w.nodes_send event args)
    | sweep =>
      apply h.same
      refine w.nodes_ask ?_
      cases w.session.presence with
      | none => rfl
      | some p => exact p.filters.nodes_sweep w.hub.line
    | nodes => exact h.same (w.nodes_ask (w.session.access.nodes_nodes _))
    | read node name => exact h.same (w.nodes_ask (w.session.access.nodes_read _ node name))
    | write node name value => exact recorded_write h node name value
    | loadScript path' => exact h.same (w.nodes_ask (w.session.access.nodes_loadScript _ path'))
    | loadNames path' file =>
      apply h.same
      simp only [after, Simulation.sessionStep, Session.loadNames]
      cases EventNames.ofFile path' file <;> rfl
    | names q => exact h.same rfl
    | runQueued | runBriefly | run => exact hsingle.elim
    | close => exact h.same (nodes_close hl)
    | locate | rate | rates | state => exact h.same rfl

omit [Callback κ] in
theorem written_eq_nil (hw : ∀ h node name value, w.session.written h node name value = [])
    (m : Move κ) : w.written m = [] := by
  cases m with
  | turn =>
    simp only [written, hw]
    split <;> rfl
  | step fuel s => cases s <;> first | rfl | exact hw ..
  | drop | conclude | other => rfl

omit [Callback κ] in
theorem written_of_closed (hc : w.session.closed = true) (m : Move κ) : w.written m = [] :=
  written_eq_nil (fun _ _ _ _ ↦ if_pos hc) m

omit [Callback κ] in
theorem written_of_offline (hoff : w.session.Offline) (m : Move κ) : w.written m = [] := by
  refine written_eq_nil (fun h node name value ↦ ?_) m
  rw [Session.written, NodeAccess.written_of_offline hoff.access_eq]
  split <;> rfl

theorem recorded_own (hm : w.session.mailbox < w.hub.mailboxes.length)
    (hw : w.session.Placed w.hub) (h : w.hub.line.Recorded es) {m : Move κ} (hown : m.Own)
    (hsingle : m.Single) : (w.after m).hub.line.Recorded (es ++ w.written m) := by
  cases hw with
  | closed hc =>
    obtain ⟨names, hafter⟩ := names_after_of_closed hc m hown
    rw [hafter, written_of_closed hc, List.append_nil]
    exact h
  | offline hoff =>
    rw [(staysOffline_after hoff hm hown).line_eq, written_of_offline hoff, List.append_nil]
    exact h
  | live n token hl => exact recorded_single hl h hown hsingle

theorem recorded_run (hr : w.hub.Reachable) (hm : w.session.mailbox < w.hub.mailboxes.length)
    (hw : w.session.Placed w.hub) (h : w.hub.line.Recorded es) {ms : List (Move κ)}
    (hms : ∀ m ∈ ms, m.Own ∧ m.Single) :
    (w.run ms).hub.line.Recorded (es ++ gather written w ms) := by
  induction ms generalizing w es with
  | nil =>
    rw [gather, List.append_nil]
    exact h
  | cons m ms ih =>
    obtain ⟨hown, hsingle⟩ := hms m List.mem_cons_self
    obtain ⟨hplaced, hmailbox, hv⟩ := placed_after hr hm hw hown
    have hrest := ih (hv.reachable hr) (hmailbox ▸ hm.trans_le hv.length_le) hplaced
      (recorded_own hm hw h hown hsingle) fun m' hm' ↦ hms m' (List.mem_cons_of_mem _ hm')
    rw [List.append_assoc] at hrest
    exact hrest

theorem recorded_after (hr : w.hub.Reachable) (hm : w.session.mailbox < w.hub.mailboxes.length)
    (hw : w.session.Placed w.hub) (h : w.hub.line.Recorded es) {m : Move κ} (hown : m.Own) :
    (w.after m).hub.line.Recorded (es ++ w.records m) := by
  rw [← run_parts]
  refine recorded_run hr hm hw h fun m' hm' ↦ ?_
  obtain ⟨hsingle, rfl | rfl⟩ := mem_parts hm'
  · exact ⟨hown, hsingle⟩
  · exact ⟨nofun, hsingle⟩

end Situation

section

variable {h h' : Hub (Bus ReplyTarget) κ} {es : List NodeRecord}

theorem nodes_filterStep (k : FilterKeeper) (h : Hub (Bus ReplyTarget) κ)
    (st : Simulation.FilterStep) :
    (Simulation.filterStep k h st).2.2.line.nodes = h.line.nodes := by
  cases st with
  | sweep => exact k.nodes_sweep h.line
  | obtain => exact k.nodes_obtain h.line
  | allow id => exact k.nodes_allow h.line id
  | giveUp => exact k.nodes_giveUp h.line
  | state id => rfl

theorem recorded_accessStep (hrec : h.line.Recorded es) (a : NodeAccess)
    (st : Simulation.AccessStep) :
    (Simulation.accessStep a h st).2.line.Recorded (es ++ Simulation.accessRecords a h st) := by
  cases st with
  | nodes => exact hrec.same (a.nodes_nodes h.line)
  | read node name => exact hrec.same (a.nodes_read h.line node name)
  | write node name value => exact a.recorded_write hrec node name value
  | loadScript path => exact hrec.same (a.nodes_loadScript h.line path)
  | send id args tag => exact hrec.same (a.nodes_send h id args _)

theorem recorded_busStep (hrec : h.line.Recorded es) (st : Simulation.BusStep) :
    (Simulation.busStep h st).2.line.Recorded (es ++ Simulation.busRecords h st) := by
  cases st with
  | addNode name values => exact hrec.add name values
  | call path interface method args =>
    have hnote : (h.line.note (.call path method)).Recorded es := hrec.congr rfl
    exact hnote.served path interface method args
  | submit tag path interface method args =>
    have hnote : (h.line.note (.submit path method)).Recorded es := hrec.congr rfl
    have hserved := hnote.served path interface method args
    rw [reply_note] at hserved
    have hline : (Simulation.busStep h (.submit tag path interface method args)).2.line =
        (h.line.submit path interface method args (.log tag)).2 :=
      (submit_extends h path interface method args (.log tag)).line
    rw [hline]
    refine hserved.congr ?_
    simp only [Bus.submit]
    split <;> rfl
  | connect scope =>
    apply hrec.same
    have hc : (h.line.connect scope).2.nodes = h.line.nodes := by
      unfold Bus.connect
      split <;> rfl
    exact hc
  | deliver =>
    apply hrec.same
    change h.deliver.2.line.nodes = h.line.nodes
    rw [(deliver_extends h).line]
    rfl
  | emit id name values => exact hrec.same (congrArg Bus.nodes (extends_emit h id name values).line)
  | signal token body =>
    apply hrec.same
    simp only [Simulation.busStep]
    split
    · exact congrArg Bus.nodes (extends_receive h _ body).line
    · rfl
  | setServing | refuseConnections | refuseMethod | clearRefusals | setHolding | clearJournal
  | addFilter | wordsOf | livePaths | allowed | sent | scripts | countWatches | connected | journal
  | addOverride | clearOverrides | disconnect | reach | watch | unwatch | listChildren =>
    exact hrec.same rfl

theorem nodes_perform (h : Hub (Bus ReplyTarget) κ) (n : Nat) (e : Effect κ) :
    (h.perform n e).line.nodes = h.line.nodes :=
  congrArg Bus.nodes (extends_perform h n e).line

end

theorem Session.Connects.nodes {h h' : Hub (Bus ReplyTarget) κ} {c : Settings}
    {r : Except Problem (Session κ)} (hc : Session.Connects h c r h') :
    h'.line.nodes = h.line.nodes := by
  cases hc with
  | unsettled | offline | refused => rfl
  | withdrawn e b _ _ hb =>
    have hrest := congrArg Bus.nodes hb.of_error.1.rest
    exact hrest
  | joined p b hc hf hb =>
    obtain ⟨b', hb', -, heq⟩ := (Session.Connects.joined p b hc hf hb).swept hc
    have hframe := congrArg Bus.nodes hb'.frame
    rw [heq]
    exact hframe

namespace Session

variable {s : Session κ} {h : Hub (Bus ReplyTarget) κ}

theorem access_online (hon : s.settings.offline = false) : s.access = .online := by
  rw [access, hon]
  rfl

theorem read_eq_ok_iff (ho : s.closed = false) (hon : s.settings.offline = false)
    (node name : String) (v : WordValue) :
    (s.read h node name).1 = .ok v ↔
      h.line.refusal? "GetVariable" = none ∧
        ∃ ws, h.line.wordsOf node name = some ws ∧ v = .ofList ws := by
  simp only [read, ask, ho, Bool.false_eq_true, if_false, access_online hon, NodeAccess.read,
    NodeAccess.callNetwork, Line.call, call_read]
  cases h.line.refusal? "GetVariable" with
  | some f => simp
  | none =>
    have hreply := h.line.readReply_eq_ok_iff node name
    cases hr : h.line.readReply node name with
    | error f =>
      rw [hr] at hreply
      have hno (ws : List Word) : h.line.wordsOf node name ≠ some ws := by
        intro hws
        cases (hreply [.words ws]).mpr ⟨ws, hws, rfl⟩
      simp [hno]
    | ok vs =>
      obtain ⟨ws, hws, rfl⟩ := (hreply vs).mp hr
      simp [hws, Value.words?, eq_comm]

theorem write_eq_ok_iff (ho : s.closed = false) (hon : s.settings.offline = false)
    (node name : String) (value : WordValue) :
    (s.write h node name value).1 = .ok () ↔
      h.line.refusal? "SetVariable" = none ∧ ∃ n ∈ h.line.nodes, n.name = node := by
  simp only [write, ask, ho, Bool.false_eq_true, if_false, access_online hon, NodeAccess.write,
    NodeAccess.callNetwork, Line.call, call_write]
  cases h.line.refusal? "SetVariable" with
  | some f => simp [NodeAccess.accepted]
  | none =>
    rw [← exists_writeWords_iff h.line.nodes node name value.words]
    cases writeWords node name value.words h.line.nodes <;> simp [NodeAccess.accepted]

end Session

namespace Chronicle

variable [Callback κ] {h : Hub (Bus ReplyTarget) κ} {s : Session κ} {ss : List (Session κ)}
  {es : List NodeRecord}

theorem recorded (hw : Chronicle h ss es) : h.line.Recorded es := by
  induction hw with
  | start => exact recorded_start
  | @connect h h' s ss es c _ hc ih =>
    have hconnects := Session.connect_connects h c
    rw [hc] at hconnects
    exact ih.congr hconnects.nodes
  | @refused h h' p ss es c _ hc ih =>
    have hconnects := Session.connect_connects h c
    rw [hc] at hconnects
    exact ih.congr hconnects.nodes
  | offline _ ih => exact ih.congr rfl
  | @move h s ss es m hm hw ih =>
    have hsound := hw.crowd.sound
    exact Situation.recorded_after (w := ⟨s, h⟩) hsound.reachable
      (hsound.mailbox_lt s List.mem_cons_self) (hsound.placed s List.mem_cons_self) ih hm
  | filters k st _ ih => exact ih.congr (nodes_filterStep k _ st)
  | access a st _ ih => exact recorded_accessStep ih a st
  | remote r e _ ih => exact ih.congr (nodes_perform _ r.mailbox e)
  | bus st _ ih => exact recorded_busStep ih st
  | perm _ _ ih => exact ih

/-- In any company, a variable holds the words of the last write to it that was accepted, whoever
made it and in whichever way, or else its initial words, and that is what an open session reads, if
it is not refused. A write is accepted if the service is there, does not refuse to write, and has a
node of the name; one that is not changes no node. A write that is taken from the mailbox comes to
what it comes to directly, and it makes no difference whether one word is written as a scalar or as
an array. -/
theorem variables_hold_the_last_write (hw : Chronicle h ss es) (ho : s.closed = false)
    (hon : s.settings.offline = false) (node name : String) :
    let words := (NodeRecord.latest? es node name).or (NodeRecord.initial? es node name)
    h.line.wordsOf node name = words ∧
      (∀ v, (s.read h node name).1 = .ok v ↔
        (h.line.serving = true ∧ h.line.refusals.get? "GetVariable" = none) ∧
          ∃ ws, words = some ws ∧ v = .ofList ws) ∧
      ((∃ n ∈ h.line.nodes, n.name = node) ↔ ∃ values, .added node values ∈ es) ∧
      (∀ value,
        ((s.write h node name value).1 = .ok () ↔
          (h.line.serving = true ∧ h.line.refusals.get? "SetVariable" = none) ∧
            ∃ n ∈ h.line.nodes, n.name = node) ∧
        (∀ p, (s.write h node name value).1 = .error p →
          (s.write h node name value).2.line.nodes = h.line.nodes) ∧
        s.handle h (.request (.write node name value)) =
          (.running, s, (s.write h node name value).2)) ∧
      ∀ w, s.write h node name (.scalar w) = s.write h node name (.array [w]) := by
  intro words
  have hrec := hw.recorded
  have hwords : h.line.wordsOf node name = words := hrec.words node name
  refine ⟨hwords, ?_, hrec.known node, ?_, fun w ↦ rfl⟩
  · intro v
    rw [Session.read_eq_ok_iff ho hon, refusal?_eq_none_iff, hwords]
  · intro value
    refine ⟨?_, ?_, ?_⟩
    · rw [Session.write_eq_ok_iff ho hon, refusal?_eq_none_iff]
    · intro p hp
      obtain ⟨js, hjs⟩ := Session.write_of_error ho hp
      rw [hjs]
      rfl
    · exact s.carryOut_of_ne_stop h (q := .write node name value) nofun

def twins : Hub (Bus ReplyTarget) Fuse :=
  let h := (Simulation.busStep Session.firstHub (.addNode "thymio" [("speed", [1])])).2
  let h := (Simulation.busStep h (.addNode "thymio" [("speed", [2]), ("led", [3, 4])])).2
  h.perform 0 (.request (.write "thymio" "speed" (.array [7])))

/-- The loop carries out the write. The first of the two nodes is written and read, and the one
word that was written as an array is read as a scalar. -/
theorem variables_hold_the_last_write_of_loop :
    let w : Situation Fuse := Situation.after ⟨Session.first, twins⟩ (.step 1 .runQueued)
    let es : List NodeRecord := [.added "thymio" [("speed", [1])],
      .added "thymio" [("speed", [2]), ("led", [3, 4])], .written "thymio" "speed" [7]]
    Chronicle w.hub [w.session] es ∧ w.session.closed = false ∧
      w.session.settings.offline = false ∧
      (w.session.read w.hub "thymio" "speed").1 = .ok (.scalar 7) := by
  intro w es
  have hconnect : Chronicle (Session.firstHub : Hub (Bus ReplyTarget) Fuse) [Session.first] [] :=
    .connect .default .start Session.connect_first
  have hadded := (hconnect.bus (.addNode "thymio" [("speed", [1])])).bus
    (.addNode "thymio" [("speed", [2]), ("led", [3, 4])])
  have hchronicle : Chronicle w.hub [w.session] es :=
    .move (.step 1 .runQueued) nofun
      (hadded.remote ⟨0⟩ (.request (.write "thymio" "speed" (.array [7]))))
  obtain ⟨-, hread, -⟩ :=
    variables_hold_the_last_write (s := w.session) hchronicle rfl rfl "thymio" "speed"
  exact ⟨hchronicle, rfl, rfl, (hread _).mpr ⟨⟨rfl, rfl⟩, [7], rfl, rfl⟩⟩

end Chronicle

end RobotBus
