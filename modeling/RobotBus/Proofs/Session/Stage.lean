import RobotBus.Proofs.FilterKeeper
import RobotBus.Proofs.Session.Situation

namespace RobotBus

open Bus

variable {κ : Type} [Callback κ]

namespace NodeAccess

/-- What a request to the network object leaves of the bus: offline, the bus as it was. -/
inductive Asks (b : Bus ReplyTarget) : Bus ReplyTarget → Prop
  | nothing : Asks b b
  | call (method : String) (args : List Value) (hm : method ≠ "Free") (hs : method ≠ "SendEvent") :
      Asks b (b.call networkPath networkInterface method args).2

theorem callNetwork_snd (b : Bus ReplyTarget) (method : String) (args : List Value) :
    (callNetwork b method args).2 = (b.call networkPath networkInterface method args).2 := by
  have hl : Line.call b networkPath networkInterface method args =
      b.call networkPath networkInterface method args := rfl
  rw [callNetwork, hl]
  rcases b.call networkPath networkInterface method args with ⟨_ | _, b'⟩ <;> rfl

theorem accepted_snd {α : Type} (r : Except Problem α × Bus ReplyTarget) :
    (accepted r).2 = r.2 := by
  rcases r with ⟨_ | _, b⟩ <;> rfl

theorem nodes_asks (a : NodeAccess) (b : Bus ReplyTarget) : Asks b (a.nodes b).2 := by
  cases a with
  | offline n => exact .nothing
  | online =>
    have h := Asks.call (b := b) "GetNodesList" [] (by decide) (by decide)
    rw [← callNetwork_snd] at h
    simp only [nodes]
    generalize callNetwork b "GetNodesList" [] = r at h ⊢
    obtain ⟨_ | reply, b'⟩ := r
    · exact h
    · cases hr : reply.head?.bind Value.texts? <;> simpa only [hr] using h

theorem read_asks (a : NodeAccess) (b : Bus ReplyTarget) (node name : String) :
    Asks b (a.read b node name).2 := by
  cases a with
  | offline n => exact .nothing
  | online =>
    have h := Asks.call (b := b) "GetVariable" [.text node, .text name] (by decide) (by decide)
    rw [← callNetwork_snd] at h
    simp only [read]
    generalize callNetwork b "GetVariable" [.text node, .text name] = r at h ⊢
    obtain ⟨_ | reply, b'⟩ := r
    · exact h
    · cases hr : reply.head?.bind Value.words? <;> simpa only [hr] using h

theorem write_asks (a : NodeAccess) (b : Bus ReplyTarget) (node name : String)
    (value : WordValue) : Asks b (a.write b node name value).2 := by
  cases a with
  | offline n => exact .nothing
  | online =>
    simp only [write, accepted_snd, callNetwork_snd]
    exact .call _ _ (by decide) (by decide)

theorem loadScript_asks (a : NodeAccess) (b : Bus ReplyTarget) (path : String) :
    Asks b (a.loadScript b path).2 := by
  cases a with
  | offline n => exact .nothing
  | online =>
    simp only [loadScript, accepted_snd, callNetwork_snd]
    exact .call _ _ (by decide) (by decide)

end NodeAccess

namespace Situation

def withLine (w : Situation κ) (b : Bus ReplyTarget) : Situation κ :=
  { w with hub := { w.hub with line := b } }

def listening (w : Situation κ) (path : String) (token : Nat) (ids : EventSet) (id : EventId) :
    Situation κ where
  session := { w.session with
    presence := some ⟨⟨some path, ids.insert id ()⟩, some token⟩ }
  hub := { w.hub with line := (w.hub.line.listen path id).2 }

def subscribed (w : Situation κ) (id : EventId) (callback : κ) : Situation κ where
  session := { w.session with router := w.session.router.subscribe id callback w.hub.now.1 }
  hub := w.hub.now.2

def received (w : Situation κ) (h : Hub (Bus ReplyTarget) κ) (e : Event) : Situation κ where
  session := { w.session with router := (w.session.router.route e.id e.values h.now.1).router }
  hub := w.session.logCall h.now.2 e.id (w.session.router.route e.id e.values h.now.1).call

/-- One stage of what a live session does, and what occurs meanwhile. -/
inductive Stage (path : String) (token : Nat) (w : Situation κ) :
    List Occurrence → Situation κ → Prop
  | names (names : EventNames) :
      Stage path token w [] { w with session := { w.session with names := names } }
  | sweep (b : Bus ReplyTarget) (hb : Sweeps (fun n ↦ path ≠ pathOfFilter n) w.hub.line b) :
      Stage path token w [] (w.withLine b)
  | call (method : String) (args : List Value) (hm : method ≠ "Free") :
      Stage path token w []
        (w.withLine (w.hub.line.call networkPath networkInterface method args).2)
  | send (args : List Value) :
      Stage path token w [] { w with
        hub := w.hub.submit networkPath networkInterface "SendEvent" args
          (.mailbox w.session.mailbox) }
  | refused (id : EventId) (f : Fault) (hf : (w.hub.line.listen path id).1 = .error f) :
      Stage path token w [] (w.withLine (w.hub.line.listen path id).2)
  | again (id : EventId) (callback : κ) (ids : EventSet)
      (hp : w.session.presence = some ⟨⟨some path, ids⟩, some token⟩)
      (hid : ids.contains id = true) :
      Stage path token w [.subscribed id] (w.subscribed id callback)
  | first (id : EventId) (callback : κ) (ids : EventSet)
      (hp : w.session.presence = some ⟨⟨some path, ids⟩, some token⟩) (vs : List Value)
      (hok : (w.hub.line.listen path id).1 = .ok vs) :
      Stage path token w [.subscribed id] ((w.listening path token ids id).subscribed id callback)
  | take (m : Message κ) (h : Hub (Bus ReplyTarget) κ)
      (hm : w.hub.take w.session.mailbox = some (m, h)) (he : m.event? = none) :
      Stage path token w [] { w with hub := h }
  | receive (e : Event) (h : Hub (Bus ReplyTarget) κ)
      (hm : w.hub.take w.session.mailbox = some (.event e, h)) :
      Stage path token w (w.session.occurrences h (.event e)) (w.received h e)
  | close : Stage path token w [] w.close

inductive Stages (path : String) (token : Nat) (w : Situation κ) :
    List Occurrence → Situation κ → Prop
  | refl : Stages path token w [] w
  | step {os os' : List Occurrence} {w' w'' : Situation κ} (hs : Stages path token w os w')
      (hl : w'.session.Live path token) (st : Stage path token w' os' w'') :
      Stages path token w (os ++ os') w''

variable {path : String} {token : Nat} {w w' w'' : Situation κ} {os os' : List Occurrence}

theorem Stage.stages (hl : w.session.Live path token) (st : Stage path token w os w') :
    Stages path token w os w' := by
  have h := Stages.step .refl hl st
  rwa [List.nil_append] at h

theorem Stages.trans (h : Stages path token w os w') (h' : Stages path token w' os' w'') :
    Stages path token w (os ++ os') w'' := by
  induction h' with
  | refl => rwa [List.append_nil]
  | step _ hl st ih =>
    rw [← List.append_assoc]
    exact ih.step hl st

theorem line_received (w : Situation κ) (h : Hub (Bus ReplyTarget) κ) (e : Event) :
    (w.received h e).hub.line = h.line := by
  simp only [received, Session.logCall]
  split
  · rfl
  · exact (Hub.extends_performAll _ _ _).line

theorem Stage.live (hl : w.session.Live path token) (st : Stage path token w os w') :
    w'.session.Live path token ∨ w' = w.close := by
  cases st with
  | close => exact .inr rfl
  | first id callback ids => exact .inl ⟨hl.opened, _, rfl⟩
  | names | sweep | call | send | refused | again | take | receive =>
    exact .inl ⟨hl.opened, hl.presence⟩

theorem Stages.live (hl : w.session.Live path token) (h : Stages path token w os w') :
    w'.session.Live path token ∨ w'.session.closed = true := by
  induction h with
  | refl => exact .inl hl
  | step _ hl' st =>
    rcases st.live hl' with hl'' | rfl
    · exact .inl hl''
    · exact .inr (Session.close_closed _ _)

omit [Callback κ] in
/-- Closing a live session ends its watch, frees its filter and disconnects, in that order. -/
theorem line_close (hl : w.session.Live path token) :
    w.close.hub.line =
      ((w.hub.line.unwatch token).call path filterInterface "Free" []).2.disconnect := by
  obtain ⟨ids, hp⟩ := hl.presence
  have hu : Line.unwatch w.hub.line token = (.ok (), w.hub.line.unwatch token) := rfl
  have hc : Line.call (w.hub.line.unwatch token) path filterInterface "Free" [] =
      (w.hub.line.unwatch token).call path filterInterface "Free" [] := rfl
  simp only [close, Session.close, hl.opened, hp, Bool.false_eq_true, if_false,
    Presence.dismantle, Presence.unwatch, FilterKeeper.giveUp, hu, hc]
  rcases (w.hub.line.unwatch token).call path filterInterface "Free" [] with ⟨_ | _, b⟩ <;> rfl

omit [Callback κ] in
theorem watches_close (hl : w.session.Live path token) :
    w.close.hub.line.watches = w.hub.line.watches.erase token := by
  rw [line_close hl]
  exact (serve_served ((w.hub.line.unwatch token).note (.call path "Free")) path filterInterface
    "Free" []).watches.1

theorem Stage.leads (hl : w.session.Live path token) (st : Stage path token w os w') :
    Leads w.hub.line w'.hub.line := by
  cases st with
  | names | again => exact .refl
  | sweep b hb => exact hb.leads
  | call method args => exact .after (.call _ _ method args) .refl
  | send args =>
    rw [(Hub.submit_extends w.hub _ _ _ args _).line]
    exact .after (.submit networkPath networkInterface "SendEvent" args _) .refl
  | refused id => exact .after (.call path _ _ _) .refl
  | first id => exact .after (.call path _ _ _) .refl
  | take m h hm => exact (Hub.queue_of_take hm).2.1 ▸ .refl
  | receive e h hm =>
    rw [line_received, (Hub.queue_of_take hm).2.1]
    exact .refl
  | close =>
    rw [line_close hl]
    exact .after .disconnect (.after (.call path _ _ _) (.after (.unwatch token) .refl))

theorem Stages.leads (h : Stages path token w os w') : Leads w.hub.line w'.hub.line := by
  induction h with
  | refl => exact .refl
  | step _ hl st ih => exact ih.trans (st.leads hl)

omit [Callback κ] in
theorem ask_of_live {α : Type} (hl : w.session.Live path token)
    (f : Bus ReplyTarget → Except Problem α × Bus ReplyTarget) :
    (w.session.ask w.hub f).2 = { w.hub with line := (f w.hub.line).2 } := by
  simp [Session.ask, hl.opened]

theorem stages_ask {α : Type} (hl : w.session.Live path token)
    {f : Bus ReplyTarget → Except Problem α × Bus ReplyTarget}
    (hf : NodeAccess.Asks w.hub.line (f w.hub.line).2) :
    Stages path token w [] { w with hub := (w.session.ask w.hub f).2 } := by
  rw [ask_of_live hl]
  generalize (f w.hub.line).2 = b at hf
  cases hf with
  | nothing => exact .refl
  | call method args hm => exact (Stage.call method args hm).stages hl

theorem stages_sweep (hl : w.session.Live path token) :
    Stages path token w [] { w with hub := (w.session.sweep w.hub).2 } := by
  obtain ⟨ids, hp⟩ := hl.presence
  rw [Session.sweep, ask_of_live hl, hp]
  have hs := FilterKeeper.sweep_sweeps ⟨some path, ids⟩ w.hub.line
  exact (Stage.sweep _ (hs.mono fun n hn he ↦ hn.2 (congrArg some he))).stages hl

theorem stages_send (hl : w.session.Live path token) (event : Mention) (args : List Word) :
    Stages path token w [] { w with hub := (w.session.send w.hub event args).2 } := by
  simp only [Session.send, hl.opened, Bool.false_eq_true, if_false]
  cases w.session.locate event with
  | error e => exact .refl
  | ok id =>
    cases w.session.access with
    | offline n => exact .refl
    | online => exact (Stage.send _).stages hl

/-- All that asking for an event can come to for a session that has asked for some before. -/
inductive Subscribes (w : Situation κ) (path : String) (token : Nat) (ids : EventSet)
    (callback : κ) : Except Problem EventId → Situation κ → Prop
  | unknown (p : Problem) : Subscribes w path token ids callback (.error p) w
  | refused (p : Problem) (id : EventId) (f : Fault)
      (hf : (w.hub.line.listen path id).1 = .error f) :
      Subscribes w path token ids callback (.error p)
        (w.withLine (w.hub.line.listen path id).2)
  | again (id : EventId) (hid : ids.contains id = true) :
      Subscribes w path token ids callback (.ok id) (w.subscribed id callback)
  | first (id : EventId) (hid : ids.contains id = false) (vs : List Value)
      (hok : (w.hub.line.listen path id).1 = .ok vs) :
      Subscribes w path token ids callback (.ok id)
        ((w.listening path token ids id).subscribed id callback)

omit [Callback κ] in
theorem subscribe_subscribes (ho : w.session.closed = false) {ids : EventSet}
    (hp : w.session.presence = some ⟨⟨some path, ids⟩, some token⟩) (event : Mention)
    (callback : κ) :
    Subscribes w path token ids callback (w.session.subscribe w.hub event callback).1
      ⟨(w.session.subscribe w.hub event callback).2.1,
        (w.session.subscribe w.hub event callback).2.2⟩ := by
  simp only [Session.subscribe, ho, Bool.false_eq_true, if_false]
  rcases w.session.locate event with e | id
  · exact .unknown e
  · have hallow : w.session.allow w.hub id =
        let x := (⟨some path, ids⟩ : FilterKeeper).allow w.hub.line id
        (x.1, { w.session with presence := some ⟨x.2.1, some token⟩ },
          { w.hub with line := x.2.2 }) := by
      rw [Session.allow, hp]
    rw [FilterKeeper.allow_some] at hallow
    cases hid : ids.contains id with
    | true =>
      simp only [hid, if_true, ← hp] at hallow
      simp only [hallow]
      exact .again id hid
    | false =>
      rcases hr : w.hub.line.listen path id with ⟨f | vs, b⟩
      · simp only [hid, hr, Bool.false_eq_true, if_false, ← hp] at hallow
        have hs : Subscribes w path token ids callback (.error (.refusedCall "ListenEvent" f))
            (w.withLine (w.hub.line.listen path id).2) := .refused _ id f (by rw [hr])
        rw [hr] at hs
        simp only [hallow]
        exact hs
      · simp only [hid, hr, Bool.false_eq_true, if_false] at hallow
        have hs : Subscribes w path token ids callback (.ok id)
            ((w.listening path token ids id).subscribed id callback) :=
          .first id hid vs (by rw [hr])
        simp only [hallow]
        rw [listening, hr] at hs
        exact hs

theorem stages_subscribe (hl : w.session.Live path token) (event : Mention) (callback : κ) :
    Stages path token w (Occurrence.ofSubscription (w.session.subscribe w.hub event callback).1)
      ⟨(w.session.subscribe w.hub event callback).2.1,
        (w.session.subscribe w.hub event callback).2.2⟩ := by
  obtain ⟨ids, hp⟩ := hl.presence
  have hs := subscribe_subscribes hl.opened hp event callback
  generalize (⟨(w.session.subscribe w.hub event callback).2.1,
    (w.session.subscribe w.hub event callback).2.2⟩ : Situation κ) = w' at hs ⊢
  generalize (w.session.subscribe w.hub event callback).1 = r at hs ⊢
  cases hs with
  | unknown => exact .refl
  | refused p id f hf => exact (Stage.refused id f hf).stages hl
  | again id hid => exact (Stage.again id callback ids hp hid).stages hl
  | first id hid vs hok => exact (Stage.first id callback ids hp vs hok).stages hl

theorem Stages.close (h : Stages path token w os w') (hl : w'.session.Live path token) :
    Stages path token w os w'.close := by
  have hs := h.step hl .close
  rwa [List.append_nil] at hs

theorem Stages.judge {α : Type} (h : Stages path token w os w')
    (hl : w'.session.Live path token) (r : Except Problem α) :
    Stages path token w os
      ⟨(Session.judge r w'.session w'.hub).2.1, (Session.judge r w'.session w'.hub).2.2⟩ := by
  cases r with
  | ok a => exact h
  | error p =>
    cases hp : p.endsSession with
    | true =>
      simp only [Session.judge, hp, if_true]
      exact h.close hl
    | false => simpa only [Session.judge, hp, Bool.false_eq_true, if_false] using h

theorem stages_carryOut (hl : w.session.Live path token) {q : Request κ}
    {h : Hub (Bus ReplyTarget) κ} (hm : w.hub.take w.session.mailbox = some (.request q, h)) :
    Stages path token w (w.session.occurrences h (.request q))
      ⟨(w.session.carryOut h q).2.1, (w.session.carryOut h q).2.2⟩ := by
  have ht : Stages path token w [] ⟨w.session, h⟩ := (Stage.take _ h hm rfl).stages hl
  cases q with
  | send event args =>
    exact (ht.trans (stages_send (w := ⟨w.session, h⟩) hl event args)).judge hl _
  | write node name value =>
    have hs := stages_ask (w := ⟨w.session, h⟩) hl
      (f := fun l ↦ w.session.access.write l node name value)
      (NodeAccess.write_asks _ _ node name value)
    exact (ht.trans hs).judge hl _
  | subscribe event callback =>
    have hs := ht.trans (stages_subscribe (w := ⟨w.session, h⟩) hl event callback)
    refine hs.judge ⟨?_, ?_⟩ _
    · exact (Session.subscribe_frame _ _ _ _).2.1.trans hl.opened
    · rcases hs.live hl with hl' | hc
      · exact hl'.presence
      · rw [(Session.subscribe_frame _ _ _ _).2.1, hl.opened] at hc
        cases hc
  | stop =>
    have hs := ht.close hl
    simp only [Situation.close] at hs
    simp only [Session.carryOut]
    rcases hc : w.session.close h with ⟨_ | _, s', h'⟩ <;> rw [hc] at hs <;> exact hs

theorem stages_handle (hl : w.session.Live path token) {m : Message κ}
    {h : Hub (Bus ReplyTarget) κ} (hm : w.hub.take w.session.mailbox = some (m, h)) :
    Stages path token w (w.session.occurrences h m)
      ⟨(w.session.handle h m).2.1, (w.session.handle h m).2.2⟩ := by
  cases m with
  | event e =>
    have hr := (Stage.receive e h hm).stages hl
    have hl' : (w.received h e).session.Live path token := ⟨hl.opened, hl.presence⟩
    cases ho : (w.session.router.route e.id e.values h.now.1).outcome with
    | ok routing =>
      simp only [Session.handle, Session.receive, ho]
      exact hr
    | error p =>
      simp only [Session.handle, Session.receive, ho]
      exact hr.close hl'
  | problem p =>
    have ht : Stages path token w [] ⟨w.session, h⟩ := (Stage.take _ h hm rfl).stages hl
    exact ht.close hl
  | request q => exact stages_carryOut hl hm

theorem stages_turn (hl : w.session.Live path token) :
    Stages path token w w.duringTurn w.turn := by
  simp only [turn, duringTurn, hl.opened, Bool.false_eq_true, if_false]
  split
  · exact .refl
  · next m h hm => exact stages_handle hl hm

theorem duringTurns_of_closed {w : Situation κ} (hc : w.session.closed = true) (n : Nat) :
    duringTurns n w = [] := by
  induction n with
  | zero => rfl
  | succ n ih =>
    rw [duringTurns, turn_of_closed hc, ih, duringTurn, if_pos hc]
    rfl

theorem stages_turns (hl : w.session.Live path token) (n : Nat) :
    Stages path token w (duringTurns n w) (turns n w) := by
  induction n generalizing w with
  | zero => exact .refl
  | succ n ih =>
    have hs := stages_turn hl
    rcases hs.live hl with hl' | hc
    · exact hs.trans (ih hl')
    · rw [duringTurns, turns, duringTurns_of_closed hc, turns_of_turn_eq (turn_of_closed hc)]
      simpa using hs

theorem stages_loop {α : Type} (hl : w.session.Live path token) {fuel : Nat}
    (f : α → Simulation.Answer) (r : Session.Ran (Bus ReplyTarget) κ α)
    (hr : ∀ x, r = some x → turns fuel w = ⟨x.2.1, x.2.2⟩) :
    Stages path token w (if r.isSome then duringTurns fuel w else [])
      ((r.bind (Simulation.changed f)).elim w (fun x ↦ ⟨x.2.1, x.2.2⟩)) := by
  cases r with
  | none => exact .refl
  | some x =>
    have hs := stages_turns hl fuel
    rw [hr x rfl] at hs
    exact hs

/-- Whatever a live session does, it does in stages. -/
theorem stages_after (hl : w.session.Live path token) (m : Move κ) (hm : m.Own) :
    Stages path token w (w.during m) (w.after m) := by
  cases m with
  | turn => exact stages_turn hl
  | drop => exact Stages.refl.close hl
  | conclude result =>
    simp only [after, Session.conclude_snd]
    exact Stages.refl.close hl
  | other a => exact absurd rfl (hm a)
  | step fuel s =>
    cases s with
    | subscribe event callback => exact stages_subscribe hl event callback
    | send event args => exact stages_send hl event args
    | sweep => exact stages_sweep hl
    | nodes => exact stages_ask hl (NodeAccess.nodes_asks _ _)
    | read node name => exact stages_ask hl (NodeAccess.read_asks _ _ node name)
    | write node name value => exact stages_ask hl (NodeAccess.write_asks _ _ node name value)
    | loadScript path' => exact stages_ask hl (NodeAccess.loadScript_asks _ _ path')
    | loadNames path' file =>
      simp only [after, Simulation.sessionStep, Session.loadNames]
      cases EventNames.ofFile path' file with
      | error e => exact .refl
      | ok names => exact (Stage.names names).stages hl
    | names q => exact (Stage.names _).stages hl
    | runQueued => exact stages_loop hl _ _ fun _ hx ↦ turns_of_runLoop hx
    | runBriefly => exact stages_loop hl _ _ fun _ hx ↦ turns_of_runLoop hx
    | run => exact stages_loop hl _ _ fun _ hx ↦ turns_of_runLoop hx
    | close => exact Stages.refl.close hl
    | locate | rate | rates | state => exact .refl

theorem names_after_of_closed {w : Situation κ} (hc : w.session.closed = true) (m : Move κ)
    (hm : m.Own) :
    ∃ names, w.after m = { w with session := { w.session with names := names } } := by
  have hclose : w.close = w := by rw [close, Session.close_of_closed hc]
  cases m with
  | turn => exact ⟨w.session.names, turn_of_closed hc⟩
  | drop => exact ⟨w.session.names, hclose⟩
  | conclude result =>
    refine ⟨w.session.names, ?_⟩
    rw [after, Session.conclude_snd, hclose, Session.close_of_closed hc]
  | other a => exact absurd rfl (hm a)
  | step fuel s =>
    obtain ⟨r, s', hr, names, rfl⟩ := Session.sessionStep_of_closed hc fuel w.hub s
    exact ⟨names, by rw [after, hr]; rfl⟩

theorem after_of_closed {w : Situation κ} (hc : w.session.closed = true) (m : Move κ) (hm : m.Own) :
    (w.after m).hub = w.hub ∧ (w.after m).session.closed = true ∧ w.during m = [] := by
  obtain ⟨names, hafter⟩ := names_after_of_closed hc m hm
  rw [hafter]
  refine ⟨rfl, hc, ?_⟩
  cases m with
  | turn => exact if_pos hc
  | drop | conclude => rfl
  | other a => exact absurd rfl (hm a)
  | step fuel s =>
    cases s <;>
      simp [during, Session.subscribe, Occurrence.ofSubscription, duringTurns_of_closed, hc]

end Situation

end RobotBus
