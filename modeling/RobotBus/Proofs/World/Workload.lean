import RobotBus.Proofs.Hearing
import RobotBus.Proofs.World.Queued

namespace RobotBus

variable {σ κ : Type}

namespace Message

def isEvent : Message κ → Bool
  | event _ => true
  | _ => false

def isSend : Message κ → Bool
  | request (.send ..) => true
  | _ => false

def isOther (m : Message κ) : Bool := !(m.isEvent || m.isSend)

/-- How many messages may come of a message, itself included, if no call of a callback queues more
than `most` requests. -/
def worth (most : Nat) : Message κ → Nat
  | event _ => 1 + 2 * most
  | request (.send ..) => 2
  | _ => 1

theorem worth_eq (most : Nat) (m : Message κ) :
    m.worth most =
      (if m.isEvent then 1 else 0) * (1 + 2 * most) + 2 * (if m.isSend then 1 else 0) +
        if m.isOther then 1 else 0 := by
  cases m with
  | event e => simp [worth, isEvent, isSend, isOther]
  | problem p => simp [worth, isEvent, isSend, isOther]
  | request q => cases q <;> simp [worth, isEvent, isSend, isOther]

theorem worth_pos (most : Nat) (m : Message κ) : 0 < m.worth most := by
  unfold worth
  split <;> omega

theorem worth_request_le (most : Nat) (q : Request κ) : (request q).worth most ≤ 2 := by
  unfold worth
  split
  · next h => cases h
  · exact Nat.le_refl 2
  · exact Nat.le_succ 1

end Message

def workload (most : Nat) : List (Message κ) → Nat
  | [] => 0
  | m :: ms => m.worth most + workload most ms

section

variable (most : Nat)

theorem workload_append (ms ms' : List (Message κ)) :
    workload most (ms ++ ms') = workload most ms + workload most ms' := by
  induction ms with
  | nil => exact (Nat.zero_add _).symm
  | cons m ms ih => rw [List.cons_append, workload, workload, ih, Nat.add_assoc]

theorem workload_requests_le (qs : List (Request κ)) :
    workload most (qs.map .request) ≤ 2 * qs.length := by
  induction qs with
  | nil => exact Nat.le_refl 0
  | cons q qs ih =>
    have hq := Message.worth_request_le most q
    rw [List.map_cons, workload, List.length_cons]
    omega

theorem workload_eq (ms : List (Message κ)) :
    workload most ms =
      ms.countP Message.isEvent * (1 + 2 * most) + 2 * ms.countP Message.isSend +
        ms.countP Message.isOther := by
  induction ms with
  | nil => rw [List.countP_nil, List.countP_nil, List.countP_nil, Nat.zero_mul, workload]
  | cons m ms ih =>
    have hm := m.worth_eq most
    rw [workload, ih, List.countP_cons, List.countP_cons, List.countP_cons, Nat.add_mul]
    omega

end

def Request.Of (kind : κ → Prop) : Request κ → Prop
  | subscribe _ callback => kind callback
  | _ => True

def Message.Of (kind : κ → Prop) : Message κ → Prop
  | request q => q.Of kind
  | _ => True

/-- In one call the callbacks of a kind queue at most `most` requests, and do nothing else. Both
what they become and what they subscribe is of the same kind. -/
structure Callback.Frugal [Callback κ] (most : Nat) (kind : κ → Prop) : Prop where
  next : ∀ c, kind c → ∀ values, kind (react c values).next
  effects : ∀ c, kind c → ∀ values, ∃ qs : List (Request κ),
    (react c values).effects = qs.map .request ∧ qs.length ≤ most ∧ ∀ q ∈ qs, q.Of kind

namespace Hub

theorem lt_of_take {h g : Hub σ κ} {n : Nat} {m : Message κ} (ht : h.take n = some (m, g)) :
    n < g.mailboxes.length := by
  obtain ⟨hq, -, -, hlength⟩ := queue_of_take ht
  rw [hlength]
  by_contra hn
  rw [queue, List.getElem?_eq_none (Nat.le_of_not_lt hn)] at hq
  cases hq

theorem queue_performAll_requests [Line σ] {h : Hub σ κ} {n : Nat} (hn : n < h.mailboxes.length)
    (qs : List (Request κ)) :
    (h.performAll n (qs.map .request)).queue n = h.queue n ++ qs.map .request := by
  induction qs generalizing h with
  | nil => exact (List.append_nil _).symm
  | cons q qs ih =>
    have hlength := (extends_post h n (.request q)).length
    have hrest := ih (h := h.post n (.request q)) (by omega)
    rw [queue_post, if_pos ⟨rfl, hn⟩, List.append_assoc] at hrest
    exact hrest

end Hub

namespace Session

variable [Line σ]

theorem router_subscribe (s : Session κ) (h : Hub σ κ) (event : Mention) (callback : κ) :
    (s.subscribe h event callback).2.1.router = s.router ∨
      ∃ id now, (s.subscribe h event callback).2.1.router = s.router.subscribe id callback now := by
  have hallow (id : EventId) : (s.allow h id).2.1.router = s.router := by
    unfold allow
    cases s.presence <;> rfl
  unfold subscribe
  split
  · exact .inl rfl
  · split
    · exact .inl rfl
    · next id _ =>
      have h' := hallow id
      split
      · next p s' h'' heq =>
        rw [heq] at h'
        exact .inl h'
      · next s' h'' heq =>
        rw [heq] at h'
        exact .inr ⟨id, h''.now.1, congrArg (Router.subscribe · id callback h''.now.1) h'⟩

variable [Callback κ] {most : Nat} {kind : κ → Prop} {s s' : Session κ} {h g h' : Hub σ κ}

theorem posted_heard (hf : Callback.Frugal most kind) (hr : s.router.Every kind)
    (hn : s.mailbox < h.mailboxes.length) (e : Event) :
    ∃ qs : List (Request κ),
      (s.heard h (.event e)).2.queue s.mailbox = h.queue s.mailbox ++ qs.map .request ∧
        qs.length ≤ most ∧ ∀ q ∈ qs, q.Of kind := by
  cases hcall : (s.router.route e.id e.values h.now.1).call with
  | none =>
    refine ⟨[], ?_, Nat.zero_le most, nofun⟩
    simp only [heard, hcall, logCall]
    exact (List.append_nil _).symm
  | some c =>
    obtain ⟨hkind, heffects⟩ := hr.called hcall
    obtain ⟨qs, hqs, hle, hof⟩ := hf.effects c.callback hkind e.values
    refine ⟨qs, ?_, hle, hof⟩
    simp only [heard, hcall, logCall]
    rw [heffects, hqs]
    exact Hub.queue_performAll_requests (h := h.now.2.note _) hn qs

omit [Callback κ] in
theorem every_fulfil (hr : s.router.Every kind) {q : Request κ} (hq : q.Of kind)
    (hstop : q ≠ .stop) : (s.fulfil h q).2.1.router.Every kind := by
  cases q with
  | send | write => exact hr
  | subscribe event callback =>
    simp only [fulfil]
    rcases s.router_subscribe h event callback with hsame | ⟨id, now, hnew⟩
    · rw [hsame]
      exact hr
    · rw [hnew]
      exact hr.subscribe id hq now
  | stop => exact absurd rfl hstop

/-- Handling a message adds less to the mailbox than the message was worth, and nothing but messages
of the kind. -/
theorem worth_of_handle (hf : Callback.Frugal most kind) (hr : s.router.Every kind)
    {m : Message κ} (hm : m.Of kind) (hn : s.mailbox < g.mailboxes.length)
    (hc : s.cause? m = none) (hh : s.handle g m = (.running, s', h')) :
    s'.router.Every kind ∧ ∃ ps, h'.queue s.mailbox = g.queue s.mailbox ++ ps ∧
      workload most ps < m.worth most ∧ ∀ p ∈ ps, p.Of kind := by
  cases m with
  | event e =>
    rw [handle_event hc g] at hh
    cases hh
    obtain ⟨qs, hqueue, hle, hof⟩ := posted_heard hf hr hn e
    refine ⟨hr.route hf.next e.id e.values g.now.1, qs.map .request, hqueue, ?_, ?_⟩
    · have hqs := workload_requests_le most qs
      rw [Message.worth]
      omega
    · intro p hp
      obtain ⟨q, hq, rfl⟩ := List.mem_map.mp hp
      exact hof q hq
  | problem p => cases hc
  | request q =>
    have hq : q ≠ .stop := by
      rintro rfl
      cases hc
    rw [handle, s.carryOut_of_ne_stop g hq] at hh
    cases hh
    refine ⟨every_fulfil hr hm hq, ?_⟩
    rcases s.queue_fulfil g hq with hsame | ⟨⟨event, args, rfl⟩, -, -, f, hproblem⟩
    · refine ⟨[], hsame.trans (List.append_nil _).symm, ?_, List.forall_mem_nil _⟩
      exact Message.worth_pos most _
    · refine ⟨_, hproblem, Nat.lt_succ_self 1, ?_⟩
      intro p hp
      rw [List.mem_singleton.mp hp]
      trivial

theorem Handles.workload_le {ms ps : List (Message κ)} (hf : Callback.Frugal most kind)
    (hh : Handles s h ms ps s' h') (hs : s.closed = false) (hr : s.router.Every kind)
    (hq : ∀ m ∈ h.queue s.mailbox, m.Of kind) :
    ms.length + workload most (h'.queue s.mailbox) ≤ workload most (h.queue s.mailbox) := by
  induction hh with
  | nothing s h => exact (Nat.zero_add _).le
  | @next s s₁ s₂ h g h₁ h₂ m ms ps ps' ht hc hm _ _ ih =>
    obtain ⟨hqueue, -⟩ := Hub.queue_of_take ht
    rw [hqueue] at hq
    obtain ⟨hkind, hrest⟩ := List.forall_mem_cons.mp hq
    obtain ⟨hr₁, ps₁, hqueue₁, hlt, hps₁⟩ :=
      worth_of_handle hf hr hkind (Hub.lt_of_take ht) hc hm
    obtain ⟨s₃, h₃, hm₃, hopen, hmailbox, -⟩ := handle_running hs hc g
    cases hm.symm.trans hm₃
    have hstep := ih hopen hr₁ (by
      intro m' hm'
      rw [hmailbox, hqueue₁] at hm'
      exact (List.mem_append.mp hm').elim (hrest m') (hps₁ m'))
    rw [hmailbox, hqueue₁, workload_append] at hstep
    rw [hqueue, workload, List.length_cons]
    omega

variable {ms ps : List (Message κ)}

theorem drain_of_handled (hh : Handles s h ms ps s' h') {fuel : Nat} (hfuel : ms.length ≤ fuel) :
    s.drain fuel h 0 = s'.drain (fuel - ms.length) h' ms.length := by
  have hd := drain_of_handles hh (fuel - ms.length) 0
  rwa [Nat.sub_add_cancel hfuel, Nat.zero_add] at hd

theorem exists_drained_of_cause (hh : Handles s h ms ps s' h') {m : Message κ} {c : Cause}
    (ht : h'.take s'.mailbox = some (m, g)) (hc : s'.cause? m = some c) :
    ∃ d : Drained σ κ, d.handled = ms.length + 1 ∧
      ∀ fuel, d.handled ≤ fuel → s.drain fuel h 0 = some d := by
  rcases hclose : (s'.heard g m).1.close (s'.heard g m).2 with ⟨closed, s₂, h₂⟩
  have hlast (fuel : Nat) (hfuel : ms.length + 1 ≤ fuel) := by
    have hd := drain_of_cause ht hc hclose (fuel - ms.length - 1) ms.length
    rw [Nat.sub_add_cancel (by omega), ← drain_of_handled hh (by omega)] at hd
    exact hd
  cases hresult : c.result () closed with
  | ok u =>
    refine ⟨⟨.stopped, ms.length + 1, s₂, h₂⟩, rfl, fun fuel hfuel ↦ ?_⟩
    rw [hlast fuel hfuel, hresult]
  | error p =>
    refine ⟨⟨.failed p, ms.length + 1, s₂, h₂⟩, rfl, fun fuel hfuel ↦ ?_⟩
    rw [hlast fuel hfuel, hresult]

/-- With as many steps as the mailbox is worth the loop comes to an end, and it needs no more of
them than it handles messages. -/
theorem exists_drained (hs : s.closed = false) (hf : Callback.Frugal most kind)
    (hr : s.router.Every kind) (hq : ∀ m ∈ h.queue s.mailbox, m.Of kind) :
    ∃ d : Drained σ κ, d.handled ≤ workload most (h.queue s.mailbox) ∧
      ∀ fuel, d.handled ≤ fuel → s.drain fuel h 0 = some d := by
  obtain ⟨ms, ps, s₁, h₁, hh, hle, hend⟩ :=
    exists_handles hs h (workload most (h.queue s.mailbox))
  obtain ⟨-, hmailbox, -⟩ := hh.frame hs
  have hwork := hh.workload_le hf hs hr hq
  rw [← hmailbox] at hend
  have hend' : h₁.queue s.mailbox = [] ∨ ms.length < workload most (h.queue s.mailbox) ∧
      ∃ m g c, h₁.take s₁.mailbox = some (m, g) ∧ s₁.cause? m = some c := by
    cases hqueue : h₁.queue s.mailbox with
    | nil => exact .inl rfl
    | cons m ms' =>
      have hpos := m.worth_pos most
      rw [hqueue, workload] at hwork
      have hlt : ms.length < workload most (h.queue s.mailbox) := by omega
      rw [hmailbox, hqueue] at hend
      exact .inr ⟨hlt, hmailbox ▸ (hend hlt).resolve_left nofun⟩
  rcases hend' with hempty | ⟨hlt, m, g, c, ht, hc⟩
  · refine ⟨⟨.idle, ms.length, s₁, h₁⟩, hle, fun fuel hfuel ↦ ?_⟩
    rw [drain_of_handled hh hfuel, drain_of_empty (hmailbox ▸ hempty)]
  · obtain ⟨d, hd, hdrain⟩ := exists_drained_of_cause hh ht hc
    exact ⟨d, by omega, hdrain⟩

/-- Where no call of a callback queues more than `most` requests or does anything else, the loop of
an open session comes to an end, on any line and in whatever order the messages stand. For each
event it has handled at most that event and two messages for each request of a callback, for each
request to send at most two messages, and for each other message no more than that. -/
theorem queue_runs_dry (s : Session κ) (h : Hub σ κ) (hs : s.closed = false)
    (hf : Callback.Frugal most kind) (hr : s.router.Every kind)
    (hq : ∀ m ∈ h.queue s.mailbox, m.Of kind) :
    ∃ d : Drained σ κ,
      d.handled ≤ (h.queue s.mailbox).countP Message.isEvent * (1 + 2 * most) +
        2 * (h.queue s.mailbox).countP Message.isSend +
        (h.queue s.mailbox).countP Message.isOther ∧
      ∀ fuel, d.handled ≤ fuel → s.drain fuel h 0 = some d ∧
        ∃ r, s.runQueued fuel h = some (r, d.session, d.hub) ∧ ∀ n, r = .ok n → n = d.handled := by
  obtain ⟨d, hle, hdrain⟩ := exists_drained hs hf hr hq
  rw [workload_eq] at hle
  refine ⟨d, hle, fun fuel hfuel ↦ ⟨hdrain fuel hfuel, _, runQueued_of_drain hs (hdrain fuel hfuel),
    fun n hn ↦ ?_⟩⟩
  cases hending : d.ending with
  | failed p => simp [hending] at hn
  | idle | stopped =>
    simp only [hending, Except.ok.injEq] at hn
    exact hn.symm

theorem queue_runs_dry_of_echo :
    let echo : Script := ⟨"echo", none, [.send (.byId ⟨1⟩) none], 0⟩
    let s : Session Script :=
      { (fresh 0 .default none : Session Script) with
        router := (Router.start 10 .abort).subscribe ⟨1⟩ echo 0 }
    let h : Hub (Bus ReplyTarget) Script :=
      ⟨Bus.start.refuseMethod "SendEvent" ⟨"no", "more"⟩, [[.event ⟨⟨1⟩, "near", [5]⟩]], [], 0⟩
    (∃ d : Drained (Bus ReplyTarget) Script, d.handled ≤ 3 ∧
      ∀ fuel, 3 ≤ fuel → s.drain fuel h 0 = some d) ∧
    (s.runQueued 3 h).map (fun r ↦ (r.1, r.2.1.closed)) =
      some (.error (.refusedSend ⟨"no", "more"⟩), true) ∧
    s.runQueued 2 h = none := by
  intro echo s h
  let kind : Script → Prop := fun c ↦ c.actions = echo.actions
  have hf : Callback.Frugal 1 kind := by
    refine ⟨fun c hc values ↦ ?_, fun c (hc : c.actions = echo.actions) values ↦ ?_⟩
    · simp only [Callback.react]
      split <;> exact hc
    · simp only [Callback.react, hc]
      split
      · exact ⟨[.send (.byId ⟨1⟩) values], rfl, Nat.le_refl 1,
          List.forall_mem_cons.mpr ⟨trivial, nofun⟩⟩
      · exact ⟨[], rfl, Nat.zero_le 1, nofun⟩
  have hecho : kind echo := rfl
  have hr : s.router.Every kind := (Router.every_start 10 .abort).subscribe ⟨1⟩ hecho 0
  obtain ⟨d, hle, hdrain⟩ := queue_runs_dry s h rfl hf hr
    (List.forall_mem_cons.mpr ⟨trivial, nofun⟩)
  refine ⟨⟨d, hle, fun fuel hfuel ↦ (hdrain fuel (hle.trans hfuel)).1⟩, ?_, ?_⟩
  · rfl
  · rfl

end Session

end RobotBus
