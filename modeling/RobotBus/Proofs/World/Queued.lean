import RobotBus.Proofs.Session.Failing
import RobotBus.Proofs.World.Subscribing

namespace RobotBus

open Bus

variable {σ κ : Type}

namespace Hub

def asOf (h : Hub σ κ) (t : Instant) : Hub σ κ := { h with clock := t }

def emptied (h : Hub σ κ) (n : Nat) : Hub σ κ := { h with mailboxes := h.mailboxes.set n [] }

theorem take_post {h : Hub σ κ} {n : Nat} (hn : n < h.mailboxes.length) (hq : h.queue n = [])
    (m : Message κ) : (h.post n m).take n = some (m, h) := by
  have hqueue : (h.post n m).queue n = [m] := by
    rw [queue_post, if_pos ⟨rfl, hn⟩, hq, List.nil_append]
  have hempty : h.mailboxes[n] = [] := by
    simpa [queue, List.getElem?_eq_getElem hn] using hq
  have hsame : (h.mailboxes.modify n (· ++ [m])).set n [] = h.mailboxes := by
    refine List.ext_getElem (by simp) fun i hi hi' ↦ ?_
    by_cases h : n = i
    · subst h
      simp [hempty]
    · simp [h]
  rw [take, hqueue]
  simp only [post, hsame]

theorem submit_asOf [Line σ] (h : Hub σ κ) (t : Instant) (path interface method : String)
    (args : List Value) (target : ReplyTarget) :
    (h.asOf t).submit path interface method args target =
      (h.submit path interface method args target).asOf t := by
  simp only [submit, asOf]
  rcases Line.submit h.line path interface method args target with ⟨_ | r, l⟩
  · rfl
  · rcases target with n | tag | tag <;> rcases r with f | vs <;> rfl

end Hub

namespace Session

section

variable [Line σ] {s : Session κ} {h : Hub σ κ} {q : Request κ}

/-- What a request comes to that is made of the session itself. -/
def fulfil (s : Session κ) (h : Hub σ κ) : Request κ → Except Problem Unit × Session κ × Hub σ κ
  | .send event args =>
    let (r, h) := s.send h event args
    (r, s, h)
  | .write node name value =>
    let (r, h) := s.write h node name value
    (r, s, h)
  | .subscribe event callback =>
    let (r, s, h) := s.subscribe h event callback
    (r.map (fun _ ↦ ()), s, h)
  | .stop => s.close h

theorem fulfil_frame (s : Session κ) (h : Hub σ κ) (hq : q ≠ .stop) :
    Mild (s.fulfil h q).1 ∧ (s.fulfil h q).2.1.closed = s.closed ∧
      (s.fulfil h q).2.1.mailbox = s.mailbox := by
  cases q with
  | send event args => exact ⟨s.mild_send h event args, rfl, rfl⟩
  | write node name value => exact ⟨s.mild_write h node name value, rfl, rfl⟩
  | subscribe event callback =>
    obtain ⟨hmild, hclosed, hmailbox, -⟩ := s.subscribe_frame h event callback
    exact ⟨Mild.map hmild _, hclosed, hmailbox⟩
  | stop => exact absurd rfl hq

theorem carryOut_of_ne_stop (s : Session κ) (h : Hub σ κ) (hq : q ≠ .stop) :
    s.carryOut h q = (.running, (s.fulfil h q).2.1, (s.fulfil h q).2.2) := by
  cases q with
  | send event args => exact judge_of_mild (s.mild_send h event args) s _
  | write node name value => exact judge_of_mild (s.mild_write h node name value) s _
  | subscribe event callback => exact judge_of_mild (s.subscribe_frame h event callback).1 _ _
  | stop => exact absurd rfl hq

/-- Only sending can leave something in the mailbox, and leaves the session as it was. -/
theorem queue_fulfil (s : Session κ) (h : Hub σ κ) (hq : q ≠ .stop) :
    (s.fulfil h q).2.2.queue s.mailbox = h.queue s.mailbox ∨
      (∃ event args, q = .send event args) ∧ (s.fulfil h q).1 = .ok () ∧ (s.fulfil h q).2.1 = s ∧
        ∃ f, (s.fulfil h q).2.2.queue s.mailbox =
          h.queue s.mailbox ++ [.problem (.refusedSend f)] := by
  cases q with
  | send event args =>
    simp only [fulfil, send]
    split
    · exact .inl rfl
    · split
      · exact .inl rfl
      · next id _ =>
        cases s.access with
        | offline n => exact .inl rfl
        | online =>
          have hsubmit := h.queue_submit_mailbox s.mailbox networkPath networkInterface
            "SendEvent" [.uint16 id.val, .words args]
          exact hsubmit.imp_right fun hf ↦ ⟨⟨event, args, rfl⟩, rfl, trivial, hf⟩
  | write node name value =>
    refine .inl ?_
    simp only [fulfil, write]
    rw [ask_hub]
    rfl
  | subscribe event callback =>
    refine .inl ?_
    have hmailboxes := (s.subscribe_frame h event callback).2.2.2
    exact congrArg (fun qs ↦ (qs[s.mailbox]?).getD []) hmailboxes
  | stop => exact absurd rfl hq

/-- What a request has made of a session, at two times: the same session, or one that has subscribed
to an event then. -/
inductive SameButForTime (q : Request κ) (s : Session κ) : Session κ → Session κ → Prop
  | same (s' : Session κ) : SameButForTime q s s' s'
  | subscribed (event : Mention) (callback : κ) (hq : q = .subscribe event callback)
      (presence : Option Presence) (id : EventId) (t t' : Instant) :
      SameButForTime q s
        { s with presence, router := s.router.subscribe id callback t }
        { s with presence, router := s.router.subscribe id callback t' }

theorem allow_asOf (s : Session κ) (h : Hub σ κ) (id : EventId) (t : Instant) :
    s.allow (h.asOf t) id =
      ((s.allow h id).1, (s.allow h id).2.1, (s.allow h id).2.2.asOf t) := by
  unfold allow
  cases s.presence <;> rfl

theorem allow_session (s : Session κ) (h : Hub σ κ) (id : EventId) :
    ∃ presence, (s.allow h id).2.1 = { s with presence } := by
  obtain ⟨mailbox, settings, names, router, presence, closed⟩ := s
  cases presence with
  | none => exact ⟨none, rfl⟩
  | some p => exact ⟨_, rfl⟩

theorem close_asOf (s : Session κ) (h : Hub σ κ) (t : Instant) :
    s.close (h.asOf t) = ((s.close h).1, (s.close h).2.1, (s.close h).2.2.asOf t) := by
  unfold close
  split
  · rfl
  · cases s.presence <;> rfl

/-- When a request is made is of no consequence but for the window of a subscription. -/
theorem fulfil_asOf (s : Session κ) (h : Hub σ κ) (hq : q ≠ .stop) (t : Instant) :
    (s.fulfil (h.asOf t) q).1 = (s.fulfil h q).1 ∧
      SameButForTime q s (s.fulfil h q).2.1 (s.fulfil (h.asOf t) q).2.1 ∧
      ∃ t', (s.fulfil (h.asOf t) q).2.2 = (s.fulfil h q).2.2.asOf t' := by
  cases q with
  | send event args =>
    simp only [fulfil, send]
    split
    · exact ⟨rfl, .same s, t, rfl⟩
    · split
      · exact ⟨rfl, .same s, t, rfl⟩
      · refine ⟨rfl, .same s, t, ?_⟩
        cases s.access with
        | offline n => rfl
        | online => exact h.submit_asOf t ..
  | write node name value =>
    simp only [fulfil, write, ask]
    split <;> exact ⟨rfl, .same s, t, rfl⟩
  | subscribe event callback =>
    simp only [fulfil, subscribe, allow_asOf]
    split
    · exact ⟨rfl, .same s, t, rfl⟩
    · split
      · exact ⟨rfl, .same s, t, rfl⟩
      · next id _ =>
        obtain ⟨presence, hs'⟩ := s.allow_session h id
        generalize s.allow h id = r at hs' ⊢
        obtain ⟨p | u, s', h'⟩ := r
        · exact ⟨rfl, .same s', t, rfl⟩
        · cases hs'
          exact ⟨rfl, .subscribed event callback rfl presence id _ _, _, rfl⟩
  | stop => exact absurd rfl hq

end

section

variable [Line σ] [Callback κ] {s : Session κ} {h : Hub σ κ}

theorem drain_of_problem {p : Problem} (hqueue : h.queue s.mailbox = [.problem p])
    (fuel handled : Nat) :
    let closed := s.close (h.emptied s.mailbox)
    s.drain (fuel + 1) h handled = some ⟨.failed p, handled + 1, closed.2.1, closed.2.2⟩ := by
  have ht : h.take s.mailbox = some (.problem p, h.emptied s.mailbox) := by
    rw [Hub.take, hqueue, Hub.emptied]
  exact drain_of_cause ht (c := .problem p) rfl rfl fuel handled

theorem drain_request (hn : s.mailbox < h.mailboxes.length) (hempty : h.queue s.mailbox = [])
    {q : Request κ} (hq : q ≠ .stop) (fuel handled : Nat) :
    s.drain (fuel + 1) (s.remote.request h q) handled =
      (s.fulfil h q).2.1.drain fuel (s.fulfil h q).2.2 (handled + 1) := by
  have ht : (s.remote.request h q).take s.mailbox = some (.request q, h) :=
    Hub.take_post hn hempty _
  rw [drain, ht]
  simp only [handle, s.carryOut_of_ne_stop h hq]

theorem runs_of_nothing (hn : s.mailbox < h.mailboxes.length) (ho : s.closed = false)
    (hempty : h.queue s.mailbox = []) {q : Request κ} (hq : q ≠ .stop)
    (hnothing : (s.fulfil h q).2.2.queue s.mailbox = []) (t : Instant) (fuel : Nat) :
    (s.fulfil h q).2.1.runQueued (fuel + 1) (s.fulfil h q).2.2 =
        some (.ok 0, (s.fulfil h q).2.1, (s.fulfil h q).2.2) ∧
      ∃ t', s.runQueued (fuel + 1) (s.remote.request (h.asOf t) q) =
        some (.ok 1, (s.fulfil (h.asOf t) q).2.1, (s.fulfil h q).2.2.asOf t') := by
  obtain ⟨-, hclosed, hmailbox⟩ := s.fulfil_frame h hq
  obtain ⟨-, -, hmailbox'⟩ := s.fulfil_frame (h.asOf t) hq
  obtain ⟨-, -, t', hhub⟩ := s.fulfil_asOf h hq t
  have hdrain := drain_request (h := h.asOf t) hn hempty hq fuel 0
  have hnothing' : (s.fulfil (h.asOf t) q).2.2.queue (s.fulfil (h.asOf t) q).2.1.mailbox = [] := by
    rw [hhub, hmailbox']
    exact hnothing
  rw [drain_of_empty hnothing'] at hdrain
  rw [← hmailbox] at hnothing
  refine ⟨runQueued_of_drain (hclosed.trans ho) (drain_of_empty hnothing _ 0), t', ?_⟩
  rw [runQueued_of_drain ho hdrain, hhub]

theorem runs_of_problem (hn : s.mailbox < h.mailboxes.length) (ho : s.closed = false)
    (hempty : h.queue s.mailbox = []) {q : Request κ} (hq : q ≠ .stop) {p : Problem}
    (hsession : (s.fulfil h q).2.1 = s)
    (hproblem : (s.fulfil h q).2.2.queue s.mailbox = [.problem p]) (t : Instant) (fuel : Nat) :
    ∃ s' h' t', (s.fulfil h q).2.1.runQueued (fuel + 2) (s.fulfil h q).2.2 =
        some (.error p, s', h') ∧
      s.runQueued (fuel + 2) (s.remote.request (h.asOf t) q) = some (.error p, s', h'.asOf t') ∧
      s'.closed = true := by
  obtain ⟨-, -, t', hhub⟩ := s.fulfil_asOf h hq t
  obtain ⟨-, -, hsession', -⟩ := (s.queue_fulfil (h.asOf t) hq).resolve_left (by
    rw [hhub]
    exact fun hnone ↦ nomatch (hnone.trans hempty).symm.trans hproblem)
  have hemptied : ((s.fulfil h q).2.2.asOf t').emptied s.mailbox =
    ((s.fulfil h q).2.2.emptied s.mailbox).asOf t' := rfl
  have hdirect := drain_of_problem hproblem (fuel + 1) 0
  have hqueued := drain_request (h := h.asOf t) hn hempty hq (fuel + 1) 0
  rw [hhub, hsession', drain_of_problem (h := (s.fulfil h q).2.2.asOf t') hproblem, hemptied,
    close_asOf] at hqueued
  have hclosed := close_closed s ((s.fulfil h q).2.2.emptied s.mailbox)
  generalize s.close ((s.fulfil h q).2.2.emptied s.mailbox) = closing at hdirect hqueued hclosed
  refine ⟨closing.2.1, closing.2.2, t', ?_, runQueued_of_drain ho hqueued, hclosed⟩
  rw [hsession]
  exact runQueued_of_drain ho hdirect

end

section

variable {s : Session κ} {h : Hub (Bus ReplyTarget) κ}

def seen (h : Hub (Bus ReplyTarget) κ) (js : List JournalEntry) : Hub (Bus ReplyTarget) κ :=
  { h with line := { h.line with journal := h.line.journal ++ js } }

theorem seen_nil (h : Hub (Bus ReplyTarget) κ) : seen h [] = h := by
  simp [seen]

theorem accepted_of_error (ho : s.closed = false) {method : String} {args : List Value}
    {p : Problem}
    (hp : (s.ask h (fun l ↦ NodeAccess.accepted (NodeAccess.callNetwork l method args))).1 =
      .error p) :
    (s.ask h (fun l ↦ NodeAccess.accepted (NodeAccess.callNetwork l method args))).2 =
      seen h [.call networkPath method] := by
  simp only [ask, ho, Bool.false_eq_true, if_false, NodeAccess.callNetwork, Line.call] at hp ⊢
  rcases hc : h.line.call networkPath networkInterface method args with ⟨f | vs, b⟩
  · have hb := call_of_error (congrArg Prod.fst hc)
    rw [hc] at hb
    cases hb
    rfl
  · simp [hc, NodeAccess.accepted] at hp

theorem write_of_error (ho : s.closed = false) {node name : String} {value : WordValue}
    {p : Problem} (hp : (s.write h node name value).1 = .error p) :
    ∃ js, (s.write h node name value).2 = seen h js := by
  cases ha : s.access with
  | offline n => simp [write, ask, ho, ha, NodeAccess.write] at hp
  | online =>
    simp only [write, ha] at hp ⊢
    exact ⟨_, accepted_of_error ho hp⟩

/-- What a request comes to nothing for, it leaves as it was, offline or live. -/
theorem fulfil_of_error_of_open (hs : s.Offline ∨ ∃ path token, s.Live path token)
    (ho : s.closed = false) {q : Request κ} (hq : q ≠ .stop) {p : Problem}
    (hp : (s.fulfil h q).1 = .error p) :
    (s.fulfil h q).2.1 = s ∧ ∃ js, (s.fulfil h q).2.2 = seen h js := by
  have hnil : ∃ js, h = seen h js := ⟨[], (seen_nil h).symm⟩
  cases q with
  | send event args =>
    refine ⟨rfl, ?_⟩
    simp only [fulfil, send, ho, Bool.false_eq_true, if_false] at hp ⊢
    split at hp
    · next hlocate => simpa only [hlocate] using hnil
    · cases hp
  | write node name value => exact ⟨rfl, write_of_error ho hp⟩
  | subscribe event callback =>
    have hsub : ∃ e, (s.subscribe h event callback).1 = .error e := by
      cases hr : (s.subscribe h event callback).1 with
      | ok id => simp [fulfil, hr, Except.map] at hp
      | error e => exact ⟨e, rfl⟩
    obtain ⟨e, he⟩ := hsub
    change (s.subscribe h event callback).2.1 = s ∧
      ∃ js, (s.subscribe h event callback).2.2 = seen h js
    rcases hs with hoff | ⟨path, token, -, ids, hpres⟩
    · simp only [subscribe, ho, Bool.false_eq_true, if_false, allow, hoff.presence] at he ⊢
      split at he
      · next hlocate => simpa only [hlocate, true_and] using hnil
      · cases he
    · have hsubscribes := Situation.subscribe_subscribes (w := ⟨s, h⟩) ho hpres event callback
      rw [he] at hsubscribes
      generalize hw : (⟨(s.subscribe h event callback).2.1, (s.subscribe h event callback).2.2⟩ :
        Situation κ) = w at hsubscribes
      cases hsubscribes with
      | unknown =>
        obtain ⟨hsession, hhub⟩ := Situation.mk.inj hw
        exact ⟨hsession, hhub.symm ▸ hnil⟩
      | refused _ id f hf =>
        obtain ⟨hsession, hhub⟩ := Situation.mk.inj hw
        refine ⟨hsession, [.call path "ListenEvent"], ?_⟩
        rw [hhub, listen_of_error hf]
        rfl
  | stop => exact absurd rfl hq

theorem fulfil_of_error (hs : s.Seated h) (ho : s.closed = false) {q : Request κ} (hq : q ≠ .stop)
    {p : Problem} (hp : (s.fulfil h q).1 = .error p) :
    (s.fulfil h q).2.1 = s ∧ ∃ js, (s.fulfil h q).2.2 = seen h js :=
  fulfil_of_error_of_open (hs.kind ho) ho hq hp

end

theorem Seated.asOf {s : Session κ} {h : Hub (Bus ReplyTarget) κ} (hs : s.Seated h) (t : Instant) :
    s.Seated (h.asOf t) := by
  cases hs with
  | closed hc hp => exact .closed hc hp
  | offline hoff => exact .offline hoff
  | live n token ids ho hon hp hb => exact .live n token ids ho hon hp hb

variable [Callback κ]

/-- In any company, a request that is made of an open session with an empty mailbox comes to the
same as one that is posted to the mailbox, at the same time or another, once the loop has run: on
the bus, for the session but for the time of a new window, and for whether the session goes on or is
closed because sending was refused. A request that comes to nothing leaves all as it was, but for
what is seen to happen on the bus. -/
theorem queued_as_direct {ss : List (Session κ)} {s : Session κ} {h : Hub (Bus ReplyTarget) κ}
    (hw : World h ss) (hs : s ∈ ss) (ho : s.closed = false) (hempty : h.queue s.mailbox = [])
    {q : Request κ} (hq : q ≠ .stop) (t : Instant) (fuel : Nat) :
    let direct := s.fulfil h q
    ∃ r r' s₁ s₂ h₁ t',
      direct.2.1.runQueued (fuel + 2) direct.2.2 = some (r, s₁, h₁) ∧
      s.runQueued (fuel + 2) (s.remote.request (h.asOf t) q) = some (r', s₂, h₁.asOf t') ∧
      SameButForTime q s s₁ s₂ ∧
      (r = .ok 0 ∧ r' = .ok 1 ∧ s₁.closed = false ∨
        ∃ f, r = .error (.refusedSend f) ∧ r' = .error (.refusedSend f) ∧ s₁.closed = true) ∧
      ∀ p, direct.1 = .error p →
        p.endsSession = false ∧ r' = .ok 1 ∧ s₂ = s ∧
          ∃ js, h₁ = { h with line := { h.line with journal := h.line.journal ++ js } } := by
  intro direct
  have hn := hw.sound.mailbox_lt s hs
  have hseated := hw.sound.seated s hs
  obtain ⟨hmild, hclosed, -⟩ := s.fulfil_frame h hq
  obtain ⟨hresult, hsame, -⟩ := s.fulfil_asOf h hq t
  have hqueue := s.queue_fulfil h hq
  simp only [hempty, List.nil_append] at hqueue
  rcases hqueue with hnothing | ⟨-, hok, hsession, f, hproblem⟩
  · obtain ⟨hdirect, t', hqueued⟩ := runs_of_nothing hn ho hempty hq hnothing t (fuel + 1)
    refine ⟨_, _, _, _, _, t', hdirect, hqueued, hsame, .inl ⟨rfl, rfl, hclosed.trans ho⟩, ?_⟩
    intro p hp
    obtain ⟨-, hseen⟩ := fulfil_of_error hseated ho hq hp
    obtain ⟨hsession, -⟩ := fulfil_of_error (hseated.asOf t) ho hq (hresult.trans hp)
    exact ⟨hmild p hp, rfl, hsession, hseen⟩
  · obtain ⟨s', h', t', hdirect, hqueued, hclosed'⟩ :=
      runs_of_problem hn ho hempty hq hsession hproblem t fuel
    exact ⟨_, _, s', s', h', t', hdirect, hqueued, .same s', .inr ⟨f, rfl, rfl, hclosed'⟩,
      fun p hp ↦ nomatch hok.symm.trans hp⟩

def refusing : Hub (Bus ReplyTarget) Fuse :=
  (Simulation.busStep firstHub (.refuseMethod "SendEvent" ⟨"no", "more"⟩)).2

theorem queued_as_direct_of_refusal :
    let s : Session Fuse := first
    let q : Request Fuse := .send (.byId ⟨1⟩) [5]
    let direct := s.fulfil refusing q
    ∃ f s' h' t',
      direct.2.1.runQueued 2 direct.2.2 = some (.error (.refusedSend f), s', h') ∧
      s.runQueued 2 (s.remote.request (refusing.asOf 7) q) =
        some (.error (.refusedSend f), s', h'.asOf t') ∧ s'.closed = true := by
  intro s q direct
  have hworld : World refusing [first] := .bus _ nofun world_first
  obtain ⟨r, r', s₁, s₂, h', t', hdirect, hqueued, hsame, hend, -⟩ :=
    queued_as_direct hworld List.mem_cons_self rfl rfl (q := q) nofun 7 0
  have hfailed : (direct.2.1.runQueued 2 direct.2.2).map (fun x ↦ x.1.isOk) = some false := rfl
  rw [hdirect, Option.map_some] at hfailed
  cases hsame with
  | subscribed _ _ hq => simp [q] at hq
  | same =>
    rcases hend with ⟨rfl, -⟩ | ⟨f, rfl, rfl, hclosed⟩
    · cases hfailed
    · exact ⟨f, s₁, h', t', hdirect, hqueued, hclosed⟩

end Session

end RobotBus
