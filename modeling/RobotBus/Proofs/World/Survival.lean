import RobotBus.Proofs.Session.Failing
import RobotBus.Proofs.World.Subscribing

namespace RobotBus

open Bus

variable {σ κ : Type}

namespace Hub

/-- Whatever problem waits in a mailbox, it ends the session. -/
def Grave (h : Hub σ κ) : Prop := ∀ n p, .problem p ∈ h.queue n → p.endsSession = true

variable {h h' : Hub σ κ}

theorem Grave.of_queue (hg : h.Grave) (hq : ∀ n, ∀ m ∈ h'.queue n, m ∈ h.queue n) : h'.Grave :=
  fun n p hp ↦ hg n p (hq n _ hp)

theorem Grave.post (hg : h.Grave) (n : Nat) {m : Message κ}
    (hm : ∀ p, m = .problem p → p.endsSession = true) : (h.post n m).Grave := by
  intro k p hp
  rw [queue_post] at hp
  split at hp
  · rcases List.mem_append.mp hp with hold | hnew
    · exact hg k p hold
    · exact hm p (List.mem_singleton.mp hnew).symm
  · exact hg k p hp

theorem Grave.receive (hg : h.Grave) (l : Listener) (body : List Value) :
    (h.receive l body).Grave := by
  cases l with
  | log tag => exact hg
  | mailbox n =>
    simp only [Hub.receive]
    split
    · refine hg.post n ?_
      intro p hp
      cases hp
    · exact hg

theorem Grave.answer (hg : h.Grave) (target : ReplyTarget) (r : Reply) :
    (h.answer target r).Grave := by
  rcases target with n | tag | tag <;> rcases r with f | vs
  · refine hg.post n ?_
    rintro p hp
    cases hp
    rfl
  all_goals exact hg

theorem Grave.foldl {α : Type} {f : Hub σ κ → α → Hub σ κ} (hf : ∀ h a, h.Grave → (f h a).Grave)
    (as : List α) (hg : h.Grave) : (as.foldl f h).Grave := by
  induction as generalizing h with
  | nil => exact hg
  | cons a as ih => exact ih (hf h a hg)

theorem mem_queue_of_take {n : Nat} {m : Message κ} (ht : h.take n = some (m, h')) (k : Nat)
    (x : Message κ) (hx : x ∈ h'.queue k) : x ∈ h.queue k := by
  by_cases hk : k = n
  · subst hk
    rw [(queue_of_take ht).1]
    exact List.mem_cons_of_mem m hx
  · unfold take at ht
    split at ht
    · cases ht
    · cases ht
      simpa [queue, Ne.symm hk] using hx

end Hub

namespace Hub

variable {h h' : Hub (Bus ReplyTarget) κ} {mailboxes tokens : Nat → Prop}

theorem Grave.after (hg : h.Grave) {a : Act κ} (ha : a.Confined mailboxes tokens) :
    (h.after a).Grave := by
  cases a with
  | bus d => exact hg
  | submit path interface method args target =>
    have hline (l : Bus ReplyTarget) : Grave { h with line := l } := hg
    simp only [Hub.after, submit]
    split
    · exact (hline _).answer _ _
    · exact hline _
  | deliver => exact Grave.foldl (fun h e hg ↦ hg.answer e.1 e.2) _ hg
  | emit id name values => exact Grave.foldl (fun h l hg ↦ hg.receive l _) _ hg
  | openMailbox =>
    refine hg.of_queue fun n m hm ↦ ?_
    simp only [Hub.after, openMailbox, queue] at hm ⊢
    by_cases hn : n < h.mailboxes.length
    · rwa [List.getElem?_append_left hn] at hm
    · by_cases he : n = h.mailboxes.length
      · subst he
        simp at hm
      · rw [List.getElem?_eq_none (by simp; omega)] at hm
        cases hm
  | post n m =>
    refine hg.post n ?_
    rintro p rfl
    exact ha.elim
  | take n =>
    cases ht : h.take n with
    | none =>
      simp only [Hub.after, ht]
      exact hg
    | some mg =>
      simp only [Hub.after, ht]
      exact hg.of_queue (mem_queue_of_take ht)
  | note | tick => exact hg

theorem Via.grave (hv : Via mailboxes tokens h h') (hg : h.Grave) : h'.Grave := by
  induction hv with
  | refl => exact hg
  | after _ ha _ ih => exact ih.after ha

end Hub

variable [Callback κ]

open Hub

namespace World

variable {h : Hub (Bus ReplyTarget) κ} {s : Session κ} {ss : List (Session κ)}

/-- Whatever there is on a hub of a world has come about by acts of which none makes up a
problem. -/
theorem via_start (hw : World h ss) :
    Via (fun _ ↦ True) (fun _ ↦ True) (.start .start) h := by
  have any {g g' : Hub (Bus ReplyTarget) κ} {mailboxes tokens : Nat → Prop}
      (hv : Via mailboxes tokens g g') : Via (fun _ ↦ True) (fun _ ↦ True) g g' :=
    hv.mono (fun _ _ ↦ trivial) fun _ _ ↦ trivial
  induction hw with
  | start => exact .refl
  | @connect h h' s ss c _ hc ih =>
    have hv := (Session.acted_connect h c).via
    rw [hc] at hv
    exact ih.trans (any hv)
  | @refused h h' p ss c _ hc ih =>
    have hv := (Session.acted_connect h c).via
    rw [hc] at hv
    exact ih.trans (any hv)
  | offline _ ih => exact ih.after (a := .openMailbox) trivial trivial
  | @move h s ss m hm hw ih =>
    have hs := hw.sound
    have hseated := Situation.seated_after (w := ⟨s, h⟩) hs.reachable
      (hs.mailbox_lt s List.mem_cons_self) (hs.seated s List.mem_cons_self) hm
    exact ih.trans (any hseated.2.2)
  | filters k st _ ih => exact ih.trans (via_filterStep k _ st)
  | access a st _ ih => exact ih.trans (via_accessStep a _ st)
  | remote r e _ ih => exact ih.perform r.mailbox e
  | bus st _ _ ih => exact ih.trans (via_busStep _ st fun _ _ ↦ trivial)
  | perm _ _ ih => exact ih

theorem grave (hw : World h ss) : h.Grave := by
  refine hw.via_start.grave ?_
  intro n p hp
  simp [Hub.start, Hub.queue] at hp

theorem handles {ms ps : List (Message κ)} {s' : Session κ} {h' : Hub (Bus ReplyTarget) κ}
    (hw : World h (s :: ss)) (hh : s.Handles h ms ps s' h') (ho : s.closed = false) :
    World h' (s' :: ss) := by
  induction hh with
  | nothing => exact hw
  | @next s s₁ s₂ h g h₁ h₂ m ms ps ps' ht hc hm hq _ ih =>
    obtain ⟨s₃, h₃, hm', hopen, -⟩ := Session.handle_running ho hc g
    rw [hm] at hm'
    cases hm'
    have hturn : Situation.after ⟨s, h⟩ .turn = ⟨s₁, h₁⟩ := by
      simp only [Situation.after, Situation.turn, ho, Bool.false_eq_true, if_false, ht, hm]
    have hown : (Move.turn : Move κ).Own := by
      intro a ha
      cases ha
    have hw' := World.move .turn hown hw
    rw [hturn] at hw'
    exact ih hw' hopen

end World

namespace Session

variable {h : Hub (Bus ReplyTarget) κ} {s : Session κ} {ss : List (Session κ)}

def StoppedWith (s : Session κ) (h : Hub (Bus ReplyTarget) κ) (p : Problem) (s' : Session κ)
    (h' : Hub (Bus ReplyTarget) κ) : Prop :=
  ∃ ms ps s₁ h₁ g, s.Handles h ms ps s₁ h₁ ∧ h₁.take s₁.mailbox = some (.request .stop, g) ∧
    s₁.close g = (.error p, s', h')

/-- A message that ends a session in a world does so by a problem that ends sessions, or by asking
it to stop. -/
theorem cause_of_world {m : Message κ} {g : Hub (Bus ReplyTarget) κ} {c : Cause}
    (hw : World h (s :: ss)) (ht : h.take s.mailbox = some (m, g)) (hc : s.cause? m = some c) :
    (c = .asked ∧ m = .request .stop) ∨ ∃ p, c = .problem p ∧ p.endsSession = true := by
  cases m with
  | event e =>
    right
    simp only [cause?] at hc
    split at hc
    · cases hc
    · split at hc
      · cases hc
        exact ⟨_, rfl, rfl⟩
      · cases hc
  | problem p =>
    cases hc
    refine .inr ⟨p, rfl, hw.grave s.mailbox p ?_⟩
    rw [(queue_of_take ht).1]
    exact List.mem_cons_self
  | request q =>
    cases q with
    | send | write | subscribe => cases hc
    | stop =>
      cases hc
      exact .inl ⟨rfl, rfl⟩

/-- A loop that fails closes the session. Either a problem has ended the session, or the session was
asked to stop and closing has failed. -/
theorem failed_of_loops (hw : World h (s :: ss)) (ho : s.closed = false) {fuel : Nat}
    {st : Simulation.SessionStep κ} (hloop : st.Loops) {p : Problem} {s' : Session κ}
    {h' : Hub (Bus ReplyTarget) κ}
    (hr : Simulation.sessionStep fuel s h st = some (.error p, s', h')) :
    s'.closed = true ∧
      (p.endsSession = true ∨ p.endsSession = false ∧ s.StoppedWith h p s' h') := by
  obtain ⟨d, hd, hp, rfl, rfl⟩ := drained_of_loops ho hloop hr
  obtain ⟨ms, ps, s₁, h₁, m, g, c, closed, hh, ht, hc, hclose, hresult⟩ :=
    exists_cause_of_failed ho hd hp
  refine ⟨(frame_of_close hclose).1, ?_⟩
  rcases cause_of_world (hw.handles hh ho) ht hc with ⟨rfl, rfl⟩ | ⟨q, rfl, hq⟩
  · right
    cases closed with
    | ok u => cases hresult
    | error e =>
      cases hresult
      have hmild := s₁.mild_close g
      simp only [heard] at hclose
      rw [hclose] at hmild
      exact ⟨hmild p rfl, ms, ps, s₁, h₁, g, hh, ht, hclose⟩
  · left
    cases hresult
    exact hq

/-- In any company, an open session that fails at something other than closing is closed afterwards
exactly if the problem ends sessions. The one exception is a loop that came to a request to stop:
if closing fails then, its problem is told, which ends no session, and the session is closed. -/
theorem closed_iff_endsSession (hw : World h (s :: ss)) (ho : s.closed = false) {fuel : Nat}
    {st : Simulation.SessionStep κ} (hst : st ≠ .close) {p : Problem} {s' : Session κ}
    {h' : Hub (Bus ReplyTarget) κ}
    (hr : Simulation.sessionStep fuel s h st = some (.error p, s', h')) :
    (s'.closed = true ↔ p.endsSession = true) ∨
      st.Loops ∧ s.StoppedWith h p s' h' ∧ s'.closed = true ∧ p.endsSession = false := by
  by_cases hloop : st.Loops
  · obtain ⟨hclosed, hends | ⟨hmild, hstopped⟩⟩ := failed_of_loops hw ho hloop hr
    · exact .inl (iff_of_true hclosed hends)
    · exact .inr ⟨hloop, hstopped, hclosed, hmild⟩
  · obtain ⟨hmild, hclosed⟩ := Simulation.survives_step hst hloop hr
    refine .inl (iff_of_false ?_ ?_)
    · rw [hclosed, ho]
      exact Bool.false_ne_true
    · rw [hmild p rfl]
      exact Bool.false_ne_true

theorem closed_iff_endsSession_of_read :
    let p : Problem := .refusedCall "GetVariable" (unknownNode "thymio")
    let st : Simulation.SessionStep Fuse := .read "thymio" "prox"
    let h' : Hub (Bus ReplyTarget) Fuse := (first.read firstHub "thymio" "prox").2
    Simulation.sessionStep 0 first firstHub st = some (.error p, first, h') ∧
      ((first : Session Fuse).closed = true ↔ p.endsSession = true) := by
  intro p st h'
  have hr : Simulation.sessionStep 0 first firstHub st = some (.error p, first, h') := rfl
  have hst : st ≠ .close := nofun
  refine ⟨hr, ?_⟩
  rcases closed_iff_endsSession world_first rfl hst hr with hiff | ⟨hloop, -⟩
  · exact hiff
  · exact hloop.elim

/-- A session is asked to stop while the service refuses to free its filter. The loop fails with a
problem that ends no session, and the session is closed. -/
theorem closed_by_stop :
    let p : Problem := .refusedCall "Free" ⟨"test.Refused", "no"⟩
    ∃ (h : Hub (Bus ReplyTarget) Fuse) (s' : Session Fuse) (h' : Hub (Bus ReplyTarget) Fuse),
      World h [first] ∧ (first : Session Fuse).closed = false ∧
      Simulation.sessionStep 1 first h .runQueued = some (.error p, s', h') ∧
      s'.closed = true ∧ p.endsSession = false := by
  intro p
  have hrefusing := World.bus (.refuseMethod "Free" ⟨"test.Refused", "no"⟩) nofun world_first
  exact ⟨_, _, _, .remote ⟨0⟩ (.request .stop) hrefusing, rfl, rfl, rfl, rfl⟩

end Session

end RobotBus
