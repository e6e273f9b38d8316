import RobotBus.Proofs.Session.Loop

namespace RobotBus

variable {σ κ α β : Type}

theorem Mild.map {r : Except Problem α} (hr : Mild r) (f : α → β) : Mild (r.map f) := by
  cases r with
  | ok a => exact mild_ok (f a)
  | error p => exact mild_error (hr p rfl)

namespace NodeAccess

variable [Line σ]

theorem mild_callNetwork (l : σ) (method : String) (args : List Value) :
    Mild (callNetwork l method args).1 := by
  unfold callNetwork
  split
  · exact mild_ok _
  · exact mild_error rfl

omit [Line σ] in
theorem mild_accepted {r : Except Problem α × σ} (hr : Mild r.1) : Mild (accepted r).1 := by
  obtain ⟨_ | _, l⟩ := r
  · exact mild_error (hr _ rfl)
  · exact mild_ok ()

theorem mild_nodes (a : NodeAccess) (l : σ) : Mild (a.nodes l).1 := by
  have hcall := mild_callNetwork l "GetNodesList" []
  cases a with
  | offline n => exact mild_ok _
  | online =>
    simp only [nodes]
    split
    · next p l' heq => exact mild_error (hcall p (congrArg Prod.fst heq))
    · split
      · exact mild_ok _
      · exact mild_error rfl

theorem mild_read (a : NodeAccess) (l : σ) (node name : String) : Mild (a.read l node name).1 := by
  have hcall := mild_callNetwork l "GetVariable" [.text node, .text name]
  cases a with
  | offline n => exact mild_ok _
  | online =>
    simp only [read]
    split
    · next p l' heq => exact mild_error (hcall p (congrArg Prod.fst heq))
    · split
      · exact mild_ok _
      · exact mild_error rfl

theorem mild_loadScript (a : NodeAccess) (l : σ) (path : String) :
    Mild (a.loadScript l path).1 := by
  cases a with
  | offline n => exact mild_ok ()
  | online => exact mild_accepted (mild_callNetwork l _ _)

end NodeAccess

namespace FilterKeeper

variable [Line σ]

theorem mild_freeOne (l : σ) (path : String) : Mild (freeOne l path).1 := by
  unfold freeOne
  split
  · exact mild_error rfl
  · split
    · exact mild_ok true
    · split
      · exact mild_ok false
      · exact mild_error rfl

theorem mild_sweepEach (k : FilterKeeper) (l : σ) (freed : Nat) (children : List String) :
    Mild (k.sweepEach l freed children).1 := by
  induction children generalizing l freed with
  | nil => exact mild_ok freed
  | cons child children ih =>
    have hone := mild_freeOne l (filtersPath ++ "/" ++ child)
    unfold sweepEach
    dsimp only
    split
    · exact ih l freed
    · split
      · next p l' heq => exact mild_error (hone p (congrArg Prod.fst heq))
      · exact ih _ _
      · exact ih _ _

theorem mild_sweep (k : FilterKeeper) (l : σ) : Mild (k.sweep l).1 := by
  unfold sweep
  split
  · exact mild_sweepEach k _ 0 _
  · split
    · exact mild_ok 0
    · exact mild_error rfl

theorem mild_giveUp (k : FilterKeeper) (l : σ) : Mild (k.giveUp l).1 := by
  unfold giveUp
  split
  · exact mild_ok ()
  · split
    · exact mild_error rfl
    · exact mild_ok ()

end FilterKeeper

theorem Presence.mild_dismantle [Line σ] (p : Presence) (l : σ) : Mild (p.dismantle l).1 := by
  have hunwatch : Mild (p.unwatch l).1 := by
    unfold unwatch
    split
    · exact mild_ok ()
    · split
      · exact mild_ok ()
      · exact mild_error rfl
  have hgiveUp := p.filters.mild_giveUp (p.unwatch l).2
  unfold dismantle
  rcases hu : p.unwatch l with ⟨e | _, l'⟩
  · rw [hu] at hunwatch
    exact mild_error (hunwatch e rfl)
  · rw [hu] at hgiveUp
    exact hgiveUp

theorem EventNames.mild_ofFile (path : String) (file : StoredFile) : Mild (ofFile path file) := by
  unfold ofFile
  split
  · exact mild_error rfl
  · unfold ofList
    split
    · exact mild_error rfl
    · split
      · exact mild_ok _
      · exact mild_error rfl

namespace Session

variable [Line σ]

theorem mild_close (s : Session κ) (h : Hub σ κ) : Mild (s.close h).1 := by
  unfold close
  split
  · exact mild_ok ()
  · cases s.presence with
    | none => exact mild_ok ()
    | some p => exact p.mild_dismantle h.line

omit [Line σ] in
theorem mild_ask (s : Session κ) (h : Hub σ κ) {f : σ → Except Problem α × σ}
    (hf : ∀ l, Mild (f l).1) : Mild (s.ask h f).1 := by
  unfold ask
  split
  · exact mild_error rfl
  · exact hf h.line

theorem mild_sweep (s : Session κ) (h : Hub σ κ) : Mild (s.sweep h).1 := by
  refine s.mild_ask h fun l ↦ ?_
  cases s.presence with
  | none => exact mild_ok 0
  | some p => exact p.filters.mild_sweep l

omit [Line σ] in
theorem loadNames_frame (s : Session κ) (path : String) (file : StoredFile) :
    Mild (s.loadNames path file).1 ∧ (s.loadNames path file).2.closed = s.closed := by
  have hfile := EventNames.mild_ofFile path file
  unfold loadNames
  split
  · next e he => exact ⟨mild_error (hfile e he), rfl⟩
  · exact ⟨mild_ok (), rfl⟩

end Session

open Session

def Simulation.SessionStep.Loops : Simulation.SessionStep κ → Prop
  | .runQueued | .runBriefly | .run => True
  | _ => False

/-- Whatever a session does but handling messages and closing, it stays as open as it was, and what
goes wrong is nothing that ends a session. -/
theorem Simulation.survives_step [Line σ] [Callback κ] {s s' : Session κ} {h h' : Hub σ κ}
    {fuel : Nat} {st : SessionStep κ} {r : Except Problem Answer} (hclose : st ≠ .close)
    (hloop : ¬st.Loops) (hr : sessionStep fuel s h st = some (r, s', h')) :
    Mild r ∧ s'.closed = s.closed := by
  cases st with
  | close => exact absurd rfl hclose
  | runQueued | runBriefly | run => exact (hloop trivial).elim
  | subscribe event callback =>
    obtain ⟨hm, hclosed, -⟩ := s.subscribe_frame h event callback
    obtain ⟨rfl, hafter⟩ := Prod.mk.inj (Option.some.inj hr)
    exact ⟨hm.map _, (congrArg (fun w ↦ w.1.closed) hafter).symm.trans hclosed⟩
  | send event args =>
    cases hr
    exact ⟨(s.mild_send h event args).map _, rfl⟩
  | locate event =>
    cases hr
    exact ⟨(s.names.mild_locate event).map _, rfl⟩
  | sweep =>
    cases hr
    exact ⟨(s.mild_sweep h).map _, rfl⟩
  | nodes =>
    cases hr
    exact ⟨(s.mild_ask h s.access.mild_nodes).map _, rfl⟩
  | read node name =>
    cases hr
    exact ⟨(s.mild_ask h fun l ↦ s.access.mild_read l node name).map _, rfl⟩
  | write node name value =>
    cases hr
    exact ⟨(s.mild_write h node name value).map _, rfl⟩
  | loadScript path =>
    cases hr
    exact ⟨(s.mild_ask h fun l ↦ s.access.mild_loadScript l path).map _, rfl⟩
  | loadNames path file =>
    obtain ⟨hm, hclosed⟩ := s.loadNames_frame path file
    cases hr
    exact ⟨hm.map _, hclosed⟩
  | rate event =>
    cases hr
    exact ⟨((s.names.mild_locate event).map _).map _, rfl⟩
  | rates | names | state =>
    cases hr
    exact ⟨mild_ok _, rfl⟩

namespace Session

variable [Line σ] [Callback κ] {s s' : Session κ} {h h' : Hub σ κ} {fuel : Nat} {p : Problem}

/-- A loop that fails has come to a message that ends the session. -/
theorem exists_cause_of_failed (ho : s.closed = false) {d : Drained σ κ}
    (hd : s.drain fuel h 0 = some d) (hp : d.ending = .failed p) :
    ∃ ms ps s₁ h₁ m g c closed, s.Handles h ms ps s₁ h₁ ∧
      h₁.take s₁.mailbox = some (m, g) ∧ s₁.cause? m = some c ∧
      (s₁.heard g m).1.close (s₁.heard g m).2 = (closed, d.session, d.hub) ∧
      c.result () closed = .error p := by
  obtain ⟨ms, ps, s₁, h₁, hh, hle, hend⟩ := exists_handles ho h fuel
  obtain ⟨-, hmailbox, -⟩ := hh.frame ho
  have hrest := drain_of_handles hh (fuel - ms.length) 0
  rw [Nat.sub_add_cancel hle, Nat.zero_add, hd] at hrest
  cases ht : h₁.take s₁.mailbox with
  | none =>
    -- with nothing left to handle the loop is idle
    rw [drain, ht] at hrest
    cases hrest
    cases hp
  | some mg =>
    obtain ⟨m, g⟩ := mg
    have hlt : ms.length < fuel := by
      by_contra hge
      rw [Nat.sub_eq_zero_of_le (Nat.le_of_not_lt hge), drain, ht] at hrest
      cases hrest
    rcases hend hlt with hempty | ⟨m', g', c, ht', hc⟩
    · rw [← hmailbox] at hempty
      rw [(h₁.take_eq_none_iff s₁.mailbox).mpr hempty] at ht
      cases ht
    · rw [← hmailbox, ht] at ht'
      cases ht'
      rcases hclose : (s₁.heard g m).1.close (s₁.heard g m).2 with ⟨closed, s₂, h₂⟩
      have hone := drain_of_cause ht hc hclose (fuel - ms.length - 1) ms.length
      rw [Nat.sub_add_cancel (Nat.sub_pos_of_lt hlt), ← hrest] at hone
      refine ⟨ms, ps, s₁, h₁, m, g, c, closed, hh, ht, hc, ?_⟩
      cases hr : c.result () closed with
      | ok u =>
        rw [hr] at hone
        cases hone
        cases hp
      | error p' =>
        rw [hr] at hone
        cases hone
        cases hp
        exact ⟨hclose, rfl⟩

theorem drained_of_runLoop {α : Type} (ho : s.closed = false)
    {result : Drained σ κ → Option (Except Problem α)}
    (hresult : ∀ d p, result d = some (.error p) → d.ending = .failed p)
    (hr : s.runLoop fuel h result = some (.error p, s', h')) :
    ∃ d, s.drain fuel h 0 = some d ∧ d.ending = .failed p ∧ d.session = s' ∧ d.hub = h' := by
  rw [runLoop, if_neg (Bool.eq_false_iff.mp ho)] at hr
  cases hd : s.drain fuel h 0 with
  | none =>
    rw [hd] at hr
    cases hr
  | some d =>
    rw [hd] at hr
    obtain ⟨r, hrd, heq⟩ := Option.map_eq_some_iff.mp hr
    cases heq
    exact ⟨d, rfl, hresult d p hrd, rfl, rfl⟩

theorem drained_of_loops (ho : s.closed = false) {st : Simulation.SessionStep κ}
    (hloop : st.Loops)
    (hr : Simulation.sessionStep fuel s h st = some (.error p, s', h')) :
    ∃ d, s.drain fuel h 0 = some d ∧ d.ending = .failed p ∧ d.session = s' ∧ d.hub = h' := by
  cases st with
  | runQueued | runBriefly | run =>
    obtain ⟨⟨r, s₁, h₁⟩, hrun, heq⟩ := Option.bind_eq_some_iff.mp hr
    cases r with
    | ok a => cases heq
    | error p' =>
      cases heq
      refine drained_of_runLoop ho (fun d p hp ↦ ?_) hrun
      split at hp
      · next q he =>
        cases hp
        exact he
      · cases hp
      · cases hp
  | subscribe | send | locate | sweep | nodes | read | write | loadScript | loadNames | rate
  | rates | names | close | state => exact hloop.elim

end Session

end RobotBus
