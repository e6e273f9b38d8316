import RobotBus.Proofs.Simulation.Beside

namespace RobotBus

variable {σ κ : Type}

namespace Hub

theorem Alike.opened {α : Type} {z : Aside} {x x' : α × Hub σ κ} (ha : Alike z x x') :
    z.opened ≤ x.2.mailboxes.length := by
  obtain ⟨_, _, _, rfl, -, hb⟩ := ha
  exact hb.opened

end Hub

namespace Simulation

variable [Line σ] [Callback κ]

inductive Reachable : Simulation σ κ → Prop
  | start (l : σ) : Reachable (.start l)
  | step {w : Simulation σ κ} (fuel : Nat) (st : Step κ) :
      Reachable w → Reachable (w.step fuel st).2
  | finish {w : Simulation σ κ} : Reachable w → Reachable w.finish

/-- A session is named as its remote is, and no two remotes have the same mailbox. -/
structure Registered (w : Simulation σ κ) : Prop where
  remote : ∀ name s, w.sessions.get? name = some s → w.remotes.get? name = some s.remote
  opened : ∀ name r, w.remotes.get? name = some r → r.mailbox < w.hub.mailboxes.length
  apart : ∀ name name' r, w.remotes.get? name = some r → w.remotes.get? name' = some r →
    name = name'

/-- How a step changes who is there: sessions stay with their mailboxes or are dropped, or a new
one comes with the next mailbox. -/
inductive Turnover (w w' : Simulation σ κ) : Prop
  | stay (hr : w'.remotes = w.remotes) (ho : w.hub.mailboxes.length ≤ w'.hub.mailboxes.length)
      (hs : ∀ name s', w'.sessions.get? name = some s' →
        ∃ s, w.sessions.get? name = some s ∧ s'.mailbox = s.mailbox)
  | come (name : String) (s : Session κ) (hn : s.mailbox = w.hub.mailboxes.length)
      (hr : w'.remotes = w.remotes.insert name s.remote)
      (ho : w'.hub.mailboxes.length = w.hub.mailboxes.length + 1)
      (hs : w'.sessions = w.sessions.insert name s)

omit [Line σ] [Callback κ] in
theorem Registered.turnover {w w' : Simulation σ κ} (hw : w.Registered) (ht : Turnover w w') :
    w'.Registered := by
  cases ht with
  | stay hr ho hs =>
    refine ⟨?_, ?_, ?_⟩
    · intro name s' hs'
      obtain ⟨s, hs, hm⟩ := hs name s' hs'
      rw [hr, hw.remote name s hs, Session.remote, Session.remote, hm]
    · intro name r h
      rw [hr] at h
      exact (hw.opened name r h).trans_le ho
    · rw [hr]
      exact hw.apart
  | come name s hn hr ho hs =>
    have hnew : ∀ name' r, w.remotes.get? name' = some r → r ≠ s.remote := by
      rintro name' r h rfl
      exact (hw.opened name' _ h).ne hn
    refine ⟨?_, ?_, ?_⟩
    · intro name' s' h
      rw [hs, Directory.get?_insert] at h
      rw [hr, Directory.get?_insert]
      split at h
      · next heq =>
        cases h
        rw [if_pos heq]
      · next hne => rw [if_neg hne, hw.remote name' s' h]
    · intro name' r h
      rw [hr, Directory.get?_insert] at h
      rw [ho]
      split at h
      · cases h
        exact hn ▸ Nat.lt_succ_self _
      · exact (hw.opened name' r h).trans (Nat.lt_succ_self _)
    · intro name₁ name₂ r h₁ h₂
      rw [hr, Directory.get?_insert] at h₁ h₂
      split at h₁ <;> split at h₂
      · next heq₁ heq₂ => exact heq₁.symm.trans heq₂
      · cases h₁
        exact absurd rfl (hnew _ _ h₂)
      · cases h₂
        exact absurd rfl (hnew _ _ h₁)
      · exact hw.apart _ _ _ h₁ h₂

omit [Callback κ] in
theorem length_keep (w : Simulation σ κ) (name : String) (s : Session κ) (h : Hub σ κ) :
    (w.keep name s h).hub.mailboxes.length = h.mailboxes.length := by
  unfold keep
  cases w.sessions.get? name with
  | none => rfl
  | some old =>
    dsimp only
    rw [Session.close_hub]

omit [Callback κ] in
theorem turnover_keep {w : Simulation σ κ} {s : Session κ} {h : Hub σ κ}
    (hs : s.mailbox = w.hub.mailboxes.length)
    (hh : h.mailboxes.length = w.hub.mailboxes.length + 1) (name : String) :
    Turnover w (w.keep name s h) :=
  .come name s hs rfl ((w.length_keep name s h).trans hh) rfl

omit [Line σ] [Callback κ] in
theorem Turnover.hub {w : Simulation σ κ} {h : Hub σ κ}
    (ho : w.hub.mailboxes.length ≤ h.mailboxes.length) : Turnover w { w with hub := h } :=
  .stay rfl ho fun _ s' hs' ↦ ⟨s', hs', rfl⟩

theorem turnover_step (w : Simulation σ κ) (fuel : Nat) (st : Step κ) :
    Turnover w (w.step fuel st).2 := by
  have hrefl := Hub.Beside.refl w.hub
  have hsame : Turnover w w := .hub (Nat.le_refl _)
  cases st with
  | bus b => exact .hub (alike_busStep (hrefl 0) b).opened
  | session name step =>
    simp only [Simulation.step]
    split
    · exact hsame
    · next s hs =>
      have hst := alike_sessionStep (Nat.succ_ne_self _).symm (hrefl (s.mailbox + 1)) fuel step
      split
      · exact hsame
      · next r s' h heq =>
        rw [heq] at hst
        cases hst with
        | some hst =>
          obtain ⟨_, _, _, _, heq', -, hm, hb⟩ := hst
          cases heq'
          refine .stay rfl hb.opened fun name' s₁ h₁ ↦ ?_
          rw [Directory.get?_insert] at h₁
          split at h₁
          · next hname =>
            cases h₁
            exact ⟨s, hname ▸ hs, hm⟩
          · exact ⟨s₁, h₁, rfl⟩
  | connect name c =>
    simp only [Simulation.step]
    have hc := Session.alike_connect (hrefl 0) c
    split
    · next p h heq =>
      have ho := hc.opened
      rw [heq] at ho
      exact .hub ho
    · next s h heq =>
      obtain ⟨hs, hh⟩ := Session.mailbox_of_connect heq
      exact turnover_keep hs hh name
  | offline name => exact turnover_keep rfl List.length_append name
  | drop name =>
    simp only [Simulation.step]
    split
    · exact hsame
    · refine .stay rfl (by rw [Session.close_hub]) fun name' s₁ h₁ ↦ ?_
      rw [Directory.get?_erase] at h₁
      split at h₁
      · cases h₁
      · exact ⟨s₁, h₁, rfl⟩
  | remote name e =>
    simp only [Simulation.step]
    split
    · exact hsame
    · exact .hub ((hrefl 0).perform _ e).opened
  | openFilters name | openAccess name =>
    simp only [Simulation.step, Simulation.opened]
    split
    · exact .hub (Nat.le_refl _)
    · exact .stay rfl (Nat.le_refl _) fun _ s' hs' ↦ ⟨s', hs', rfl⟩
  | filters name step =>
    simp only [Simulation.step]
    split
    · exact hsame
    · next k _ =>
      obtain ⟨a, k', g, _, he, -, hb⟩ := alike_filterStep k (hrefl 0) step
      simp only [he]
      exact .stay rfl hb.opened fun _ s' hs' ↦ ⟨s', hs', rfl⟩
  | offlineAccess name k => exact .stay rfl (Nat.le_refl _) fun _ s' hs' ↦ ⟨s', hs', rfl⟩
  | access name step =>
    simp only [Simulation.step]
    split
    · exact hsame
    · next c _ => exact .hub (alike_accessStep c (hrefl 0) step).opened
  | bracket c body =>
    exact .hub (alike_bracketStep (Nat.succ_ne_self _)
      (hrefl (w.hub.mailboxes.length + 1)) fuel c body).opened

omit [Callback κ] in
theorem length_finish (w : Simulation σ κ) :
    w.finish.hub.mailboxes.length = w.hub.mailboxes.length := by
  have key (es : List (String × Session κ)) (h : Hub σ κ) :
      (es.foldl (fun h e ↦ (e.2.close h).2.2) h).mailboxes.length = h.mailboxes.length := by
    induction es generalizing h with
    | nil => rfl
    | cons e es ih => rw [List.foldl_cons, ih, Session.close_hub]
  exact key _ _

theorem Reachable.registered {w : Simulation σ κ} (hw : w.Reachable) : w.Registered := by
  induction hw with
  | start l => exact ⟨nofun, nofun, nofun⟩
  | step fuel st _ ih => exact ih.turnover (turnover_step _ fuel st)
  | @finish w _ ih => exact ih.turnover (.stay rfl w.length_finish.ge nofun)

structure Ended (w : Simulation σ κ) (n : Nat) : Prop where
  opened : n < w.hub.mailboxes.length
  closed : ∀ name s, w.sessions.get? name = some s → s.mailbox = n → s.closed = true

omit [Line σ] [Callback κ] in
theorem Registered.name_of_mailbox {w : Simulation σ κ} (hw : w.Registered) {name name' : String}
    {s s' : Session κ} (hs : w.sessions.get? name = some s)
    (hs' : w.sessions.get? name' = some s') (hm : s'.mailbox = s.mailbox) : name' = name := by
  have hr := hw.remote name s hs
  have hr' := hw.remote name' s' hs'
  rw [Session.remote, hm] at hr'
  exact hw.apart name' name _ hr' hr

theorem Reachable.ended_of_closed {w : Simulation σ κ} (hw : w.Reachable) {name : String}
    {s : Session κ} (hs : w.sessions.get? name = some s) (hc : s.closed = true) :
    w.Ended s.mailbox where
  opened := hw.registered.opened name s.remote (hw.registered.remote name s hs)
  closed name' s' hs' hm := by
    cases hw.registered.name_of_mailbox hs hs' hm
    cases hs.symm.trans hs'
    exact hc

theorem Reachable.ended_of_drop {w : Simulation σ κ} (hw : w.Reachable) {name : String}
    {s : Session κ} (hs : w.sessions.get? name = some s) (fuel : Nat) :
    (w.step fuel (.drop name)).2.Ended s.mailbox := by
  have hopened := hw.registered.opened name s.remote (hw.registered.remote name s hs)
  simp only [Simulation.step, hs]
  refine ⟨?_, ?_⟩
  · rw [Session.close_hub]
    exact hopened
  · intro name' s' hs' hm
    rw [Directory.get?_erase] at hs'
    split at hs'
    · cases hs'
    · next hne => exact absurd (hw.registered.name_of_mailbox hs hs' hm).symm hne

/-- Whether a step asks something of the session with a mailbox. A remote that emits an event asks
nothing of its session. -/
def concerns (w : Simulation σ κ) (n : Nat) : Step κ → Bool
  | .session name _ | .drop name | .remote name (.request _) => w.remotes.get? name = some ⟨n⟩
  | _ => false

abbrev Program (κ : Type) := List (Nat × Step κ)

def run (w : Simulation σ κ) (p : Program κ) : Simulation σ κ :=
  p.foldl (fun w e ↦ (w.step e.1 e.2).2) w

theorem Reachable.run {w : Simulation σ κ} (hw : w.Reachable) (p : Program κ) :
    (w.run p).Reachable := by
  induction p generalizing w with
  | nil => exact hw
  | cons e p ih => exact ih (.step e.1 e.2 hw)

def answers (w : Simulation σ κ) : Program κ → List Answer
  | [] => []
  | (fuel, st) :: p => (w.step fuel st).1 :: answers (w.step fuel st).2 p

def answersBeside (n : Nat) (w : Simulation σ κ) : Program κ → List Answer
  | [] => []
  | (fuel, st) :: p =>
    let as := answersBeside n (w.step fuel st).2 p
    if w.concerns n st then as else (w.step fuel st).1 :: as

def without (n : Nat) (w : Simulation σ κ) : Program κ → Program κ
  | [] => []
  | (fuel, st) :: p =>
    let p := without n (w.step fuel st).2 p
    if w.concerns n st then p else (fuel, st) :: p

def Over (n : Nat) (o : Option (Session κ)) : Prop :=
  ∀ s, o = some s → s.mailbox = n ∧ s.closed = true

/-- Alike but for a mailbox and its session, which is over. -/
structure Beside (z : Hub.Aside) (w w' : Simulation σ κ) : Prop where
  hub : Hub.Beside z w.hub w'.hub
  remotes : w.remotes = w'.remotes
  keepers : w.keepers = w'.keepers
  accesses : w.accesses = w'.accesses
  ended : ∀ name, w.remotes.get? name = some ⟨z.mailbox⟩ →
    Over z.mailbox (w.sessions.get? name) ∧ Over z.mailbox (w'.sessions.get? name)
  others : ∀ name, w.remotes.get? name ≠ some ⟨z.mailbox⟩ →
    w.sessions.get? name = w'.sessions.get? name ∧
      ∀ s, w.sessions.get? name = some s → s.mailbox ≠ z.mailbox

def Alike (z : Hub.Aside) (x x' : Answer × Simulation σ κ) : Prop := x.1 = x'.1 ∧ Beside z x.2 x'.2

variable {z : Hub.Aside} {w w' : Simulation σ κ}

omit [Line σ] [Callback κ] in
theorem Ended.beside (hw : w.Registered) {n : Nat} (hn : w.Ended n) :
    Beside (w.hub.aside n) w w where
  hub := .refl w.hub n
  remotes := rfl
  keepers := rfl
  accesses := rfl
  ended name hr := by
    have hover : Over n (w.sessions.get? name) := by
      intro s hs
      have hm : s.mailbox = n := by
        have hremote := hw.remote name s hs
        rw [hr] at hremote
        exact (congrArg Remote.mailbox (Option.some.inj hremote)).symm
      exact ⟨hm, hn.closed name s hs hm⟩
    exact ⟨hover, hover⟩
  others name hr := by
    refine ⟨rfl, fun s hs hm ↦ hr ?_⟩
    rw [hw.remote name s hs, Session.remote, hm, Hub.aside]

omit [Line σ] [Callback κ] in
theorem Beside.withHub (hb : Beside z w w') {g g' : Hub σ κ} (hg : Hub.Beside z g g') :
    Beside z { w with hub := g } { w' with hub := g' } :=
  ⟨hg, hb.remotes, hb.keepers, hb.accesses, hb.ended, hb.others⟩

omit [Line σ] [Callback κ] in
theorem Beside.withEntry (hb : Beside z w w') {name : String}
    (hname : w.remotes.get? name ≠ some ⟨z.mailbox⟩) {o : Option (Session κ)}
    (ho : ∀ s, o = some s → s.mailbox ≠ z.mailbox) {d d' : Directory String (Session κ)}
    (hd : ∀ k, d.get? k = if name = k then o else w.sessions.get? k)
    (hd' : ∀ k, d'.get? k = if name = k then o else w'.sessions.get? k) :
    Beside z { w with sessions := d } { w' with sessions := d' } := by
  refine ⟨hb.hub, hb.remotes, hb.keepers, hb.accesses, ?_, ?_⟩
  · intro k hk
    have hne : name ≠ k := fun he ↦ hname (he ▸ hk)
    rw [hd, hd', if_neg hne, if_neg hne]
    exact hb.ended k hk
  · intro k hk
    rw [hd, hd']
    split
    · exact ⟨rfl, ho⟩
    · exact hb.others k hk

omit [Line σ] [Callback κ] in
theorem Beside.withEntry_left (hb : Beside z w w') {name : String}
    (hname : w.remotes.get? name = some ⟨z.mailbox⟩) {o : Option (Session κ)}
    (ho : Over z.mailbox o) {d : Directory String (Session κ)}
    (hd : ∀ k, d.get? k = if name = k then o else w.sessions.get? k) :
    Beside z { w with sessions := d } w' := by
  refine ⟨hb.hub, hb.remotes, hb.keepers, hb.accesses, ?_, ?_⟩
  · intro k hk
    rw [hd]
    split
    · exact ⟨ho, (hb.ended k hk).2⟩
    · exact hb.ended k hk
  · intro k hk
    have hne : name ≠ k := fun he ↦ hk (he ▸ hname)
    rw [hd, if_neg hne]
    exact hb.others k hk

omit [Callback κ] in
theorem hub_keep_of_over {n : Nat} {name : String} (ho : Over n (w.sessions.get? name))
    (s : Session κ) (h : Hub σ κ) : (w.keep name s h).hub = h := by
  unfold Simulation.keep
  cases hs : w.sessions.get? name with
  | none => rfl
  | some old => exact congrArg (·.2.2) (Session.close_of_closed (ho old hs).2 h)

omit [Callback κ] in
theorem Beside.keep (hb : Beside z w w') (name : String) {s : Session κ}
    (hs : s.mailbox ≠ z.mailbox) {g g' : Hub σ κ} (hg : Hub.Beside z g g') :
    Beside z (w.keep name s g) (w'.keep name s g') := by
  have hremote : s.remote ≠ ⟨z.mailbox⟩ := fun he ↦ hs (congrArg Remote.mailbox he)
  refine ⟨?_, ?_, hb.keepers, hb.accesses, ?_, ?_⟩
  · by_cases hname : w.remotes.get? name = some ⟨z.mailbox⟩
    · obtain ⟨ho, ho'⟩ := hb.ended name hname
      rw [hub_keep_of_over ho, hub_keep_of_over ho']
      exact hg
    · simp only [Simulation.keep, ← (hb.others name hname).1]
      cases w.sessions.get? name with
      | none => exact hg
      | some old =>
        obtain ⟨_, _, _, _, he, he', -, hk⟩ := old.alike_close hg
        simp only [he, he']
        exact hk
  · exact congrArg (fun d ↦ Directory.insert d name s.remote) hb.remotes
  · intro k hk
    simp only [Simulation.keep, Directory.get?_insert] at hk ⊢
    split at hk
    · exact absurd (Option.some.inj hk) hremote
    · next hne =>
      simp only [if_neg hne]
      exact hb.ended k hk
  · intro k hk
    simp only [Simulation.keep, Directory.get?_insert] at hk ⊢
    split
    · refine ⟨rfl, fun s' hs' ↦ ?_⟩
      cases hs'
      exact hs
    · next hne =>
      rw [if_neg hne] at hk
      exact hb.others k hk

/-- What concerns the session that is over changes nothing beside it. -/
theorem Beside.step_left (hb : Beside z w w') (fuel : Nat) {st : Step κ}
    (hc : w.concerns z.mailbox st = true) : Beside z (w.step fuel st).2 w' := by
  cases st with
  | session name step =>
    have hname : w.remotes.get? name = some ⟨z.mailbox⟩ := of_decide_eq_true hc
    simp only [Simulation.step]
    cases hs : w.sessions.get? name with
    | none => exact hb
    | some s =>
      obtain ⟨hm, hclosed⟩ := (hb.ended name hname).1 s hs
      obtain ⟨r, s', hr, names, rfl⟩ := Session.sessionStep_of_closed hclosed fuel w.hub step
      simp only [hr]
      refine hb.withEntry_left hname ?_ (fun k ↦ Directory.get?_insert ..)
      rintro _ ⟨⟩
      exact ⟨hm, hclosed⟩
  | drop name =>
    have hname : w.remotes.get? name = some ⟨z.mailbox⟩ := of_decide_eq_true hc
    simp only [Simulation.step]
    cases hs : w.sessions.get? name with
    | none => exact hb
    | some s =>
      obtain ⟨-, hclosed⟩ := (hb.ended name hname).1 s hs
      simp only [Session.close_of_closed hclosed]
      refine hb.withEntry_left hname ?_ (fun k ↦ Directory.get?_erase ..)
      rintro _ ⟨⟩
  | remote name e =>
    cases e with
    | request r =>
      have hname : w.remotes.get? name = some ⟨z.mailbox⟩ := of_decide_eq_true hc
      simp only [Simulation.step, hname, Hub.perform]
      refine ⟨hb.hub.post_left _, hb.remotes, hb.keepers, hb.accesses, hb.ended, hb.others⟩
    | emit => cases hc
  | bus | connect | offline | openFilters | filters | openAccess | offlineAccess | access
  | bracket => cases hc

/-- Any other step answers the same, and leaves the worlds as alike as they were. -/
theorem Beside.step (hz : z.mailbox < z.opened) (hb : Beside z w w') (fuel : Nat) {st : Step κ}
    (hc : w.concerns z.mailbox st = false) :
    Alike z (w.step fuel st) (w'.step fuel st) := by
  -- whoever comes now is given the next mailbox, which is not the one looked away from
  have hfresh : z.mailbox ≠ w.hub.mailboxes.length := (hz.trans_le hb.hub.opened).ne
  cases st with
  | bus b =>
    obtain ⟨a, g, g', he, he', hg⟩ := alike_busStep hb.hub b
    simp only [Simulation.step, he, he']
    exact ⟨rfl, hb.withHub hg⟩
  | session name step =>
    have hname : w.remotes.get? name ≠ some ⟨z.mailbox⟩ := of_decide_eq_false hc
    obtain ⟨heq, hmailbox⟩ := hb.others name hname
    simp only [Simulation.step, ← heq]
    cases hs : w.sessions.get? name with
    | none => exact ⟨rfl, hb⟩
    | some s =>
      have hst := alike_sessionStep (hmailbox s hs) hb.hub fuel step
      dsimp only
      cases hx : sessionStep fuel s w.hub step <;> cases hx' : sessionStep fuel s w'.hub step <;>
        rw [hx, hx'] at hst <;> cases hst
      · exact ⟨rfl, hb⟩
      · next hst =>
        obtain ⟨r, s', g, g', rfl, rfl, hs', hg⟩ := hst
        refine ⟨rfl, (hb.withHub hg).withEntry hname ?_ (fun k ↦ Directory.get?_insert ..)
          (fun k ↦ Directory.get?_insert ..)⟩
        rintro _ ⟨⟩
        exact hs' ▸ hmailbox s hs
  | connect name c =>
    obtain ⟨r, g, g', he, he', hg⟩ := Session.alike_connect hb.hub c
    simp only [Simulation.step, he, he']
    cases r with
    | error p => exact ⟨rfl, hb.withHub hg⟩
    | ok s =>
      exact ⟨rfl, hb.keep name ((Session.mailbox_of_connect he).1 ▸ hfresh.symm) hg⟩
  | offline name =>
    obtain ⟨k, g, g', he, he', hg⟩ := hb.hub.openMailbox
    have hk : k = w.hub.mailboxes.length := (congrArg Prod.fst he).symm
    simp only [Simulation.step, Session.offline, Session.withoutBus, he, he']
    exact ⟨rfl, hb.keep name (hk ▸ hfresh.symm) hg⟩
  | drop name =>
    have hname : w.remotes.get? name ≠ some ⟨z.mailbox⟩ := of_decide_eq_false hc
    simp only [Simulation.step, ← (hb.others name hname).1]
    cases hs : w.sessions.get? name with
    | none => exact ⟨rfl, hb⟩
    | some s =>
      obtain ⟨_, _, g, g', he, he', -, hg⟩ := s.alike_close hb.hub
      simp only [he, he']
      refine ⟨rfl, (hb.withHub hg).withEntry hname ?_ (fun k ↦ Directory.get?_erase ..)
        (fun k ↦ Directory.get?_erase ..)⟩
      rintro _ ⟨⟩
  | remote name e =>
    have hname : w'.remotes.get? name = w.remotes.get? name := by rw [hb.remotes]
    simp only [Simulation.step, hname]
    cases w.remotes.get? name with
    | none => exact ⟨rfl, hb⟩
    | some r => exact ⟨rfl, hb.withHub (hb.hub.perform _ e)⟩
  | openFilters name | openAccess name =>
    simp only [Simulation.step, Simulation.opened, ← hb.hub.line]
    rcases Line.reach w.hub.line networkPath with ⟨_ | _, l⟩
    · exact ⟨rfl, hb.withHub (hb.hub.withLine l)⟩
    · have hl := hb.withHub (hb.hub.withLine l)
      refine ⟨rfl, hl.hub, hl.remotes, ?_, ?_, hl.ended, hl.others⟩
      · simp only [hb.keepers]
      · simp only [hb.accesses]
  | filters name step =>
    have hname : w'.keepers.get? name = w.keepers.get? name := by rw [hb.keepers]
    simp only [Simulation.step, hname]
    cases w.keepers.get? name with
    | none => exact ⟨rfl, hb⟩
    | some k =>
      obtain ⟨a, k', g, g', he, he', hg⟩ := alike_filterStep k hb.hub step
      simp only [he, he']
      exact ⟨rfl, hg, hb.remotes, by simp only [hb.keepers], hb.accesses, hb.ended, hb.others⟩
  | offlineAccess name k =>
    exact ⟨rfl, hb.hub, hb.remotes, hb.keepers, by simp only [Simulation.step, hb.accesses],
      hb.ended, hb.others⟩
  | access name step =>
    have hname : w'.accesses.get? name = w.accesses.get? name := by rw [hb.accesses]
    simp only [Simulation.step, hname]
    cases w.accesses.get? name with
    | none => exact ⟨rfl, hb⟩
    | some c =>
      obtain ⟨a, g, g', he, he', hg⟩ := alike_accessStep c hb.hub step
      simp only [he, he']
      exact ⟨rfl, hb.withHub hg⟩
  | bracket c body =>
    obtain ⟨a, g, g', he, he', hg⟩ := alike_bracketStep hfresh hb.hub fuel c body
    simp only [Simulation.step, he, he']
    exact ⟨rfl, hb.withHub hg⟩

theorem Beside.run (hz : z.mailbox < z.opened) (hb : Beside z w w') (p : Program κ) :
    w.answersBeside z.mailbox p = w'.answers (w.without z.mailbox p) ∧
      Beside z (w.run p) (w'.run (w.without z.mailbox p)) := by
  induction p generalizing w w' with
  | nil => exact ⟨rfl, hb⟩
  | cons e p ih =>
    obtain ⟨fuel, st⟩ := e
    simp only [answersBeside, without]
    cases hc : w.concerns z.mailbox st with
    | true => exact ih (hb.step_left fuel hc)
    | false =>
      obtain ⟨ha, hb'⟩ := hb.step hz fuel hc
      obtain ⟨has, hrun⟩ := ih hb'
      exact ⟨congrArg₂ List.cons ha has, hrun⟩

omit [Line σ] [Callback κ] in
def SessionStep.asksMuch : SessionStep κ → Bool
  | .subscribe .. | .send .. | .sweep | .nodes | .read .. | .write .. | .loadScript _
  | .runQueued | .runBriefly | .run => true
  | .locate _ | .loadNames .. | .rate _ | .rates | .names _ | .close | .state => false

theorem answer_of_closed {name : String} {s : Session κ} (hs : w.sessions.get? name = some s)
    (hc : s.closed = true) (fuel : Nat) :
    (∀ st : SessionStep κ, st.asksMuch = true →
      (w.step fuel (.session name st)).1 = .problem .closedSession) ∧
    (w.step fuel (.session name .close)).1 = .nothing := by
  refine ⟨fun st hst ↦ ?_, ?_⟩
  · simp only [Simulation.step, hs]
    cases st with
    | locate | loadNames | rate | rates | names | close | state => cases hst
    | _ =>
      simp only [sessionStep, changed, unchanged, Session.subscribe, Session.send, Session.sweep,
        Session.nodes, Session.read, Session.write, Session.loadScript, Session.ask,
        Session.runQueued, Session.runBriefly, Session.run, Session.runLoop, hc, if_true,
        Option.bind_some]
      rfl
  · simp only [Simulation.step, hs, sessionStep, changed, Session.close_of_closed hc]
    rfl

/-- Once a session is over, leaving out all that is asked of it, directly or through its remotes,
leaves the bus with its journal, the other sessions with what is queued for them, the log of what
callbacks and other receivers were given, and the other answers as they are. Its callbacks are never
called again, and it remains closed: it refuses whatever concerns the bus or its loop, and closing
it again does nothing. -/
theorem closed_session_is_inert (hw : w.Reachable) {n : Nat} (hn : w.Ended n) (p : Program κ) :
    let all := w.run p
    let rest := w.run (w.without n p)
    w.answersBeside n p = w.answers (w.without n p) ∧
      (all.hub.line = rest.hub.line ∧ all.hub.log = rest.hub.log ∧
        all.hub.clock = rest.hub.clock ∧ ∀ k, k ≠ n → all.hub.queue k = rest.hub.queue k) ∧
      (all.remotes = rest.remotes ∧ all.keepers = rest.keepers ∧ all.accesses = rest.accesses ∧
        ∀ name, all.remotes.get? name ≠ some ⟨n⟩ →
          all.sessions.get? name = rest.sessions.get? name) ∧
      all.hub.calls n = w.hub.calls n ∧
      ∀ name s, all.sessions.get? name = some s → s.mailbox = n →
        s.closed = true ∧ ∀ fuel,
          (∀ st : SessionStep κ, st.asksMuch = true →
            (all.step fuel (.session name st)).1 = .problem .closedSession) ∧
          (all.step fuel (.session name .close)).1 = .nothing := by
  obtain ⟨hanswers, hb⟩ := (hn.beside hw.registered).run hn.opened p
  refine ⟨hanswers, ⟨hb.hub.line, hb.hub.log, hb.hub.clock, hb.hub.queue⟩,
    ⟨hb.remotes, hb.keepers, hb.accesses, fun name hname ↦ (hb.others name hname).1⟩,
    hb.hub.calls, ?_⟩
  intro name s hs hm
  have hclosed : s.closed = true := by
    by_cases hname : (w.run p).remotes.get? name = some ⟨n⟩
    · exact ((hb.ended name hname).1 s hs).2
    · exact absurd hm ((hb.others name hname).2 s hs)
  exact ⟨hclosed, answer_of_closed hs hclosed⟩

/-- A session is closed while the refusal of what it has sent is held back. It is told of the
refusal, and of events, when nobody reads its mailbox any more. -/
def closedEarly : Simulation (Bus ReplyTarget) Script :=
  (start .start).run
    [(0, .connect "early" .default),
     (0, .connect "late" { Settings.default with sweepFirst := false }),
     (0, .session "late" (.subscribe (.byId ⟨1⟩) ⟨"late", none, [], 0⟩)),
     (0, .bus (.setHolding true)),
     (0, .bus (.refuseMethod "SendEvent" (.unknownObject "/"))),
     (0, .session "early" (.send (.byId ⟨1⟩) [5])),
     (0, .session "early" .close)]

theorem closed_session_is_inert_of_closedEarly :
    let p : Program Script :=
      [(0, .bus .deliver), (0, .remote "early" (.request .stop)), (1, .session "early" .run),
       (0, .bus (.emit ⟨1⟩ "near" [7])), (0, .drop "early"), (1, .session "late" .runQueued)]
    let rest : Program Script :=
      [(0, .bus .deliver), (0, .bus (.emit ⟨1⟩ "near" [7])), (1, .session "late" .runQueued)]
    (closedEarly.run p).hub.line.journal = (closedEarly.run rest).hub.line.journal ∧
      ((closedEarly.run p).hub.queue 0).length = 2 ∧ (closedEarly.run p).hub.calls 0 = [] ∧
      (closedEarly.run p).hub.calls 1 = [(⟨1⟩, [7])] := by
  intro p rest
  have hw : closedEarly.Reachable := (Reachable.start _).run _
  obtain ⟨s, hs, hc, hm⟩ : ∃ s, closedEarly.sessions.get? "early" = some s ∧ s.closed = true ∧
      s.mailbox = 0 := ⟨_, rfl, rfl, rfl⟩
  obtain ⟨-, ⟨hline, -⟩, -, hcalls, -⟩ :=
    closed_session_is_inert hw (hm ▸ hw.ended_of_closed hs hc) p
  have hrest : closedEarly.without 0 p = rest := rfl
  rw [hrest] at hline
  exact ⟨congrArg Bus.journal hline, rfl, hcalls, rfl⟩

end Simulation

end RobotBus
