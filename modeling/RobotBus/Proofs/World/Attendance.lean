import Mathlib.Data.List.Induction
import RobotBus.Proofs.Session.Teardown
import RobotBus.Proofs.World.Crowd

namespace RobotBus

open Bus Hub

variable {κ : Type}

inductive Visit
  | came
  | left
deriving DecidableEq, Repr

def JournalEntry.visit? : JournalEntry → Option Visit
  | .connect _ => some .came
  | .disconnect => some .left
  | .reach _ | .call _ _ | .submit _ _ | .watch _ _ | .unwatch _ | .listChildren _ => none

namespace Bus

variable {ρ : Type} {b b' b'' : Bus ρ}

/-- The connections that were made and released, in order, since the journal was that of the first
bus. -/
def visits (b b' : Bus ρ) : List Visit :=
  (b'.journal.drop b.journal.length).filterMap JournalEntry.visit?

theorem visits_of_journal {js : List JournalEntry} (h : b'.journal = b.journal ++ js) :
    b.visits b' = js.filterMap JournalEntry.visit? := by
  rw [visits, h, List.drop_left]

structure Still (b b' : Bus ρ) : Prop where
  connected : b'.connected = b.connected
  journal : ∃ js, b'.journal = b.journal ++ js ∧ js.filterMap JournalEntry.visit? = []

theorem Still.refl (b : Bus ρ) : Still b b := ⟨rfl, [], (List.append_nil _).symm, rfl⟩

theorem Still.trans (h : Still b b') (h' : Still b' b'') : Still b b'' := by
  obtain ⟨js, hjs, hno⟩ := h.journal
  obtain ⟨js', hjs', hno'⟩ := h'.journal
  refine ⟨h'.connected.trans h.connected, js ++ js', ?_, ?_⟩
  · rw [hjs', hjs, List.append_assoc]
  · rw [List.filterMap_append, hno, hno', List.append_nil]

theorem Still.of_entry {e : JournalEntry} (he : e.visit? = none)
    (hc : b'.connected = b.connected) (hj : b'.journal = b.journal ++ [e]) : Still b b' :=
  ⟨hc, [e], hj, by rw [List.filterMap_cons_none he, List.filterMap_nil]⟩

theorem Still.visits (h : Still b b') : b.visits b' = [] := by
  obtain ⟨js, hjs, hno⟩ := h.journal
  rw [visits_of_journal hjs, hno]

theorem Served.connected {path interface method : String} {r : Reply}
    (h : Served b path interface method r b') : b'.connected = b.connected := by
  cases h <;> rfl

theorem still_call (b : Bus ρ) (path interface method : String) (args : List Value) :
    Still b (b.call path interface method args).2 :=
  .of_entry (e := .call path method) rfl
    (serve_served (b.note (.call path method)) path interface method args).connected
    (journal_call b path interface method args)

theorem still_submit (b : Bus ρ) (path interface method : String) (args : List Value)
    (target : ρ) : Still b (b.submit path interface method args target).2 := by
  refine .of_entry (e := .submit path method) rfl ?_
    (journal_submit b path interface method args target)
  have hserved :=
    (serve_served (b.note (.submit path method)) path interface method args).connected
  simp only [submit]
  split <;> exact hserved

theorem still_note (b : Bus ρ) {e : JournalEntry} (he : e.visit? = none) : Still b (b.note e) :=
  .of_entry he rfl rfl

theorem Sweeps.still {mayFree : Nat → Prop} (h : Sweeps mayFree b b') : Still b b' := by
  induction h with
  | nothing => exact .refl b
  | reach path _ ih => exact ih.trans (.of_entry (e := .reach path) rfl rfl rfl)
  | listChildren path _ ih => exact ih.trans (.of_entry (e := .listChildren path) rfl rfl rfl)
  | free n _ _ ih => exact ih.trans (still_call ..)

theorem still_furnished (b : Bus ReplyTarget) (mailbox : Nat) : Still b (b.furnished mailbox) := by
  have hmade : Still b (b.note (.call networkPath "CreateEventFilter")).addFilter.2 :=
    .of_entry (e := .call networkPath "CreateEventFilter") rfl rfl rfl
  have hreached := hmade.trans (still_note _ (e := .reach (pathOfFilter b.nextFilter)) rfl)
  exact hreached.trans (.of_entry (e := .watch (pathOfFilter b.nextFilter) eventSignal) rfl rfl rfl)

def Deed.Calm : Deed ρ → Prop
  | .connect _ | .disconnect => False
  | .reach _ | .call _ _ _ _ | .submit _ _ _ _ _ | .watch _ _ _ _ | .unwatch _ | .listChildren _
  | .addFilter | .addNode _ _ | .release | .setServing _ | .refuseConnections _ | .refuseMethod _ _
  | .clearRefusals | .setHolding _ | .clearJournal => True

theorem calm_after (b : Bus ρ) {d : Deed ρ} (hd : d.Calm) :
    (b.after d).connected = b.connected ∧ b.visits (b.after d) = [] := by
  have still (h : Still b (b.after d)) :
      (b.after d).connected = b.connected ∧ b.visits (b.after d) = [] :=
    ⟨h.connected, h.visits⟩
  cases d with
  | connect | disconnect => cases hd
  | call path interface method args => exact still (still_call ..)
  | submit path interface method args target => exact still (still_submit ..)
  | reach path => exact still (.of_entry (e := .reach path) rfl rfl rfl)
  | watch path interface signal listener =>
    exact still (.of_entry (e := .watch path signal) rfl rfl rfl)
  | unwatch token => exact still (.of_entry (e := .unwatch token) rfl rfl rfl)
  | listChildren path => exact still (.of_entry (e := .listChildren path) rfl rfl rfl)
  | clearJournal => exact ⟨rfl, by simp [after, clearJournal, visits]⟩
  | addFilter | addNode | release | setServing | refuseConnections | refuseMethod | clearRefusals
  | setHolding => exact still ⟨rfl, [], (List.append_nil _).symm, rfl⟩

end Bus

/-- A session holds its connection as long as it has something on the bus. -/
def Session.present (s : Session κ) : Bool := s.presence.isSome

/-- What can become of the mark, the visits and the number of those who are there. -/
inductive Turnout (b b' : Bus ReplyTarget) (n n' : Nat) : Prop
  | same (hc : b'.connected = b.connected) (hv : b.visits b' = []) (hn : n' = n)
  | joined (hc : b'.connected = true) (hv : b.visits b' = [.came]) (hn : n' = n + 1)
  | withdrawn (hc : b'.connected = false) (hv : b.visits b' = [.came, .left]) (hn : n' = n)
  | left (hc : b'.connected = false) (hv : b.visits b' = [.left]) (hn : n = n' + 1)

theorem Bus.Still.turnout {b b' : Bus ReplyTarget} (h : Still b b') (n : Nat) :
    Turnout b b' n n := .same h.connected h.visits rfl

namespace Situation

variable [Callback κ] {path : String} {token : Nat} {w w' : Situation κ} {os : List Occurrence}

theorem Stage.still (st : Stage path token w os w') :
    Still w.hub.line w'.hub.line ∨ w' = w.close := by
  cases st with
  | close => exact .inr rfl
  | names | again => exact .inl (.refl _)
  | sweep b hb => exact .inl hb.still
  | call method args => exact .inl (still_call ..)
  | send args =>
    left
    rw [(submit_extends w.hub _ _ _ args _).line]
    exact still_submit ..
  | refused id => exact .inl (still_call ..)
  | first id => exact .inl (still_call ..)
  | take m h hm => exact .inl ((queue_of_take hm).2.1 ▸ .refl _)
  | receive e h hm =>
    left
    rw [line_received, (queue_of_take hm).2.1]
    exact .refl _

theorem Stages.still (hl : w.session.Live path token) (h : Stages path token w os w') :
    Still w.hub.line w'.hub.line ∧ w'.session.Live path token ∨
      w'.session.closed = true ∧
        ∃ b, Still w.hub.line b ∧ w'.hub.line = b.dismantled path token := by
  induction h with
  | refl => exact .inl ⟨.refl _, hl⟩
  | step _ hl' st ih =>
    rcases ih with ⟨hstill, -⟩ | ⟨hc, -⟩
    · rcases st.live hl' with hlive | rfl
      · rcases st.still with hstage | rfl
        · exact .inl ⟨hstill.trans hstage, hlive⟩
        · have hopen := hlive.opened
          rw [Situation.close, Session.close_closed] at hopen
          cases hopen
      · exact .inr ⟨Session.close_closed _ _, _, hstill, line_close hl'⟩
    · rw [hl'.opened] at hc
      cases hc

end Situation

theorem Bus.Still.dismantled {b b' : Bus ReplyTarget} (h : Still b b') (path : String)
    (token : Nat) :
    (b'.dismantled path token).connected = false ∧
      b.visits (b'.dismantled path token) = [.left] := by
  obtain ⟨js, hjs, hno⟩ := h.journal
  refine ⟨rfl, ?_⟩
  have hjournal :
      (b'.dismantled path token).journal = b.journal ++ (js ++ farewell path token) := by
    rw [journal_dismantled, hjs, List.append_assoc]
  rw [visits_of_journal hjournal, List.filterMap_append, hno]
  rfl

theorem Presence.Enters.still {b b' : Bus ReplyTarget} {c : Settings} {mailbox : Nat}
    {r : Except Problem Presence} (h : Enters b c mailbox r b') :
    (∃ p, r = .ok p) ∧ Still b b' ∨
      (∃ e, r = .error e) ∧ ∃ b₁, Still b b₁ ∧ b' = b₁.disconnect := by
  have hreach : Still b (b.note (.reach networkPath)) := still_note b rfl
  have hswept := hreach.trans (sweepFirst_sweeps (b.note (.reach networkPath)) c).still
  cases h with
  | unreachable e => exact .inr ⟨⟨e, rfl⟩, _, hreach, rfl⟩
  | unswept e => exact .inr ⟨⟨e, rfl⟩, _, hswept, rfl⟩
  | unmade e f =>
    have hasked := hswept.trans (still_note _ (e := .call networkPath "CreateEventFilter") rfl)
    exact .inr ⟨⟨e, rfl⟩, _, hasked, rfl⟩
  | entered => exact .inl ⟨⟨_, rfl⟩, hswept.trans (still_furnished _ mailbox)⟩

namespace Session

variable {h h' : Hub (Bus ReplyTarget) κ} {s : Session κ} {c : Settings}

theorem present_of_offline (hoff : c.offline = true) (hc : connect h c = (.ok s, h')) :
    s.present = false := by
  unfold connect at hc
  cases hcheck : c.check with
  | error e => simp [hcheck] at hc
  | ok u =>
    simp only [hcheck, hoff, if_true] at hc
    cases hc
    rfl

theorem turnout_connect {r : Except Problem (Session κ)} (hc : connect h c = (r, h'))
    (ss : List (Session κ)) :
    Turnout h.line h'.line (ss.countP present) ((r.toOption.toList ++ ss).countP present) := by
  have hconnects := connect_connects h c
  rw [hc] at hconnects
  -- whatever follows the connection in the journal, the first visit is somebody coming
  have hcame {b : Bus ReplyTarget} {js : List JournalEntry}
      (hj : b.journal = (connected h.line c).journal ++ js) :
      h.line.visits b = .came :: js.filterMap JournalEntry.visit? := by
    have hjournal : b.journal = h.line.journal ++ (.connect c.scope :: js) := by
      rw [hj, connected, journal_note, List.append_assoc]
      rfl
    exact visits_of_journal hjournal
  cases hconnects with
  | unsettled | refused => exact (Still.refl _).turnout _
  | offline s hoff =>
    have hpresent : ¬s.present = true := by
      rw [present_of_offline hoff hc]
      decide
    exact .same rfl (Still.refl h.line).visits (List.countP_cons_of_neg hpresent)
  | withdrawn e b _ _ hb =>
    rcases hb.still with ⟨⟨p, hp⟩, -⟩ | ⟨-, b₁, hstill, rfl⟩
    · cases hp
    · obtain ⟨js, hjs, hno⟩ := hstill.journal
      refine .withdrawn rfl ?_ rfl
      have hjournal : b₁.disconnect.journal =
          (connected h.line c).journal ++ (js ++ [.disconnect]) := by
        rw [disconnect, journal_note, hjs, List.append_assoc]
      rw [hcame hjournal, List.filterMap_append, hno]
      rfl
  | joined p b _ _ hb =>
    rcases hb.still with ⟨-, hstill⟩ | ⟨⟨e, he⟩, -⟩
    · obtain ⟨js, hjs, hno⟩ := hstill.journal
      refine .joined hstill.connected ?_ (List.countP_cons_of_pos rfl)
      exact (hcame hjs).trans (congrArg _ hno)
    · cases he

end Session

/-- An act of somebody else: it touches the mailbox of no session, and makes and releases no
connection. -/
structure Hub.Act.Aside (h : Hub (Bus ReplyTarget) κ) (a : Act κ) : Prop where
  confined : a.Confined (fun _ ↦ False) (fun _ ↦ True)
  opened : a.Opened h
  calm : ∀ d, a.deed? = some d → d.Calm

inductive Attendance [Callback κ] :
    Hub (Bus ReplyTarget) κ → List (Session κ) → List Visit → Prop
  | start : Attendance (.start .start) [] []
  | connect {h h' : Hub (Bus ReplyTarget) κ} {r : Except Problem (Session κ)}
      {ss : List (Session κ)} {vs : List Visit} (c : Settings) (hw : Attendance h ss vs)
      (hc : Session.connect h c = (r, h')) :
      Attendance h' (r.toOption.toList ++ ss) (vs ++ h.line.visits h'.line)
  | offline {h : Hub (Bus ReplyTarget) κ} {ss : List (Session κ)} {vs : List Visit}
      (hw : Attendance h ss vs) :
      Attendance (Session.offline h).2 ((Session.offline h).1 :: ss) vs
  | move {h : Hub (Bus ReplyTarget) κ} {s : Session κ} {ss : List (Session κ)} {vs : List Visit}
      (m : Move κ) (hm : m.Own) (hw : Attendance h (s :: ss) vs) :
      Attendance (Situation.after ⟨s, h⟩ m).hub ((Situation.after ⟨s, h⟩ m).session :: ss)
        (vs ++ h.line.visits (Situation.after ⟨s, h⟩ m).hub.line)
  | other {h : Hub (Bus ReplyTarget) κ} {ss : List (Session κ)} {vs : List Visit} (a : Act κ)
      (ha : a.Aside h) (hw : Attendance h ss vs) :
      Attendance (h.after a) ss (vs ++ h.line.visits (h.after a).line)
  | perm {h : Hub (Bus ReplyTarget) κ} {ss ss' : List (Session κ)} {vs : List Visit}
      (hp : ss.Perm ss') (hw : Attendance h ss vs) : Attendance h ss' vs

theorem Situation.turnout_after [Callback κ] {w : Situation κ} (hr : w.hub.Reachable)
    (hlt : w.session.mailbox < w.hub.mailboxes.length) (hw : w.session.Placed w.hub) {m : Move κ}
    (hm : m.Own) (ss : List (Session κ)) :
    Turnout w.hub.line (w.after m).hub.line ((w.session :: ss).countP Session.present)
      (((w.after m).session :: ss).countP Session.present) := by
  obtain ⟨hplaced, -⟩ := placed_after hr hlt hw hm
  cases hw with
  | closed hc hp =>
    obtain ⟨names, hafter⟩ := names_after_of_closed hc m hm
    rw [hafter]
    exact (Still.refl w.hub.line).turnout _
  | offline hoff =>
    have hstay := staysOffline_after hoff hlt hm
    rw [hstay.line_eq, List.countP_cons, List.countP_cons]
    have hbefore : w.session.present = false := by
      rw [Session.present, hoff.presence]
      rfl
    have hafter : (w.after m).session.present = false := by
      rw [Session.present, hstay.session.presence]
      rfl
    rw [hbefore, hafter]
    exact (Still.refl w.hub.line).turnout _
  | live n token hl =>
    have present_of_live {s : Session κ} (hs : s.Live (pathOfFilter n) token) :
        s.present = true := by
      obtain ⟨ids, hp⟩ := hs.presence
      rw [Session.present, hp]
      rfl
    rw [List.countP_cons_of_pos (present_of_live hl)]
    rcases (stages_after hl m hm).still hl with ⟨hstill, hlive⟩ | ⟨hc, b, hstill, hline⟩
    · rw [List.countP_cons_of_pos (present_of_live hlive)]
      exact hstill.turnout _
    · have hgone : ¬(w.after m).session.present = true := by
        cases hplaced with
        | closed _ hp => rw [Session.present, hp]; decide
        | offline hoff => rw [Session.present, hoff.presence]; decide
        | live k t hlive => cases hlive.opened.symm.trans hc
      obtain ⟨hconnected, hvisits⟩ := hstill.dismantled (pathOfFilter n) token
      rw [List.countP_cons_of_neg hgone, hline]
      exact .left hconnected hvisits rfl

namespace Attendance

/-- What the mark and the visits tell about the number of those who are there. -/
structure Tally (b : Bus ReplyTarget) (n : Nat) (vs : List Visit) : Prop where
  connected : b.connected = true ↔ vs.getLast? = some .came
  count : vs.count .came = vs.count .left + n
  manned : b.connected = true → 0 < n

theorem Tally.turnout {b b' : Bus ReplyTarget} {n n' : Nat} {vs : List Visit} (h : Tally b n vs)
    (ht : Turnout b b' n n') : Tally b' n' (vs ++ b.visits b') := by
  cases ht with
  | same hc hv hn =>
    rw [hv, hn, List.append_nil]
    exact ⟨hc ▸ h.connected, h.count, hc ▸ h.manned⟩
  | joined hc hv hn =>
    have hcount := h.count
    refine ⟨?_, ?_, fun _ ↦ ?_⟩
    · simp [hc, hv]
    · simp [hv]
      omega
    · omega
  | withdrawn hc hv hn =>
    have hcount := h.count
    refine ⟨?_, ?_, fun hno ↦ ?_⟩
    · simp [hc, hv]
    · simp [hv]
      omega
    · rw [hc] at hno
      cases hno
  | left hc hv hn =>
    have hcount := h.count
    refine ⟨?_, ?_, fun hno ↦ ?_⟩
    · simp [hc, hv]
    · simp [hv]
      omega
    · rw [hc] at hno
      cases hno

/-- Unless somebody came right after somebody else, at most the last who came has not left. -/
theorem count_of_alternating {vs : List Visit} (h : ¬[.came, .came] <:+: vs) :
    vs.count .came ≤ vs.count .left + 1 ∧
      (vs.getLast? ≠ some .came → vs.count .came ≤ vs.count .left) := by
  induction vs using List.reverseRecOn with
  | nil => exact ⟨Nat.zero_le _, fun _ ↦ Nat.le_refl _⟩
  | append_singleton vs v ih =>
    obtain ⟨hmost, hlast⟩ := ih fun hin ↦ h (hin.trans (List.prefix_append vs [v]).isInfix)
    cases v with
    | left =>
      have hcame : (vs ++ [Visit.left]).count .came = vs.count .came := by simp
      have hleft : (vs ++ [Visit.left]).count .left = vs.count .left + 1 := by simp
      rw [hcame, hleft]
      exact ⟨hmost.trans (Nat.le_succ _), fun _ ↦ hmost⟩
    | came =>
      have hbefore : vs.getLast? ≠ some .came := by
        intro hcame
        obtain ⟨us, rfl⟩ := List.getLast?_eq_some_iff.mp hcame
        exact h ⟨us, [], by simp⟩
      have hcame : (vs ++ [Visit.came]).count .came = vs.count .came + 1 := by simp
      have hleft : (vs ++ [Visit.came]).count .left = vs.count .left := by simp
      rw [hcame, hleft]
      exact ⟨Nat.succ_le_succ (hlast hbefore), fun hno ↦ absurd List.getLast?_concat hno⟩

theorem Tally.connected_iff {b : Bus ReplyTarget} {n : Nat} {vs : List Visit} (h : Tally b n vs) :
    (b.connected = true ↔ 0 < n) ↔ (vs.getLast? = some .left → n = 0) := by
  have hcount := h.count
  rw [h.connected]
  cases hlast : vs.getLast? with
  | none =>
    rw [List.getLast?_eq_none_iff.mp hlast] at hcount
    have hn : n = 0 := by simpa using hcount.symm
    simp [hn]
  | some v =>
    cases v with
    | left => simp [Nat.pos_iff_ne_zero]
    | came => simp [h.manned (h.connected.mpr hlast)]

variable [Callback κ] {h : Hub (Bus ReplyTarget) κ} {ss : List (Session κ)} {vs : List Visit}

theorem sound (hw : Attendance h ss vs) : Crowd.Sound h ss := by
  induction hw with
  | start => exact ⟨.start, List.forall_mem_nil _, List.forall_mem_nil _, .nil⟩
  | @connect h h' r ss vs c _ hc ih =>
    cases r with
    | error e => exact ih.connected c _ (congrArg Prod.snd hc)
    | ok s => exact ih.connect hc
  | offline _ ih => exact ih.offline
  | move m hm _ ih => exact ih.move hm
  | other a ha _ ih => exact ih.others (Via.refl.after ha.confined ha.opened)
  | perm hp _ ih => exact ih.perm hp

theorem tally (hw : Attendance h ss vs) : Tally h.line (ss.countP Session.present) vs := by
  induction hw with
  | start => exact ⟨by simp [Hub.start, Bus.start], rfl, by simp [Hub.start, Bus.start]⟩
  | connect c _ hc ih => exact ih.turnout (Session.turnout_connect hc _)
  | offline _ ih => exact ih
  | @move h s ss vs m hm hw ih =>
    have hsound := hw.sound
    exact ih.turnout (Situation.turnout_after (w := ⟨s, h⟩) hsound.reachable
      (hsound.mailbox_lt s List.mem_cons_self) (hsound.placed s List.mem_cons_self) hm ss)
  | @other h ss vs a ha _ ih =>
    refine ih.turnout ?_
    rw [line_after]
    cases hd : a.deed? with
    | none => exact (Still.refl h.line).turnout _
    | some d =>
      obtain ⟨hc, hv⟩ := calm_after h.line (ha.calm d hd)
      exact .same hc hv rfl
  | perm hp _ ih => exact hp.countP_eq _ ▸ ih

/-- The mark of a bus tells whether the last visit was somebody coming. Those who are there are
those who came and have not left. Somebody is there if the mark is set, and nobody if it is not,
unless the last who left has left somebody else behind; that takes somebody who came right after
another. -/
theorem connected_iff_last_came (hw : Attendance h ss vs) :
    (h.line.connected = true ↔ vs.getLast? = some .came) ∧
      vs.count .came = vs.count .left + ss.countP Session.present ∧
      (h.line.connected = true → ∃ s ∈ ss, s.present = true) ∧
      ((h.line.connected = true ↔ ∃ s ∈ ss, s.present = true) ↔
        (vs.getLast? = some .left → ∀ s ∈ ss, s.present = false)) ∧
      (¬[.came, .came] <:+: vs → (h.line.connected = true ↔ ∃ s ∈ ss, s.present = true)) := by
  have htally := hw.tally
  have hsome : 0 < ss.countP Session.present ↔ ∃ s ∈ ss, s.present = true := List.countP_pos_iff
  have hnone : ss.countP Session.present = 0 ↔ ∀ s ∈ ss, s.present = false := by
    simp [List.countP_eq_zero]
  have htells := htally.connected_iff
  refine ⟨htally.connected, htally.count, fun hc ↦ hsome.mp (htally.manned hc), ?_, ?_⟩
  · rw [← hsome, ← hnone]
    exact htells
  · intro hapart
    rw [← hsome, htells]
    intro hleft
    have hle := (count_of_alternating hapart).2 (by rw [hleft]; decide)
    have hcount := htally.count
    omega

omit [Callback κ] in
theorem own_close (time : Nat) : (Move.step time .close : Move κ).Own := by
  rintro a ⟨⟩

theorem attendance_first : Attendance (Session.firstHub : Hub (Bus ReplyTarget) κ) [Session.first]
    [.came] :=
  .connect .default .start Session.connect_first

theorem connected_iff_last_came_of_return :
    ∃ (h : Hub (Bus ReplyTarget) Fuse) (ss : List (Session Fuse)),
      Attendance h ss [.came, .left, .came] ∧ ss.countP Session.present = 1 ∧
      (h.line.connected = true ↔ ∃ s ∈ ss, s.present = true) := by
  have hgone : Attendance _ _ [.came, .left] :=
    .move (κ := Fuse) (.step 0 .close) (own_close 0) attendance_first
  have hback : Attendance _ _ [.came, .left, .came] := .connect .default hgone rfl
  obtain ⟨-, hcount, -, -, hright⟩ := connected_iff_last_came hback
  exact ⟨_, _, hback, Nat.add_left_cancel hcount.symm, hright (by decide)⟩

def second : Session Fuse :=
  .fresh 1 { Settings.default with sweepFirst := false }
    (some ⟨⟨some (pathOfFilter 1), .empty⟩, some 1⟩)

def secondHub : Hub (Bus ReplyTarget) Fuse :=
  (Session.connect Session.firstHub { Settings.default with sweepFirst := false }).2

def fullHub : Hub (Bus ReplyTarget) Fuse :=
  Session.firstHub.after (.bus (.refuseMethod "CreateEventFilter" ⟨"no", "more"⟩))

/-- The first session stays, while a second one comes and closes, or gets no filter. -/
theorem unmarked_while_present :
    let closed := Situation.after ⟨second, secondHub⟩ (.step 0 .close)
    let failed := (Session.connect fullHub .default).2
    Attendance closed.hub [closed.session, Session.first] [.came, .came, .left] ∧
      Attendance failed [Session.first] [.came, .came, .left] ∧
      (Session.first : Session Fuse).present = true ∧
      closed.hub.line.connected = false ∧ failed.line.connected = false := by
  intro closed failed
  have hsecond : Attendance secondHub [second, Session.first] [.came, .came] :=
    .connect { Settings.default with sweepFirst := false } attendance_first rfl
  have hfull : Attendance fullHub [Session.first] [.came] :=
    .other (.bus (.refuseMethod "CreateEventFilter" ⟨"no", "more"⟩))
      ⟨trivial, trivial, by rintro d ⟨⟩; trivial⟩ attendance_first
  exact ⟨.move (.step 0 .close) (own_close 0) hsecond, .connect .default hfull rfl, rfl, rfl, rfl⟩

end Attendance

end RobotBus
