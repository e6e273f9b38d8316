import RobotBus.Callback.Script
import RobotBus.Proofs.Session.Connecting
import RobotBus.Proofs.Session.Stage

namespace RobotBus

open Bus

variable {κ : Type}

def farewell (path : String) (token : Nat) : List JournalEntry :=
  [.unwatch token, .call path "Free", .disconnect]

def Quiet (path : String) (token : Nat) (js : List JournalEntry) : Prop :=
  ∀ e ∈ farewell path token, e ∉ js

theorem quiet_nil (path : String) (token : Nat) : Quiet path token [] := fun _ _ h ↦ nomatch h

theorem Quiet.append {path : String} {token : Nat} {js js' : List JournalEntry}
    (h : Quiet path token js) (h' : Quiet path token js') : Quiet path token (js ++ js') :=
  fun e he hmem ↦ (List.mem_append.mp hmem).elim (h e he) (h' e he)

theorem quiet_singleton {path : String} {token : Nat} {e : JournalEntry}
    (he : e ∉ farewell path token) : Quiet path token [e] :=
  fun _ he' hmem ↦ he (List.mem_singleton.mp hmem ▸ he')

theorem Bus.SweepEntry.quiet {mayFree : Nat → Prop} {path : String} {token : Nat}
    {js : List JournalEntry} (hm : ∀ n, mayFree n → path ≠ pathOfFilter n)
    (hjs : ∀ e ∈ js, SweepEntry mayFree e) : Quiet path token js := by
  intro e he hmem
  cases hjs e hmem with
  | reach | listChildren => simp [farewell] at he
  | free n hn =>
    have hne := hm n hn
    simp only [farewell, List.mem_cons, reduceCtorEq, JournalEntry.call.injEq, and_true,
      List.not_mem_nil, or_false, false_or] at he
    exact hne he.symm

def Bus.dismantled (b : Bus ReplyTarget) (path : String) (token : Nat) : Bus ReplyTarget :=
  ((b.unwatch token).call path filterInterface "Free" []).2.disconnect

theorem Bus.journal_dismantled (b : Bus ReplyTarget) (path : String) (token : Nat) :
    (b.dismantled path token).journal = b.journal ++ farewell path token := by
  have hd (b : Bus ReplyTarget) : b.disconnect.journal = b.journal ++ [.disconnect] := rfl
  have hu : (b.unwatch token).journal = b.journal ++ [.unwatch token] := rfl
  simp [dismantled, hd, journal_call, hu, farewell]

theorem Bus.get?_watches_dismantled (b : Bus ReplyTarget) (path : String) (token : Nat) :
    (b.dismantled path token).watches.get? token = none := by
  have hw := (serve_served ((b.unwatch token).note (.call path "Free")) path filterInterface
    "Free" []).watches.1
  have hd : (b.dismantled path token).watches = (b.unwatch token).watches := hw
  rw [hd]
  simp [unwatch]

namespace Situation

variable [Callback κ] {path : String} {token : Nat} {w w' : Situation κ} {os : List Occurrence}

theorem Stage.journal (st : Stage path token w os w') :
    (∃ js, w'.hub.line.journal = w.hub.line.journal ++ js ∧ Quiet path token js) ∨
      w' = w.close := by
  have single {e : JournalEntry} (he : e ∉ farewell path token)
      (h : w'.hub.line.journal = w.hub.line.journal ++ [e]) :
      ∃ js, w'.hub.line.journal = w.hub.line.journal ++ js ∧ Quiet path token js :=
    ⟨[e], h, quiet_singleton he⟩
  have none (h : w'.hub.line = w.hub.line) :
      ∃ js, w'.hub.line.journal = w.hub.line.journal ++ js ∧ Quiet path token js :=
    ⟨[], by rw [h, List.append_nil], quiet_nil path token⟩
  cases st with
  | close => exact .inr rfl
  | names | again => exact .inl (none rfl)
  | sweep b hb =>
    obtain ⟨js, hjs, hall⟩ := hb.journal
    exact .inl ⟨js, hjs, SweepEntry.quiet (fun _ hn ↦ hn) hall⟩
  | call method args hm =>
    exact .inl (single (by simp [farewell, hm]) (journal_call _ _ _ method args))
  | send args =>
    refine .inl (single (e := .submit networkPath "SendEvent") (by simp [farewell]) ?_)
    rw [(Hub.submit_extends w.hub _ _ _ args _).line]
    exact journal_submit ..
  | refused id =>
    exact .inl (single (e := .call path "ListenEvent") (by simp [farewell]) (journal_call ..))
  | first id =>
    exact .inl (single (e := .call path "ListenEvent") (by simp [farewell]) (journal_call ..))
  | take m h hm => exact .inl (none (Hub.queue_of_take hm).2.1)
  | receive e h hm => exact .inl (none ((line_received w h e).trans (Hub.queue_of_take hm).2.1))

theorem Stages.quiet (h : Stages path token w os w') (hl : w'.session.Live path token) :
    ∃ js, w'.hub.line.journal = w.hub.line.journal ++ js ∧ Quiet path token js := by
  induction h with
  | refl => exact ⟨[], (List.append_nil _).symm, quiet_nil path token⟩
  | step h hl' st ih =>
    obtain ⟨js, hjs, hq⟩ := ih hl'
    rcases st.journal with ⟨js', hjs', hq'⟩ | rfl
    · exact ⟨js ++ js', by rw [hjs', hjs, List.append_assoc], hq.append hq'⟩
    · have hopen := hl.opened
      rw [Situation.close, Session.close_closed] at hopen
      cases hopen

/-- A session that stages have closed was closed by the last of them. -/
theorem Stages.dismantled (hl : w.session.Live path token) (h : Stages path token w os w')
    (hc : w'.session.closed = true) :
    ∃ (b : Bus ReplyTarget) (js : List JournalEntry), b.journal = w.hub.line.journal ++ js ∧
      Quiet path token js ∧ w'.hub.line = b.dismantled path token := by
  cases h with
  | refl =>
    rw [hl.opened] at hc
    cases hc
  | @step _ _ w'' _ h hl' st =>
    rcases st.live hl' with hl'' | rfl
    · rw [hl''.opened] at hc
      cases hc
    · obtain ⟨js, hjs, hq⟩ := h.quiet hl'
      exact ⟨w''.hub.line, js, hjs, hq, line_close hl'⟩

def entries (w : Situation κ) : Move κ → List JournalEntry
  | .other _ => []
  | m => (w.after m).hub.line.journal.drop w.hub.line.journal.length

def diary (w : Situation κ) : List (Move κ) → List JournalEntry
  | [] => []
  | m :: ms => w.entries m ++ diary (w.after m) ms

theorem entries_of_journal {m : Move κ} (hm : m.Own) {js : List JournalEntry}
    (h : (w.after m).hub.line.journal = w.hub.line.journal ++ js) : w.entries m = js := by
  cases m with
  | other a => exact absurd rfl (hm a)
  | step | turn | drop | conclude => rw [entries, h, List.drop_left]; all_goals exact hm

theorem diary_of_closed (hc : w.session.closed = true) (ms : List (Move κ)) :
    (w.run ms).session.closed = true ∧ w.diary ms = [] := by
  induction ms generalizing w with
  | nil => exact ⟨hc, rfl⟩
  | cons m ms ih =>
    rw [run, List.foldl_cons, diary]
    rcases m.own_or_other with hm | ⟨a, rfl⟩
    · obtain ⟨hhub, hc', -⟩ := after_of_closed hc m hm
      obtain ⟨hrun, hd⟩ := ih hc'
      have hsame : (w.after m).hub.line.journal = w.hub.line.journal ++ [] := by
        rw [hhub, List.append_nil]
      rw [hd, entries_of_journal hm hsame]
      exact ⟨hrun, rfl⟩
    · exact ih (w := w.after (.other a)) hc

/-- A run is quiet while the session is live, and has the end as its last words. -/
theorem diary_of_live (hl : w.session.Live path token) (ms : List (Move κ)) :
    (w.run ms).session.Live path token ∧ Quiet path token (w.diary ms) ∨
      (w.run ms).session.closed = true ∧
        ∃ js, w.diary ms = js ++ farewell path token ∧ Quiet path token js := by
  induction ms generalizing w with
  | nil => exact .inl ⟨hl, quiet_nil path token⟩
  | cons m ms ih =>
    rw [run, List.foldl_cons, diary]
    rcases m.own_or_other with hm | ⟨a, rfl⟩
    · have hs := stages_after hl m hm
      rcases hs.live hl with hl' | hc
      · obtain ⟨js, hjs, hq⟩ := hs.quiet hl'
        rw [entries_of_journal hm hjs]
        rcases ih hl' with ⟨hrun, hq'⟩ | ⟨hrun, js', hjs', hq'⟩
        · exact .inl ⟨hrun, hq.append hq'⟩
        · exact .inr ⟨hrun, js ++ js', by rw [hjs', List.append_assoc], hq.append hq'⟩
      · obtain ⟨b, js, hjs, hq, hline⟩ := hs.dismantled hl hc
        have hjournal : (w.after m).hub.line.journal =
            w.hub.line.journal ++ (js ++ farewell path token) := by
          rw [hline, journal_dismantled, hjs, List.append_assoc]
        obtain ⟨hrun, hd⟩ := diary_of_closed hc ms
        rw [entries_of_journal hm hjournal, hd, List.append_nil]
        exact .inr ⟨hrun, js, rfl, hq⟩
    · exact ih (w := w.after (.other a)) hl

theorem leads_after (h : w.session.Live path token ∨ w.session.closed = true) (m : Move κ) :
    Leads w.hub.line (w.after m).hub.line := by
  rcases m.own_or_other with hm | ⟨a, rfl⟩
  · rcases h with hl | hc
    · exact (stages_after hl m hm).leads
    · rw [(after_of_closed hc m hm).1]
      exact .refl
  · simp only [after, Hub.line_after]
    cases a.deed? with
    | none => exact .refl
    | some d => exact .after d .refl

theorem leads_run (h : w.session.Live path token ∨ w.session.closed = true)
    (ms : List (Move κ)) : Leads w.hub.line (w.run ms).hub.line := by
  induction ms generalizing w with
  | nil => exact .refl
  | cons m ms ih =>
    refine (leads_after h m).trans (ih ?_)
    rcases m.own_or_other with hm | ⟨a, rfl⟩
    · rcases h with hl | hc
      · exact (stages_after hl m hm).live hl
      · exact .inr (after_of_closed hc m hm).2.1
    · exact h

theorem get?_watches_run (hl : w.session.Live path token) (ht : token < w.hub.line.nextToken)
    (ms : List (Move κ)) (hc : (w.run ms).session.closed = true) :
    (w.run ms).hub.line.watches.get? token = none := by
  induction ms generalizing w with
  | nil =>
    rw [show (w.run []).session.closed = false from hl.opened] at hc
    cases hc
  | cons m ms ih =>
    have ht' := Nat.lt_of_lt_of_le ht (leads_after (.inl hl) m).nextToken_le
    rcases m.own_or_other with hm | ⟨a, rfl⟩
    · have hs := stages_after hl m hm
      rcases hs.live hl with hl' | hc'
      · exact ih hl' ht' hc
      · obtain ⟨b, js, -, -, hline⟩ := hs.dismantled hl hc'
        refine (leads_run (hs.live hl) ms).get?_watches_eq_none ht' ?_
        rw [hline]
        exact get?_watches_dismantled b path token
    · exact ih (w := w.after (.other a)) hl ht' hc

/-- The move that ends a session does nothing to the bus after the end, and a filter that it has
freed is gone for good. -/
theorem dismantled_after {n : Nat} (hl : w.session.Live (pathOfFilter n) token)
    (hn : n < w.hub.line.nextFilter) {m : Move κ} (hc : (w.after m).session.closed = true) :
    ∃ (b : Bus ReplyTarget) (js : List JournalEntry), b.journal = w.hub.line.journal ++ js ∧
      Quiet (pathOfFilter n) token js ∧
      (w.after m).hub.line = b.dismantled (pathOfFilter n) token ∧
      (w.after m).hub.line.journal =
        w.hub.line.journal ++ js ++ farewell (pathOfFilter n) token ∧
      ∀ vs, ((b.unwatch token).call (pathOfFilter n) filterInterface "Free" []).1 = .ok vs →
        ∀ ms, pathOfFilter n ∉ ((w.after m).run ms).hub.line.livePaths := by
  rcases m.own_or_other with hm | ⟨a, rfl⟩
  · have hs := stages_after hl m hm
    obtain ⟨b, js, hjs, hq, hline⟩ := hs.dismantled hl hc
    refine ⟨b, js, hjs, hq, hline, ?_, ?_⟩
    · rw [hline, journal_dismantled, hjs]
    · intro vs hvs ms
      have hgone : (w.after m).hub.line.filters.get? n = none := by
        rw [hline]
        exact get?_filters_of_free hvs
      have hlt := Nat.lt_of_lt_of_le hn (leads_after (.inl hl) m).nextFilter_le
      rw [mem_livePaths_iff, not_not]
      exact (leads_run (hs.live hl) ms).get?_filters_eq_none hlt hgone
  · exact absurd (hl.opened.symm.trans hc) (by decide)

inductive Ends (w : Situation κ) : Move κ → Prop
  | close (fuel : Nat) : Ends w (.step fuel .close)
  | drop : Ends w .drop
  | conclude (result : Except Problem Unit) : Ends w (.conclude result)
  | stop (h : Hub (Bus ReplyTarget) κ)
      (ht : w.hub.take w.session.mailbox = some (.request .stop, h)) : Ends w .turn
  | fault (p : Problem) (h : Hub (Bus ReplyTarget) κ)
      (ht : w.hub.take w.session.mailbox = some (.problem p, h)) : Ends w .turn
  | panic (e : Event) (h : Hub (Bus ReplyTarget) κ) (sub : Subscription κ) (p : Panic)
      (ht : w.hub.take w.session.mailbox = some (.event e, h))
      (hsub : w.session.router.subscriptions.entries.get? e.id = some sub)
      (hp : (Callback.react sub.callback e.values).panic = some p)
      (hpolicy : w.session.router.policy = .abort) : Ends w .turn

theorem turn_of_take (hl : w.session.Live path token) {m : Message κ}
    {h : Hub (Bus ReplyTarget) κ} (ht : w.hub.take w.session.mailbox = some (m, h)) :
    w.turn = ⟨(w.session.handle h m).2.1, (w.session.handle h m).2.2⟩ := by
  simp [turn, hl.opened, ht]

theorem Ends.closes {m : Move κ} (h : w.Ends m) (hl : w.session.Live path token) :
    (w.after m).session.closed = true := by
  cases h with
  | close | drop | conclude => exact Session.close_closed _ _
  | stop h ht =>
    rw [after, turn_of_take hl ht]
    apply (Session.handle_closed _ h _ hl.opened).mpr
    simp only [Session.handle, Session.carryOut]
    split <;> simp
  | fault p h ht =>
    rw [after, turn_of_take hl ht]
    exact Session.close_closed w.session h
  | panic e h sub p ht hsub hp hpolicy =>
    rw [after, turn_of_take hl ht]
    apply (Session.handle_closed _ h _ hl.opened).mpr
    have ho : (w.session.router.route e.id e.values h.now.1).outcome =
        .error (.panicked e.id p.message) := by
      simp only [Router.route, hsub, hp, hpolicy]
    simp [Session.handle, Session.receive, ho, Session.breakOff]

end Situation

namespace Session

variable [Callback κ]

omit [Callback κ] in
theorem Connects.live {h h' : Hub (Bus ReplyTarget) κ} {c : Settings} {s : Session κ}
    (hc : Connects h c (.ok s) h') (hlive : c.offline = false) (hs : h.line.Sound) :
    s.Live (pathOfFilter h.line.nextFilter) h.line.nextToken ∧
      h.line.nextFilter < h'.line.nextFilter ∧ h.line.nextToken < h'.line.nextToken ∧
      ∃ js, h'.line.journal = h.line.journal ++ js ∧
        Quiet (pathOfFilter h.line.nextFilter) h.line.nextToken js := by
  obtain ⟨b, hb, rfl, rfl⟩ := hc.swept hlive
  have hframe := hb.frame
  have hn : b.nextFilter = h.line.nextFilter := by rw [hframe]; rfl
  have ht : b.nextToken = h.line.nextToken := by rw [hframe]; rfl
  obtain ⟨js, hjs, hall⟩ := hb.journal
  have hown : ∀ n, h.line.filters.contains n = true →
      pathOfFilter h.line.nextFilter ≠ pathOfFilter n := by
    intro n hcont heq
    have hlt := hs.filter_lt n hcont
    have := pathOfFilter_injective heq
    omega
  have hjournal : (b.furnished h.mailboxes.length).journal =
      h.line.journal ++ ([.connect c.scope, .reach networkPath] ++ js ++
        [.call networkPath "CreateEventFilter", .reach (pathOfFilter b.nextFilter),
          .watch (pathOfFilter b.nextFilter) eventSignal]) := by
    simp [furnished, addFilter, watch, note, hjs, connected]
  refine ⟨⟨rfl, _, rfl⟩, ?_, ?_, _, hjournal, ?_⟩
  · exact hn ▸ Nat.lt_succ_self _
  · exact ht ▸ Nat.lt_succ_self _
  · refine Quiet.append (Quiet.append ?_ (SweepEntry.quiet hown hall)) ?_ <;>
      simp [Quiet, farewell]

/-- A session ends once. Whatever ends it, its own last entries in the journal are those of its end,
in order and side by side, and they occur nowhere else among its own; its watch is gone, and its
filter too unless the service refused. -/
theorem ends_once (h₀ h : Hub (Bus ReplyTarget) κ) (c : Settings) (s : Session κ)
    (hr : h₀.line.Reachable) (hlive : c.offline = false) (hc : connect h₀ c = (.ok s, h)) :
    ∃ path token, s.Live path token ∧
      (∃ js, h.line.journal = h₀.line.journal ++ js ∧ Quiet path token js) ∧
      ∀ ms : List (Move κ),
        let w := Situation.run ⟨s, h⟩ ms
        (w.session.closed = false →
          Quiet path token (Situation.diary ⟨s, h⟩ ms) ∧
            ∀ m, w.Ends m → (w.after m).session.closed = true) ∧
        (w.session.closed = true →
          (∃ js, Situation.diary ⟨s, h⟩ ms = js ++ farewell path token ∧ Quiet path token js) ∧
            w.hub.line.watches.get? token = none) ∧
        ∀ m, w.session.closed = false → (w.after m).session.closed = true →
          ∃ (b : Bus ReplyTarget) (js : List JournalEntry),
            b.journal = w.hub.line.journal ++ js ∧ Quiet path token js ∧
            (w.after m).hub.line = b.dismantled path token ∧
            (w.after m).hub.line.journal =
              w.hub.line.journal ++ js ++ farewell path token ∧
            ∀ vs, ((b.unwatch token).call path filterInterface "Free" []).1 = .ok vs →
              ∀ ms', path ∉ ((w.after m).run ms').hub.line.livePaths := by
  have hconnects := connect_connects h₀ c
  rw [hc] at hconnects
  obtain ⟨hl, hn, ht, hquiet⟩ := hconnects.live hlive hr.sound
  refine ⟨_, _, hl, hquiet, ?_⟩
  intro ms
  -- the run is quiet up to the end of the session, if there is one, and nothing follows that end
  have hdiary := Situation.diary_of_live (w := ⟨s, h⟩) hl ms
  refine ⟨?_, fun hclosed ↦ ⟨?_, ?_⟩, ?_⟩
  · intro hopen
    rcases hdiary with ⟨hl', hq⟩ | ⟨hclosed, -⟩
    · exact ⟨hq, fun m hm ↦ hm.closes hl'⟩
    · rw [hclosed] at hopen
      cases hopen
  · rcases hdiary with ⟨hl', -⟩ | ⟨-, hend⟩
    · rw [hl'.opened] at hclosed
      cases hclosed
    · exact hend
  · exact Situation.get?_watches_run (w := ⟨s, h⟩) hl ht ms hclosed
  · intro m hopen hclosed
    rcases hdiary with ⟨hl', -⟩ | ⟨hclosed', -⟩
    · have hle := (Situation.leads_run (w := ⟨s, h⟩) (.inl hl) ms).nextFilter_le
      exact Situation.dismantled_after hl' (Nat.lt_of_lt_of_le hn hle) hclosed
    · rw [hclosed'] at hopen
      cases hopen

theorem ends_once_of_refusal : ∃ path token, (first : Session Fuse).Live path token ∧
    ∃ js, Situation.diary ⟨(first : Session Fuse), firstHub⟩
        [.other (.bus (.refuseMethod "Free" ⟨"no", "more"⟩)), .drop, .step 0 .close] =
      js ++ farewell path token ∧ Quiet path token js := by
  obtain ⟨path, token, hl, -, hrun⟩ :=
    ends_once (.start Bus.start) firstHub .default (first : Session Fuse) .refl rfl connect_first
  exact ⟨path, token, hl, ((hrun _).2.1 (by decide)).1⟩

end Session

end RobotBus
