import RobotBus.Proofs.Sending.Account

namespace RobotBus

open Bus Hub

variable {κ : Type}

def Move.mine : Move κ → Bool
  | .other _ => false
  | _ => true

theorem Move.mine_of_own {m : Move κ} (hm : m.Own) : m.mine = true := by
  cases m with
  | other a => exact absurd rfl (hm a)
  | step | turn | drop | conclude => rfl

namespace Hub

/-- A part of a run: what it adds to the list of the bus, with the entries of the owner of a mailbox
marked, what the owner sends, and the problems that the owner is told. -/
structure Accounts (n : Nat) (h h' : Hub (Bus ReplyTarget) κ)
    (entries : List (Bool × EventId × List Word)) (xs : List Sending) (ps : List Problem) :
    Prop where
  sent : h'.line.sent = h.line.sent ++ entries.map Prod.snd
  own : (entries.filter Prod.fst).map Prod.snd = xs.filterMap Sending.entry?
  settles : Settles n h h' xs ps

variable {h h' h'' : Hub (Bus ReplyTarget) κ} {n : Nat} {es es' : List (Bool × EventId × List Word)}
  {xs xs' : List Sending} {ps ps' : List Problem}

theorem Accounts.refl (n : Nat) (h : Hub (Bus ReplyTarget) κ) : Accounts n h h [] [] [] :=
  ⟨(List.append_nil _).symm, rfl, settles_of_owed rfl⟩

theorem Accounts.trans (ha : Accounts n h h' es xs ps) (ha' : Accounts n h' h'' es' xs' ps') :
    Accounts n h h'' (es ++ es') (xs ++ xs') (ps ++ ps') where
  sent := by rw [ha'.sent, ha.sent, List.map_append, List.append_assoc]
  own := by
    rw [List.filter_append, List.map_append, ha.own, ha'.own, List.filterMap_append]
  settles := ha.settles.trans ha'.settles

theorem Balanced.accounts (hb : Balanced n h h' xs ps) :
    Accounts n h h' ((xs.filterMap Sending.entry?).map (fun e ↦ (true, e))) xs ps where
  sent := by simp [hb.sent, Function.comp_def]
  own := by simp [List.filter_map, Function.comp_def]
  settles := hb.settles

theorem accounts_of_owed {entries : List (EventId × List Word)}
    (hs : h'.line.sent = h.line.sent ++ entries) (ho : h'.owed n = h.owed n) :
    Accounts n h h' (entries.map (fun e ↦ (false, e))) [] [] where
  sent := by simp [hs, Function.comp_def]
  own := by simp [List.filter_map, Function.comp_def]
  settles := settles_of_owed ho

end Hub

namespace Situation

variable [Callback κ]

def gather {α : Type} (f : Situation κ → Move κ → List α) : Situation κ → List (Move κ) → List α
  | _, [] => []
  | w, m :: ms => f w m ++ gather f (w.after m) ms

/-- A loop in its turns; any other move is a part of its own. -/
def parts (w : Situation κ) : Move κ → List (Move κ)
  | .step fuel .runQueued =>
    if (w.session.runQueued fuel w.hub).isSome then List.replicate fuel .turn else []
  | .step fuel .runBriefly =>
    if (w.session.runBriefly fuel w.hub).isSome then List.replicate fuel .turn else []
  | .step fuel .run =>
    if (w.session.run fuel w.hub).isSome then List.replicate fuel .turn else []
  | m => [m]

def inParts (w : Situation κ) : List (Move κ) → List (Move κ)
  | [] => []
  | m :: ms => w.parts m ++ inParts (w.after m) ms

def sendings (w : Situation κ) (ms : List (Move κ)) : List Sending :=
  gather (fun w m ↦ (w.carriesOut? m).toList) w (w.inParts ms)

def reached (w : Situation κ) (ms : List (Move κ)) : List Problem :=
  gather (fun w m ↦ (w.reaches? m).toList) w (w.inParts ms)

/-- What a move adds to the list of the bus, marked if the move is the session's own. -/
def added (w : Situation κ) (m : Move κ) : List (Bool × EventId × List Word) :=
  ((w.after m).hub.line.sent.drop w.hub.line.sent.length).map (fun e ↦ (m.mine, e))

def ledger (w : Situation κ) (ms : List (Move κ)) : List (Bool × EventId × List Word) :=
  gather added w (w.inParts ms)

variable {path : String} {token n : Nat} {w w' : Situation κ}

theorem turns_eq_run (k : Nat) (w : Situation κ) :
    turns k w = w.run (List.replicate k .turn) := by
  induction k generalizing w with
  | zero => rfl
  | succ k ih => exact ih w.turn

theorem run_loop {α : Type} {fuel : Nat} (f : α → Simulation.Answer)
    (r : Session.Ran (Bus ReplyTarget) κ α)
    (hr : ∀ x, r = some x → turns fuel w = ⟨x.2.1, x.2.2⟩) :
    w.run (if r.isSome then List.replicate fuel .turn else []) =
      (r.bind (Simulation.changed f)).elim w (fun x ↦ ⟨x.2.1, x.2.2⟩) := by
  cases r with
  | none => rfl
  | some x =>
    rw [Option.isSome_some, if_pos rfl, ← turns_eq_run, hr x rfl]
    rfl

theorem run_parts (w : Situation κ) (m : Move κ) : w.run (w.parts m) = w.after m := by
  cases m with
  | step fuel s =>
    cases s with
    | runQueued => exact run_loop _ _ fun _ hx ↦ turns_of_runLoop hx
    | runBriefly => exact run_loop _ _ fun _ hx ↦ turns_of_runLoop hx
    | run => exact run_loop _ _ fun _ hx ↦ turns_of_runLoop hx
    | subscribe | send | sweep | nodes | read | write | loadScript | loadNames | names | close
    | locate | rate | rates | state => rfl
  | turn | drop | conclude | other => rfl

theorem run_append (w : Situation κ) (ms ms' : List (Move κ)) :
    w.run (ms ++ ms') = (w.run ms).run ms' := List.foldl_append

theorem run_inParts (w : Situation κ) (ms : List (Move κ)) : w.run (w.inParts ms) = w.run ms := by
  induction ms generalizing w with
  | nil => rfl
  | cons m ms ih =>
    rw [inParts, run_append, run_parts, ih]
    rfl

theorem mem_parts {m m' : Move κ} (hm : m' ∈ w.parts m) : m'.Single ∧ (m' = m ∨ m' = .turn) := by
  have loop {p : Prop} [Decidable p] {fuel : Nat}
      (hm : m' ∈ if p then List.replicate fuel (.turn : Move κ) else []) :
      m'.Single ∧ (m' = m ∨ m' = .turn) := by
    split at hm
    · obtain rfl := List.eq_of_mem_replicate hm
      exact ⟨trivial, .inr rfl⟩
    · cases hm
  cases m with
  | step fuel s =>
    cases s with
    | runQueued | runBriefly | run => exact loop hm
    | subscribe | send | sweep | nodes | read | write | loadScript | loadNames | names | close
    | locate | rate | rates | state =>
      obtain rfl := List.mem_singleton.mp hm
      exact ⟨trivial, .inl rfl⟩
  | turn | drop | conclude | other =>
    obtain rfl := List.mem_singleton.mp hm
    exact ⟨trivial, .inl rfl⟩

theorem mem_inParts {m' : Move κ} {ms : List (Move κ)} (hm : m' ∈ w.inParts ms) :
    m'.Single ∧ (m' ∈ ms ∨ m' = .turn) := by
  induction ms generalizing w with
  | nil => cases hm
  | cons m ms ih =>
    rcases List.mem_append.mp hm with hm | hm
    · obtain ⟨hsingle, rfl | rfl⟩ := mem_parts hm
      · exact ⟨hsingle, .inl List.mem_cons_self⟩
      · exact ⟨hsingle, .inr rfl⟩
    · obtain ⟨hsingle, hmem | rfl⟩ := ih hm
      · exact ⟨hsingle, .inl (List.mem_cons_of_mem _ hmem)⟩
      · exact ⟨hsingle, .inr rfl⟩

/-- A session with a mailbox of its own that is closed, or live on a bus. -/
structure Sender (w : Situation κ) (path : String) (token n : Nat) : Prop where
  mailbox_eq : w.session.mailbox = n
  mailbox_lt : n < w.hub.mailboxes.length
  state : w.session.closed = true ∨
    w.session.Live path token ∧ w.session.settings.offline = false

theorem Sender.own (hw : w.Sender path token n) {m : Move κ} (hown : m.Own) :
    (w.after m).Sender path token n := by
  obtain ⟨rfl, hlt, hc | ⟨hl, hon⟩⟩ := hw
  · obtain ⟨names, hafter⟩ := names_after_of_closed hc m hown
    rw [hafter]
    exact ⟨rfl, hlt, .inl hc⟩
  · have hst := stages_after hl m hown
    obtain ⟨-, hmailbox, hle⟩ := hst.acted hlt
    refine ⟨hmailbox, hlt.trans_le hle, ?_⟩
    rcases hst.live hl with hl' | hc
    · exact .inr ⟨hl', hst.settings ▸ hon⟩
    · exact .inl hc

theorem Sender.other (hw : w.Sender path token n) (a : Act κ) :
    (w.after (.other a)).Sender path token n :=
  ⟨hw.mailbox_eq, hw.mailbox_lt.trans_le (length_le_after w.hub a), hw.state⟩

omit [Callback κ] in
theorem nothing_of_closed (hc : w.session.closed = true) (m : Move κ) :
    w.carriesOut? m = none ∧ w.reaches? m = none := by
  cases m with
  | turn =>
    refine ⟨?_, if_pos hc⟩
    simp only [carriesOut?, Session.sends?_of_closed hc]
    cases w.hub.take w.session.mailbox <;> rfl
  | step fuel s =>
    cases s with
    | send event args => exact ⟨Session.sending?_of_closed hc event args, rfl⟩
    | subscribe | sweep | nodes | read | write | loadScript | loadNames | names | runQueued
    | runBriefly | run | close | locate | rate | rates | state => exact ⟨rfl, rfl⟩
  | drop | conclude | other => exact ⟨rfl, rfl⟩

theorem Sender.balanced (hw : w.Sender path token n) {m : Move κ} (hown : m.Own)
    (hsingle : m.Single) :
    Balanced n w.hub (w.after m).hub (w.carriesOut? m).toList (w.reaches? m).toList := by
  obtain ⟨rfl, hlt, hc | ⟨hl, hon⟩⟩ := hw
  · obtain ⟨names, hafter⟩ := names_after_of_closed hc m hown
    obtain ⟨hsends, hreaches⟩ := nothing_of_closed hc m
    rw [hafter, hsends, hreaches]
    exact (Calm.refl _ w.hub).balanced
  · exact balanced_after hl hon hlt hown hsingle

theorem accounts_own (hw : w.Sender path token n) {m : Move κ} (hown : m.Own)
    (hsingle : m.Single) :
    Accounts n w.hub (w.after m).hub (w.added m) (w.carriesOut? m).toList
      (w.reaches? m).toList := by
  have hb := hw.balanced hown hsingle
  rw [added, hb.sent, List.drop_left, Move.mine_of_own hown]
  exact hb.accounts

theorem accounts_other (hw : w.Sender path token n) {tokens : Nat → Prop} {a : Act κ}
    (ha : a.Confined (· ≠ n) tokens) :
    Accounts n w.hub (w.after (.other a)).hub (w.added (.other a)) [] [] := by
  obtain ⟨es, hes⟩ := sent_grows w.hub a
  have hsent : (w.after (.other a)).hub.line.sent = w.hub.line.sent ++ es := hes.symm
  rw [added, hsent, List.drop_left]
  exact accounts_of_owed hsent (owed_after hw.mailbox_lt ha)

/-- The account is kept move after move, where loops have been taken apart. -/
theorem accounts_run (hw : w.Sender path token n) {ms : List (Move κ)} {tokens : Nat → Prop}
    (hsingle : ∀ m ∈ ms, m.Single) (hms : ∀ a, .other a ∈ ms → a.Confined (· ≠ n) tokens) :
    (w.run ms).Sender path token n ∧
      Accounts n w.hub (w.run ms).hub (gather added w ms)
        (gather (fun w m ↦ (w.carriesOut? m).toList) w ms)
        (gather (fun w m ↦ (w.reaches? m).toList) w ms) := by
  induction ms generalizing w with
  | nil => exact ⟨hw, .refl n w.hub⟩
  | cons m ms ih =>
    have hsingle' : ∀ m ∈ ms, m.Single := fun m hm ↦ hsingle m (List.mem_cons_of_mem _ hm)
    have hms' : ∀ a, .other a ∈ ms → a.Confined (· ≠ n) tokens :=
      fun a ha ↦ hms a (List.mem_cons_of_mem _ ha)
    rcases m.own_or_other with hown | ⟨a, rfl⟩
    · obtain ⟨hw', ha⟩ := ih (hw.own hown) hsingle' hms'
      exact ⟨hw', (accounts_own hw hown (hsingle m List.mem_cons_self)).trans ha⟩
    · obtain ⟨hw', ha⟩ := ih (hw.other a) hsingle' hms'
      exact ⟨hw', (accounts_other hw (hms a List.mem_cons_self)).trans ha⟩

theorem Sender.accounts (hw : w.Sender path token n) {ms : List (Move κ)} {tokens : Nat → Prop}
    (hms : ∀ a, .other a ∈ ms → a.Confined (· ≠ n) tokens) :
    (w.run ms).Sender path token n ∧
      Accounts n w.hub (w.run ms).hub (w.ledger ms) (w.sendings ms) (w.reached ms) := by
  have ha := accounts_run hw (fun m (hm : m ∈ w.inParts ms) ↦ (mem_inParts hm).1)
    fun a ha ↦ (mem_inParts ha).2.elim (hms a) nofun
  rwa [run_inParts] at ha

/-- The move is a request to send an event, made on the spot or taken from the mailbox; it is
carried out on the hub that is given. -/
inductive Asks (w : Situation κ) (event : Mention) (args : List Word) :
    Move κ → Hub (Bus ReplyTarget) κ → Prop
  | direct (fuel : Nat) : Asks w event args (.step fuel (.send event args)) w.hub
  | queued (g : Hub (Bus ReplyTarget) κ)
      (ht : w.hub.take w.session.mailbox = some (.request (.send event args), g)) :
      Asks w event args .turn g

theorem Sender.outcome (hw : w.Sender path token n) {event : Mention} {args : List Word}
    {m : Move κ} {g : Hub (Bus ReplyTarget) κ} (ha : w.Asks event args m g)
    (hok : (w.session.send g event args).1 = .ok ()) :
    ∃ id, w.session.locate event = .ok id ∧
      w.carriesOut? m = some ⟨id, args, w.hub.line.refusal? "SendEvent"⟩ ∧
      Outcome n w.hub (w.after m).hub ⟨id, args, w.hub.line.refusal? "SendEvent"⟩ := by
  obtain ⟨rfl, hlt, hc | ⟨hl, hon⟩⟩ := hw
  · rw [Session.send, if_pos hc] at hok
    cases hok
  · cases ha with
    | direct fuel => exact Session.outcome_of_ok hon hlt hok
    | queued _ ht =>
      obtain ⟨-, hline, -, hlength⟩ := queue_of_take ht
      obtain ⟨id, hid, hx, ho⟩ := Session.outcome_of_ok hon (hlength ▸ hlt) hok
      have hturn : w.turn.hub = (w.session.send g event args).2 := by
        rw [turn_of_take hl ht]
        simp only [Session.handle, Session.carryOut,
          Session.judge_of_mild (w.session.mild_send g event args)]
      rw [hline] at hx ho
      refine ⟨id, hid, by simp only [carriesOut?, ht]; exact hx, ?_⟩
      rw [after, hturn]
      exact ho.of_take ht rfl

/-- What others do to a hub is, for a session with a mailbox of its own, moves of others. -/
theorem run_beside {s : Session κ} {h h' : Hub (Bus ReplyTarget) κ} {tokens : Nat → Prop}
    (hv : Via (· ≠ s.mailbox) tokens h h') :
    ∃ as : List (Act κ), (∀ a ∈ as, a.Confined (· ≠ s.mailbox) tokens) ∧
      run ⟨s, h⟩ (as.map .other) = ⟨s, h'⟩ := by
  induction hv with
  | refl => exact ⟨[], nofun, rfl⟩
  | @after h' a _ ha _ ih =>
    obtain ⟨as, has, hrun⟩ := ih
    refine ⟨as ++ [a], List.forall_mem_append.mpr ⟨has, by simpa using ha⟩, ?_⟩
    rw [List.map_append, run_append, hrun]
    rfl

end Situation

namespace Session

variable [Callback κ]

theorem sender_of_connect {h₀ h : Hub (Bus ReplyTarget) κ} {ss : List (Session κ)} {c : Settings}
    {s : Session κ} (hw : World h₀ ss) (hlive : c.offline = false)
    (hc : connect h₀ c = (.ok s, h)) :
    (∃ path token, (⟨s, h⟩ : Situation κ).Sender path token s.mailbox) ∧
      h.owed s.mailbox = [] := by
  have hconnects := connect_connects h₀ c
  rw [hc] at hconnects
  have hsound := hw.sound
  obtain ⟨hl, -⟩ := hconnects.live hlive hsound.reachable.settled.sound
  have hheld := hconnects.held
  obtain ⟨b, -, rfl, rfl⟩ := hconnects.swept hlive
  refine ⟨⟨_, _, rfl, ?_, .inr ⟨hl, hlive⟩⟩, ?_⟩
  · simp [openMailbox, fresh]
  · -- the mailbox is new, so nothing that is held back can be for it
    have hnone : h₀.line.held.filterMap (problemFor? h₀.mailboxes.length) = [] := by
      rw [List.filterMap_eq_nil_iff]
      rintro ⟨target, r⟩ hmem
      rcases target with k | tag | tag <;> rcases r with f | vs
      · exact if_neg (hsound.held_lt k _ hmem).ne
      all_goals rfl
    rw [owed, heldProblems, hheld]
    exact List.append_eq_nil_iff.mpr ⟨by simp [problems, queue, openMailbox, fresh], hnone⟩

/-- No event that a live session sends is lost, and none is told twice, whatever happens around it.
Each is recorded on the bus, as it was sent, or refused, at the moment of sending; a refusal makes
one problem for the session, which is held back with other replies or posted to the mailbox. So at
any time the events that were sent are the session's entries in the list of the bus, in order, and
the problems that are held back, wait in the mailbox, or have been come to by the loop. A problem
that the loop comes to ends the session, and is what the loop tells.

Others may do anything but take messages from the session's mailbox, post problems to it, or have
replies sent there. -/
theorem every_sending_is_accounted_for {h₀ h : Hub (Bus ReplyTarget) κ} {ss : List (Session κ)}
    {c : Settings} {s : Session κ} (hw : World h₀ ss) (hlive : c.offline = false)
    (hc : connect h₀ c = (.ok s, h)) (ms : List (Move κ))
    (hms : ∀ a, .other a ∈ ms → a.Confined (· ≠ s.mailbox) (fun _ ↦ True)) :
    let start : Situation κ := ⟨s, h⟩
    let w := start.run ms
    let sendings := start.sendings ms
    let entries := ((start.ledger ms).filter Prod.fst).map Prod.snd
    let held := w.hub.heldProblems s.mailbox
    let posted := start.reached ms ++ w.hub.problems s.mailbox
    (∀ event args m g, w.Asks event args m g → (w.session.send g event args).1 = .ok () →
      ∃ id, w.session.locate event = .ok id ∧
        w.carriesOut? m = some ⟨id, args, w.hub.line.refusal? "SendEvent"⟩ ∧
        Outcome s.mailbox w.hub (w.after m).hub ⟨id, args, w.hub.line.refusal? "SendEvent"⟩) ∧
    w.hub.line.sent = h.line.sent ++ (start.ledger ms).map Prod.snd ∧
    entries = sendings.filterMap Sending.entry? ∧
    (posted ++ held).Perm (sendings.filterMap Sending.problem?) ∧
    sendings.length = entries.length + held.length + posted.length ∧
    ∀ ms' ps s₁ h₁ p g, w.session.closed = false → Handles w.session w.hub ms' ps s₁ h₁ →
      h₁.take s.mailbox = some (.problem p, g) →
      p ∈ (start.sendings (ms ++ List.replicate ms'.length .turn)).filterMap Sending.problem? ∧
      ∃ s₂ h₂, s₂.closed = true ∧ ∀ fuel, ms'.length < fuel →
        w.session.runQueued fuel w.hub = some (.error p, s₂, h₂) ∧
        w.session.runBriefly fuel w.hub = some (.error p, s₂, h₂) ∧
        w.session.run fuel w.hub = some (.error p, s₂, h₂) := by
  intro start w sendings entries held posted
  obtain ⟨⟨path, token, hstart⟩, hnone⟩ := sender_of_connect hw hlive hc
  obtain ⟨hsender, haccounts⟩ := hstart.accounts hms
  -- stated for any run, since it is needed once more for the run up to the problem
  have settled (ms' : List (Move κ))
      (hms' : ∀ a, .other a ∈ ms' → a.Confined (· ≠ s.mailbox) (fun _ ↦ True)) :
      (start.reached ms' ++ (start.run ms').hub.owed s.mailbox).Perm
        ((start.sendings ms').filterMap Sending.problem?) := by
    have hs := (hstart.accounts hms').2.settles
    rwa [Settles, hnone, List.nil_append] at hs
  have hperm : (posted ++ held).Perm (sendings.filterMap Sending.problem?) := by
    have hs := settled ms hms
    rwa [owed, ← List.append_assoc] at hs
  have hown : entries = sendings.filterMap Sending.entry? := haccounts.own
  refine ⟨fun event args m g ha hok ↦ hsender.outcome ha hok, haccounts.sent, hown, hperm, ?_, ?_⟩
  · rw [Sending.length_eq, ← hown, ← hperm.length_eq, List.length_append]
    omega
  · intro ms' ps s₁ h₁ p g hopen hh ht
    have hmailbox : s₁.mailbox = s.mailbox := (hh.frame hopen).2.1.trans hsender.mailbox_eq
    refine ⟨?_, ?_⟩
    · have hrun : start.run (ms ++ List.replicate ms'.length .turn) = ⟨s₁, h₁⟩ := by
        rw [Situation.run_append, ← Situation.turns_eq_run]
        exact Situation.turns_of_handles hh hopen
      have hp : p ∈ h₁.problems s.mailbox := by
        rw [problems, (queue_of_take ht).1]
        exact List.mem_cons_self
      have hs := settled (ms ++ List.replicate ms'.length .turn) ?_
      · rw [hrun] at hs
        exact hs.mem_iff.mp (List.mem_append_right _ (List.mem_append_left _ hp))
      · intro a ha
        rcases List.mem_append.mp ha with ha | ha
        · exact hms a ha
        · cases List.eq_of_mem_replicate ha
    · rcases hclose : s₁.close g with ⟨closed, s₂, h₂⟩
      refine ⟨s₂, h₂, (frame_of_close hclose).1, fun fuel hf ↦ ?_⟩
      exact runs_of_cause hh hopen (hmailbox ▸ ht) (m := .problem p) rfl hclose hf

/-- Of two events that are sent the second is refused. Its reply is held back and then delivered,
and ends the session when the loop comes to it. -/
theorem every_sending_is_accounted_for_late :
    let start : Situation Fuse := ⟨first, firstHub⟩
    let ms : List (Move Fuse) :=
      [.step 0 (.send (.byId ⟨1⟩) [7]), .other (.bus (.refuseMethod "SendEvent" ⟨"no", "more"⟩)),
        .other (.bus (.setHolding true)), .step 0 (.send (.byId ⟨2⟩) []), .other .deliver]
    let w := start.run ms
    w.hub.line.sent = [(⟨1⟩, [7])] ∧
      (start.sendings ms).filterMap Sending.entry? = [(⟨1⟩, [7])] ∧
      (start.sendings ms).length = 1 + 0 + 1 ∧
      (w.session.runQueued 1 w.hub).map Prod.fst =
        some (.error (.refusedSend ⟨"no", "more"⟩)) := by
  intro start ms w
  have hms : ∀ a, .other a ∈ ms → a.Confined (· ≠ (first : Session Fuse).mailbox)
      (fun _ ↦ True) := by
    intro a ha
    simp only [ms, List.mem_cons, List.not_mem_nil, Move.other.injEq, reduceCtorEq, false_or,
      or_false] at ha
    rcases ha with rfl | rfl | rfl <;> trivial
  obtain ⟨-, hsent, hown, -, hlength, hend⟩ :=
    every_sending_is_accounted_for World.start rfl connect_first ms hms
  refine ⟨hsent.trans rfl, hown.symm.trans rfl, hlength.trans rfl, ?_⟩
  obtain ⟨-, s₂, h₂, -, hruns⟩ := hend [] [] w.session w.hub _ _ rfl (.nothing _ _) rfl
  rw [(hruns 1 Nat.one_pos).1]
  rfl

end Session

end RobotBus
