import RobotBus.Proofs.World.Basic

namespace RobotBus

open Bus

variable {κ : Type}

def Message.problem? : Message κ → Option Problem
  | .problem p => some p
  | _ => none

structure Sending where
  id : EventId
  args : List Word
  refusal : Option Fault
deriving DecidableEq

namespace Sending

def entry? (x : Sending) : Option (EventId × List Word) :=
  match x.refusal with
  | none => some (x.id, x.args)
  | some _ => none

def problem? (x : Sending) : Option Problem := x.refusal.map .refusedSend

theorem length_eq (xs : List Sending) :
    xs.length = (xs.filterMap entry?).length + (xs.filterMap problem?).length := by
  induction xs with
  | nil => rfl
  | cons x xs ih =>
    obtain ⟨id, args, _ | f⟩ := x
    · simp only [List.filterMap_cons, entry?, problem?, Option.map_none, List.length_cons]
      omega
    · simp only [List.filterMap_cons, entry?, problem?, Option.map_some, List.length_cons]
      omega

end Sending

namespace Hub

variable {h h' h'' : Hub (Bus ReplyTarget) κ} {n : Nat}

def problems (h : Hub (Bus ReplyTarget) κ) (n : Nat) : List Problem :=
  (h.queue n).filterMap Message.problem?

def heldProblems (h : Hub (Bus ReplyTarget) κ) (n : Nat) : List Problem :=
  h.line.held.filterMap (problemFor? n)

/-- The problems that the owner of a mailbox is yet to be told of. -/
def owed (h : Hub (Bus ReplyTarget) κ) (n : Nat) : List Problem := h.problems n ++ h.heldProblems n

theorem problems_post (hn : n < h.mailboxes.length) (k : Nat) (m : Message κ) :
    (h.post k m).problems n = h.problems n ++ if k = n then m.problem?.toList else [] :=
  filterMap_queue_post Message.problem? h hn k m

theorem problems_of_problems (ps : List Problem) :
    (ps.map (Message.problem : Problem → Message κ)).filterMap Message.problem? = ps := by
  rw [List.filterMap_map]
  exact List.filterMap_some

theorem problems_answer (hn : n < h.mailboxes.length) (target : ReplyTarget) (r : Reply) :
    (h.answer target r).problems n = h.problems n ++ (problemFor? n (target, r)).toList := by
  rw [problems, queue_answer h hn, List.filterMap_append, problems_of_problems, problems]

theorem problems_emit (hn : n < h.mailboxes.length) (id : EventId) (name : String)
    (values : List Word) : (h.emit id name values).2.problems n = h.problems n := by
  rw [problems, queue_emit h hn, List.filterMap_append, List.filterMap_replicate]
  exact List.append_nil _

theorem problems_performAll (hn : n < h.mailboxes.length) (k : Nat) (es : List (Effect κ)) :
    (h.performAll k es).problems n = h.problems n := by
  induction es generalizing h with
  | nil => rfl
  | cons e es ih =>
    have hlen := (extends_perform h k e).length
    refine (ih (h := h.perform k e) (by omega)).trans ?_
    cases e with
    | request q => simp [perform, problems_post hn, Message.problem?]
    | emit id name values => exact problems_emit hn id name values

theorem problems_deliver (hn : n < h.mailboxes.length) :
    h.deliver.2.problems n = h.problems n ++ h.heldProblems n := by
  rw [problems, queue_deliver h hn, List.filterMap_append, problems_of_problems, problems]
  rfl

theorem owed_deliver (hn : n < h.mailboxes.length) : h.deliver.2.owed n = h.owed n := by
  have hheld : h.deliver.2.heldProblems n = [] := by
    rw [heldProblems, (deliver_extends h).line]
    rfl
  rw [owed, problems_deliver hn, hheld, List.append_nil, owed]

theorem submit_eq (h : Hub (Bus ReplyTarget) κ) (path interface method : String)
    (args : List Value) (target : ReplyTarget) :
    h.submit path interface method args target =
      match (h.line.note (.submit path method)).serve path interface method args with
      | (r, b) =>
        if h.line.holding then { h with line := { b with held := b.held ++ [(target, r)] } }
        else { h with line := b }.answer target r := by
  have hl : Line.submit h.line path interface method args target =
      h.line.submit path interface method args target := rfl
  have hholding :
      ((h.line.note (.submit path method)).serve path interface method args).2.holding =
        h.line.holding := (serve_served (h.line.note _) path interface method args).held.2
  rw [submit, hl, Bus.submit, ← hholding]
  rcases (h.line.note (.submit path method)).serve path interface method args with ⟨r, b⟩
  cases hb : b.holding <;> simp [hb]

theorem owed_submit_of_ne (hn : n < h.mailboxes.length) (path interface method : String)
    (args : List Value) {target : ReplyTarget} (ht : target ≠ .mailbox n) :
    (h.submit path interface method args target).owed n = h.owed n := by
  have hnone (r : Reply) : problemFor? n (target, r) = none := by
    rcases target with k | tag | tag <;> rcases r with f | vs
    · exact if_neg fun hk ↦ ht (congrArg _ hk)
    all_goals rfl
  have hheld := (serve_served (h.line.note (.submit path method)) path interface method args).held.1
  rw [submit_eq]
  generalize (h.line.note (.submit path method)).serve path interface method args = served
    at hheld ⊢
  obtain ⟨r, b⟩ := served
  have hb : b.held = h.line.held := hheld
  dsimp only
  split
  · simp [owed, problems, heldProblems, queue, hb, hnone]
  · rw [owed, problems_answer (h := { h with line := b }) hn, hnone]
    simp [owed, problems, heldProblems, queue, hb, (extends_answer _ target r).line]

/-- What one of the events that the owner of a mailbox sends comes to at once. -/
inductive Outcome (n : Nat) (h h' : Hub (Bus ReplyTarget) κ) (x : Sending) : Prop
  | recorded (hx : x.refusal = none)
      (hsent : h'.line.sent = h.line.sent ++ [(x.id, x.args)])
      (hposted : h'.problems n = h.problems n) (hheld : h'.heldProblems n = h.heldProblems n)
  | posted (f : Fault) (hx : x.refusal = some f) (hsent : h'.line.sent = h.line.sent)
      (hposted : h'.problems n = h.problems n ++ [.refusedSend f])
      (hheld : h'.heldProblems n = h.heldProblems n)
  | held (f : Fault) (hx : x.refusal = some f) (hsent : h'.line.sent = h.line.sent)
      (hposted : h'.problems n = h.problems n)
      (hheld : h'.heldProblems n = h.heldProblems n ++ [.refusedSend f])

theorem Outcome.of_take {x : Sending} {m : Message κ} (ho : Outcome n h' h'' x)
    (ht : h.take n = some (m, h')) (hm : m.problem? = none) : Outcome n h h'' x := by
  have hline := (queue_of_take ht).2.1
  have hheld : h'.heldProblems n = h.heldProblems n := by rw [heldProblems, hline]; rfl
  have hposted : h.problems n = h'.problems n := by
    have hp := filterMap_queue_of_take Message.problem? ht
    rwa [hm] at hp
  cases ho with
  | recorded hx hs hp hh =>
    exact .recorded hx (hline ▸ hs) (hp.trans hposted.symm) (hh.trans hheld)
  | posted f hx hs hp hh =>
    exact .posted f hx (hline ▸ hs) (hposted ▸ hp) (hh.trans hheld)
  | held f hx hs hp hh =>
    exact .held f hx (hline ▸ hs) (hp.trans hposted.symm) (hheld ▸ hh)

theorem outcome_submit (hn : n < h.mailboxes.length) (id : EventId) (ws : List Word) :
    Outcome n h (h.submit networkPath networkInterface "SendEvent" [.uint16 id.val, .words ws]
      (.mailbox n)) ⟨id, ws, h.line.refusal? "SendEvent"⟩ := by
  have hrefusal : (h.line.note (.submit networkPath "SendEvent")).refusal? "SendEvent" =
      h.line.refusal? "SendEvent" := rfl
  rw [submit_eq, serve_send, hrefusal]
  cases hf : h.line.refusal? "SendEvent" with
  | none =>
    dsimp only
    split
    · refine .recorded rfl rfl rfl ?_
      simp [heldProblems, problemFor?]
    · exact .recorded rfl rfl rfl rfl
  | some f =>
    dsimp only
    split
    · refine .held f rfl rfl rfl ?_
      simp [heldProblems, problemFor?]
    · refine .posted f rfl rfl ?_ rfl
      have hp := problems_answer
        (h := { h with line := h.line.note (.submit networkPath "SendEvent") }) hn (.mailbox n)
        (.error f)
      rw [problemFor?, if_pos rfl] at hp
      exact hp

/-- Nobody else tells the owner of a mailbox of a problem, or makes one. -/
theorem owed_after (hn : n < h.mailboxes.length) {tokens : Nat → Prop} {a : Act κ}
    (ha : a.Confined (· ≠ n) tokens) : (h.after a).owed n = h.owed n := by
  cases a with
  | bus d =>
    have hheld : (h.line.after d).held = h.line.held := by
      apply held_after_eq
      · rintro path interface method args target rfl
        exact ha
      · rintro rfl
        exact ha
    rw [owed, heldProblems, after, hheld]
    rfl
  | submit path interface method args target =>
    apply owed_submit_of_ne hn
    rintro rfl
    exact ha rfl
  | deliver => exact owed_deliver hn
  | emit id name values =>
    rw [owed, heldProblems, after, problems_emit hn, (extends_emit h id name values).line]
    rfl
  | openMailbox =>
    simp [owed, problems, heldProblems, after, openMailbox, queue, List.getElem?_append_left hn]
  | post k m =>
    rw [owed, after, problems_post hn]
    cases m with
    | problem p => exact ha.elim
    | event | request => simp [Message.problem?, owed, heldProblems, post]
  | take k =>
    have hk : k ≠ n := ha
    simp only [owed, problems, heldProblems, after, take]
    split
    · rfl
    · simp [queue, hk]
  | note | tick => rfl

theorem sent_grows (h : Hub (Bus ReplyTarget) κ) (a : Act κ) :
    h.line.sent <+: (h.after a).line.sent := by
  rw [line_after]
  cases a.deed? with
  | none => exact List.prefix_rfl
  | some d => exact sent_grows_after h.line d

/-- Between one hub and the other nothing is sent, and no problem comes or goes. -/
structure Calm (n : Nat) (h h' : Hub (Bus ReplyTarget) κ) : Prop where
  sent : h'.line.sent = h.line.sent
  held : h'.line.held = h.line.held
  problems : h'.problems n = h.problems n

theorem Calm.refl (n : Nat) (h : Hub (Bus ReplyTarget) κ) : Calm n h h := ⟨rfl, rfl, rfl⟩

theorem Calm.trans (hc : Calm n h h') (hc' : Calm n h' h'') : Calm n h h'' :=
  ⟨hc'.sent.trans hc.sent, hc'.held.trans hc.held, hc'.problems.trans hc.problems⟩

theorem Calm.owed (hc : Calm n h h') : h'.owed n = h.owed n := by
  rw [Hub.owed, heldProblems, hc.problems, hc.held]
  rfl

theorem calm_call (n : Nat) (h : Hub (Bus ReplyTarget) κ) (path interface method : String)
    (args : List Value) (hne : interface ≠ networkInterface ∨ method ≠ "SendEvent") :
    Calm n h { h with line := (h.line.call path interface method args).2 } :=
  ⟨sent_call h.line path args hne, held_call h.line path interface method args, rfl⟩

theorem calm_asks {b : Bus ReplyTarget} (hb : NodeAccess.Asks h.line b) :
    Calm n h { h with line := b } := by
  cases hb with
  | nothing => exact .refl n h
  | call method args hm hs => exact calm_call n h _ _ method args (.inr hs)

theorem calm_sweeps {mayFree : Nat → Prop} {b : Bus ReplyTarget} (hb : Sweeps mayFree h.line b) :
    Calm n h { h with line := b } := by
  rw [hb.frame]
  exact ⟨rfl, rfl, rfl⟩

theorem calm_listen (n : Nat) (h : Hub (Bus ReplyTarget) κ) (path : String) (id : EventId) :
    Calm n h { h with line := (h.line.listen path id).2 } :=
  calm_call n h path filterInterface "ListenEvent" _ (.inl (by decide))

end Hub

end RobotBus
