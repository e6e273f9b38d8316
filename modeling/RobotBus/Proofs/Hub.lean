import RobotBus.Hub
import RobotBus.Proofs.Bus.Deed

namespace RobotBus

variable {σ κ : Type}

def LogEntry.call? (n : Nat) : LogEntry κ → Option (EventId × List Word)
  | .called n' id _ values => if n' = n then some (id, values) else none
  | _ => none

def Message.event? : Message κ → Option (EventId × List Word)
  | .event e => some (e.id, e.values)
  | _ => none

/-- The problem that a reply is for the owner of a mailbox, if it is one. -/
def problemFor? (n : Nat) : ReplyTarget × Reply → Option Problem
  | (.mailbox k, .error f) => if k = n then some (.refusedSend f) else none
  | _ => none

namespace Hub

open Bus

def calls (h : Hub σ κ) (n : Nat) : List (EventId × List Word) := h.log.filterMap (LogEntry.call? n)

def waiting (h : Hub σ κ) (n : Nat) : List (EventId × List Word) :=
  (h.queue n).filterMap Message.event?

theorem filterMap_queue_post {α : Type} (f : Message κ → Option α) (h : Hub σ κ) {n : Nat}
    (hn : n < h.mailboxes.length) (k : Nat) (m : Message κ) :
    ((h.post k m).queue n).filterMap f =
      (h.queue n).filterMap f ++ if k = n then (f m).toList else [] := by
  rw [queue_post]
  by_cases hk : k = n
  · rw [if_pos ⟨hk, hn⟩, if_pos hk, List.filterMap_append]
    cases h : f m <;> simp [h]
  · rw [if_neg (fun h ↦ hk h.1), if_neg hk, List.append_nil]

theorem waiting_post (h : Hub σ κ) {n : Nat} (hn : n < h.mailboxes.length) (k : Nat)
    (m : Message κ) :
    (h.post k m).waiting n = h.waiting n ++ if k = n then m.event?.toList else [] :=
  filterMap_queue_post Message.event? h hn k m

theorem calls_note (h : Hub σ κ) (n : Nat) (e : LogEntry κ) :
    (h.note e).calls n = h.calls n ++ (e.call? n).toList := by
  rw [calls, note, List.filterMap_append, calls]
  cases h : e.call? n <;> simp [h]

theorem queue_of_take {h h' : Hub σ κ} {n : Nat} {m : Message κ} (ht : h.take n = some (m, h')) :
    h.queue n = m :: h'.queue n ∧ h'.line = h.line ∧ h'.log = h.log ∧
      h'.mailboxes.length = h.mailboxes.length := by
  unfold take at ht
  cases hq : h.queue n with
  | nil => simp [hq] at ht
  | cons m' ms =>
    simp only [hq, Option.some.injEq, Prod.mk.injEq] at ht
    obtain ⟨rfl, rfl⟩ := ht
    have hn : n < h.mailboxes.length := by
      by_contra hn
      rw [queue, List.getElem?_eq_none (by omega)] at hq
      cases hq
    exact ⟨by simp [queue, hn], rfl, rfl, by simp⟩

theorem filterMap_queue_of_take {α : Type} (f : Message κ → Option α) {h h' : Hub σ κ} {n : Nat}
    {m : Message κ} (ht : h.take n = some (m, h')) :
    (h.queue n).filterMap f = (f m).toList ++ (h'.queue n).filterMap f := by
  rw [(queue_of_take ht).1, List.filterMap_cons]
  cases f m <;> rfl

theorem waiting_of_take {h h' : Hub σ κ} {n : Nat} {m : Message κ}
    (ht : h.take n = some (m, h')) : h.waiting n = m.event?.toList ++ h'.waiting n :=
  filterMap_queue_of_take Message.event? ht

/-- One hub comes from another by posting messages and by noting what is no call. -/
structure Extends (h h' : Hub σ κ) : Prop where
  line : h'.line = h.line
  length : h'.mailboxes.length = h.mailboxes.length
  queue : ∀ n, h.queue n <+: h'.queue n
  log : ∃ es, h'.log = h.log ++ es ∧ ∀ e ∈ es, ∀ n, e.call? n = none

theorem Extends.calls {h h' : Hub σ κ} (hx : Extends h h') (n : Nat) : h'.calls n = h.calls n := by
  obtain ⟨es, hes, hnone⟩ := hx.log
  rw [Hub.calls, hes, List.filterMap_append, Hub.calls,
    List.filterMap_eq_nil_iff.mpr fun e he ↦ hnone e he n, List.append_nil]

theorem Extends.refl (h : Hub σ κ) : Extends h h :=
  ⟨rfl, rfl, fun _ ↦ List.prefix_rfl, [], by simp, nofun⟩

theorem Extends.trans {h h' h'' : Hub σ κ} (a : Extends h h') (b : Extends h' h'') :
    Extends h h'' := by
  obtain ⟨es, hes, hnone⟩ := a.log
  obtain ⟨es', hes', hnone'⟩ := b.log
  refine ⟨b.line.trans a.line, b.length.trans a.length,
    fun n ↦ (a.queue n).trans (b.queue n), es ++ es', ?_, ?_⟩
  · rw [hes', hes, List.append_assoc]
  · intro e he
    exact (List.mem_append.mp he).elim (hnone e) (hnone' e)

theorem queue_prefix_post (h : Hub σ κ) (n : Nat) (m : Message κ) (k : Nat) :
    h.queue k <+: (h.post n m).queue k := by
  rw [queue_post]
  split
  · exact List.prefix_append _ _
  · exact List.prefix_rfl

theorem extends_post (h : Hub σ κ) (n : Nat) (m : Message κ) : Extends h (h.post n m) :=
  ⟨rfl, by simp [post], queue_prefix_post h n m, [], by simp [post], nofun⟩

theorem extends_note (h : Hub σ κ) {e : LogEntry κ} (he : ∀ n, e.call? n = none) :
    Extends h (h.note e) :=
  ⟨rfl, rfl, fun _ ↦ List.prefix_rfl, [e], rfl, fun _ hmem ↦ List.mem_singleton.mp hmem ▸ he⟩

theorem extends_receive (h : Hub σ κ) (l : Listener) (body : List Value) :
    Extends h (h.receive l body) := by
  cases l with
  | log tag => exact extends_note h fun _ ↦ rfl
  | mailbox n =>
    simp only [receive]
    split
    · exact extends_post h n _
    · exact .refl h

theorem extends_answer (h : Hub σ κ) (target : ReplyTarget) (r : Reply) :
    Extends h (h.answer target r) := by
  rcases target with n | tag | tag <;> rcases r with f | vs
  · exact extends_post h n _
  · exact .refl h
  · exact extends_note h fun _ ↦ rfl
  · exact extends_note h fun _ ↦ rfl
  · exact extends_note h fun _ ↦ rfl
  · exact .refl h

theorem extends_foldl {α : Type} (f : Hub σ κ → α → Hub σ κ) (hf : ∀ h a, Extends h (f h a))
    (as : List α) (h : Hub σ κ) : Extends h (as.foldl f h) := by
  induction as generalizing h with
  | nil => exact .refl h
  | cons a as ih => exact (hf h a).trans (ih (f h a))

theorem queue_answer (h : Hub σ κ) {n : Nat} (hn : n < h.mailboxes.length) (target : ReplyTarget)
    (r : Reply) :
    (h.answer target r).queue n =
      h.queue n ++ (problemFor? n (target, r)).toList.map Message.problem := by
  rcases target with k | tag | tag <;> rcases r with f | vs
  · rw [answer, queue_post]
    by_cases hk : k = n <;> simp [problemFor?, hk, hn]
  all_goals exact (List.append_nil _).symm

theorem waiting_problems (ps : List Problem) :
    (ps.map (Message.problem : Problem → Message κ)).filterMap Message.event? = [] := by
  rw [List.filterMap_map]
  exact List.filterMap_eq_nil_iff.mpr fun _ _ ↦ rfl

theorem waiting_answer (h : Hub σ κ) {n : Nat} (hn : n < h.mailboxes.length) (target : ReplyTarget)
    (r : Reply) : (h.answer target r).waiting n = h.waiting n := by
  rw [waiting, queue_answer h hn, List.filterMap_append, waiting_problems, List.append_nil, waiting]

theorem queue_receive (h : Hub σ κ) {n : Nat} (hn : n < h.mailboxes.length) (l : Listener)
    (id : EventId) (name : String) (values : List Word) :
    (h.receive l (eventBody id name values)).queue n =
      h.queue n ++ if l = .mailbox n then [.event ⟨id, name, values⟩] else [] := by
  cases l with
  | log tag => simp [receive, note, queue]
  | mailbox k =>
    have he : event? (eventBody id name values) = some ⟨id, name, values⟩ := rfl
    simp only [receive, he, queue_post, Listener.mailbox.injEq]
    by_cases hk : k = n <;> simp [hk, hn]

def receiveAll (h : Hub σ κ) (body : List Value) (ls : List Listener) : Hub σ κ :=
  ls.foldl (fun h l ↦ h.receive l body) h

theorem extends_receiveAll (h : Hub σ κ) (body : List Value) (ls : List Listener) :
    Extends h (h.receiveAll body ls) :=
  extends_foldl _ (fun h l ↦ extends_receive h l body) ls h

/-- A mailbox is posted an event as often as it stands among those that receive it. -/
theorem queue_receiveAll (h : Hub σ κ) {n : Nat} (hn : n < h.mailboxes.length) (id : EventId)
    (name : String) (values : List Word) (ls : List Listener) :
    (h.receiveAll (eventBody id name values) ls).queue n =
      h.queue n ++ List.replicate (ls.count (.mailbox n)) (.event ⟨id, name, values⟩) := by
  induction ls generalizing h with
  | nil => simp [receiveAll]
  | cons l ls ih =>
    have hlen := (extends_receive h l (eventBody id name values)).length
    have hrest := ih (h.receive l (eventBody id name values)) (by omega)
    rw [receiveAll, List.foldl_cons]
    rw [receiveAll] at hrest
    rw [hrest, queue_receive h hn, List.append_assoc, List.count_cons]
    by_cases hl : l = .mailbox n
    · simp [hl, List.replicate_succ]
    · simp [hl]

section

variable [Line σ]

theorem extends_emit (h : Hub σ κ) (id : EventId) (name : String) (values : List Word) :
    Extends h (h.emit id name values).2 :=
  h.extends_receiveAll _ _

theorem extends_perform (h : Hub σ κ) (n : Nat) (e : Effect κ) : Extends h (h.perform n e) := by
  cases e with
  | request r => exact extends_post h n _
  | emit id name values => exact extends_emit h id name values

theorem extends_performAll (h : Hub σ κ) (n : Nat) (es : List (Effect κ)) :
    Extends h (h.performAll n es) :=
  extends_foldl _ (fun h e ↦ extends_perform h n e) es h

theorem submit_extends (h : Hub σ κ) (path interface method : String) (args : List Value)
    (target : ReplyTarget) :
    Extends { h with line := (Line.submit h.line path interface method args target).2 }
      (h.submit path interface method args target) := by
  rw [submit]
  rcases Line.submit h.line path interface method args target with ⟨_ | r, l⟩
  · exact .refl _
  · exact extends_answer _ _ _

/-- Of a call that the owner of a mailbox submits, at most a refusal comes back. -/
theorem queue_submit_mailbox (h : Hub σ κ) (n : Nat) (path interface method : String)
    (args : List Value) :
    (h.submit path interface method args (.mailbox n)).queue n = h.queue n ∨
      ∃ f, (h.submit path interface method args (.mailbox n)).queue n =
        h.queue n ++ [.problem (.refusedSend f)] := by
  simp only [submit]
  rcases Line.submit h.line path interface method args (.mailbox n) with ⟨_ | f | vs, l⟩
  · exact .inl rfl
  · simp only [answer, queue_post]
    split
    · exact .inr ⟨f, rfl⟩
    · exact .inl rfl
  · exact .inl rfl

end

theorem queue_emit (h : Hub (Bus ReplyTarget) κ) {n : Nat} (hn : n < h.mailboxes.length)
    (id : EventId) (name : String) (values : List Word) :
    (h.emit id name values).2.queue n = h.queue n ++
      List.replicate ((h.line.listeners id).count (.mailbox n)) (.event ⟨id, name, values⟩) :=
  h.queue_receiveAll hn id name values (h.line.listeners id)

theorem waiting_emit (h : Hub (Bus ReplyTarget) κ) {n : Nat} (hn : n < h.mailboxes.length)
    (id : EventId) (name : String) (values : List Word) :
    (h.emit id name values).2.waiting n =
      h.waiting n ++ List.replicate ((h.line.listeners id).count (.mailbox n)) (id, values) := by
  rw [waiting, queue_emit h hn, List.filterMap_append, List.filterMap_replicate, waiting]
  rfl

theorem waiting_submit (h : Hub (Bus ReplyTarget) κ) {n : Nat} (hn : n < h.mailboxes.length)
    (path interface method : String) (args : List Value) (target : ReplyTarget) :
    (h.submit path interface method args target).waiting n = h.waiting n := by
  have hl : Line.submit h.line path interface method args target =
      h.line.submit path interface method args target := rfl
  rw [submit, hl]
  rcases h.line.submit path interface method args target with ⟨_ | r, b⟩
  · rfl
  · exact waiting_answer { h with line := b } hn target r

theorem deliver_extends (h : Hub (Bus ReplyTarget) κ) :
    Extends { h with line := h.line.release.2 } h.deliver.2 :=
  extends_foldl _ (fun h (e : ReplyTarget × Reply) ↦ extends_answer h e.1 e.2) _ _

theorem queue_deliver (h : Hub (Bus ReplyTarget) κ) {n : Nat} (hn : n < h.mailboxes.length) :
    h.deliver.2.queue n =
      h.queue n ++ (h.line.held.filterMap (problemFor? n)).map Message.problem := by
  have key (rs : List (ReplyTarget × Reply)) (g : Hub (Bus ReplyTarget) κ)
      (hg : n < g.mailboxes.length) :
      (rs.foldl (fun g e ↦ g.answer e.1 e.2) g).queue n =
        g.queue n ++ (rs.filterMap (problemFor? n)).map Message.problem := by
    induction rs generalizing g with
    | nil => exact (List.append_nil _).symm
    | cons e rs ih =>
      have hlen := (extends_answer g e.1 e.2).length
      rw [List.foldl_cons, ih _ (by omega), queue_answer g hg, List.append_assoc,
        List.filterMap_cons]
      cases problemFor? n e <;> rfl
  exact key _ { h with line := h.line.release.2 } hn

theorem waiting_deliver (h : Hub (Bus ReplyTarget) κ) {n : Nat} (hn : n < h.mailboxes.length) :
    h.deliver.2.waiting n = h.waiting n := by
  rw [waiting, queue_deliver h hn, List.filterMap_append, waiting_problems, List.append_nil,
    waiting]

/-- Whatever is done to a hub, by a session or by anybody else. -/
inductive Act (κ : Type)
  | bus (d : Deed ReplyTarget)
  | submit (path interface method : String) (args : List Value) (target : ReplyTarget)
  | deliver
  | emit (id : EventId) (name : String) (values : List Word)
  | openMailbox
  | post (n : Nat) (m : Message κ)
  | take (n : Nat)
  | note (e : LogEntry κ)
  | tick

def after (h : Hub (Bus ReplyTarget) κ) : Act κ → Hub (Bus ReplyTarget) κ
  | .bus d => { h with line := h.line.after d }
  | .submit path interface method args target => h.submit path interface method args target
  | .deliver => h.deliver.2
  | .emit id name values => (h.emit id name values).2
  | .openMailbox => h.openMailbox.2
  | .post n m => h.post n m
  | .take n => (h.take n).elim h Prod.snd
  | .note e => h.note e
  | .tick => h.now.2

def Act.deed? : Act κ → Option (Deed ReplyTarget)
  | .bus d => some d
  | .submit path interface method args target => some (.submit path interface method args target)
  | .deliver => some .release
  | _ => none

theorem line_after (h : Hub (Bus ReplyTarget) κ) (a : Act κ) :
    (h.after a).line = a.deed?.elim h.line h.line.after := by
  cases a with
  | submit path interface method args target => exact (submit_extends h _ _ _ _ target).line
  | deliver => exact (deliver_extends h).line
  | emit id name values => exact (extends_emit h id name values).line
  | take n =>
    simp only [after, take, Act.deed?]
    split <;> rfl
  | bus | openMailbox | post | note | tick => rfl

theorem length_le_after (h : Hub (Bus ReplyTarget) κ) (a : Act κ) :
    h.mailboxes.length ≤ (h.after a).mailboxes.length := by
  cases a with
  | submit path interface method args target =>
    exact (submit_extends h _ _ _ _ target).length.ge
  | deliver => exact (deliver_extends h).length.ge
  | emit id name values => exact (extends_emit h id name values).length.ge
  | openMailbox => simp [after, openMailbox]
  | post n m => exact (extends_post h n m).length.ge
  | take n =>
    simp only [after, take]
    split <;> simp
  | bus | note | tick => exact Nat.le_refl _

def Act.called (n : Nat) : Act κ → List (EventId × List Word)
  | .note e => (e.call? n).toList
  | _ => []

theorem calls_after (h : Hub (Bus ReplyTarget) κ) (a : Act κ) (n : Nat) :
    (h.after a).calls n = h.calls n ++ a.called n := by
  cases a with
  | note e => exact calls_note h n e
  | submit path interface method args target =>
    exact ((submit_extends h _ _ _ _ target).calls n).trans (List.append_nil _).symm
  | deliver => exact ((deliver_extends h).calls n).trans (List.append_nil _).symm
  | emit id name values =>
    exact ((extends_emit h id name values).calls n).trans (List.append_nil _).symm
  | post k m => exact ((extends_post h k m).calls n).trans (List.append_nil _).symm
  | take k =>
    simp only [after, take, Act.called, List.append_nil]
    split <;> rfl
  | bus | openMailbox | tick => exact (List.append_nil _).symm

def Act.added (b : Bus ReplyTarget) (n : Nat) : Act κ → List (EventId × List Word)
  | .emit id _ values => List.replicate ((b.listeners id).count (.mailbox n)) (id, values)
  | .post k m => if k = n then m.event?.toList else []
  | _ => []

theorem waiting_after (h : Hub (Bus ReplyTarget) κ) {n : Nat} (hn : n < h.mailboxes.length)
    (a : Act κ) (ha : a ≠ .take n) :
    (h.after a).waiting n = h.waiting n ++ a.added h.line n := by
  cases a with
  | submit path interface method args target =>
    exact (waiting_submit h hn _ _ _ _ target).trans (List.append_nil _).symm
  | deliver => exact (waiting_deliver h hn).trans (List.append_nil _).symm
  | emit id name values => exact waiting_emit h hn id name values
  | post k m => exact waiting_post h hn k m
  | openMailbox =>
    simp [after, waiting, openMailbox, queue, List.getElem?_append_left hn, Act.added]
  | take k =>
    have hk : k ≠ n := fun he ↦ ha (congrArg Act.take he)
    simp only [after, take, Act.added, List.append_nil]
    split
    · rfl
    · simp [waiting, queue, hk]
  | bus | note | tick => exact (List.append_nil _).symm

/-- Mailboxes are opened before they are watched for, and before their sessions make calls. -/
def Act.Opened (h : Hub (Bus ReplyTarget) κ) : Act κ → Prop
  | .bus (.watch _ _ _ (.mailbox n)) => n < h.mailboxes.length
  | .note (.called n _ _ _) => n < h.mailboxes.length
  | _ => True

inductive Reachable : Hub (Bus ReplyTarget) κ → Prop
  | start : Reachable (.start .start)
  | after {h : Hub (Bus ReplyTarget) κ} (a : Act κ) (ha : a.Opened h) :
      Reachable h → Reachable (h.after a)

/-- Nothing speaks of a mailbox that has not been opened. -/
structure Settled (h : Hub (Bus ReplyTarget) κ) : Prop where
  sound : h.line.Sound
  listener_lt : ∀ t w n, h.line.watches.get? t = some w → w.listener = .mailbox n →
    n < h.mailboxes.length
  calls_eq : ∀ n, h.mailboxes.length ≤ n → h.calls n = []

theorem Settled.after {h : Hub (Bus ReplyTarget) κ} (hs : h.Settled) (a : Act κ)
    (ha : a.Opened h) : (h.after a).Settled where
  sound := by
    rw [line_after]
    cases a.deed? with
    | none => exact hs.sound
    | some d => exact hs.sound.after d
  listener_lt t w n hw hn := by
    refine Nat.lt_of_lt_of_le ?_ (length_le_after h a)
    rw [line_after] at hw
    cases hd : a.deed? with
    | none => exact hs.listener_lt t w n (by simpa [hd] using hw) hn
    | some d =>
      rw [hd] at hw
      rcases get?_watches_after h.line d hw with hold | ⟨rfl, rfl⟩
      · exact hs.listener_lt t w n hold hn
      · cases a with
        | bus d =>
          cases Option.some.inj hd
          rw [hn] at ha
          exact ha
        | submit | deliver | emit | openMailbox | post | take | note | tick => cases hd
  calls_eq n hn := by
    have hle := (length_le_after h a).trans hn
    rw [calls_after, hs.calls_eq n hle]
    cases a with
    | note e =>
      cases e with
      | called k id callback values =>
        have hk : k < h.mailboxes.length := ha
        have hkn : k ≠ n := by omega
        simp [Act.called, LogEntry.call?, hkn]
      | signal | reply | refusal | failure => rfl
    | bus | submit | deliver | emit | openMailbox | post | take | tick => rfl

theorem Reachable.settled {h : Hub (Bus ReplyTarget) κ} (hr : h.Reachable) : h.Settled := by
  induction hr with
  | start => exact ⟨sound_start, by simp [Hub.start, Bus.start], fun _ _ ↦ rfl⟩
  | after a ha _ ih => exact ih.after a ha

end Hub

end RobotBus
