import RobotBus.Proofs.Bus.Forwarding
import RobotBus.Proofs.Session.Teardown

namespace RobotBus

open Bus

variable {κ : Type}

namespace Occurrence

/-- The events that a session is to be told of, where some are subscribed to already. -/
def due (known : List EventId) : List Occurrence → List (EventId × List Word)
  | [] => []
  | subscribed id :: os => due (id :: known) os
  | emitted id values :: os => (if id ∈ known then [(id, values)] else []) ++ due known os

def learn (known : List EventId) : List Occurrence → List EventId
  | [] => known
  | subscribed id :: os => learn (id :: known) os
  | emitted _ _ :: os => learn known os

theorem due_append (known : List EventId) (os os' : List Occurrence) :
    due known (os ++ os') = due known os ++ due (learn known os) os' := by
  induction os generalizing known with
  | nil => rfl
  | cons o os ih =>
    cases o with
    | subscribed id => exact ih _
    | emitted id values => simp only [List.cons_append, due, ih, learn, List.append_assoc]

theorem learn_append (known : List EventId) (os os' : List Occurrence) :
    learn known (os ++ os') = learn (learn known os) os' := by
  induction os generalizing known with
  | nil => rfl
  | cons o os ih =>
    cases o with
    | subscribed id => exact ih _
    | emitted id values => exact ih _

theorem subset_learn (known : List EventId) (os : List Occurrence) :
    known ⊆ learn known os := by
  induction os generalizing known with
  | nil => exact fun _ h ↦ h
  | cons o os ih =>
    cases o with
    | subscribed id => exact fun _ h ↦ ih _ (List.mem_cons_of_mem _ h)
    | emitted id values => exact ih known

theorem learn_effects (known : List EventId) (es : List (Effect κ)) :
    learn known (es.filterMap ofEffect?) = known := by
  induction es with
  | nil => rfl
  | cons e es ih => cases e <;> exact ih

theorem mem_learn_of_due {known : List EventId} {os : List Occurrence} {x : EventId × List Word}
    (h : x ∈ due known os) : x.1 ∈ learn known os := by
  induction os generalizing known with
  | nil => cases h
  | cons o os ih =>
    cases o with
    | subscribed id => exact ih h
    | emitted id values =>
      rcases List.mem_append.mp h with hx | hx
      · split at hx
        · next hid =>
          cases List.mem_singleton.mp hx
          exact subset_learn known os hid
        · cases hx
      · exact ih hx

end Occurrence

open Occurrence

namespace Hub

variable {h : Hub (Bus ReplyTarget) κ} {n token mailbox : Nat} {known : List EventId}

theorem waiting_emit_tuned (ht : h.line.Tuned n token mailbox known)
    (hm : mailbox < h.mailboxes.length) (id : EventId) (name : String) (values : List Word) :
    (h.emit id name values).2.waiting mailbox =
      h.waiting mailbox ++ if id ∈ known then [(id, values)] else [] := by
  rw [waiting_emit h hm, ht.count_listeners]
  split <;> simp

theorem waiting_performAll (ht : h.line.Tuned n token mailbox known)
    (hm : mailbox < h.mailboxes.length) (k : Nat) (es : List (Effect κ)) :
    (h.performAll k es).waiting mailbox =
      h.waiting mailbox ++ due known (es.filterMap ofEffect?) := by
  induction es generalizing h with
  | nil => simp [performAll, due]
  | cons e es ih =>
    have hx := extends_perform h k e
    have hstep : (h.performAll k (e :: es)).waiting mailbox =
        (h.perform k e).waiting mailbox ++ due known (es.filterMap ofEffect?) :=
      ih (hx.line ▸ ht) (hx.length ▸ hm)
    rw [hstep]
    cases e with
    | request r =>
      have hp : (h.perform k (.request r)).waiting mailbox = h.waiting mailbox := by
        rw [perform, waiting_post h hm]
        simp [Message.event?]
      rw [hp]
      rfl
    | emit id name values =>
      rw [perform, waiting_emit_tuned ht hm, List.append_assoc]
      rfl

end Hub

namespace Situation

/-- What the callbacks of a session were called with, and then what waits for them. -/
def told (w : Situation κ) (mailbox : Nat) : List (EventId × List Word) :=
  w.hub.calls mailbox ++ w.hub.waiting mailbox

structure Attuned (w : Situation κ) (n token mailbox : Nat) (known : List EventId) : Prop where
  opened : w.session.closed = false
  mailbox_eq : w.session.mailbox = mailbox
  mailbox_lt : mailbox < w.hub.mailboxes.length
  presence : ∃ ids, w.session.presence = some ⟨⟨some (pathOfFilter n), ids⟩, some token⟩ ∧
    ∀ id, ids.contains id = true ↔ id ∈ known
  router : ∀ id, w.session.router.subscriptions.contains id = true ↔ id ∈ known
  line : w.hub.line.Tuned n token mailbox known
  waiting : ∀ x ∈ w.hub.waiting mailbox, x.1 ∈ known

variable {w w' : Situation κ} {n token mailbox : Nat} {known : List EventId} {os : List Occurrence}

theorem Attuned.live (h : w.Attuned n token mailbox known) :
    w.session.Live (pathOfFilter n) token := by
  obtain ⟨ids, hp, -⟩ := h.presence
  exact ⟨h.opened, ids, hp⟩

/-- The bus may change as long as the session's filter and its watch do not. -/
theorem Attuned.withLine (h : w.Attuned n token mailbox known) {b : Bus ReplyTarget}
    (hb : b.Tuned n token mailbox known) : (w.withLine b).Attuned n token mailbox known :=
  ⟨h.opened, h.mailbox_eq, h.mailbox_lt, h.presence, h.router, hb, h.waiting⟩

theorem subscribed_contains (w : Situation κ) (id id' : EventId) (callback : κ) :
    (w.subscribed id callback).session.router.subscriptions.contains id' = true ↔
      id = id' ∨ w.session.router.subscriptions.contains id' = true := by
  simp [subscribed, Router.subscribe, Subscriptions.subscribe, Subscriptions.put,
    Subscriptions.contains]

theorem Attuned.subscribed (h : w.Attuned n token mailbox known) {id : EventId}
    (hid : id ∈ known) (callback : κ) :
    (w.subscribed id callback).Attuned n token mailbox (id :: known) := by
  have hsame : ∀ id', id' ∈ known ↔ id' ∈ id :: known := by
    intro id'
    rw [List.mem_cons]
    exact ⟨.inr, fun h ↦ h.elim (fun he ↦ he ▸ hid) fun h ↦ h⟩
  obtain ⟨ids, hp, hids⟩ := h.presence
  refine ⟨h.opened, h.mailbox_eq, h.mailbox_lt, ⟨ids, hp, fun id' ↦ (hids id').trans (hsame id')⟩,
    ?_, h.line.congr hsame, fun x hx ↦ List.mem_cons_of_mem _ (h.waiting x hx)⟩
  intro id'
  rw [subscribed_contains, h.router, List.mem_cons]
  exact or_congr_left eq_comm

theorem Attuned.listening (h : w.Attuned n token mailbox known) {ids : EventSet} {id : EventId}
    {vs : List Value}
    (hp : w.session.presence = some ⟨⟨some (pathOfFilter n), ids⟩, some token⟩)
    (hok : (w.hub.line.listen (pathOfFilter n) id).1 = .ok vs) (callback : κ) :
    ((w.listening (pathOfFilter n) token ids id).subscribed id callback).Attuned n token mailbox
      (id :: known) := by
  obtain ⟨ids', hp', hids⟩ := h.presence
  cases hp.symm.trans hp'
  refine ⟨h.opened, h.mailbox_eq, h.mailbox_lt, ⟨_, rfl, ?_⟩, ?_,
    h.line.listen hok, fun x hx ↦ List.mem_cons_of_mem _ (h.waiting x hx)⟩
  · intro id'
    rw [Directory.contains_insert, Bool.or_eq_true, decide_eq_true_eq, hids, List.mem_cons]
    exact or_congr_left eq_comm
  · intro id'
    have hr := h.router id'
    rw [subscribed_contains, List.mem_cons]
    exact or_congr eq_comm hr

theorem Attuned.subscription (h : w.Attuned n token mailbox known) {id : EventId}
    (hid : id ∈ known) :
    ∃ sub, w.session.router.subscriptions.entries.get? id = some sub :=
  (Directory.contains_eq_true_iff _ _).mp ((h.router id).mpr hid)

theorem told_close (w : Situation κ) : w.close.told mailbox = w.told mailbox := by
  rw [told, close, Session.close_hub]
  rfl

variable [Callback κ]

theorem route_of_subscription {r : Router κ} {id : EventId} {sub : Subscription κ}
    (hsub : r.subscriptions.entries.get? id = some sub) (values : List Word) (now : Instant) :
    (r.route id values now).call =
        some ⟨sub.callback, values, (Callback.react sub.callback values).effects⟩ ∧
      (r.route id values now).outcome ≠ .ok .dropped ∧
      ∀ id', (r.route id values now).router.subscriptions.contains id' = true ↔
        r.subscriptions.contains id' = true := by
  have hput (e : Subscription κ) (id' : EventId) :
      (r.put id e).subscriptions.contains id' = true ↔ r.subscriptions.contains id' = true := by
    simp only [Router.put, Subscriptions.put, Subscriptions.contains, Directory.contains_insert,
      Bool.or_eq_true, decide_eq_true_eq, or_iff_right_iff_imp]
    rintro rfl
    exact (Directory.contains_eq_true_iff _ _).mpr ⟨sub, hsub⟩
  simp only [Router.route, hsub]
  split
  · exact ⟨rfl, by simp, hput _⟩
  · exact ⟨rfl, by simp, hput _⟩

theorem received_hub {h : Hub (Bus ReplyTarget) κ} {e : Event} {sub : Subscription κ}
    (hsub : w.session.router.subscriptions.entries.get? e.id = some sub) :
    (w.received h e).hub =
      (h.now.2.note (.called w.session.mailbox e.id sub.callback e.values)).performAll
        w.session.mailbox (Callback.react sub.callback e.values).effects := by
  rw [received, (route_of_subscription hsub e.values h.now.1).1]
  rfl

theorem Attuned.received (hw : w.Attuned n token mailbox known) {e : Event}
    {h : Hub (Bus ReplyTarget) κ} (ht : w.hub.take w.session.mailbox = some (.event e, h)) :
    (w.received h e).told mailbox =
        w.told mailbox ++ due known (w.session.occurrences h (.event e)) ∧
      (w.received h e).Attuned n token mailbox
        (learn known (w.session.occurrences h (.event e))) := by
  obtain ⟨hqueue, hline, hlog, hlen⟩ := Hub.queue_of_take ht
  have hwaiting := Hub.waiting_of_take ht
  rw [hw.mailbox_eq] at hwaiting
  have hid : e.id ∈ known := hw.waiting (e.id, e.values) (by simp [hwaiting, Message.event?])
  obtain ⟨sub, hsub⟩ := hw.subscription hid
  obtain ⟨hcall, -, hcontains⟩ := route_of_subscription hsub e.values h.now.1
  have hos : w.session.occurrences h (.event e) =
      (Callback.react sub.callback e.values).effects.filterMap ofEffect? := by
    rw [Session.occurrences, hcall]
    rfl
  have htuned : (h.now.2.note (.called w.session.mailbox e.id sub.callback e.values)).line.Tuned n
      token mailbox known := hline ▸ hw.line
  have hlt : mailbox < (h.now.2.note
      (.called w.session.mailbox e.id sub.callback e.values)).mailboxes.length :=
    hlen ▸ hw.mailbox_lt
  have hx := Hub.extends_performAll
    (h.now.2.note (.called w.session.mailbox e.id sub.callback e.values)) w.session.mailbox
    (Callback.react sub.callback e.values).effects
  have hwait : (w.received h e).hub.waiting mailbox =
      h.waiting mailbox ++
        due known ((Callback.react sub.callback e.values).effects.filterMap ofEffect?) := by
    rw [received_hub hsub, Hub.waiting_performAll htuned hlt]
    rfl
  have hcalls : (w.received h e).hub.calls mailbox =
      w.hub.calls mailbox ++ [(e.id, e.values)] := by
    rw [received_hub hsub, hx.calls, Hub.calls_note, Hub.calls, Hub.calls]
    simp [Hub.now, hlog, LogEntry.call?, hw.mailbox_eq]
  rw [hos, learn_effects]
  refine ⟨?_, hw.opened, hw.mailbox_eq, ?_, hw.presence, ?_, ?_, ?_⟩
  · simp [told, hcalls, hwait, hwaiting, Message.event?]
  · rw [received_hub hsub, hx.length]
    exact hlt
  · intro id
    exact (hcontains id).trans (hw.router id)
  · rw [received_hub hsub, hx.line]
    exact htuned
  · intro x hmem
    rw [hwait] at hmem
    rcases List.mem_append.mp hmem with hx | hx
    · exact hw.waiting x (hwaiting ▸ List.mem_append_right _ hx)
    · exact learn_effects known _ ▸ mem_learn_of_due hx

/-- A stage adds what is due to what is told, and the session stays attuned or is closed. -/
theorem Stage.attuned (hw : w.Attuned n token mailbox known)
    (st : Stage (pathOfFilter n) token w os w') :
    w'.told mailbox = w.told mailbox ++ due known os ∧
      (w'.Attuned n token mailbox (learn known os) ∨ w' = w.close) := by
  have network : ¬ networkInterface = filterInterface := by decide
  cases st with
  | names names =>
    exact ⟨(List.append_nil _).symm, .inl ⟨hw.opened, hw.mailbox_eq, hw.mailbox_lt, hw.presence,
      hw.router, hw.line, hw.waiting⟩⟩
  | sweep b hb => exact ⟨(List.append_nil _).symm, .inl (hw.withLine (hw.line.swept hb))⟩
  | call method args hm =>
    have hd : (Deed.call networkPath networkInterface method args : Deed ReplyTarget).Spares n token
        mailbox := ⟨fun hc ↦ network hc.1, nofun, nofun⟩
    exact ⟨(List.append_nil _).symm, .inl (hw.withLine (hw.line.after hd))⟩
  | send args =>
    have hd : (Deed.submit networkPath networkInterface "SendEvent" args
        (ReplyTarget.mailbox w.session.mailbox)).Spares n token mailbox :=
      ⟨fun hc ↦ network hc.1, nofun, nofun⟩
    have hx := Hub.submit_extends w.hub networkPath networkInterface "SendEvent" args
      (.mailbox w.session.mailbox)
    have hwait := Hub.waiting_submit w.hub hw.mailbox_lt networkPath networkInterface "SendEvent"
      args (.mailbox w.session.mailbox)
    refine ⟨?_, .inl ⟨hw.opened, hw.mailbox_eq, hx.length ▸ hw.mailbox_lt, hw.presence, hw.router,
      hx.line ▸ hw.line.after hd, hwait ▸ hw.waiting⟩⟩
    rw [told, hwait, hx.calls]
    exact (List.append_nil _).symm
  | refused id f hf =>
    refine ⟨(List.append_nil _).symm, .inl (hw.withLine ?_)⟩
    rw [listen_of_error hf]
    exact hw.line.note _
  | again id callback ids hp hid =>
    obtain ⟨ids', hp', hids⟩ := hw.presence
    cases hp.symm.trans hp'
    exact ⟨(List.append_nil _).symm, .inl (hw.subscribed ((hids id).mp hid) callback)⟩
  | first id callback ids hp vs hok =>
    exact ⟨(List.append_nil _).symm, .inl (hw.listening hp hok callback)⟩
  | take m h hm he =>
    obtain ⟨-, hline, hlog, hlen⟩ := Hub.queue_of_take hm
    have hwait := Hub.waiting_of_take hm
    rw [he, hw.mailbox_eq] at hwait
    refine ⟨?_, .inl ⟨hw.opened, hw.mailbox_eq, hlen ▸ hw.mailbox_lt, hw.presence, hw.router,
      hline ▸ hw.line, fun x hx ↦ hw.waiting x (hwait ▸ hx)⟩⟩
    simp [told, hwait, Hub.calls, hlog, due]
  | receive e h hm =>
    obtain ⟨htold, hattuned⟩ := hw.received hm
    exact ⟨htold, .inl hattuned⟩
  | close => exact ⟨(told_close w).trans (List.append_nil _).symm, .inr rfl⟩

theorem Attuned.deaf_close (hw : w.Attuned n token mailbox known) :
    w.close.hub.line.Deaf mailbox where
  sound := (Stage.close.leads hw.live).sound hw.line.sound
  unheard t x hx hl := by
    rw [watches_close hw.live, Directory.get?_erase] at hx
    split_ifs at hx with ht
    exact ht (hw.line.only t x hx hl).symm

structure Over (w : Situation κ) (mailbox : Nat) : Prop where
  closed : w.session.closed = true
  mailbox_lt : mailbox < w.hub.mailboxes.length
  line : w.hub.line.Deaf mailbox

theorem Attuned.over_close (hw : w.Attuned n token mailbox known) : w.close.Over mailbox where
  closed := Session.close_closed _ _
  mailbox_lt := by
    rw [close, Session.close_hub]
    exact hw.mailbox_lt
  line := hw.deaf_close

theorem Stages.attuned (hw : w.Attuned n token mailbox known)
    (h : Stages (pathOfFilter n) token w os w') :
    w'.told mailbox = w.told mailbox ++ due known os ∧
      (w'.Attuned n token mailbox (learn known os) ∨ w'.Over mailbox) := by
  induction h with
  | refl => exact ⟨(List.append_nil _).symm, .inl hw⟩
  | step _ hl st ih =>
    obtain ⟨htold, hw' | hover⟩ := ih
    · obtain ⟨htold', hend⟩ := st.attuned hw'
      refine ⟨by rw [htold', htold, due_append, List.append_assoc], ?_⟩
      rcases hend with hw'' | rfl
      · exact .inl (learn_append known _ _ ▸ hw'')
      · exact .inr hw'.over_close
    · exact absurd (hl.opened.symm.trans hover.closed) (by decide)

end Situation

/-- An act that leaves a session's filter, its watch and its mailbox to the session. Anybody may
post requests and problems. -/
def Hub.Act.Spares (n token mailbox : Nat) : Hub.Act κ → Prop
  | .bus d => d.Spares n token mailbox
  | .submit path interface method args target =>
    (Deed.submit path interface method args target).Spares n token mailbox
  | .post k m => k = mailbox → m.event? = none
  | .take k => k ≠ mailbox
  | .note e => e.call? mailbox = none
  | .deliver | .emit _ _ _ | .openMailbox | .tick => True

namespace Hub.Act.Spares

variable {n token mailbox : Nat} {known : List EventId} {a : Hub.Act κ}
  {h : Hub (Bus ReplyTarget) κ}

theorem deed (ha : a.Spares n token mailbox) {d : Deed ReplyTarget} (hd : a.deed? = some d) :
    d.Spares n token mailbox := by
  cases a with
  | bus => cases hd; exact ha
  | submit => cases hd; exact ha
  | deliver => cases hd; exact ⟨nofun, nofun, nofun⟩
  | emit | openMailbox | post | take | note | tick => cases hd

theorem calls (ha : a.Spares n token mailbox) : (h.after a).calls mailbox = h.calls mailbox := by
  have hnone : a.called mailbox = [] := by
    cases a with
    | note e => exact congrArg Option.toList (show e.call? mailbox = none from ha)
    | bus | submit | deliver | emit | openMailbox | post | take | tick => rfl
  rw [calls_after, hnone, List.append_nil]

theorem waiting (ha : a.Spares n token mailbox) (hm : mailbox < h.mailboxes.length)
    (hcount : ∀ id, (h.line.listeners id).count (.mailbox mailbox) = if id ∈ known then 1 else 0) :
    (h.after a).waiting mailbox = h.waiting mailbox ++ due known (ofAct a) := by
  rw [waiting_after h hm a (fun he ↦ by subst he; exact ha rfl)]
  congr 1
  cases a with
  | emit id name values =>
    simp only [added, hcount, ofAct, due]
    split <;> simp
  | post k m =>
    simp only [added]
    split
    · next hk => rw [show m.event? = none from ha hk]; rfl
    · rfl
  | bus | submit | deliver | openMailbox | take | note | tick => rfl

end Hub.Act.Spares

namespace Situation

variable {w : Situation κ} {n token mailbox : Nat} {known : List EventId}

theorem Attuned.act (hw : w.Attuned n token mailbox known) {a : Hub.Act κ}
    (ha : a.Spares n token mailbox) :
    (w.hub.after a).calls mailbox ++ (w.hub.after a).waiting mailbox =
        w.told mailbox ++ due known (ofAct a) ∧
      Attuned { w with hub := w.hub.after a } n token mailbox known := by
  have hwait := ha.waiting hw.mailbox_lt hw.line.count_listeners
  refine ⟨by rw [ha.calls, hwait, told, List.append_assoc], hw.opened, hw.mailbox_eq,
    Nat.lt_of_lt_of_le hw.mailbox_lt (Hub.length_le_after w.hub a), hw.presence, hw.router, ?_,
    ?_⟩
  · rw [Hub.line_after]
    cases hd : a.deed? with
    | none => exact hw.line
    | some d => exact hw.line.after (ha.deed hd)
  · intro x hx
    rw [hwait] at hx
    rcases List.mem_append.mp hx with hx | hx
    · exact hw.waiting x hx
    · have hlearn : learn known (ofAct a) = known := by cases a <;> rfl
      exact hlearn ▸ mem_learn_of_due hx

theorem Over.act (hw : w.Over mailbox) {a : Hub.Act κ} (ha : a.Spares n token mailbox) :
    (w.hub.after a).calls mailbox = w.hub.calls mailbox ∧
      (w.hub.after a).waiting mailbox = w.hub.waiting mailbox ∧
      Over { w with hub := w.hub.after a } mailbox := by
  have hcount (id : EventId) : (w.hub.line.listeners id).count (.mailbox mailbox) =
      if id ∈ ([] : List EventId) then 1 else 0 := by
    rw [hw.line.count_listeners, if_neg List.not_mem_nil]
  have hwait := ha.waiting hw.mailbox_lt hcount
  have hnone : due [] (ofAct a) = [] := by cases a <;> rfl
  refine ⟨ha.calls, by rw [hwait, hnone, List.append_nil], hw.closed,
    Nat.lt_of_lt_of_le hw.mailbox_lt (Hub.length_le_after w.hub a), ?_⟩
  rw [Hub.line_after]
  cases hd : a.deed? with
  | none => exact hw.line
  | some d => exact hw.line.after (ha.deed hd)

variable [Callback κ]

theorem Over.run (hw : w.Over mailbox) {ms : List (Move κ)}
    (hms : ∀ a, .other a ∈ ms → a.Spares n token mailbox) :
    (w.run ms).hub.calls mailbox = w.hub.calls mailbox ∧
      (w.run ms).hub.waiting mailbox = w.hub.waiting mailbox ∧ w.history ms = [] ∧
      (w.run ms).Over mailbox := by
  induction ms generalizing w with
  | nil => exact ⟨rfl, rfl, rfl, hw⟩
  | cons m ms ih =>
    have hms' : ∀ a, .other a ∈ ms → a.Spares n token mailbox :=
      fun a ha ↦ hms a (List.mem_cons_of_mem _ ha)
    rcases m.own_or_other with hm | ⟨a, rfl⟩
    · obtain ⟨hhub, hc, hduring⟩ := after_of_closed hw.closed m hm
      have hw' : (w.after m).Over mailbox := ⟨hc, hhub ▸ hw.mailbox_lt, hhub ▸ hw.line⟩
      obtain ⟨hcalls, hwait, hhistory, hover⟩ := ih hw' hms'
      refine ⟨hhub ▸ hcalls, hhub ▸ hwait, ?_, hover⟩
      rw [history, hduring, hhistory]
      rfl
    · obtain ⟨hcalls, hwait, hw'⟩ := hw.act (hms a List.mem_cons_self)
      obtain ⟨hcalls', hwait', hhistory, hover⟩ := ih (w := w.after (.other a)) hw' hms'
      refine ⟨hcalls'.trans hcalls, hwait'.trans hwait, ?_, hover⟩
      rw [history, hhistory, during, if_pos hw.closed]
      rfl

theorem Attuned.run (hw : w.Attuned n token mailbox known) {ms : List (Move κ)}
    (hms : ∀ a, .other a ∈ ms → a.Spares n token mailbox) :
    (w.run ms).told mailbox = w.told mailbox ++ due known (w.history ms) ∧
      ((w.run ms).Attuned n token mailbox (learn known (w.history ms)) ∨
        (w.run ms).Over mailbox) := by
  induction ms generalizing w known with
  | nil => exact ⟨(List.append_nil _).symm, .inl hw⟩
  | cons m ms ih =>
    have hms' : ∀ a, .other a ∈ ms → a.Spares n token mailbox :=
      fun a ha ↦ hms a (List.mem_cons_of_mem _ ha)
    obtain ⟨htold, hend⟩ : (w.after m).told mailbox = w.told mailbox ++ due known (w.during m) ∧
        ((w.after m).Attuned n token mailbox (learn known (w.during m)) ∨
          (w.after m).Over mailbox) := by
      rcases m.own_or_other with hm | ⟨a, rfl⟩
      · exact (stages_after hw.live m hm).attuned hw
      · have hopen : w.during (.other a) = ofAct a := by simp [during, hw.opened]
        have hlearn : learn known (ofAct a) = known := by cases a <;> rfl
        obtain ⟨htold, hw'⟩ := hw.act (hms a List.mem_cons_self)
        rw [hopen, hlearn]
        exact ⟨htold, .inl hw'⟩
    rcases hend with hw' | hover
    · obtain ⟨htold', hend'⟩ := ih hw' hms'
      refine ⟨?_, ?_⟩
      · rw [history, due_append, ← List.append_assoc, ← htold]
        exact htold'
      · rw [history, learn_append]
        exact hend'
    · obtain ⟨hcalls, hwait, hhistory, hover'⟩ := hover.run hms'
      refine ⟨?_, .inr hover'⟩
      rw [history, hhistory, List.append_nil, ← htold, told, told, ← hcalls, ← hwait]
      rfl

/-- An event whose turn comes is given to the callback that its subscription has then. -/
theorem Attuned.log_turn (hw : w.Attuned n token mailbox known) {e : Event}
    {h : Hub (Bus ReplyTarget) κ} {sub : Subscription κ}
    (ht : w.hub.take mailbox = some (.event e, h))
    (hsub : w.session.router.subscriptions.entries.get? e.id = some sub) :
    ∃ es, w.turn.hub.log = w.hub.log ++ .called mailbox e.id sub.callback e.values :: es ∧
      ∀ l ∈ es, l.call? mailbox = none := by
  rw [← hw.mailbox_eq] at ht
  have hclose (s : Session κ) (g : Hub (Bus ReplyTarget) κ) : (s.close g).2.2.log = g.log := by
    rw [Session.close_hub]
  have hlog : w.turn.hub.log = (w.received h e).hub.log := by
    rw [turn_of_take hw.live ht]
    cases ho : (w.session.router.route e.id e.values h.now.1).outcome with
    | ok routing =>
      simp only [Session.handle, Session.receive, ho]
      rfl
    | error p =>
      simp only [Session.handle, Session.receive, ho, Session.breakOff, hclose]
      rfl
  obtain ⟨es, hes, hnone⟩ := (Hub.extends_performAll
    (h.now.2.note (.called w.session.mailbox e.id sub.callback e.values)) w.session.mailbox
    (Callback.react sub.callback e.values).effects).log
  refine ⟨es, ?_, fun l hl ↦ hnone l hl mailbox⟩
  rw [hlog, received_hub hsub, hes, ← hw.mailbox_eq, ← (Hub.queue_of_take ht).2.2.1]
  simp [Hub.note, Hub.now]

omit [Callback κ] in
theorem tuned_furnished {h₀ : Hub (Bus ReplyTarget) κ} (hs : h₀.Settled) {b : Bus ReplyTarget}
    (hb : b.Sound) (hw : b.watches = h₀.line.watches) :
    (b.furnished h₀.mailboxes.length).Tuned b.nextFilter b.nextToken h₀.mailboxes.length [] where
  sound := hb.furnished _
  number_lt := Nat.lt_succ_self _
  filter := by
    refine ⟨.empty, ?_, fun id ↦ by simp⟩
    rw [filters_furnished, Directory.get?_insert, if_pos rfl]
  watch := by rw [watches_furnished, Directory.get?_insert, if_pos rfl]
  only t w hget hl := by
    rw [watches_furnished, Directory.get?_insert] at hget
    split_ifs at hget with ht
    · exact ht.symm
    · have hlt := hs.listener_lt t w _ (hw ▸ hget) hl
      omega

omit [Callback κ] in
theorem attuned_of_connects {h₀ h : Hub (Bus ReplyTarget) κ} {c : Settings} {s : Session κ}
    (hc : Session.Connects h₀ c (.ok s) h) (hlive : c.offline = false) (hs : h₀.Settled) :
    (⟨s, h⟩ : Situation κ).Attuned h₀.line.nextFilter h₀.line.nextToken s.mailbox [] ∧
      (⟨s, h⟩ : Situation κ).told s.mailbox = [] := by
  obtain ⟨b, hb, rfl, rfl⟩ := hc.swept hlive
  have hframe := hb.frame
  have hn : b.nextFilter = h₀.line.nextFilter := by rw [hframe]; rfl
  have ht : b.nextToken = h₀.line.nextToken := by rw [hframe]; rfl
  have hw : b.watches = h₀.line.watches := by rw [hframe]; rfl
  have hbs : b.Sound := hb.leads.sound ((Session.sound_connected hs.sound c).note _)
  have hwait : ({ h₀ with line := b.furnished h₀.mailboxes.length }).openMailbox.2.waiting
      h₀.mailboxes.length = [] := by
    simp [Hub.waiting, Hub.queue, Hub.openMailbox]
  refine ⟨⟨rfl, rfl, by simp [Session.fresh, Hub.openMailbox], ⟨.empty, rfl, by simp⟩, ?_, ?_, ?_⟩,
    ?_⟩
  · simp [Session.fresh, Router.start, Subscriptions.empty, Subscriptions.contains]
  · exact hn ▸ ht ▸ tuned_furnished hs hbs hw
  · exact fun x hx ↦ absurd hx (List.eq_nil_iff_forall_not_mem.mp hwait x)
  · exact List.append_eq_nil_iff.mpr ⟨hs.calls_eq _ (Nat.le_refl _), hwait⟩

end Situation

namespace Session

variable [Callback κ]

/-- A live session is told everything that is due to it, in order, once, and by the right callback:
at any time the calls that have been made, and after them the events that wait in the mailbox, are
the events that were emitted while the session was open and subscribed to them. No event that waits
is dropped when its turn comes. Once the session is closed nothing more is called or comes to wait,
and nothing more is due.

Anything may be done meanwhile by anybody else, but for what would touch the session's own filter,
watch or mailbox. -/
theorem told_what_is_due (h₀ h : Hub (Bus ReplyTarget) κ) (c : Settings) (s : Session κ)
    (hr : h₀.Reachable) (hlive : c.offline = false) (hc : connect h₀ c = (.ok s, h)) :
    ∃ n token, s.Live (pathOfFilter n) token ∧
      ∀ ms : List (Move κ), (∀ a, .other a ∈ ms → a.Spares n token s.mailbox) →
        let w := Situation.run ⟨s, h⟩ ms
        w.hub.calls s.mailbox ++ w.hub.waiting s.mailbox =
            due [] (Situation.history ⟨s, h⟩ ms) ∧
          (w.session.closed = false →
            (∀ x ∈ w.hub.waiting s.mailbox, w.session.router.subscriptions.contains x.1 = true) ∧
            ∀ e h', w.hub.take s.mailbox = some (.event e, h') →
              ∃ sub, w.session.router.subscriptions.entries.get? e.id = some sub ∧
                (w.session.router.route e.id e.values h'.now.1).outcome ≠ .ok .dropped ∧
                ∃ rest, w.turn.hub.log =
                    w.hub.log ++ .called s.mailbox e.id sub.callback e.values :: rest ∧
                  ∀ l ∈ rest, l.call? s.mailbox = none) ∧
          (w.session.closed = true →
            ∀ ms', (∀ a, .other a ∈ ms' → a.Spares n token s.mailbox) →
              (w.run ms').hub.calls s.mailbox = w.hub.calls s.mailbox ∧
                (w.run ms').hub.waiting s.mailbox = w.hub.waiting s.mailbox ∧
                w.history ms' = []) := by
  have hconnects := connect_connects h₀ c
  rw [hc] at hconnects
  obtain ⟨hw, hnothing⟩ := Situation.attuned_of_connects hconnects hlive hr.settled
  refine ⟨_, _, hw.live, ?_⟩
  intro ms hms
  -- one run lemma: the session is attuned for as long as it is open, and then it is over
  obtain ⟨htold, hend⟩ := hw.run hms
  rw [hnothing, List.nil_append] at htold
  refine ⟨htold, ?_, ?_⟩
  · intro hopen
    rcases hend with hw' | hover
    · refine ⟨fun x hx ↦ (hw'.router x.1).mpr (hw'.waiting x hx), ?_⟩
      intro e h' ht
      have hwait := Hub.waiting_of_take ht
      have hid : e.id ∈ learn [] (Situation.history ⟨s, h⟩ ms) :=
        hw'.waiting (e.id, e.values) (by simp [hwait, Message.event?])
      obtain ⟨sub, hsub⟩ := hw'.subscription hid
      exact ⟨sub, hsub, (Situation.route_of_subscription hsub e.values _).2.1,
        hw'.log_turn ht hsub⟩
    · exact absurd (hopen.symm.trans hover.closed) (by decide)
  · intro hclosed ms' hms'
    rcases hend with hw' | hover
    · exact absurd (hw'.opened.symm.trans hclosed) (by decide)
    · obtain ⟨hcalls, hwait, hhistory, -⟩ := hover.run hms'
      exact ⟨hcalls, hwait, hhistory⟩

def echo : Script := ⟨"echo", none, [.emit ⟨3⟩ [9]], 0⟩

theorem told_what_is_due_of_echo : ∃ n token, (first : Session Script).Live (pathOfFilter n) token ∧
    let w := Situation.run ⟨(first : Session Script), firstHub⟩
      [.step 0 (.subscribe (.byId ⟨3⟩) echo), .other (.emit ⟨4⟩ "stray" [1]),
        .other (.emit ⟨3⟩ "call" [7]), .turn]
    w.hub.calls 0 ++ w.hub.waiting 0 = [(⟨3⟩, [7]), (⟨3⟩, [9])] := by
  obtain ⟨n, token, hl, hrun⟩ :=
    told_what_is_due (.start Bus.start) firstHub .default (first : Session Script) .start rfl
      connect_first
  refine ⟨n, token, hl, (hrun _ ?_).1.trans (by decide)⟩
  intro a ha
  cases a with
  | emit id name values => trivial
  | bus | submit | deliver | openMailbox | post | take | note | tick => simp at ha

end Session

end RobotBus
