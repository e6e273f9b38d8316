import RobotBus.Proofs.Session.Delivery

namespace RobotBus

open Bus

variable {κ : Type}

namespace Hub

inductive Act.Of (path : String) (token mailbox : Nat) : Act κ → Prop
  | connect (scope : Scope) : Of path token mailbox (.bus (.connect scope))
  | disconnect : Of path token mailbox (.bus .disconnect)
  | reach (p : String) : Of path token mailbox (.bus (.reach p))
  | listChildren (p : String) : Of path token mailbox (.bus (.listChildren p))
  | free (n : Nat) : Of path token mailbox (.bus (.call (pathOfFilter n) filterInterface "Free" []))
  | network (method : String) (args : List Value) :
      Of path token mailbox (.bus (.call networkPath networkInterface method args))
  | filter (method : String) (args : List Value) :
      Of path token mailbox (.bus (.call path filterInterface method args))
  | send (args : List Value) : Of path token mailbox
      (.submit networkPath networkInterface "SendEvent" args (.mailbox mailbox))
  | watch :
      Of path token mailbox (.bus (.watch path filterInterface eventSignal (.mailbox mailbox)))
  | unwatch : Of path token mailbox (.bus (.unwatch token))
  | openMailbox : Of path token mailbox .openMailbox
  | tick : Of path token mailbox .tick
  | take : Of path token mailbox (.take mailbox)
  | called (id : EventId) (callback : κ) (values : List Word) :
      Of path token mailbox (.note (.called mailbox id callback values))
  | request (k : Nat) (q : Request κ) : Of path token mailbox (.post k (.request q))
  | emit (id : EventId) (name : String) (values : List Word) :
      Of path token mailbox (.emit id name values)

inductive Acted (path : String) (token mailbox : Nat) (h : Hub (Bus ReplyTarget) κ) :
    Hub (Bus ReplyTarget) κ → Prop
  | refl : Acted path token mailbox h h
  | after {h' : Hub (Bus ReplyTarget) κ} {a : Act κ} (hh : Acted path token mailbox h h')
      (ha : a.Of path token mailbox) (ho : a.Opened h') : Acted path token mailbox h (h'.after a)

variable {h h' h'' : Hub (Bus ReplyTarget) κ} {path : String} {token mailbox : Nat}

theorem Acted.trans (hh : Acted path token mailbox h h') (hh' : Acted path token mailbox h' h'') :
    Acted path token mailbox h h'' := by
  induction hh' with
  | refl => exact hh
  | after _ ha ho ih => exact ih.after ha ho

theorem Acted.exists_acts (hh : Acted path token mailbox h h') :
    ∃ as : List (Act κ), (∀ a ∈ as, a.Of path token mailbox) ∧ h' = as.foldl Hub.after h := by
  induction hh with
  | refl => exact ⟨[], by simp, rfl⟩
  | @after _ a _ ha _ ih =>
    obtain ⟨as, has, heq⟩ := ih
    refine ⟨as ++ [a], ?_, ?_⟩
    · intro a' ha'
      rcases List.mem_append.mp ha' with ha' | ha'
      · exact has a' ha'
      · obtain rfl := List.mem_singleton.mp ha'
        exact ha
    · rw [List.foldl_append, ← heq]
      rfl

/-- The most that a session does to another is to free its filter. -/
theorem Act.Of.spares {n n' token' mailbox' : Nat} {a : Act κ}
    (ha : a.Of (pathOfFilter n) token mailbox) (hn : n ≠ n') (ht : token ≠ token')
    (hm : mailbox ≠ mailbox') :
    a.Spares n' token' mailbox' ∨
      a = .bus (.call (pathOfFilter n') filterInterface "Free" []) := by
  have network : ¬networkInterface = filterInterface := by decide
  have hcalls : ∀ k, k ≠ n' → ¬numberInPath? (pathOfFilter k) = some n' := by
    intro k hk hnumber
    exact hk (number_of_pathOfFilter hnumber).symm
  cases ha with
  | free k =>
    by_cases hk : k = n'
    · subst hk
      exact .inr rfl
    · exact .inl ⟨fun hc ↦ hcalls k hk hc.2, by simp, by simp⟩
  | network method args => exact .inl ⟨fun hc ↦ network hc.1, by simp, by simp⟩
  | filter method args => exact .inl ⟨fun hc ↦ hcalls n hn hc.2, by simp, by simp⟩
  | send args => exact .inl ⟨fun hc ↦ network hc.1, by simp, by simp⟩
  | watch => exact .inl ⟨id, by simp, by simp [hm]⟩
  | unwatch => exact .inl ⟨id, by simp [ht], by simp⟩
  | connect | disconnect | reach | listChildren => exact .inl ⟨id, by simp, by simp⟩
  | openMailbox | tick | emit => exact .inl trivial
  | take => exact .inl hm
  | called id callback values => exact .inl (if_neg hm)
  | request k q => exact .inl (fun _ ↦ rfl)

theorem acted_sweeps {mayFree : Nat → Prop} {b : Bus ReplyTarget} (hb : Sweeps mayFree h.line b) :
    Acted path token mailbox h { h with line := b } := by
  induction hb with
  | nothing => exact .refl
  | reach p _ ih => exact ih.after (.reach p) trivial
  | listChildren p _ ih => exact ih.after (.listChildren p) trivial
  | free n _ _ ih => exact ih.after (.free n) trivial

theorem acted_performAll (n : Nat) (es : List (Effect κ)) :
    Acted path token mailbox h (h.performAll n es) := by
  induction es generalizing h with
  | nil => exact .refl
  | cons e es ih =>
    cases e with
    | request q => exact (Acted.refl.after (.request n q) trivial).trans ih
    | emit id name values => exact (Acted.refl.after (.emit id name values) trivial).trans ih

end Hub

namespace Situation

open Hub

variable [Callback κ] {path : String} {token : Nat} {w w' : Situation κ} {os : List Occurrence}

theorem Stage.acted (hm : w.session.mailbox < w.hub.mailboxes.length)
    (hl : w.session.Live path token) (st : Stage path token w os w') :
    Acted path token w.session.mailbox w.hub w'.hub := by
  cases st with
  | names => exact .refl
  | sweep b hb => exact acted_sweeps hb
  | call method args => exact Acted.refl.after (.network method args) trivial
  | send args => exact Acted.refl.after (.send args) trivial
  | refused id => exact Acted.refl.after (.filter "ListenEvent" [.uint16 id.val]) trivial
  | again id => exact Acted.refl.after .tick trivial
  | first id =>
    exact (Acted.refl.after (.filter "ListenEvent" [.uint16 id.val]) trivial).after .tick trivial
  | take m h ht =>
    have hafter : w.hub.after (.take w.session.mailbox) = h := by rw [Hub.after, ht]; rfl
    exact hafter ▸ Acted.refl.after .take trivial
  | receive e h ht =>
    have hafter : w.hub.after (.take w.session.mailbox) = h := by rw [Hub.after, ht]; rfl
    have hh : Acted path token w.session.mailbox w.hub h :=
      hafter ▸ Acted.refl.after .take trivial
    have hnow := hh.after .tick trivial
    have hopen : w.session.mailbox < h.now.2.mailboxes.length :=
      (Hub.queue_of_take ht).2.2.2.symm ▸ hm
    simp only [received, Session.logCall]
    split
    · exact hnow
    · next c _ =>
      exact (hnow.after (.called e.id c.callback c.values) hopen).trans (acted_performAll _ _)
  | close =>
    have hhub : w.close.hub = { w.hub with line := w.close.hub.line } :=
      Session.close_hub w.session w.hub
    rw [hhub, line_close hl]
    exact ((Acted.refl.after .unwatch trivial).after (.filter "Free" []) trivial).after
      .disconnect trivial

theorem Stage.mailbox (st : Stage path token w os w') :
    w'.session.mailbox = w.session.mailbox ∧
      w.hub.mailboxes.length ≤ w'.hub.mailboxes.length := by
  cases st with
  | names | sweep | call | refused | again | first => exact ⟨rfl, Nat.le_refl _⟩
  | send args => exact ⟨rfl, (Hub.submit_extends w.hub _ _ _ args _).length.ge⟩
  | take m h ht => exact ⟨rfl, (Hub.queue_of_take ht).2.2.2.ge⟩
  | receive e h ht =>
    refine ⟨rfl, (Hub.queue_of_take ht).2.2.2.ge.trans ?_⟩
    simp only [received, Session.logCall]
    split
    · exact Nat.le_refl _
    · next c _ =>
      exact (Hub.extends_performAll
        (h.now.2.note (.called _ e.id c.callback c.values)) _ _).length.ge
  | close =>
    refine ⟨?_, ?_⟩
    · simp only [Situation.close, Session.close]
      split
      · rfl
      · cases w.session.presence <;> rfl
    · rw [Situation.close, Session.close_hub]

theorem Stage.settings (st : Stage path token w os w') :
    w'.session.settings = w.session.settings := by
  cases st with
  | names | sweep | call | send | refused | again | first | take | receive => rfl
  | close =>
    simp only [Situation.close, Session.close]
    split
    · rfl
    · cases w.session.presence <;> rfl

theorem Stages.settings (h : Stages path token w os w') :
    w'.session.settings = w.session.settings := by
  induction h with
  | refl => rfl
  | step _ _ st ih => exact st.settings.trans ih

theorem Stages.acted (hm : w.session.mailbox < w.hub.mailboxes.length)
    (h : Stages path token w os w') :
    Acted path token w.session.mailbox w.hub w'.hub ∧ w'.session.mailbox = w.session.mailbox ∧
      w.hub.mailboxes.length ≤ w'.hub.mailboxes.length := by
  induction h with
  | refl => exact ⟨.refl, rfl, Nat.le_refl _⟩
  | step _ hl st ih =>
    obtain ⟨hacted, heq, hle⟩ := ih
    obtain ⟨heq', hle'⟩ := st.mailbox
    have hstage := st.acted (heq ▸ Nat.lt_of_lt_of_le hm hle) hl
    rw [heq] at hstage
    exact ⟨hacted.trans hstage, heq'.trans heq, hle.trans hle'⟩

theorem acted_after (hm : w.session.mailbox < w.hub.mailboxes.length)
    (hl : w.session.Live path token) {m : Move κ} (hown : m.Own) :
    Acted path token w.session.mailbox w.hub (w.after m).hub :=
  ((stages_after hl m hown).acted hm).1

theorem run_others (s : Session κ) (h : Hub (Bus ReplyTarget) κ) (as : List (Act κ)) :
    run ⟨s, h⟩ (as.map .other) = ⟨s, as.foldl Hub.after h⟩ := by
  induction as generalizing h with
  | nil => rfl
  | cons a as ih => exact ih (h.after a)

/-- What another session does is, for this one, moves of others that leave it alone or free its
filter. -/
theorem run_in_company {n n' token' mailbox' : Nat}
    (hm : w.session.mailbox < w.hub.mailboxes.length)
    (hl : w.session.Live (pathOfFilter n) token) {m : Move κ} (hown : m.Own) (hn : n ≠ n')
    (ht : token ≠ token') (hm' : w.session.mailbox ≠ mailbox') (s : Session κ) :
    ∃ as : List (Act κ),
      (∀ a ∈ as, a.Spares n' token' mailbox' ∨
        a = .bus (.call (pathOfFilter n') filterInterface "Free" [])) ∧
      run ⟨s, w.hub⟩ (as.map .other) = ⟨s, (w.after m).hub⟩ := by
  obtain ⟨as, has, heq⟩ := (acted_after hm hl hown).exists_acts
  refine ⟨as, ?_, ?_⟩
  · intro a ha
    exact (has a ha).spares hn ht hm'
  · rw [heq, run_others]

end Situation

namespace Session

open Hub

variable {h : Hub (Bus ReplyTarget) κ} {path : String} {token mailbox : Nat}

theorem acted_connected (hf : h.line.connectRefusal = none) (c : Settings) :
    Acted path token mailbox h
      { h with line := (connected h.line c).note (.reach networkPath) } := by
  have hline : h.line.after (.connect c.scope) = connected h.line c := by
    simp [Bus.after, Bus.connect, hf, connected]
  have hconn : Acted path token mailbox h { h with line := h.line.after (.connect c.scope) } :=
    Acted.refl.after (.connect c.scope) trivial
  rw [hline] at hconn
  exact hconn.after (.reach networkPath) trivial

theorem acted_swept (hf : h.line.connectRefusal = none) (c : Settings) :
    Acted path token mailbox h { h with line :=
      (Presence.start.sweepFirst ((connected h.line c).note (.reach networkPath)) c).2 } :=
  (acted_connected hf c).trans (acted_sweeps (Presence.sweepFirst_sweeps _ c))

theorem acted_unmade {f : Fault} (hno : h.line.refusal? "CreateEventFilter" = some f) :
    Acted path token mailbox h
      { h with line := h.line.note (.call networkPath "CreateEventFilter") } := by
  have hcall : Acted path token mailbox h
      { h with line := (h.line.call networkPath networkInterface "CreateEventFilter" []).2 } :=
    Acted.refl.after (.network "CreateEventFilter" []) trivial
  rw [call_makeFilter, hno] at hcall
  exact hcall

theorem acted_furnished (hyes : h.line.refusal? "CreateEventFilter" = none)
    (hm : mailbox < h.mailboxes.length) :
    Acted (pathOfFilter h.line.nextFilter) token mailbox h
      { h with line := h.line.furnished mailbox } := by
  have hcall : Acted (pathOfFilter h.line.nextFilter) token mailbox h
      { h with line := (h.line.call networkPath networkInterface "CreateEventFilter" []).2 } :=
    Acted.refl.after (.network "CreateEventFilter" []) trivial
  rw [call_makeFilter, hyes] at hcall
  exact (hcall.after (.reach (pathOfFilter h.line.nextFilter)) trivial).after .watch hm

theorem acted_connect (h : Hub (Bus ReplyTarget) κ) (c : Settings) :
    Acted (pathOfFilter h.line.nextFilter) h.line.nextToken h.mailboxes.length h
      (connect h c).2 := by
  have hconnects := connect_connects h c
  generalize connect h c = r at hconnects
  obtain ⟨r, h'⟩ := r
  cases hconnects with
  | unsettled | refused => exact .refl
  | offline => exact Acted.refl.after .openMailbox trivial
  | withdrawn e b hc hf hb =>
    cases hb with
    | unreachable => exact (acted_connected hf c).after .disconnect trivial
    | unswept => exact (acted_swept hf c).after .disconnect trivial
    | unmade _ f hno =>
      exact ((acted_swept hf c).trans (acted_unmade hno)).after .disconnect trivial
  | joined p b hc hf hb =>
    cases hb with
    | entered hs hyes =>
      have hopened : Acted (pathOfFilter h.line.nextFilter) h.line.nextToken h.mailboxes.length h
          h.openMailbox.2 := Acted.refl.after .openMailbox trivial
      have hlt : h.mailboxes.length < h.openMailbox.2.mailboxes.length := by
        simp [Hub.openMailbox]
      have hnext : (Presence.start.sweepFirst
          ((connected h.line c).note (.reach networkPath)) c).2.nextFilter = h.line.nextFilter := by
        rw [(Presence.sweepFirst_sweeps _ c).frame]
        rfl
      have hswept := hopened.trans (acted_swept (h := h.openMailbox.2) hf c)
      have hmade : Acted (pathOfFilter _) h.line.nextToken h.mailboxes.length
          { h.openMailbox.2 with
            line := (Presence.start.sweepFirst
              ((connected h.line c).note (.reach networkPath)) c).2 } _ :=
        acted_furnished hyes hlt
      rw [hnext] at hmade
      exact hswept.trans hmade

end Session

end RobotBus
