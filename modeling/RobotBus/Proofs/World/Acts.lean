import RobotBus.Proofs.Session.Company

namespace RobotBus

open Bus

variable {κ : Type}

namespace Hub

/-- An act that touches no mailbox and no watch but those given. Anybody may put events and requests
into any mailbox, but problems come from replies only. -/
def Act.Confined (mailboxes tokens : Nat → Prop) : Act κ → Prop
  | .bus (.watch _ _ _ (.mailbox n)) => mailboxes n
  | .bus (.unwatch token) => tokens token
  | .bus (.submit _ _ _ _ _) => False
  | .bus .release => False
  | .bus _ => True
  | .submit _ _ _ _ (.mailbox n) => mailboxes n
  | .submit _ _ _ _ _ => True
  | .post _ (.problem _) => False
  | .post _ _ => True
  | .take n => mailboxes n
  | .note (.called n _ _ _) => mailboxes n
  | .note _ => True
  | .deliver => True
  | .emit _ _ _ => True
  | .openMailbox => True
  | .tick => True

inductive Via (mailboxes tokens : Nat → Prop) (h : Hub (Bus ReplyTarget) κ) :
    Hub (Bus ReplyTarget) κ → Prop
  | refl : Via mailboxes tokens h h
  | after {h' : Hub (Bus ReplyTarget) κ} {a : Act κ} (hv : Via mailboxes tokens h h')
      (ha : a.Confined mailboxes tokens) (ho : a.Opened h') : Via mailboxes tokens h (h'.after a)

variable {h h' h'' : Hub (Bus ReplyTarget) κ} {mailboxes tokens : Nat → Prop}

theorem Via.trans (hv : Via mailboxes tokens h h') (hv' : Via mailboxes tokens h' h'') :
    Via mailboxes tokens h h'' := by
  induction hv' with
  | refl => exact hv
  | after _ ha ho ih => exact ih.after ha ho

theorem Via.reachable (hv : Via mailboxes tokens h h') (hr : h.Reachable) : h'.Reachable := by
  induction hv with
  | refl => exact hr
  | after _ ha ho ih => exact Reachable.after _ ho ih

theorem Via.length_le (hv : Via mailboxes tokens h h') :
    h.mailboxes.length ≤ h'.mailboxes.length := by
  induction hv with
  | refl => exact Nat.le_refl _
  | after _ _ _ ih => exact ih.trans (length_le_after _ _)

theorem Act.Confined.mono {a : Act κ} {mailboxes' tokens' : Nat → Prop}
    (ha : a.Confined mailboxes tokens) (hm : ∀ n, mailboxes n → mailboxes' n)
    (ht : ∀ t, tokens t → tokens' t) : a.Confined mailboxes' tokens' := by
  cases a with
  | bus d =>
    cases d with
    | watch path interface signal l =>
      cases l with
      | mailbox n => exact hm n ha
      | log tag => trivial
    | unwatch token => exact ht token ha
    | submit | release => exact ha
    | connect | disconnect | reach | call | listChildren | addFilter | addNode | setServing
    | refuseConnections | refuseMethod | clearRefusals | setHolding | clearJournal => trivial
  | submit path interface method args target =>
    cases target with
    | mailbox n => exact hm n ha
    | log | failures => trivial
  | post n m =>
    cases m with
    | problem p => exact ha
    | event | request => trivial
  | take n => exact hm n ha
  | note e =>
    cases e with
    | called n id callback values => exact hm n ha
    | signal | reply | refusal | failure => trivial
  | deliver | emit | openMailbox | tick => trivial

theorem Via.mono {mailboxes' tokens' : Nat → Prop} (hv : Via mailboxes tokens h h')
    (hm : ∀ n, mailboxes n → mailboxes' n) (ht : ∀ t, tokens t → tokens' t) :
    Via mailboxes' tokens' h h' := by
  induction hv with
  | refl => exact .refl
  | after _ ha ho ih => exact ih.after (ha.mono hm ht) ho

theorem Act.Of.confined {path : String} {token mailbox : Nat} {a : Act κ}
    (ha : a.Of path token mailbox) : a.Confined (· = mailbox) (· = token) := by
  cases ha with
  | send | watch | unwatch | take | called => rfl
  | connect | disconnect | reach | listChildren | free | network | filter | openMailbox | tick
  | request | emit => trivial

theorem Acted.via {path : String} {token mailbox : Nat} (hh : Acted path token mailbox h h') :
    Via (· = mailbox) (· = token) h h' := by
  induction hh with
  | refl => exact .refl
  | after _ ha ho ih => exact ih.after ha.confined ho

theorem Via.call {b b' : Bus ReplyTarget} {path interface method : String} {args : List Value}
    {r : Reply} (hv : Via mailboxes tokens h { h' with line := b })
    (hc : Line.call b path interface method args = (r, b')) :
    Via mailboxes tokens h { h' with line := b' } := by
  obtain rfl : (b.call path interface method args).2 = b' := congrArg Prod.snd hc
  exact hv.after (a := .bus (.call path interface method args)) trivial trivial

theorem Via.reach {b b' : Bus ReplyTarget} {path : String} {r : Except Fault Unit}
    (hv : Via mailboxes tokens h { h' with line := b }) (hc : Line.reach b path = (r, b')) :
    Via mailboxes tokens h { h' with line := b' } := by
  obtain rfl : (b.reach path).2 = b' := congrArg Prod.snd hc
  exact hv.after (a := .bus (.reach path)) trivial trivial

theorem Via.sweeps {mayFree : Nat → Prop} {b : Bus ReplyTarget} (hb : Sweeps mayFree h.line b) :
    Via mailboxes tokens h { h with line := b } := by
  induction hb with
  | nothing => exact .refl
  | reach p _ ih => exact ih.after (a := .bus (.reach p)) trivial trivial
  | listChildren p _ ih => exact ih.after (a := .bus (.listChildren p)) trivial trivial
  | free n _ _ ih =>
    exact ih.after (a := .bus (.call (pathOfFilter n) filterInterface "Free" [])) trivial trivial

theorem Via.perform (hv : Via mailboxes tokens h h') (n : Nat) (e : Effect κ) :
    Via mailboxes tokens h (h'.perform n e) := by
  cases e with
  | request q => exact hv.after (a := .post n (.request q)) trivial trivial
  | emit id name values => exact hv.after (a := .emit id name values) trivial trivial

theorem via_performAll (n : Nat) (es : List (Effect κ)) (hv : Via mailboxes tokens h h') :
    Via mailboxes tokens h (h'.performAll n es) := by
  induction es generalizing h' with
  | nil => exact hv
  | cons e es ih => exact ih (hv.perform n e)

theorem via_obtain (k : FilterKeeper) (h : Hub (Bus ReplyTarget) κ) :
    Via mailboxes tokens h { h with line := (k.obtain h.line).2.2 } := by
  have hv : Via mailboxes tokens h { h with line := h.line } := .refl
  unfold FilterKeeper.obtain
  split
  · exact hv
  · split
    · next hc => exact hv.call hc
    · next hc =>
      split
      · exact hv.call hc
      · split
        · next hr => exact (hv.call hc).reach hr
        · next hr => exact (hv.call hc).reach hr

theorem via_filterStep (k : FilterKeeper) (h : Hub (Bus ReplyTarget) κ)
    (st : Simulation.FilterStep) :
    Via mailboxes tokens h (Simulation.filterStep k h st).2.2 := by
  have hv : Via mailboxes tokens h { h with line := h.line } := .refl
  cases st with
  | sweep => exact Via.sweeps (k.sweep_sweeps h.line)
  | obtain => exact via_obtain k h
  | allow id =>
    have ho : Via mailboxes tokens h { h with line := (k.obtain h.line).2.2 } := via_obtain k h
    simp only [Simulation.filterStep, FilterKeeper.allow]
    split
    · exact hv
    · split
      · next heq => rw [heq] at ho; exact ho
      · next heq =>
        rw [heq] at ho
        split
        · next hc => exact ho.call hc
        · next hc => exact ho.call hc
  | giveUp =>
    simp only [Simulation.filterStep, FilterKeeper.giveUp]
    split
    · exact hv
    · split
      · next hc => exact hv.call hc
      · next hc => exact hv.call hc
  | state id => exact hv

theorem Via.asks {b : Bus ReplyTarget} (hb : NodeAccess.Asks h.line b) :
    Via mailboxes tokens h { h with line := b } := by
  cases hb with
  | nothing => exact .refl
  | call method args hm =>
    exact Via.refl.after (a := .bus (.call networkPath networkInterface method args)) trivial
      trivial

theorem via_accessStep (a : NodeAccess) (h : Hub (Bus ReplyTarget) κ)
    (st : Simulation.AccessStep) : Via mailboxes tokens h (Simulation.accessStep a h st).2 := by
  cases st with
  | nodes => exact Via.asks (a.nodes_asks h.line)
  | read node name => exact Via.asks (a.read_asks h.line node name)
  | write node name value => exact Via.asks (a.write_asks h.line node name value)
  | loadScript path => exact Via.asks (a.loadScript_asks h.line path)
  | send id args tag =>
    cases a with
    | offline n => exact .refl
    | online =>
      exact Via.refl.after (a := .submit networkPath networkInterface "SendEvent"
        [.uint16 id.val, .words args] (.failures tag)) trivial trivial

/-- A step on the bus itself ends a watch only if it names its token. -/
theorem via_busStep (h : Hub (Bus ReplyTarget) κ) (st : Simulation.BusStep)
    (ht : ∀ token, st = .unwatch token → tokens token) :
    Via mailboxes tokens h (Simulation.busStep h st).2 := by
  have bus (d : Deed ReplyTarget) (hd : (Act.bus d : Act κ).Confined mailboxes tokens)
      (ho : (Act.bus d).Opened h) : Via mailboxes tokens h { h with line := h.line.after d } :=
    Via.refl.after hd ho
  cases st with
  | addNode name values => exact bus (.addNode name values) trivial trivial
  | setServing serving => exact bus (.setServing serving) trivial trivial
  | refuseConnections f => exact bus (.refuseConnections f) trivial trivial
  | refuseMethod method f => exact bus (.refuseMethod method f) trivial trivial
  | clearRefusals => exact bus .clearRefusals trivial trivial
  | setHolding holding => exact bus (.setHolding holding) trivial trivial
  | clearJournal => exact bus .clearJournal trivial trivial
  | addFilter => exact bus .addFilter trivial trivial
  | connect scope => exact bus (.connect scope) trivial trivial
  | disconnect => exact bus .disconnect trivial trivial
  | reach path interface => exact bus (.reach path) trivial trivial
  | call path interface method args => exact bus (.call path interface method args) trivial trivial
  | watch tag path interface signal =>
    exact bus (.watch path interface signal (.log tag)) trivial trivial
  | unwatch token => exact bus (.unwatch token) (ht token rfl) trivial
  | listChildren path => exact bus (.listChildren path) trivial trivial
  | deliver => exact Via.refl.after (a := .deliver) trivial trivial
  | emit id name values => exact Via.refl.after (a := .emit id name values) trivial trivial
  | submit tag path interface method args =>
    exact Via.refl.after (a := .submit path interface method args (.log tag)) trivial trivial
  | signal token body =>
    simp only [Simulation.busStep]
    split
    · next w _ =>
      cases w.listener with
      | log tag => exact Via.refl.after (a := .note (.signal tag body)) trivial trivial
      | mailbox n =>
        simp only [Hub.receive]
        split
        · next e _ => exact Via.refl.after (a := .post n (.event e)) trivial trivial
        · exact .refl
    · exact .refl
  | wordsOf | livePaths | allowed | sent | scripts | countWatches | connected | journal
  | addOverride | clearOverrides => exact .refl

end Hub

end RobotBus
