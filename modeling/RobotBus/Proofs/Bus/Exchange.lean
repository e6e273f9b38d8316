import Mathlib.Data.List.Basic
import Mathlib.Data.List.Infix
import Mathlib.Data.List.Perm.Basic
import Mathlib.Data.List.Range
import RobotBus.Hub
import RobotBus.Proofs.Bus.Service

namespace RobotBus

variable {ρ : Type}

/-- A continuation that is run: the one for the reply of a call, or the one for its fault. -/
inductive Resumption (ρ : Type)
  | reply (target : ρ) (values : List Value)
  | fault (target : ρ) (f : Fault)
deriving DecidableEq, Repr

def Resumption.of : ρ × Reply → Resumption ρ
  | (target, .ok values) => .reply target values
  | (target, .error f) => .fault target f

inductive Exchange.Frame (ρ : Type)
  | call
  /-- A delivery, by its number, with how many replies it took and which it has yet to hand over. -/
  | delivery (n count : Nat) (left : List (ρ × Reply))

structure Exchange (ρ : Type) where
  bus : Bus ρ
  /-- One for each continuation that is running, the innermost first. -/
  frames : List (Exchange.Frame ρ)
  /-- The continuations in the order in which they were started, each with the number of the
  delivery that started it, unless it was started in place. -/
  resumed : List (Option Nat × Resumption ρ)
  /-- What each delivery took. -/
  batches : List (List (ρ × Reply))
  /-- The deliveries that have returned, each with the number that it returned. -/
  returned : List (Nat × Nat)

namespace Exchange

open Bus

/-- What is done next, by the continuation that runs innermost or, when none is running, from
outside. -/
inductive Action (ρ : Type)
  | act (d : Deed ρ)
  /-- The innermost continuation returns. -/
  | finish

def start (b : Bus ρ) : Exchange ρ := ⟨b, [], [], [], []⟩

def Frame.number? : Frame ρ → Option Nat
  | .call => none
  | .delivery n _ _ => some n

def resume (x : Exchange ρ) (f : Frame ρ) (e : ρ × Reply) : Exchange ρ :=
  { x with
    frames := f :: x.frames
    resumed := x.resumed ++ [(f.number?, .of e)] }

/-- A delivery starts the next continuation, or returns when there is none left. -/
def proceed (x : Exchange ρ) (n count : Nat) : List (ρ × Reply) → Exchange ρ
  | [] => { x with returned := x.returned ++ [(n, count)] }
  | e :: left => x.resume (.delivery n count left) e

/-- Unless replies are held back, a continuation is started at once. -/
def submit (x : Exchange ρ) (path interface method : String) (args : List Value) (target : ρ) :
    Exchange ρ :=
  match x.bus.submit path interface method args target with
  | (none, b) => { x with bus := b }
  | (some r, b) => { x with bus := b }.resume .call (target, r)

/-- A delivery takes all that is held back before it hands over the first reply. -/
def deliver (x : Exchange ρ) : Exchange ρ :=
  let (batch, b) := x.bus.release
  { x with bus := b, batches := x.batches ++ [batch] }.proceed x.batches.length batch.length batch

def finish (x : Exchange ρ) : Exchange ρ :=
  match x.frames with
  | [] => x
  | .call :: fs => { x with frames := fs }
  | .delivery n count left :: fs => { x with frames := fs }.proceed n count left

def step (x : Exchange ρ) : Action ρ → Exchange ρ
  | .act (.submit path interface method args target) => x.submit path interface method args target
  | .act .release => x.deliver
  | .act d => { x with bus := x.bus.after d }
  | .finish => x.finish

def run (x : Exchange ρ) (as : List (Action ρ)) : Exchange ρ := as.foldl step x

/-- What an action does to the service: a submitted call is a call, and the rest of an exchange is
none of its concern. -/
def Action.effect (b : Bus ρ) : Action ρ → Bus ρ
  | .act (.submit path interface method args _) => (b.call path interface method args).2
  | .act .release | .finish => b
  | .act d => b.after d

/-- A submitted call: whether replies are held back when it is made, who is to have the reply, and
what the reply is then. -/
def Action.call? (b : Bus ρ) : Action ρ → Option (Bool × ρ × Reply)
  | .act (.submit path interface method args target) =>
    some (b.holding, target, (b.call path interface method args).1)
  | _ => none

def Action.delivers : Action ρ → Bool
  | .act .release => true
  | _ => false

def calls (b : Bus ρ) : List (Action ρ) → List (Bool × ρ × Reply)
  | [] => []
  | a :: as => (a.call? b).toList ++ calls (a.effect b) as

def late (cs : List (Bool × ρ × Reply)) : List (ρ × Reply) := (cs.filter Prod.fst).map Prod.snd

@[simp] theorem late_nil : late ([] : List (Bool × ρ × Reply)) = [] := rfl

@[simp] theorem late_append (cs cs' : List (Bool × ρ × Reply)) :
    late (cs ++ cs') = late cs ++ late cs' := by
  simp [late]

theorem service_effect_congr {b c : Bus ρ} (h : b.service = c.service) (a : Action ρ) :
    (a.effect b).service = (a.effect c).service := by
  cases a with
  | finish => exact h
  | act d =>
    cases d with
    | submit path interface method args target =>
      exact service_after_congr h (.call path interface method args)
    | release => exact h
    | connect | disconnect | reach | call | watch | unwatch | listChildren | addFilter | addNode
    | setServing | refuseConnections | refuseMethod | clearRefusals | setHolding | clearJournal =>
      exact service_after_congr h _

theorem call?_congr {b c : Bus ρ} (h : b.service = c.service) (a : Action ρ) :
    a.call? b = a.call? c := by
  have hholding : b.service.holding = c.service.holding := congrArg holding h
  change b.holding = c.holding at hholding
  unfold Action.call?
  split
  · rw [hholding, reply_call b, reply_call c, h]
  · rfl

theorem calls_congr {b c : Bus ρ} (h : b.service = c.service) (as : List (Action ρ)) :
    calls b as = calls c as := by
  induction as generalizing b c with
  | nil => rfl
  | cons a as ih => rw [calls, calls, call?_congr h, ih (service_effect_congr h a)]

theorem submit_of_not_holding {x : Exchange ρ} (h : x.bus.holding = false)
    (path interface method : String) (args : List Value) (target : ρ) :
    ∃ b, b.held = x.bus.held ∧
      x.submit path interface method args target =
        { x with bus := b }.resume .call (target, (x.bus.call path interface method args).1) := by
  obtain ⟨b, hb, hsubmit⟩ := x.bus.exists_submit path interface method args target
  refine ⟨b, hb, ?_⟩
  simp only [submit, hsubmit, h, Bool.false_eq_true, ↓reduceIte]

theorem submit_of_holding {x : Exchange ρ} (h : x.bus.holding = true)
    (path interface method : String) (args : List Value) (target : ρ) :
    ∃ b, b.held = x.bus.held ++ [(target, (x.bus.call path interface method args).1)] ∧
      x.submit path interface method args target = { x with bus := b } := by
  obtain ⟨b, -, hsubmit⟩ := x.bus.exists_submit path interface method args target
  let e : ρ × Reply := (target, (x.bus.call path interface method args).1)
  refine ⟨{ b with held := x.bus.held ++ [e] }, rfl, ?_⟩
  simp only [submit, hsubmit, h, ↓reduceIte, e]

/-- All that a step can come to. -/
inductive Stepped (x : Exchange ρ) : Action ρ → Exchange ρ → Prop
  /-- A call is made and answered in place. -/
  | answered (a : Action ρ) (b : Bus ρ) (e : ρ × Reply) (hc : a.call? x.bus = some (false, e))
      (hb : b.held = x.bus.held) : Stepped x a ({ x with bus := b }.resume .call e)
  | heldBack (a : Action ρ) (b : Bus ρ) (e : ρ × Reply) (hc : a.call? x.bus = some (true, e))
      (hb : b.held = x.bus.held ++ [e]) : Stepped x a { x with bus := b }
  /-- Nothing comes of it for the calls. -/
  | plain (a : Action ρ) (b : Bus ρ) (hc : a.call? x.bus = none) (hd : a.delivers = false)
      (hb : b.held = x.bus.held) : Stepped x a { x with bus := b }
  | delivered : Stepped x (.act .release) x.deliver
  | finished : Stepped x .finish x.finish

theorem step_stepped (x : Exchange ρ) (a : Action ρ) : Stepped x a (x.step a) := by
  cases a with
  | finish => exact .finished
  | act d =>
    cases d with
    | submit path interface method args target =>
      cases h : x.bus.holding with
      | false =>
        obtain ⟨b, hb, hx⟩ := submit_of_not_holding h path interface method args target
        rw [step, hx]
        exact .answered _ b _ (by rw [Action.call?, h]) hb
      | true =>
        obtain ⟨b, hb, hx⟩ := submit_of_holding h path interface method args target
        rw [step, hx]
        exact .heldBack _ b _ (by rw [Action.call?, h]) hb
    | release => exact .delivered
    | connect | disconnect | reach | call | watch | unwatch | listChildren | addFilter | addNode
    | setServing | refuseConnections | refuseMethod | clearRefusals | setHolding | clearJournal =>
      refine .plain _ _ rfl rfl (held_after_eq _ ?_ ?_) <;> intros <;> nofun

theorem run_of_stepped {P : Exchange ρ → Prop}
    (hstep : ∀ {x y a}, P x → Stepped x a y → P y) {x : Exchange ρ} (h : P x)
    (as : List (Action ρ)) : P (x.run as) := by
  induction as generalizing x with
  | nil => exact h
  | cons a as ih => exact ih (hstep h (step_stepped x a))

@[simp] theorem bus_proceed (x : Exchange ρ) (n count : Nat) (left : List (ρ × Reply)) :
    (x.proceed n count left).bus = x.bus := by
  cases left <;> rfl

@[simp] theorem batches_proceed (x : Exchange ρ) (n count : Nat) (left : List (ρ × Reply)) :
    (x.proceed n count left).batches = x.batches := by
  cases left <;> rfl

@[simp] theorem bus_finish (x : Exchange ρ) : x.finish.bus = x.bus := by
  unfold finish
  split <;> simp

@[simp] theorem batches_finish (x : Exchange ρ) : x.finish.batches = x.batches := by
  unfold finish
  split <;> simp

/-- Continuations and deliveries do nothing to the service but by what they do themselves. -/
theorem service_step (x : Exchange ρ) (a : Action ρ) :
    (x.step a).bus.service = (a.effect x.bus).service := by
  cases a with
  | finish => rw [step, bus_finish, Action.effect]
  | act d =>
    cases d with
    | submit path interface method args target =>
      have hbus : (x.submit path interface method args target).bus =
          (x.bus.submit path interface method args target).2 := by
        unfold submit
        split <;> simp_all [resume]
      rw [step, hbus, Action.effect, service_submit, service_call]
    | release =>
      rw [step, deliver, bus_proceed]
      rfl
    | connect | disconnect | reach | call | watch | unwatch | listChildren | addFilter | addNode
    | setServing | refuseConnections | refuseMethod | clearRefusals | setHolding | clearJournal =>
      rfl

theorem service_run (x : Exchange ρ) (as : List (Action ρ)) {b : Bus ρ}
    (hb : x.bus.service = b.service) :
    (x.run as).bus.service = (as.foldl (fun b a ↦ a.effect b) b).service := by
  induction as generalizing x b with
  | nil => exact hb
  | cons a as ih => exact ih (x.step a) ((service_step x a).trans (service_effect_congr hb a))

theorem calls_step (x : Exchange ρ) (a : Action ρ) (as : List (Action ρ)) :
    calls x.bus (a :: as) = (a.call? x.bus).toList ++ calls (x.step a).bus as := by
  rw [calls, calls_congr (service_step x a)]

def Frame.left : Frame ρ → List (ρ × Reply)
  | .call => []
  | .delivery _ _ left => left

/-- What deliveries have taken and have yet to hand over. -/
def due (x : Exchange ρ) : List (ρ × Reply) := x.frames.flatMap Frame.left

/-- The answers that have been given, are about to be given, and wait for a delivery. -/
def answers (x : Exchange ρ) : List (Resumption ρ) :=
  x.resumed.map Prod.snd ++ (x.due ++ x.bus.held).map .of

theorem answers_resume (x : Exchange ρ) (f : Frame ρ) (e : ρ × Reply) :
    (x.resume f e).answers.Perm (x.answers ++ (e :: f.left).map .of) := by
  classical
  simp only [List.perm_iff_count, answers, due, resume, List.count_append, List.map_append,
    List.flatMap_cons, List.map_cons, List.map_nil, List.count_cons, List.count_nil]
  intro r
  omega

theorem answers_proceed (x : Exchange ρ) (n count : Nat) (left : List (ρ × Reply)) :
    (x.proceed n count left).answers.Perm (x.answers ++ left.map .of) := by
  cases left with
  | nil => simp [proceed, answers, due]
  | cons e left => exact answers_resume x _ e

theorem answers_finish (x : Exchange ρ) : x.finish.answers.Perm x.answers := by
  unfold finish
  split
  · rfl
  · next fs hfs => simp [answers, due, hfs, Frame.left]
  · next n count left fs hfs =>
    refine (answers_proceed _ n count left).trans ?_
    classical
    simp only [List.perm_iff_count, answers, due, hfs, List.flatMap_cons, Frame.left,
      List.map_append, List.count_append]
    intro r
    omega

theorem answers_deliver (x : Exchange ρ) : x.deliver.answers.Perm x.answers := by
  refine (answers_proceed _ _ _ _).trans ?_
  simp [answers, due]

theorem Stepped.answers {x y : Exchange ρ} {a : Action ρ} (h : Stepped x a y) :
    y.answers.Perm (x.answers ++ (a.call? x.bus).toList.map (fun c ↦ .of c.2)) := by
  cases h with
  | answered a b e hc hb =>
    refine (answers_resume _ _ e).trans ?_
    simp [hc, Exchange.answers, due, hb, Frame.left]
  | heldBack a b e hc hb => simp [hc, Exchange.answers, due, hb]
  | plain a b hc hd hb => simp [hc, Exchange.answers, due, hb]
  | delivered => simpa [Action.call?] using answers_deliver x
  | finished => simpa [Action.call?] using answers_finish x

theorem answers_run (x : Exchange ρ) (as : List (Action ρ)) :
    (x.run as).answers.Perm (x.answers ++ (calls x.bus as).map (fun c ↦ .of c.2)) := by
  induction as generalizing x with
  | nil => simp [run, calls]
  | cons a as ih =>
    rw [calls_step, List.map_append, ← List.append_assoc]
    exact (ih (x.step a)).trans ((step_stepped x a).answers.append_right _)

theorem delivers_of_call {a : Action ρ} {b : Bus ρ} {c : Bool × ρ × Reply}
    (h : a.call? b = some c) : a.delivers = false := by
  unfold Action.call? at h
  split at h
  · rfl
  · cases h

/-- A call that is made while replies are held back stays held back until the next delivery, which
takes all there are. -/
theorem Stepped.batches {x y : Exchange ρ} {a : Action ρ} (h : Stepped x a y) :
    ∃ new, y.batches = x.batches ++ new ∧ new.length = [a].countP Action.delivers ∧
      new.flatten ++ y.bus.held = x.bus.held ++ late (a.call? x.bus).toList := by
  cases h with
  | answered a b e hc hb =>
    exact ⟨[], by simp [resume], by simp [delivers_of_call hc], by simp [resume, hc, hb, late]⟩
  | heldBack a b e hc hb =>
    exact ⟨[], by simp, by simp [delivers_of_call hc], by simp [hc, hb, late]⟩
  | plain a b hc hd hb => exact ⟨[], by simp, by simp [hd], by simp [hc, hb]⟩
  | delivered =>
    exact ⟨[x.bus.held], by simp [deliver, release], by simp [Action.delivers],
      by simp [deliver, release, Action.call?]⟩
  | finished => exact ⟨[], by simp, by simp [Action.delivers], by simp [Action.call?]⟩

theorem batches_run (x : Exchange ρ) (as : List (Action ρ)) :
    ∃ new, (x.run as).batches = x.batches ++ new ∧ new.length = as.countP Action.delivers ∧
      new.flatten ++ (x.run as).bus.held = x.bus.held ++ late (calls x.bus as) := by
  induction as generalizing x with
  | nil => exact ⟨[], by simp [run], rfl, by simp [run, calls]⟩
  | cons a as ih =>
    obtain ⟨new, hnew, hlength, hheld⟩ := (step_stepped x a).batches
    obtain ⟨new', hnew', hlength', hheld'⟩ := ih (x.step a)
    refine ⟨new ++ new', ?_, ?_, ?_⟩
    · rw [← List.append_assoc, ← hnew]
      exact hnew'
    · rw [List.length_append, hlength, hlength', ← List.countP_append]
      rfl
    · rw [calls_step, late_append, ← List.append_assoc, ← hheld, List.append_assoc new.flatten,
        ← hheld', List.flatten_append, List.append_assoc]
      rfl

/-- A delivery takes all that is held back. What is held back meanwhile is for later ones. -/
theorem batches_release_run (x : Exchange ρ) (as : List (Action ρ)) :
    x.batches.length < ((x.step (.act .release)).run as).batches.length ∧
      ((x.step (.act .release)).run as).batches.getD x.batches.length [] = x.bus.held ∧
      (((x.step (.act .release)).run as).batches.drop (x.batches.length + 1)).flatten ++
        ((x.step (.act .release)).run as).bus.held = late (calls x.bus as) := by
  obtain ⟨new, hnew, -, hheld⟩ := batches_run (x.step (.act .release)) as
  have hbatches : (x.step (.act .release)).batches = x.batches ++ [x.bus.held] :=
    batches_proceed _ _ _ _
  have hbus : (x.step (.act .release)).bus = x.bus.release.2 := bus_proceed _ _ _ _
  have hservice : x.bus.service = x.bus.release.2.service := rfl
  rw [hbatches] at hnew
  refine ⟨by simp [hnew], by simp [hnew], ?_⟩
  have hdrop : ((x.step (.act .release)).run as).batches.drop (x.batches.length + 1) = new := by
    simp [hnew]
  rw [hdrop, hheld, calls_congr hservice, hbus]
  rfl

def resumedBy (x : Exchange ρ) (origin : Option Nat) : List (Resumption ρ) :=
  (x.resumed.filter (fun e ↦ e.1 = origin)).map Prod.snd

def dueBy (x : Exchange ρ) (n : Nat) : List (ρ × Reply) :=
  (x.frames.filter (fun f ↦ f.number? = some n)).flatMap Frame.left

/-- What one delivery has handed over and has yet to hand over. -/
def given (x : Exchange ρ) (n : Nat) : List (Resumption ρ) :=
  x.resumedBy (some n) ++ (x.dueBy n).map .of

/-- Each delivery hands over what it took, in that order. -/
def Orderly (x : Exchange ρ) : Prop := ∀ n, x.given n = (x.batches.getD n []).map .of

/-- The delivery that is the next to hand something over has the innermost frame. -/
theorem given_proceed (x : Exchange ρ) (n count : Nat) (left : List (ρ × Reply)) (k : Nat) :
    (x.proceed n count left).given k =
      x.resumedBy (some k) ++ (if n = k then left.map .of else []) ++ (x.dueBy k).map .of := by
  cases left with
  | nil => simp [proceed, given, resumedBy, dueBy]
  | cons e left =>
    by_cases hk : n = k <;>
      simp [proceed, resume, given, resumedBy, dueBy, Frame.number?, Frame.left, hk]

theorem Orderly.finish {x : Exchange ρ} (h : x.Orderly) : x.finish.Orderly := by
  intro k
  have hk := h k
  unfold Exchange.finish
  split
  · exact hk
  · next fs hfs => simpa [given, dueBy, resumedBy, hfs, Frame.number?] using hk
  · next n count left fs hfs =>
    rw [given_proceed, batches_proceed, ← hk]
    by_cases hn : n = k <;> simp [given, dueBy, resumedBy, hfs, Frame.number?, Frame.left, hn]

theorem Orderly.deliver {x : Exchange ρ} (h : x.Orderly) : x.deliver.Orderly := by
  intro k
  have hk := h k
  rw [Exchange.deliver, given_proceed, batches_proceed]
  change x.resumedBy (some k) ++ (if x.batches.length = k then x.bus.held.map .of else []) ++
    (x.dueBy k).map .of = ((x.batches ++ [x.bus.held]).getD k []).map .of
  by_cases hlen : x.batches.length = k
  · -- The number is new: nothing has been handed over under it, and nothing is due.
    subst hlen
    rw [given, List.getD_eq_getElem?_getD, List.getElem?_eq_none le_rfl] at hk
    obtain ⟨hresumed, hdue⟩ := List.append_eq_nil_iff.mp hk
    simp [hresumed, hdue]
  · rw [if_neg hlen, List.append_nil]
    refine hk.trans (congrArg _ ?_)
    simp only [List.getD_eq_getElem?_getD, List.getElem?_append]
    split
    · rfl
    · rw [List.getElem?_eq_none (by omega), List.getElem?_eq_none (by simp; omega)]

theorem Orderly.stepped {x y : Exchange ρ} {a : Action ρ} (h : x.Orderly) (hy : Stepped x a y) :
    y.Orderly := by
  cases hy with
  | answered a b e hc hb =>
    intro k
    simpa [given, resumedBy, dueBy, resume, Frame.number?] using h k
  | heldBack a b e hc hb => exact h
  | plain a b hc hd hb => exact h
  | delivered => exact h.deliver
  | finished => exact h.finish

theorem Orderly.run {x : Exchange ρ} (h : x.Orderly) (as : List (Action ρ)) :
    (x.run as).Orderly :=
  run_of_stepped (fun h hy ↦ h.stepped hy) h as

theorem orderly_start (b : Bus ρ) : (start b).Orderly := fun n ↦ by
  simp [given, resumedBy, dueBy, start]

def Frame.tally? : Frame ρ → Option (Nat × Nat)
  | .call => none
  | .delivery n count _ => some (n, count)

/-- The deliveries under way with the numbers that they are to return, and those that have
returned. -/
def tallies (x : Exchange ρ) : List (Nat × Nat) := x.frames.filterMap Frame.tally? ++ x.returned

/-- Each delivery returns once, and returns how many replies it took. -/
def Counted (x : Exchange ρ) : Prop :=
  x.tallies.Perm (x.batches.mapIdx (fun n batch ↦ (n, batch.length)))

theorem tallies_proceed (x : Exchange ρ) (n count : Nat) (left : List (ρ × Reply)) :
    (x.proceed n count left).tallies.Perm ((n, count) :: x.tallies) := by
  cases left with
  | nil =>
    rw [proceed, tallies, ← List.append_assoc]
    exact List.perm_append_singleton _ _
  | cons e left => simp [proceed, resume, tallies, Frame.tally?]

theorem Counted.stepped {x y : Exchange ρ} {a : Action ρ} (h : x.Counted) (hy : Stepped x a y) :
    y.Counted := by
  cases hy with
  | answered a b e hc hb => exact h
  | heldBack a b e hc hb => exact h
  | plain a b hc hd hb => exact h
  | delivered =>
    rw [Counted, Exchange.deliver, batches_proceed]
    refine (tallies_proceed _ _ _ _).trans ?_
    change ((x.batches.length, x.bus.held.length) :: x.tallies).Perm
      ((x.batches ++ [x.bus.held]).mapIdx _)
    rw [List.mapIdx_concat]
    exact (h.cons _).trans (List.perm_append_singleton _ _).symm
  | finished =>
    rw [Counted, batches_finish]
    refine List.Perm.trans ?_ h
    unfold Exchange.finish
    split
    · rfl
    · next fs hfs => simp [tallies, hfs, List.filterMap_cons, Frame.tally?]
    · next n count left fs hfs =>
      refine (tallies_proceed _ _ _ _).trans ?_
      simp [tallies, hfs, Frame.tally?]

theorem Counted.run {x : Exchange ρ} (h : x.Counted) (as : List (Action ρ)) :
    (x.run as).Counted :=
  run_of_stepped (fun h hy ↦ h.stepped hy) h as

theorem counted_start (b : Bus ρ) : (start b).Counted := by
  simp [Counted, tallies, start]

theorem Counted.nodup {x : Exchange ρ} (h : x.Counted) : (x.tallies.map Prod.fst).Nodup := by
  have hrange : (x.batches.mapIdx (fun n batch ↦ (n, batch.length))).map Prod.fst =
      List.range' 0 x.batches.length := by
    rw [List.mapIdx_eq_zipIdx_map, List.map_map, ← List.zipIdx_map_snd]
    rfl
  refine (h.map Prod.fst).nodup_iff.mpr ?_
  rw [hrange]
  exact List.nodup_range'

theorem Counted.eq_length {x : Exchange ρ} (h : x.Counted) {n c : Nat}
    (hmem : (n, c) ∈ x.returned) : c = (x.batches.getD n []).length := by
  have hmem' := h.subset (List.mem_append_right _ hmem)
  obtain ⟨k, hk, heq⟩ := List.mem_mapIdx.mp hmem'
  cases heq
  simp [hk]

theorem Counted.dueBy_eq_nil {x : Exchange ρ} (h : x.Counted) {n c : Nat}
    (hmem : (n, c) ∈ x.returned) : x.dueBy n = [] := by
  have hnodup := h.nodup
  rw [tallies, List.map_append] at hnodup
  have hdisjoint := (List.nodup_append.mp hnodup).2.2
  have hnone : x.frames.filter (fun f ↦ f.number? = some n) = [] := by
    rw [List.filter_eq_nil_iff]
    intro f hf hn
    cases f with
    | call => simp [Frame.number?] at hn
    | delivery k count left =>
      have hk : k = n := by simpa [Frame.number?] using hn
      have hunder : k ∈ (x.frames.filterMap Frame.tally?).map Prod.fst :=
        List.mem_map.mpr ⟨(k, count), List.mem_filterMap.mpr ⟨_, hf, rfl⟩, rfl⟩
      exact hdisjoint k hunder n (List.mem_map.mpr ⟨(n, c), hmem, rfl⟩) hk
  rw [dueBy, hnone, List.flatMap_nil]

theorem Counted.nodup_returned {x : Exchange ρ} (h : x.Counted) :
    (x.returned.map Prod.fst).Nodup := by
  have hnodup := h.nodup
  rw [tallies, List.map_append] at hnodup
  exact (List.nodup_append.mp hnodup).2.1

theorem Counted.mem_returned {x : Exchange ρ} (h : x.Counted) (hframes : x.frames = []) {n : Nat}
    (hn : n < x.batches.length) : (n, (x.batches.getD n []).length) ∈ x.returned := by
  rw [Counted, tallies, hframes] at h
  refine h.symm.subset (List.mem_mapIdx.mpr ⟨n, hn, ?_⟩)
  rw [List.getD_eq_getElem?_getD, List.getElem?_eq_getElem hn, Option.getD_some]

/-- How many continuations have to return until none is running. -/
def work (x : Exchange ρ) : Nat := x.due.length + x.frames.length

theorem frames_of_work {x : Exchange ρ} (h : x.work = 0) : x.frames = [] :=
  List.eq_nil_of_length_eq_zero (Nat.eq_zero_of_add_eq_zero_left h)

theorem work_finish (x : Exchange ρ) : x.finish.work = x.work - 1 := by
  unfold finish
  split
  · next hfs => simp [work, due, hfs]
  · next fs hfs => simp [work, due, hfs, Frame.left]
  · next n count left fs hfs =>
    cases left with
    | nil => simp [proceed, work, due, hfs, Frame.left]
    | cons e left =>
      simp [proceed, resume, work, due, hfs, Frame.left]
      omega

theorem frames_run_finish (x : Exchange ρ) : (x.run (.replicate x.work .finish)).frames = [] := by
  generalize hw : x.work = w
  induction w generalizing x with
  | zero => exact frames_of_work hw
  | succ w ih => exact ih x.finish (by rw [work_finish, hw, Nat.add_sub_cancel])

theorem bus_run_finish (x : Exchange ρ) (k : Nat) :
    (x.run (.replicate k .finish)).bus = x.bus := by
  induction k generalizing x with
  | zero => rfl
  | succ k ih => exact (ih x.finish).trans (bus_finish x)

theorem batches_run_finish (x : Exchange ρ) (k : Nat) :
    (x.run (.replicate k .finish)).batches = x.batches := by
  induction k generalizing x with
  | zero => rfl
  | succ k ih => exact (ih x.finish).trans (batches_finish x)

/-- A call has its effect once, when it is made, and is answered once with what it came to then: at
once unless replies are held back, else by the next delivery. A delivery answers the calls that were
held back before it, in the order of the calls, none of those that are held back meanwhile, and
returns, when the continuations return, how many they were. -/
theorem answered_once (b : Bus ρ) (before : List (Action ρ)) :
    let x := (start b).run before
    x.bus.service = (before.foldl (fun b a ↦ a.effect b) b).service ∧
    (x.resumed.map Prod.snd ++ (x.due ++ x.bus.held).map Resumption.of).Perm
      ((b.held ++ (calls b before).map Prod.snd).map Resumption.of) ∧
    x.batches.length = before.countP Action.delivers ∧
    x.batches.flatten ++ x.bus.held = b.held ++ late (calls b before) ∧
    (∀ path interface method args target,
      let y := x.step (.act (.submit path interface method args target))
      let e := (target, (x.bus.call path interface method args).1)
      (x.bus.holding = false →
        y.resumed = x.resumed ++ [(none, .of e)] ∧ y.frames = .call :: x.frames ∧
          y.bus.held = x.bus.held) ∧
      (x.bus.holding = true →
        y.resumed = x.resumed ∧ y.frames = x.frames ∧ y.bus.held = x.bus.held ++ [e])) ∧
    ∀ after,
      let y := (x.step (.act .release)).run after
      let n := x.batches.length
      y.resumedBy (some n) ++ (y.dueBy n).map Resumption.of = x.bus.held.map Resumption.of ∧
      (y.batches.drop (n + 1)).flatten ++ y.bus.held = late (calls x.bus after) ∧
      (y.returned.map Prod.fst).Nodup ∧
      (∀ c, (n, c) ∈ y.returned →
        c = x.bus.held.length ∧ y.resumedBy (some n) = x.bus.held.map Resumption.of) ∧
      let z := y.run (.replicate y.work .finish)
      z.frames = [] ∧ z.bus = y.bus ∧ (n, x.bus.held.length) ∈ z.returned := by
  intro x
  have horderly : x.Orderly := (orderly_start b).run before
  have hcounted : x.Counted := (counted_start b).run before
  obtain ⟨taken, htaken, hlength, hwaiting⟩ := batches_run (start b) before
  have hbatches : x.batches = taken := htaken
  refine ⟨service_run _ _ rfl, ?_, hbatches ▸ hlength, hbatches ▸ hwaiting, ?_, ?_⟩
  · have hanswers := answers_run (start b) before
    simpa [answers, due, start, x, Function.comp_def] using hanswers
  · intro path interface method args target y e
    constructor
    · intro hholding
      obtain ⟨b', hb', hy⟩ := submit_of_not_holding hholding path interface method args target
      change y = _ at hy
      rw [hy]
      exact ⟨rfl, rfl, hb'⟩
    · intro hholding
      obtain ⟨b', hb', hy⟩ := submit_of_holding hholding path interface method args target
      change y = _ at hy
      rw [hy]
      exact ⟨rfl, rfl, hb'⟩
  · intro after y n
    have hstep := step_stepped x (.act .release)
    have hgiven := (horderly.stepped hstep).run after n
    have hcounted' : y.Counted := (hcounted.stepped hstep).run after
    -- the delivery is number `n`, and its batch is what was held back when it began
    obtain ⟨hlt, hbatch, hlater⟩ := batches_release_run x after
    rw [hbatch] at hgiven
    refine ⟨hgiven, hlater, hcounted'.nodup_returned, ?_, ?_⟩
    · intro c hc
      refine ⟨(hcounted'.eq_length hc).trans (congrArg _ hbatch), ?_⟩
      change y.given n = _ at hgiven
      rw [given, hcounted'.dueBy_eq_nil hc] at hgiven
      simpa using hgiven
    · intro z
      -- once nothing is running any more, every delivery has returned
      have hframes : z.frames = [] := frames_run_finish y
      have hbatches' : z.batches = y.batches := batches_run_finish y _
      have hreturned := (hcounted'.run _).mem_returned hframes (n := n) (hbatches' ▸ hlt)
      refine ⟨hframes, bus_run_finish y _, ?_⟩
      change (n, (z.batches.getD n []).length) ∈ z.returned at hreturned
      rw [hbatches', hbatch] at hreturned
      exact hreturned

/-- A call that waits for its delivery keeps the reply that it had when it was made, while a call
that the delivery's continuation makes is refused and waits for the next one. -/
theorem answered_once_of_call_within :
    let ask (target : String) : Action String :=
      .act (.submit networkPath networkInterface "GetNodesList" [] target)
    let f : Fault := .serviceUnknown serviceName
    let x := (start .start).run
      [.act (.setHolding true), ask "first", .act (.refuseMethod "GetNodesList" f)]
    let y := (x.step (.act .release)).run [ask "within", .finish]
    ((start .start).step (ask "first")).resumed = [(none, .reply "first" [.texts []])] ∧
      (x.step (ask "second")).resumed = [] ∧
      y.resumedBy (some 0) = [.reply "first" [.texts []]] ∧
      y.bus.held = [("within", .error f)] := by
  intro ask f x y
  obtain ⟨-, -, -, -, hcall, -⟩ := answered_once (.start : Bus String) []
  obtain ⟨-, -, -, -, hcall', hdelivery⟩ := answered_once (.start : Bus String)
    [.act (.setHolding true), ask "first", .act (.refuseMethod "GetNodesList" f)]
  obtain ⟨-, hlater, -, hreturned, -⟩ := hdelivery [ask "within", .finish]
  have hplain := (hcall networkPath networkInterface "GetNodesList" [] "first").1 rfl
  have hheld := (hcall' networkPath networkInterface "GetNodesList" [] "second").2 rfl
  exact ⟨hplain.1, hheld.1, (hreturned 1 (List.mem_singleton.mpr rfl)).2, hlater⟩

theorem proceed_run_finish (x : Exchange ρ) (n count : Nat) (left : List (ρ × Reply)) :
    (x.proceed n count left).run (.replicate left.length .finish) =
      { x with
        resumed := x.resumed ++ left.map (fun e ↦ (some n, Resumption.of e))
        returned := x.returned ++ [(n, count)] } := by
  induction left generalizing x with
  | nil => simp [proceed, run]
  | cons e left ih =>
    have hnext : ((x.proceed n count (e :: left)).step .finish) =
        { x with resumed := x.resumed ++ [(some n, Resumption.of e)] }.proceed n count left := rfl
    rw [List.length_cons, List.replicate_succ, run, List.foldl_cons, hnext]
    refine (ih _).trans ?_
    simp

end Exchange

namespace Hub

variable {σ κ : Type} [Line σ]

/-- The continuations of a call whose reply goes to a mailbox or to the log. -/
def resume (h : Hub σ κ) : Resumption ReplyTarget → Hub σ κ
  | .reply target values => h.answer target (.ok values)
  | .fault target f => h.answer target (.error f)

omit [Line σ] in
@[simp] theorem resume_of (h : Hub σ κ) (e : ReplyTarget × Reply) :
    h.resume (.of e) = h.answer e.1 e.2 := by
  rcases e with ⟨target, values | f⟩ <;> rfl

/-- A call that is submitted from a hub is a call of an exchange whose continuations are those of
the hub. -/
theorem submit_eq_exchange (h : Hub σ κ) (path interface method : String) (args : List Value)
    (target : ReplyTarget) :
    let x := (Exchange.start h.bus).step (.act (.submit path interface method args target))
    h.submit path interface method args target =
      (x.resumed.map Prod.snd).foldl resume (h.withBus x.bus) := by
  have hb : Line.bus h.line = h.bus := rfl
  simp only [submit, Line.submit, Exchange.step, Exchange.submit, Exchange.start, hb]
  rcases h.bus.submit path interface method args target with ⟨_ | r, b⟩
  · rfl
  · simp [Exchange.resume, withBus]

theorem deliver_eq_exchange (h : Hub σ κ) :
    let x := (Exchange.start h.bus).run
      (.act .release :: .replicate h.bus.held.length .finish)
    x.returned = [(0, h.deliver.1)] ∧
      h.deliver.2 = (x.resumed.map Prod.snd).foldl resume (h.withBus x.bus) := by
  intro x
  have hx : x = ⟨h.bus.release.2, [], h.bus.held.map (fun e ↦ (some 0, Resumption.of e)),
      [h.bus.held], [(0, h.bus.held.length)]⟩ :=
    Exchange.proceed_run_finish _ _ _ _
  rw [hx]
  refine ⟨rfl, ?_⟩
  simp [deliver, Bus.release, List.foldl_map]

end Hub

end RobotBus
