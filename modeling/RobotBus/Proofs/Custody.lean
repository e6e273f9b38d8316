import RobotBus.Proofs.World.Acts

namespace RobotBus

open Bus Hub Simulation

theorem Hub.Via.leads {κ : Type} {mailboxes tokens : Nat → Prop} {h h' : Hub (Bus ReplyTarget) κ}
    (hv : Via mailboxes tokens h h') : Leads h.line h'.line := by
  induction hv with
  | refl => exact .refl
  | @after h' a _ _ _ ih =>
    rw [line_after]
    cases a.deed? with
    | none => exact ih
    | some d => exact .after d ih

/-- The keeper's filter is live, and lets through what the keeper takes it to. A keeper without a
filter takes no event to be let through. -/
def FilterKeeper.Agrees {ρ : Type} (k : FilterKeeper) (b : Bus ρ) : Prop :=
  match k.filter with
  | none => ∀ id, k.allows id = false
  | some path => ∃ n ids, path = pathOfFilter n ∧ b.filters.get? n = some ids ∧
      ∀ id, ids.contains id = k.allows id

def Bus.equipped {ρ : Type} (b : Bus ρ) : Bus ρ :=
  (b.note (.call networkPath "CreateEventFilter")).addFilter.2.note
    (.reach (pathOfFilter b.nextFilter))

theorem Bus.eq_of_note {ρ : Type} {b b' : Bus ρ} {e : JournalEntry} (h : b' = b.note e) :
    b' = { b with journal := b'.journal } := by
  subst h
  rfl

theorem Bus.eq_of_equipped {ρ : Type} {b b' : Bus ρ} {e : JournalEntry}
    (h : b' = b.equipped.note e) : b' = { b.addFilter.2 with journal := b'.journal } := by
  subst h
  rfl

namespace FilterKeeper

variable {k : FilterKeeper} {b : Bus ReplyTarget}

theorem obtain_none (ids : EventSet) (b : Bus ReplyTarget) :
    (⟨none, ids⟩ : FilterKeeper).obtain b =
      match b.refusal? "CreateEventFilter" with
      | some f =>
        (.error (.refusedCall "CreateEventFilter" f), ⟨none, ids⟩,
          b.note (.call networkPath "CreateEventFilter"))
      | none =>
        (.ok (pathOfFilter b.nextFilter), ⟨some (pathOfFilter b.nextFilter), ids⟩,
          b.equipped) := by
  simp only [obtain, Line.call, call_makeFilter]
  cases hf : b.refusal? "CreateEventFilter" with
  | some f => rfl
  | none =>
    have hserving : b.serving = true := ((refusal?_eq_none_iff b _).mp hf).1
    have hreach : Line.reach (b.note (.call networkPath "CreateEventFilter")).addFilter.2
        (pathOfFilter b.nextFilter) = (.ok (), b.equipped) := by
      simp only [Line.reach, Bus.reach]
      exact Prod.ext (if_pos hserving) rfl
    simp only [pathInReply, hreach]

theorem obtain_of_ok {path : String} (h : (k.obtain b).1 = .ok path) :
    (k.obtain b).2.1.filter = some path := by
  obtain ⟨_ | own, ids⟩ := k
  · rw [obtain_none] at h ⊢
    cases hf : b.refusal? "CreateEventFilter" with
    | some f =>
      rw [hf] at h
      cases h
    | none =>
      rw [hf] at h
      exact congrArg some (Except.ok.inj h)
  · exact congrArg some (Except.ok.inj h)

theorem obtain_of_error {p : Problem} (h : (k.obtain b).1 = .error p) :
    (k.obtain b).2 = (k, b.note (.call networkPath "CreateEventFilter")) := by
  obtain ⟨_ | own, ids⟩ := k
  · rw [obtain_none] at h ⊢
    cases hf : b.refusal? "CreateEventFilter" with
    | some f => rfl
    | none =>
      rw [hf] at h
      cases h
  · cases h

theorem allow_none {ids : EventSet} {id : EventId} (hid : ids.contains id = false)
    (b : Bus ReplyTarget) :
    (⟨none, ids⟩ : FilterKeeper).allow b id =
      match b.refusal? "CreateEventFilter" with
      | some f =>
        (.error (.refusedCall "CreateEventFilter" f), ⟨none, ids⟩,
          b.note (.call networkPath "CreateEventFilter"))
      | none => (⟨some (pathOfFilter b.nextFilter), ids⟩ : FilterKeeper).allow b.equipped id := by
  have hallows (path : Option String) : (⟨path, ids⟩ : FilterKeeper).allows id = false := hid
  rw [allow, hallows, if_neg Bool.false_ne_true, obtain_none]
  cases b.refusal? "CreateEventFilter" with
  | some f => rfl
  | none =>
    simp only [allow, hallows, if_neg Bool.false_ne_true, obtain]

theorem giveUp_keeper (k : FilterKeeper) (b : Bus ReplyTarget) : (k.giveUp b).2.1 = start := by
  unfold giveUp
  split
  · rfl
  · split <;> rfl

/-- A keeper with a filter has asked before, is refused, or is served. -/
theorem allow_some_cases (path : String) (ids : EventSet) (b : Bus ReplyTarget) (id : EventId) :
    (ids.contains id = true ∧
      (⟨some path, ids⟩ : FilterKeeper).allow b id = (.ok (), ⟨some path, ids⟩, b)) ∨
    (ids.contains id = false ∧ ∃ f, (⟨some path, ids⟩ : FilterKeeper).allow b id =
      (.error (.refusedCall "ListenEvent" f), ⟨some path, ids⟩,
        b.note (.call path "ListenEvent"))) ∨
    (ids.contains id = false ∧ ∃ vs, (b.listen path id).1 = .ok vs ∧
      (⟨some path, ids⟩ : FilterKeeper).allow b id =
        (.ok (), ⟨some path, ids.insert id ()⟩, (b.listen path id).2)) := by
  rw [allow_some]
  cases hid : ids.contains id with
  | true => exact .inl ⟨rfl, if_pos rfl⟩
  | false =>
    right
    rw [if_neg Bool.false_ne_true]
    rcases hb : b.listen path id with ⟨f | vs, b'⟩
    · have hnote := listen_of_error (congrArg Prod.fst hb)
      rw [hb] at hnote
      subst hnote
      exact .inl ⟨rfl, f, rfl⟩
    · exact .inr ⟨rfl, vs, rfl, rfl⟩

theorem allow_some_of_ok {path : String} {ids : EventSet} {id : EventId}
    (h : ((⟨some path, ids⟩ : FilterKeeper).allow b id).1 = .ok ()) :
    ((⟨some path, ids⟩ : FilterKeeper).allow b id).2.1.filter = some path ∧
      (∀ id', ((⟨some path, ids⟩ : FilterKeeper).allow b id).2.1.allows id' =
        (decide (id = id') || ids.contains id')) ∧
      ((⟨some path, ids⟩ : FilterKeeper).allow b id).2.2.journal =
        b.journal ++ if ids.contains id then [] else [.call path "ListenEvent"] := by
  rcases allow_some_cases path ids b id with
    ⟨hid, hallow⟩ | ⟨-, f, hallow⟩ | ⟨hid, vs, -, hallow⟩
  · rw [hallow, hid]
    refine ⟨rfl, ?_, (List.append_nil _).symm⟩
    intro id'
    by_cases he : id = id'
    · subst he
      exact hid.trans (by simp)
    · simp [allows, he]
  · rw [hallow] at h
    cases h
  · rw [hallow, hid]
    exact ⟨rfl, fun id' ↦ Directory.contains_insert ids id id' (),
      journal_call b path filterInterface "ListenEvent" [.uint16 id.val]⟩

theorem filter_allow_some (path : String) (ids : EventSet) (b : Bus ReplyTarget) (id : EventId) :
    ((⟨some path, ids⟩ : FilterKeeper).allow b id).2.1.filter = some path := by
  rcases allow_some_cases path ids b id with
    ⟨-, hallow⟩ | ⟨-, f, hallow⟩ | ⟨-, vs, -, hallow⟩ <;> rw [hallow]

theorem allow_some_of_error {path : String} {ids : EventSet} {id : EventId} {p : Problem}
    (h : ((⟨some path, ids⟩ : FilterKeeper).allow b id).1 = .error p) :
    ((⟨some path, ids⟩ : FilterKeeper).allow b id).2 =
      (⟨some path, ids⟩, b.note (.call path "ListenEvent")) := by
  rcases allow_some_cases path ids b id with
    ⟨-, hallow⟩ | ⟨-, f, hallow⟩ | ⟨-, vs, -, hallow⟩
  · rw [hallow] at h
    cases h
  · rw [hallow]
  · rw [hallow] at h
    cases h

theorem agrees_equipped {ids : EventSet} (h : ∀ id, ids.contains id = false)
    (b : Bus ReplyTarget) :
    (⟨some (pathOfFilter b.nextFilter), ids⟩ : FilterKeeper).Agrees b.equipped := by
  refine ⟨b.nextFilter, .empty, rfl, ?_, fun id ↦ (h id).symm⟩
  exact (Directory.get?_insert b.filters b.nextFilter b.nextFilter .empty).trans (if_pos rfl)

theorem Agrees.obtain (h : k.Agrees b) : (k.obtain b).2.1.Agrees (k.obtain b).2.2 := by
  obtain ⟨_ | path, ids⟩ := k
  · rw [obtain_none]
    cases b.refusal? "CreateEventFilter" with
    | some f => exact h
    | none => exact agrees_equipped h b
  · exact h

theorem Agrees.allow_some {path : String} {ids : EventSet}
    (h : (⟨some path, ids⟩ : FilterKeeper).Agrees b) (id : EventId) :
    ((⟨some path, ids⟩ : FilterKeeper).allow b id).2.1.Agrees
      ((⟨some path, ids⟩ : FilterKeeper).allow b id).2.2 := by
  obtain ⟨n, live, rfl, hlive, hsame⟩ := h
  rcases allow_some_cases (pathOfFilter n) ids b id with
    ⟨-, hallow⟩ | ⟨-, f, hallow⟩ | ⟨-, vs, hvs, hallow⟩
  · rw [hallow]
    exact ⟨n, live, rfl, hlive, hsame⟩
  · rw [hallow]
    exact ⟨n, live, rfl, hlive, hsame⟩
  · obtain ⟨live', hlive', hfilters, -⟩ := listen_of_ok hvs
    obtain rfl : live' = live := by
      rw [hlive] at hlive'
      exact (Option.some.inj hlive').symm
    rw [hallow]
    refine ⟨n, live'.insert id (), rfl, by rw [hfilters]; simp, ?_⟩
    intro id'
    have := hsame id'
    simp only [allows, Directory.contains_insert] at this ⊢
    rw [this]

theorem Agrees.allow (h : k.Agrees b) (id : EventId) :
    (k.allow b id).2.1.Agrees (k.allow b id).2.2 := by
  obtain ⟨_ | path, ids⟩ := k
  · rw [allow_none (h id)]
    cases b.refusal? "CreateEventFilter" with
    | some f => exact h
    | none => exact (agrees_equipped h b).allow_some id
  · exact h.allow_some id

theorem Agrees.sweep (h : k.Agrees b) : k.Agrees (k.sweep b).2 := by
  obtain ⟨_ | path, ids⟩ := k
  · exact h
  · obtain ⟨n, live, rfl, hlive, hsame⟩ := h
    refine ⟨n, live, rfl, ?_, hsame⟩
    rcases (sweep_sweeps _ b).get?_filters n with hkept | ⟨⟨-, hown⟩, -⟩
    · rw [hkept]
      exact hlive
    · exact absurd rfl hown

theorem agrees_start (b : Bus ReplyTarget) : FilterKeeper.start.Agrees b := fun _ ↦ rfl

theorem Agrees.filterStep {κ : Type} {h : Hub (Bus ReplyTarget) κ} (ha : k.Agrees h.line)
    (st : FilterStep) :
    (filterStep k h st).2.1.Agrees (Simulation.filterStep k h st).2.2.line := by
  cases st with
  | sweep => exact ha.sweep
  | obtain => exact ha.obtain
  | allow id => exact ha.allow id
  | giveUp =>
    have hstart : (Simulation.filterStep k h .giveUp).2.1 = start := giveUp_keeper k h.line
    rw [hstart]
    exact agrees_start _
  | state id => exact ha

theorem Agrees.after (h : k.Agrees b) (hs : b.Sound) {d : Deed ReplyTarget}
    (hd : ∀ n, k.filter = some (pathOfFilter n) → ¬ d.Calls n) : k.Agrees (b.after d) := by
  obtain ⟨_ | path, ids⟩ := k
  · exact h
  · obtain ⟨n, live, rfl, hlive, hsame⟩ := h
    refine ⟨n, live, rfl, ?_, hsame⟩
    have hlt : n < b.nextFilter :=
      hs.filter_lt n ((Directory.contains_eq_true_iff _ n).mpr ⟨live, hlive⟩)
    rw [get?_filters_after b d hlt fun hc ↦ absurd hc (hd n rfl)]
    exact hlive

end FilterKeeper

variable {κ : Type}

/-- A keeper, and the hub with the bus on which it has its filter. -/
structure Custody (κ : Type) where
  keeper : FilterKeeper
  hub : Hub (Bus ReplyTarget) κ

namespace Custody

/-- Either the keeper is told to do something, or somebody else does something. -/
inductive Turn (κ : Type)
  | own (st : FilterStep)
  | other (a : Hub.Act κ)

def after (c : Custody κ) : Turn κ → Custody κ
  | .own st => ⟨(filterStep c.keeper c.hub st).2.1, (filterStep c.keeper c.hub st).2.2⟩
  | .other a => ⟨c.keeper, c.hub.after a⟩

def run (c : Custody κ) (ts : List (Turn κ)) : Custody κ := ts.foldl after c

/-- Others neither use the keeper's filter nor free it. -/
def Spared (c : Custody κ) : Turn κ → Prop
  | .own _ => True
  | .other a => ∀ n d, c.keeper.filter = some (pathOfFilter n) → a.deed? = some d → ¬ d.Calls n

def Undisturbed (c : Custody κ) : List (Turn κ) → Prop
  | [] => True
  | t :: ts => c.Spared t ∧ (c.after t).Undisturbed ts

abbrev bus (c : Custody κ) : Bus ReplyTarget := c.hub.line

def obtained (c : Custody κ) : Except Problem String := (c.keeper.obtain c.bus).1

def allowed (c : Custody κ) (id : EventId) : Except Problem Unit := (c.keeper.allow c.bus id).1

variable {c : Custody κ}

theorem leads_after (c : Custody κ) (t : Turn κ) : Leads c.bus (c.after t).bus := by
  cases t with
  | own st =>
    have hv : Via (fun _ ↦ False) (fun _ ↦ False) c.hub (filterStep c.keeper c.hub st).2.2 :=
      via_filterStep c.keeper c.hub st
    exact hv.leads
  | other a =>
    simp only [after, bus, line_after]
    cases a.deed? with
    | none => exact .refl
    | some d => exact .after d .refl

/-- All that can become of the keeper's filter. -/
theorem filter_after (c : Custody κ) (t : Turn κ) :
    (c.after t).keeper.filter = c.keeper.filter ∨
      (t = .own .giveUp ∧ (c.after t).keeper.filter = none) ∨
      (c.keeper.filter = none ∧
        (c.after t).keeper.filter = some (pathOfFilter c.bus.nextFilter)) := by
  obtain ⟨⟨filter, ids⟩, h⟩ := c
  cases t with
  | other a => exact .inl rfl
  | own st =>
    cases st with
    | sweep | state id => exact .inl rfl
    | giveUp =>
      exact .inr (.inl ⟨rfl, congrArg FilterKeeper.filter (FilterKeeper.giveUp_keeper ..)⟩)
    | obtain =>
      cases filter with
      | some path => exact .inl rfl
      | none =>
        have hkeeper : (after ⟨⟨none, ids⟩, h⟩ (.own .obtain)).keeper =
            ((⟨none, ids⟩ : FilterKeeper).obtain h.line).2.1 := rfl
        rw [hkeeper, FilterKeeper.obtain_none]
        cases h.line.refusal? "CreateEventFilter" with
        | some f => exact .inl rfl
        | none => exact .inr (.inr ⟨rfl, rfl⟩)
    | allow id =>
      cases filter with
      | some path => exact .inl (FilterKeeper.filter_allow_some ..)
      | none =>
        have hkeeper : (after ⟨⟨none, ids⟩, h⟩ (.own (.allow id))).keeper =
            ((⟨none, ids⟩ : FilterKeeper).allow h.line id).2.1 := rfl
        cases hid : ids.contains id with
        | true =>
          have hallows : (⟨none, ids⟩ : FilterKeeper).allows id = true := hid
          rw [hkeeper, FilterKeeper.allow, if_pos hallows]
          exact .inl rfl
        | false =>
          rw [hkeeper, FilterKeeper.allow_none hid]
          cases h.line.refusal? "CreateEventFilter" with
          | some f => exact .inl rfl
          | none => exact .inr (.inr ⟨rfl, FilterKeeper.filter_allow_some ..⟩)

theorem agrees_after (hs : c.bus.Sound) (h : c.keeper.Agrees c.bus) {t : Turn κ}
    (ht : c.Spared t) : (c.after t).keeper.Agrees (c.after t).bus := by
  cases t with
  | own st => exact h.filterStep st
  | other a =>
    simp only [after, bus, line_after]
    cases hd : a.deed? with
    | none => exact h
    | some d => exact h.after hs fun n hn ↦ ht n d hn hd

theorem sound_after (hs : c.bus.Sound) (t : Turn κ) : (c.after t).bus.Sound :=
  (c.leads_after t).sound hs

theorem agrees_run (hs : c.bus.Sound) (h : c.keeper.Agrees c.bus) {ts : List (Turn κ)}
    (hu : c.Undisturbed ts) : (c.run ts).bus.Sound ∧ (c.run ts).keeper.Agrees (c.run ts).bus := by
  induction ts generalizing c with
  | nil => exact ⟨hs, h⟩
  | cons t ts ih => exact ih (sound_after hs t) (agrees_after hs h hu.1) hu.2

theorem filter_run {path : String} (h : c.keeper.filter = some path) {ts : List (Turn κ)}
    (hts : .own .giveUp ∉ ts) : (c.run ts).keeper.filter = some path := by
  induction ts generalizing c with
  | nil => exact h
  | cons t ts ih =>
    rw [List.mem_cons, not_or] at hts
    obtain ⟨hne, hrest⟩ := hts
    refine ih ?_ hrest
    rcases c.filter_after t with hkept | ⟨rfl, -⟩ | ⟨hnone, -⟩
    · rw [hkept, h]
    · exact absurd rfl hne
    · rw [h] at hnone
      cases hnone

theorem number_run {least : Nat} (hle : least ≤ c.bus.nextFilter)
    (h : ∀ n, c.keeper.filter = some (pathOfFilter n) → least ≤ n) (ts : List (Turn κ)) :
    ∀ n, (c.run ts).keeper.filter = some (pathOfFilter n) → least ≤ n := by
  induction ts generalizing c with
  | nil => exact h
  | cons t ts ih =>
    refine ih (hle.trans (c.leads_after t).nextFilter_le) ?_
    intro n hn
    rcases c.filter_after t with hkept | ⟨-, hnone⟩ | ⟨-, hmade⟩
    · exact h n (hkept ▸ hn)
    · rw [hnone] at hn
      cases hn
    · rw [hmade] at hn
      exact pathOfFilter_injective (Option.some.inj hn) ▸ hle

def path (c : Custody κ) : String := c.keeper.filter.getD (pathOfFilter c.bus.nextFilter)

/-- The requests it takes to have an event let through. -/
def requests (c : Custody κ) (id : EventId) : List JournalEntry :=
  if c.keeper.allows id then []
  else
    (if c.keeper.filter = none then
        [.call networkPath "CreateEventFilter", .reach c.path]
      else []) ++ [.call c.path "ListenEvent"]

structure Kept (c : Custody κ) : Prop where
  agrees : c.keeper.Agrees c.bus
  live : ∀ path, c.keeper.filter = some path → path ∈ c.bus.livePaths
  /-- A filter that was obtained is answered with until it is given up. -/
  obtain_ok : ∀ path, c.obtained = .ok path → ∀ ts, .own .giveUp ∉ ts →
    ((c.after (.own .obtain)).run ts).obtained = .ok path
  obtain_error : ∀ p, c.obtained = .error p →
    (c.after (.own .obtain)).keeper = c.keeper ∧
      (c.after (.own .obtain)).bus =
        { c.bus with journal := (c.after (.own .obtain)).bus.journal }
  /-- The filter is asked for the event, unless it lets it through already. -/
  allow_ok : ∀ id, c.allowed id = .ok () →
    (c.after (.own (.allow id))).keeper.filter = some c.path ∧
      (∀ id', (c.after (.own (.allow id))).keeper.allows id' =
        (decide (id = id') || c.keeper.allows id')) ∧
      (c.after (.own (.allow id))).bus.journal = c.bus.journal ++ c.requests id
  /-- Of a request that fails nothing stays, unless it is a new filter that passes nothing on. -/
  allow_error : ∀ id p, c.allowed id = .error p →
    (c.after (.own (.allow id))).keeper.allowed = c.keeper.allowed ∧
      ((c.after (.own (.allow id))).keeper.filter = c.keeper.filter ∧
          (c.after (.own (.allow id))).bus =
            { c.bus with journal := (c.after (.own (.allow id))).bus.journal } ∨
        c.keeper.filter = none ∧ (c.after (.own (.allow id))).keeper.filter = some c.path ∧
          (c.after (.own (.allow id))).bus =
            { c.bus.addFilter.2 with journal := (c.after (.own (.allow id))).bus.journal })
  /-- What is given up is forgotten, even if the service refuses. Whatever filter the keeper has
  later has a number that had not been given out. -/
  give_up : (c.after (.own .giveUp)).keeper = .start ∧
    ∀ ts n, ((c.after (.own .giveUp)).run ts).keeper.filter = some (pathOfFilter n) →
      c.bus.nextFilter ≤ n

theorem obtained_of_filter {path : String} (h : c.keeper.filter = some path) :
    c.obtained = .ok path := by
  unfold obtained FilterKeeper.obtain
  rw [h]

theorem live_of_agrees (h : c.keeper.Agrees c.bus) {path : String}
    (hpath : c.keeper.filter = some path) : path ∈ c.bus.livePaths := by
  unfold FilterKeeper.Agrees at h
  rw [hpath] at h
  obtain ⟨n, ids, rfl, hids, -⟩ := h
  rw [mem_livePaths_iff, hids]
  exact Option.some_ne_none ids

theorem allow_of_ok (h : c.keeper.Agrees c.bus) {id : EventId} (hok : c.allowed id = .ok ()) :
    (c.after (.own (.allow id))).keeper.filter = some c.path ∧
      (∀ id', (c.after (.own (.allow id))).keeper.allows id' =
        (decide (id = id') || c.keeper.allows id')) ∧
      (c.after (.own (.allow id))).bus.journal = c.bus.journal ++ c.requests id := by
  obtain ⟨⟨_ | path, ids⟩, g⟩ := c
  · have hid : ids.contains id = false := h id
    change ((⟨none, ids⟩ : FilterKeeper).allow g.line id).1 = .ok () at hok
    have hrequests : requests ⟨⟨none, ids⟩, g⟩ id =
        [.call networkPath "CreateEventFilter", .reach (pathOfFilter g.line.nextFilter)] ++
          [.call (pathOfFilter g.line.nextFilter) "ListenEvent"] :=
      (if_neg (Bool.eq_false_iff.mp hid)).trans (congrArg (· ++ _) (if_pos rfl))
    simp only [after, filterStep, bus, hrequests]
    rw [FilterKeeper.allow_none hid] at hok ⊢
    cases hf : g.line.refusal? "CreateEventFilter" with
    | some f =>
      rw [hf] at hok
      cases hok
    | none =>
      rw [hf] at hok
      obtain ⟨hfilter, hallows, hjournal⟩ := FilterKeeper.allow_some_of_ok hok
      refine ⟨hfilter, hallows, hjournal.trans ?_⟩
      rw [hid, if_neg Bool.false_ne_true, ← List.append_assoc]
      simp [equipped, addFilter]
  · have hrequests : requests ⟨⟨some path, ids⟩, g⟩ id =
        if ids.contains id then [] else [.call path "ListenEvent"] := rfl
    rw [hrequests]
    exact FilterKeeper.allow_some_of_ok hok

theorem allow_of_error (h : c.keeper.Agrees c.bus) {id : EventId} {p : Problem}
    (herror : c.allowed id = .error p) :
    (c.after (.own (.allow id))).keeper.allowed = c.keeper.allowed ∧
      ((c.after (.own (.allow id))).keeper.filter = c.keeper.filter ∧
          (c.after (.own (.allow id))).bus =
            { c.bus with journal := (c.after (.own (.allow id))).bus.journal } ∨
        c.keeper.filter = none ∧ (c.after (.own (.allow id))).keeper.filter = some c.path ∧
          (c.after (.own (.allow id))).bus =
            { c.bus.addFilter.2 with journal := (c.after (.own (.allow id))).bus.journal }) := by
  obtain ⟨⟨_ | path, ids⟩, g⟩ := c
  · have hid : ids.contains id = false := h id
    change ((⟨none, ids⟩ : FilterKeeper).allow g.line id).1 = .error p at herror
    have hkeeper : (after ⟨⟨none, ids⟩, g⟩ (.own (.allow id))).keeper =
        ((⟨none, ids⟩ : FilterKeeper).allow g.line id).2.1 := rfl
    have hbus : (after ⟨⟨none, ids⟩, g⟩ (.own (.allow id))).bus =
        ((⟨none, ids⟩ : FilterKeeper).allow g.line id).2.2 := rfl
    rw [hkeeper, hbus]
    rw [FilterKeeper.allow_none hid] at herror ⊢
    cases hf : g.line.refusal? "CreateEventFilter" with
    | some f => exact ⟨rfl, .inl ⟨rfl, rfl⟩⟩
    | none =>
      rw [hf] at herror
      have hnothing := FilterKeeper.allow_some_of_error herror
      have hallowed := congrArg (fun r ↦ r.1.allowed) hnothing
      have hfilter := congrArg (fun r ↦ r.1.filter) hnothing
      exact ⟨hallowed, .inr ⟨rfl, hfilter, eq_of_equipped (congrArg Prod.snd hnothing)⟩⟩
  · have hnothing := FilterKeeper.allow_some_of_error herror
    have hkeeper : (after ⟨⟨some path, ids⟩, g⟩ (.own (.allow id))).keeper = ⟨some path, ids⟩ :=
      congrArg Prod.fst hnothing
    rw [hkeeper]
    exact ⟨rfl, .inl ⟨rfl, eq_of_note (congrArg Prod.snd hnothing)⟩⟩

theorem kept_of_agrees (h : c.keeper.Agrees c.bus) : c.Kept where
  agrees := h
  live _ hpath := live_of_agrees h hpath
  obtain_ok _ hok _ hts :=
    obtained_of_filter (filter_run (FilterKeeper.obtain_of_ok hok) hts)
  obtain_error p herror := by
    have hnothing := FilterKeeper.obtain_of_error herror
    exact ⟨congrArg Prod.fst hnothing, eq_of_note (congrArg Prod.snd hnothing)⟩
  allow_ok _ hok := allow_of_ok h hok
  allow_error _ _ herror := allow_of_error h herror
  give_up := by
    have hstart : (c.after (.own .giveUp)).keeper = .start := FilterKeeper.giveUp_keeper ..
    refine ⟨hstart, fun ts ↦ number_run (c.leads_after _).nextFilter_le ?_ ts⟩
    intro n hn
    rw [hstart] at hn
    cases hn

/-- A keeper that begins without a filter on any bus is kept, whatever it is told and whatever
others do, as long as they leave its filter alone. -/
theorem kept_of_undisturbed {h : Hub (Bus ReplyTarget) κ} (hr : h.Reachable)
    {ts : List (Turn κ)} (hts : Undisturbed ⟨.start, h⟩ ts) : (run ⟨.start, h⟩ ts).Kept :=
  kept_of_agrees (agrees_run hr.settled.sound (FilterKeeper.agrees_start _) hts).2

theorem kept_after_refusal :
    let h : Hub (Bus ReplyTarget) Unit := .start .start
    let ts : List (Turn Unit) :=
      [.own (.allow ⟨1⟩), .other (.bus (.setServing false)), .own .giveUp,
        .other (.bus (.setServing true)), .own (.allow ⟨1⟩)]
    (run ⟨.start, h⟩ ts).Kept ∧ (run ⟨.start, h⟩ ts).keeper.filter = some "/events_filters/1" ∧
      (run ⟨.start, h⟩ ts).bus.livePaths = ["/events_filters/0", "/events_filters/1"] := by
  intro h ts
  have hts : Undisturbed ⟨.start, h⟩ ts := by
    refine ⟨trivial, ?_, trivial, ?_, trivial, trivial⟩
    all_goals
      intro n d _ hd
      cases hd
      exact not_false
  exact ⟨kept_of_undisturbed .start hts, by decide +kernel, by decide +kernel⟩

/-- A request that is refused can leave a filter behind that was not there before. -/
theorem filter_left_by_refusal :
    let h : Hub (Bus ReplyTarget) Unit :=
      .start (Bus.start.refuseMethod "ListenEvent" ⟨"test.Refused", "no"⟩)
    let c : Custody Unit := ⟨.start, h⟩
    h.Reachable ∧
      c.allowed ⟨1⟩ = .error (.refusedCall "ListenEvent" ⟨"test.Refused", "no"⟩) ∧
      c.keeper.filter = none ∧ c.bus.livePaths = [] ∧
      (c.after (.own (.allow ⟨1⟩))).keeper.filter = some "/events_filters/0" ∧
      (c.after (.own (.allow ⟨1⟩))).bus.livePaths = ["/events_filters/0"] := by
  intro h c
  have hr : h.Reachable :=
    Hub.Reachable.after (.bus (.refuseMethod "ListenEvent" ⟨"test.Refused", "no"⟩)) trivial .start
  exact ⟨hr, rfl, rfl, rfl, by decide +kernel, by decide +kernel⟩

end Custody

end RobotBus
