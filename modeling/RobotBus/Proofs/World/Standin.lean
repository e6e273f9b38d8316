import RobotBus.Callback.Script
import RobotBus.Proofs.Router.Panics
import RobotBus.Proofs.Sending.Outcome
import RobotBus.Proofs.World.Offline

namespace RobotBus

variable {σ κ ρ : Type}

namespace Bus

structure Vacant (b : Bus ρ) : Prop where
  serving : b.serving = true
  refusals : b.refusals = .empty
  connectRefusal : b.connectRefusal = none
  filters : b.filters = .empty
  nextFilter_lt : b.nextFilter < filterBound

structure Lone (n : Nat) (b : Bus ρ) : Prop where
  serving : b.serving = true
  refusals : b.refusals = .empty
  filters : ∃ ids, b.filters = ⟨[(n, ids)]⟩
  hadFilter : b.hadFilter = true
  number_lt : n < filterBound

theorem refusal?_eq_none {b : Bus ρ} (hserving : b.serving = true) (hrefusals : b.refusals = .empty)
    (method : String) : b.refusal? method = none := by
  rw [refusal?_eq_none_iff, hrefusals]
  exact ⟨hserving, rfl⟩

variable {n : Nat} {b : Bus ρ}

theorem Lone.refusal? (hb : Lone n b) (method : String) : b.refusal? method = none :=
  refusal?_eq_none hb.serving hb.refusals method

theorem Lone.liveFilter? (hb : Lone n b) : b.liveFilter? (pathOfFilter n) = some n := by
  obtain ⟨ids, hids⟩ := hb.filters
  rw [liveFilter?_eq_some_iff, numberInPath?_pathOfFilter, if_pos hb.number_lt, hids]
  exact ⟨rfl, ids, if_pos rfl⟩

theorem Lone.listen (hb : Lone n b) (id : EventId) :
    ∃ b', b.listen (pathOfFilter n) id = (.ok [], b') ∧ Lone n b' := by
  obtain ⟨ids, hids⟩ := hb.filters
  have hget : (b.note (.call (pathOfFilter n) "ListenEvent")).filters.get? n = some ids := by
    rw [filters_note, hids]
    exact if_pos rfl
  simp only [listen_eq, hb.refusal?, hb.liveFilter?, serveFilter, hget]
  refine ⟨_, rfl, hb.serving, hb.refusals, ⟨ids.insert id (), ?_⟩, hb.hadFilter, hb.number_lt⟩
  rw [filters_note, hids, Directory.insert, Directory.store, if_pos rfl]

theorem Lone.free (hb : Lone n b) :
    ∃ b', b.call (pathOfFilter n) filterInterface "Free" [] = (.ok [], b') := by
  simp only [call_free, hb.refusal?, hb.liveFilter?]
  exact ⟨_, rfl⟩

theorem Vacant.lone_furnished {b : Bus ReplyTarget} (hb : b.Vacant) (mailbox : Nat) :
    Lone b.nextFilter (b.furnished mailbox) where
  serving := hb.serving
  refusals := hb.refusals
  filters := by
    rw [filters_furnished, hb.filters]
    exact ⟨.empty, rfl⟩
  hadFilter := rfl
  number_lt := hb.nextFilter_lt

end Bus

open Bus

namespace FilterKeeper

variable {n : Nat} {b : Bus ReplyTarget}

theorem sweep_of_vacant (k : FilterKeeper) (hb : b.Vacant) :
    k.sweep b = (.ok 0, b.note (.listChildren filtersPath)) := by
  cases hhad : b.hadFilter with
  | false => exact k.sweep_of_never hhad
  | true =>
    rw [k.sweep_of_had hhad, hb.filters]
    rfl

theorem sweep_of_lone {k : FilterKeeper} (hk : k.filter = some (pathOfFilter n)) (hb : Lone n b) :
    k.sweep b = (.ok 0, b.note (.listChildren filtersPath)) := by
  obtain ⟨ids, hids⟩ := hb.filters
  have hkeys : b.filters.keys.map toString = [n].map toString := by
    rw [hids]
    rfl
  rw [k.sweep_of_had hb.hadFilter, hkeys, sweepEach_cons, if_pos hk]
  rfl

theorem allow_of_lone (hb : Lone n b) (ids : EventSet) (id : EventId) :
    ∃ ids' b', (⟨some (pathOfFilter n), ids⟩ : FilterKeeper).allow b id =
      (.ok (), ⟨some (pathOfFilter n), ids'⟩, b') ∧ Lone n b' := by
  rw [allow_some]
  split
  · exact ⟨ids, b, rfl, hb⟩
  · obtain ⟨b', hlisten, hb'⟩ := hb.listen id
    rw [hlisten]
    exact ⟨ids.insert id (), b', rfl, hb'⟩

end FilterKeeper

theorem Hub.send_of_lone {n : Nat} {h : Hub (Bus ReplyTarget) κ} (hb : Lone n h.line)
    (args : List Word) (id : EventId) (mailbox : Nat) :
    ∃ b, h.submit networkPath networkInterface "SendEvent" [.uint16 id.val, .words args]
      (.mailbox mailbox) = { h with line := b } ∧ Lone n b := by
  have hrefusal : (h.line.note (.submit networkPath "SendEvent")).refusal? "SendEvent" = none :=
    hb.refusal? "SendEvent"
  rw [submit_eq, serve_send, hrefusal]
  dsimp only
  split
  · exact ⟨_, rfl, { hb with }⟩
  · exact ⟨_, rfl, { hb with }⟩

structure Subscription.Unheard (e e' : Subscription κ) : Prop where
  callback : e.callback = e'.callback
  window : ∃ size t t', e.window = .start size t ∧ e'.window = .start size t'

structure Router.Unheard (r r' : Router κ) : Prop where
  windowSize : r.subscriptions.windowSize = r'.subscriptions.windowSize
  entries : r.subscriptions.entries.Alongside Subscription.Unheard r'.subscriptions.entries

namespace Router.Unheard

variable {r r' : Router κ}

theorem start (windowSize : Nat) (policy : PanicPolicy) :
    Unheard (Router.start windowSize policy : Router κ) (.start windowSize policy) :=
  ⟨rfl, .nil⟩

theorem subscribe (h : Unheard r r') (id : EventId) (c : κ) (t t' : Instant) :
    Unheard (r.subscribe id c t) (r'.subscribe id c t') := by
  rw [subscribe_eq, subscribe_eq, h.windowSize]
  exact ⟨h.windowSize, h.entries.insert id ⟨rfl, _, t, t', rfl, rfl⟩⟩

theorem clear (h : Unheard r r') : Unheard r.clear r'.clear := ⟨h.windowSize, .nil⟩

theorem callbacks (h : Unheard r r') : r.callbacks = r'.callbacks :=
  h.entries.mapValues_eq fun _ _ he ↦ he.callback

theorem mapValues_rate (h : Unheard r r') :
    r.subscriptions.entries.mapValues (·.window.rate) =
      r'.subscriptions.entries.mapValues (·.window.rate) := by
  refine h.entries.mapValues_eq fun e e' he ↦ ?_
  obtain ⟨size, t, t', hwindow, hwindow'⟩ := he.window
  rw [hwindow, hwindow']
  rfl

theorem rates (h : Unheard r r') : r.subscriptions.rates = r'.subscriptions.rates :=
  congrArg Directory.entries h.mapValues_rate

theorem rate (h : Unheard r r') (id : EventId) :
    r.subscriptions.rate id = r'.subscriptions.rate id := by
  have hget := congrArg (Directory.get? · id) h.mapValues_rate
  simp only [Directory.get?_mapValues] at hget
  simp only [Subscriptions.rate]
  cases he : r.subscriptions.entries.get? id <;>
    cases he' : r'.subscriptions.entries.get? id <;> simp_all

end Router.Unheard

inductive Errand (κ : Type)
  | step (st : Simulation.SessionStep κ)
  | post (q : Request κ)

/-- A request that can be carried out with no nodes on the bus. -/
inductive Request.Common : Request κ → Prop
  | send (event : Mention) (args : List Word) : Common (.send event args)
  | subscribe (event : Mention) (callback : κ) : Common (.subscribe event callback)
  | stop : Common .stop

inductive Errand.Common : Errand κ → Prop
  | subscribe (event : Mention) (callback : κ) : Common (.step (.subscribe event callback))
  | send (event : Mention) (args : List Word) : Common (.step (.send event args))
  | locate (event : Mention) : Common (.step (.locate event))
  | rate (event : Mention) : Common (.step (.rate event))
  | rates : Common (.step .rates)
  | loadNames (path : String) (file : StoredFile) : Common (.step (.loadNames path file))
  | names (q : EventNames.Request) : Common (.step (.names q))
  | runQueued : Common (.step .runQueued)
  | sweep : Common (.step .sweep)
  | close : Common (.step .close)
  | post {q : Request κ} (hq : q.Common) : Common (.post q)

structure Report (κ : Type) where
  answer : Except Problem Simulation.Answer
  closed : Bool
  callbacks : Directory EventId κ
  rates : List (EventId × Float)

namespace Session

section

variable [Line σ] [Callback κ]

def errand (fuel : Nat) (s : Session κ) (h : Hub σ κ) : Errand κ → Simulation.Stepped σ κ
  | .step st => Simulation.sessionStep fuel s h st
  | .post q => some (.ok .nothing, s, s.remote.request h q)

def errands (fuel : Nat) (s : Session κ) (h : Hub σ κ) :
    List (Errand κ) → Option (List (Report κ) × Session κ × Hub σ κ)
  | [] => some ([], s, h)
  | e :: es =>
    match s.errand fuel h e with
    | none => none
    | some (r, s, h) =>
      (errands fuel s h es).map
        (fun rest ↦ (⟨r, s.closed, s.router.callbacks, s.rates⟩ :: rest.1, rest.2))

end

structure Alone (s : Session κ) (b : Bus ReplyTarget) : Prop where
  online : s.settings.offline = false
  presence : ∃ n ids token,
    s.presence = some ⟨⟨some (pathOfFilter n), ids⟩, some token⟩ ∧ b.Lone n

/-- The first session is offline, and has left its line as it was; the second is alone on its bus
for as long as it is open. -/
structure StandsIn (l : σ) (s : Session κ) (h : Hub σ κ) (s' : Session κ)
    (h' : Hub (Bus ReplyTarget) κ) : Prop where
  offline : s.Offline
  line : h.line = l
  alone : s'.closed = false → s'.Alone h'.line
  closed : s.closed = s'.closed
  names : s.names = s'.names
  router : s.router.Unheard s'.router
  mailbox_lt : s.mailbox < h.mailboxes.length
  mailbox_lt' : s'.mailbox < h'.mailboxes.length
  queue : h.queue s.mailbox = h'.queue s'.mailbox
  common : ∀ m ∈ h.queue s.mailbox, ∃ q : Request κ, m = .request q ∧ q.Common

/-- Both come to the same and can go on so, with at most so many messages left. -/
structure Concur {α : Type} (l : σ) (n : Nat) (x : α × Session κ × Hub σ κ)
    (x' : α × Session κ × Hub (Bus ReplyTarget) κ) : Prop where
  answer : x.1 = x'.1
  standsIn : StandsIn l x.2.1 x.2.2 x'.2.1 x'.2.2
  queue_le : (x.2.2.queue x.2.1.mailbox).length ≤ n

theorem Concur.map {α β : Type} {l : σ} {n : Nat} {x : α × Session κ × Hub σ κ}
    {x' : α × Session κ × Hub (Bus ReplyTarget) κ} (hx : Concur l n x x') (f : α → β) :
    Concur l n (f x.1, x.2) (f x'.1, x'.2) :=
  ⟨congrArg f hx.answer, hx.standsIn, hx.queue_le⟩

theorem Concur.mono {α : Type} {l : σ} {n k : Nat} {x : α × Session κ × Hub σ κ}
    {x' : α × Session κ × Hub (Bus ReplyTarget) κ} (hx : Concur l n x x') (hle : n ≤ k) :
    Concur l k x x' :=
  ⟨hx.answer, hx.standsIn, hx.queue_le.trans hle⟩

namespace StandsIn

variable {l : σ} {s : Session κ} {h : Hub σ κ} {s' : Session κ} {h' : Hub (Bus ReplyTarget) κ}

theorem concur {α : Type} (hs : StandsIn l s h s' h') (a : α) :
    Concur l (h.queue s.mailbox).length (a, s, h) (a, s', h') := ⟨rfl, hs, Nat.le_refl _⟩

theorem withLine (hs : StandsIn l s h s' h') {b : Bus ReplyTarget}
    (hb : s'.closed = false → s'.Alone b) : StandsIn l s h s' { h' with line := b } :=
  { hs with alone := hb }

variable [Line σ]

theorem send (hs : StandsIn l s h s' h') (event : Mention) (args : List Word) :
    Concur l (h.queue s.mailbox).length ((s.send h event args).1, s, (s.send h event args).2)
      ((s'.send h' event args).1, s', (s'.send h' event args).2) := by
  rw [hs.offline.send h event args]
  simp only [Session.send, Session.locate, hs.closed, hs.names]
  cases hclosed : s'.closed with
  | true => exact hs.concur _
  | false =>
    simp only [Bool.false_eq_true, if_false]
    cases s'.names.locate event with
    | error e => exact hs.concur _
    | ok id =>
      have halone := hs.alone hclosed
      obtain ⟨n, ids, token, hp, hb⟩ := halone.presence
      obtain ⟨b, hsubmit, hlone⟩ := Hub.send_of_lone hb args id s'.mailbox
      have hsend : s'.access.send h' id args (.mailbox s'.mailbox) = { h' with line := b } := by
        rw [Session.access, halone.online, if_neg Bool.false_ne_true]
        exact hsubmit
      simp only [hsend]
      exact (hs.withLine fun _ ↦ ⟨halone.online, n, ids, token, hp, hlone⟩).concur _

theorem subscribe (hs : StandsIn l s h s' h') (event : Mention) (callback : κ) :
    Concur l (h.queue s.mailbox).length (s.subscribe h event callback)
      (s'.subscribe h' event callback) := by
  simp only [Session.subscribe, Session.locate, hs.closed, hs.names]
  cases hclosed : s'.closed with
  | true => exact hs.concur _
  | false =>
    simp only [Bool.false_eq_true, if_false]
    cases s'.names.locate event with
    | error e => exact hs.concur _
    | ok id =>
      have halone := hs.alone hclosed
      obtain ⟨n, ids, token, hp, hb⟩ := halone.presence
      obtain ⟨ids', b, hallow, hlone⟩ := FilterKeeper.allow_of_lone hb ids id
      simp only [Session.allow, hs.offline.presence, hp, hallow, Hub.now]
      exact ⟨rfl, {
        offline := ⟨hs.offline.offline, rfl⟩
        line := hs.line
        alone := fun _ ↦ ⟨halone.online, n, ids', token, rfl, hlone⟩
        closed := hs.closed
        names := hs.names
        router := hs.router.subscribe id callback _ _
        mailbox_lt := hs.mailbox_lt
        mailbox_lt' := hs.mailbox_lt'
        queue := hs.queue
        common := hs.common }, Nat.le_refl _⟩

theorem sweep (hs : StandsIn l s h s' h') :
    Concur l (h.queue s.mailbox).length ((s.sweep h).1, s, (s.sweep h).2)
      ((s'.sweep h').1, s', (s'.sweep h').2) := by
  simp only [Session.sweep, Session.ask, hs.closed, hs.offline.presence]
  cases hclosed : s'.closed with
  | true => exact hs.concur _
  | false =>
    have halone := hs.alone hclosed
    obtain ⟨n, ids, token, hp, hb⟩ := halone.presence
    have hsweep := FilterKeeper.sweep_of_lone (k := ⟨some (pathOfFilter n), ids⟩) rfl hb
    have hlone : Lone n (h'.line.note (.listChildren filtersPath)) := { hb with }
    simp only [hp, Bool.false_eq_true, if_false, hsweep]
    exact (hs.withLine fun _ ↦ ⟨halone.online, n, ids, token, hp, hlone⟩).concur _

theorem close (hs : StandsIn l s h s' h') :
    Concur l (h.queue s.mailbox).length (s.close h) (s'.close h') ∧ (s.close h).1 = .ok () := by
  simp only [Session.close, hs.closed, hs.offline.presence]
  cases hclosed : s'.closed with
  | true => exact ⟨hs.concur _, rfl⟩
  | false =>
    obtain ⟨n, ids, token, hp, hb⟩ := (hs.alone hclosed).presence
    have hb' : Lone n (h'.line.unwatch token) := { hb with }
    obtain ⟨b, hfree⟩ := hb'.free
    have hdismantle : (⟨⟨some (pathOfFilter n), ids⟩, some token⟩ : Presence).dismantle h'.line =
        (.ok (), b.disconnect) := by
      have hunwatch : Line.unwatch h'.line token = (.ok (), h'.line.unwatch token) := rfl
      have hcall : Line.call (h'.line.unwatch token) (pathOfFilter n) filterInterface "Free" [] =
          (.ok [], b) := hfree
      simp only [Presence.dismantle, Presence.unwatch, hunwatch, FilterKeeper.giveUp, hcall]
      rfl
    simp only [hp, hdismantle, Bool.false_eq_true, if_false]
    exact ⟨⟨rfl, {
      offline := ⟨hs.offline.offline, rfl⟩
      line := hs.line
      alone := fun (hopen : true = false) ↦ absurd hopen (by decide)
      closed := rfl
      names := hs.names
      router := hs.router.clear
      mailbox_lt := hs.mailbox_lt
      mailbox_lt' := hs.mailbox_lt'
      queue := hs.queue
      common := hs.common }, Nat.le_refl _⟩, trivial⟩

omit [Line σ] in
theorem queue_request (hs : s.mailbox < h.mailboxes.length) (q : Request κ) :
    (s.remote.request h q).queue s.mailbox = h.queue s.mailbox ++ [.request q] :=
  (Hub.queue_post ..).trans (if_pos ⟨rfl, hs⟩)

omit [Line σ] in
theorem post (hs : StandsIn l s h s' h') {q : Request κ} (hq : q.Common) :
    StandsIn l s (s.remote.request h q) s' (s'.remote.request h' q) := by
  have hqueue := queue_request hs.mailbox_lt q
  have hqueue' := queue_request hs.mailbox_lt' q
  have hlength := (Hub.extends_post h s.mailbox (.request q)).length
  have hlength' := (Hub.extends_post h' s'.mailbox (.request q)).length
  refine { hs with
    mailbox_lt := hlength.symm ▸ hs.mailbox_lt
    mailbox_lt' := hlength'.symm ▸ hs.mailbox_lt'
    queue := ?_
    common := ?_ }
  · rw [hqueue, hqueue', hs.queue]
  · intro m hm
    rw [hqueue] at hm
    rcases List.mem_append.mp hm with hm | hm
    · exact hs.common m hm
    · exact ⟨q, List.mem_singleton.mp hm, hq⟩

omit [Line σ] in
theorem take (hs : StandsIn l s h s' h') {m : Message κ} {g : Hub σ κ}
    (ht : h.take s.mailbox = some (m, g)) :
    ∃ q g', m = .request q ∧ q.Common ∧ h'.take s'.mailbox = some (m, g') ∧
      StandsIn l s g s' g' := by
  obtain ⟨hqueue, hline, -, hlength⟩ := Hub.queue_of_take ht
  have hcommon := hs.common
  rw [hqueue] at hcommon
  obtain ⟨⟨q, rfl, hq⟩, hrest⟩ := List.forall_mem_cons.mp hcommon
  cases ht' : h'.take s'.mailbox with
  | none =>
    rw [Hub.take_eq_none_iff, ← hs.queue, hqueue] at ht'
    cases ht'
  | some mg =>
    obtain ⟨m', g'⟩ := mg
    obtain ⟨hqueue', hline', -, hlength'⟩ := Hub.queue_of_take ht'
    have hboth := hs.queue
    rw [hqueue, hqueue'] at hboth
    obtain ⟨rfl, hsame⟩ := List.cons.inj hboth
    exact ⟨q, g', rfl, hq, rfl, { hs with
      line := hline.trans hs.line
      alone := hline'.symm ▸ hs.alone
      mailbox_lt := hlength.symm ▸ hs.mailbox_lt
      mailbox_lt' := hlength'.symm ▸ hs.mailbox_lt'
      queue := hsame
      common := hrest }⟩

theorem carryOut (hs : StandsIn l s h s' h') {q : Request κ} (hq : q.Common) :
    Concur l (h.queue s.mailbox).length (s.carryOut h q) (s'.carryOut h' q) ∧
      ∀ p, (s.carryOut h q).1 ≠ .failed p := by
  cases hq with
  | send event args =>
    have hstep := hs.send event args
    simp only [Session.carryOut, judge_of_mild (s.mild_send h event args),
      judge_of_mild (s'.mild_send h' event args)]
    exact ⟨hstep.map fun _ ↦ Progress.running, by simp⟩
  | subscribe event callback =>
    have hstep := hs.subscribe event callback
    simp only [Session.carryOut, judge_of_mild (s.subscribe_frame h event callback).1,
      judge_of_mild (s'.subscribe_frame h' event callback).1]
    exact ⟨hstep.map fun _ ↦ Progress.running, by simp⟩
  | stop =>
    obtain ⟨hstep, hok⟩ := hs.close
    have hok' := hstep.answer.symm.trans hok
    simp only [Session.carryOut]
    generalize s.close h = x, s'.close h' = x' at hstep hok hok'
    obtain ⟨r, t, g⟩ := x
    obtain ⟨r', t', g'⟩ := x'
    cases hok
    cases hok'
    exact ⟨⟨rfl, hstep.standsIn, hstep.queue_le⟩, by simp⟩

variable [Callback κ]

theorem drain (hs : StandsIn l s h s' h') (fuel handled : Nat)
    (hfuel : (h.queue s.mailbox).length ≤ fuel) :
    ∃ d d', s.drain fuel h handled = some d ∧ s'.drain fuel h' handled = some d' ∧
      Concur l (h.queue s.mailbox).length ((d.ending, d.handled), d.session, d.hub)
        ((d'.ending, d'.handled), d'.session, d'.hub) ∧ ∀ p, d.ending ≠ .failed p := by
  induction fuel generalizing s h s' h' handled with
  | zero =>
    have hempty := List.eq_nil_of_length_eq_zero (Nat.le_zero.mp hfuel)
    exact ⟨_, _, drain_of_empty hempty 0 handled,
      drain_of_empty (hs.queue.symm.trans hempty) 0 handled, hs.concur _, by simp⟩
  | succ fuel ih =>
    cases ht : h.take s.mailbox with
    | none =>
      have hempty := (h.take_eq_none_iff s.mailbox).mp ht
      exact ⟨_, _, drain_of_empty hempty _ handled,
        drain_of_empty (hs.queue.symm.trans hempty) _ handled, hs.concur _, by simp⟩
    | some mg =>
      obtain ⟨m, g⟩ := mg
      obtain ⟨q, g', rfl, hq, ht', hs₁⟩ := hs.take ht
      obtain ⟨hqueue, -⟩ := Hub.queue_of_take ht
      rw [hqueue, List.length_cons] at hfuel ⊢
      obtain ⟨hstep, hfailed⟩ := hs₁.carryOut hq
      rw [drain_of_take ht, drain_of_take ht', handle, handle]
      generalize s.carryOut g q = x, s'.carryOut g' q = x' at hstep hfailed
      obtain ⟨progress, t, k⟩ := x
      obtain ⟨progress', t', k'⟩ := x'
      obtain ⟨rfl, hs₂, hle⟩ := hstep
      cases progress with
      | running =>
        obtain ⟨d, d', hd, hd', hstep', hfailed'⟩ := ih hs₂ (handled + 1) (by omega)
        exact ⟨d, d', hd, hd', ⟨hstep'.answer, hstep'.standsIn, by have := hstep'.queue_le; omega⟩,
          hfailed'⟩
      | stopped => exact ⟨_, _, rfl, rfl, ⟨rfl, hs₂, Nat.le_succ_of_le hle⟩, by simp⟩
      | failed p => exact absurd rfl (hfailed p)

theorem runQueued (hs : StandsIn l s h s' h') {fuel : Nat}
    (hfuel : (h.queue s.mailbox).length ≤ fuel) :
    ∃ x x', s.runQueued fuel h = some x ∧ s'.runQueued fuel h' = some x' ∧
      Concur l (h.queue s.mailbox).length x x' := by
  cases hclosed : s'.closed with
  | true =>
    refine ⟨_, _, ?_, ?_, hs.concur (.error .closedSession)⟩
    · rw [Session.runQueued, runLoop, hs.closed, hclosed, if_pos rfl]
    · rw [Session.runQueued, runLoop, hclosed, if_pos rfl]
  | false =>
    obtain ⟨d, d', hd, hd', hstep, -⟩ := hs.drain fuel 0 hfuel
    have hending : d.ending = d'.ending := congrArg Prod.fst hstep.answer
    have hhandled : d.handled = d'.handled := congrArg Prod.snd hstep.answer
    refine ⟨_, _, runQueued_of_drain (hs.closed.trans hclosed) hd, runQueued_of_drain hclosed hd',
      ?_⟩
    rw [hending, hhandled]
    exact ⟨rfl, hstep.standsIn, hstep.queue_le⟩

theorem errand (hs : StandsIn l s h s' h') {e : Errand κ} (he : e.Common) {fuel : Nat}
    (hfuel : (h.queue s.mailbox).length ≤ fuel) :
    ∃ x x', s.errand fuel h e = some x ∧ s'.errand fuel h' e = some x' ∧
      Concur l ((h.queue s.mailbox).length + 1) x x' := by
  -- an errand does something, tells something, or gives the session other names
  have answered {α : Type} (f : α → Simulation.Answer) {x : Except Problem α × Session κ × Hub σ κ}
      {x'} (hx : Concur l (h.queue s.mailbox).length x x') :
      Concur l ((h.queue s.mailbox).length + 1) (x.1.map f, x.2) (x'.1.map f, x'.2) :=
    (hx.map (Except.map f)).mono (Nat.le_succ _)
  have told (a : Except Problem Simulation.Answer) :
      Concur l ((h.queue s.mailbox).length + 1) (a, s, h) (a, s', h') :=
    (hs.concur a).mono (Nat.le_succ _)
  have renamed (a : Except Problem Simulation.Answer) (names : EventNames) :
      Concur l ((h.queue s.mailbox).length + 1) (a, { s with names }, h)
        (a, { s' with names }, h') :=
    ⟨rfl, { hs with
      offline := ⟨hs.offline.offline, hs.offline.presence⟩
      alone := fun hopen ↦ ⟨(hs.alone hopen).online, (hs.alone hopen).presence⟩
      names := rfl }, Nat.le_succ _⟩
  cases he with
  | subscribe event callback =>
    exact ⟨_, _, rfl, rfl, answered Simulation.Answer.event (hs.subscribe event callback)⟩
  | send event args =>
    exact ⟨_, _, rfl, rfl, answered (fun _ ↦ Simulation.Answer.nothing) (hs.send event args)⟩
  | locate event =>
    refine ⟨_, _, rfl, rfl, ?_⟩
    rw [Session.locate, Session.locate, hs.names]
    exact told _
  | rate event =>
    refine ⟨_, _, rfl, rfl, ?_⟩
    simp only [Session.rate, Session.locate, hs.names, funext hs.router.rate]
    exact told _
  | rates =>
    refine ⟨_, _, rfl, rfl, ?_⟩
    rw [Session.rates, Session.rates, hs.router.rates]
    exact told _
  | loadNames path file =>
    refine ⟨_, _, rfl, rfl, ?_⟩
    cases EventNames.ofFile path file with
    | error e => exact hs.names ▸ told (.error e)
    | ok names => exact renamed (.ok (.count names.size)) names
  | names q =>
    refine ⟨_, _, rfl, rfl, ?_⟩
    rw [hs.names]
    exact renamed _ _
  | runQueued =>
    obtain ⟨x, x', hx, hx', hstep⟩ := hs.runQueued hfuel
    simp only [Session.errand, Simulation.sessionStep, hx, hx']
    exact ⟨_, _, rfl, rfl, answered Simulation.Answer.count hstep⟩
  | sweep => exact ⟨_, _, rfl, rfl, answered Simulation.Answer.count hs.sweep⟩
  | close =>
    exact ⟨_, _, rfl, rfl, answered (fun _ ↦ Simulation.Answer.nothing) hs.close.1⟩
  | @post q hq =>
    refine ⟨_, _, rfl, rfl, rfl, hs.post hq, ?_⟩
    rw [queue_request hs.mailbox_lt, List.length_append]
    exact Nat.le_refl _

theorem errands (hs : StandsIn l s h s' h') {es : List (Errand κ)} (hes : ∀ e ∈ es, e.Common)
    {fuel : Nat} (hfuel : (h.queue s.mailbox).length + es.length ≤ fuel) :
    ∃ rs t g t' g', s.errands fuel h es = some (rs, t, g) ∧
      s'.errands fuel h' es = some (rs, t', g') ∧ StandsIn l t g t' g' := by
  induction es generalizing s h s' h' with
  | nil => exact ⟨[], s, h, s', h', rfl, rfl, hs⟩
  | cons e es ih =>
    obtain ⟨he, hes⟩ := List.forall_mem_cons.mp hes
    rw [List.length_cons] at hfuel
    have hfuel' : (h.queue s.mailbox).length ≤ fuel := by omega
    obtain ⟨⟨r, s₁, h₁⟩, ⟨r', s₁', h₁'⟩, hx, hx', hstep⟩ := hs.errand he hfuel'
    obtain ⟨rfl, hs₁, hle⟩ := hstep
    have hle' : (h₁.queue s₁.mailbox).length ≤ (h.queue s.mailbox).length + 1 := hle
    have hfuel₁ : (h₁.queue s₁.mailbox).length + es.length ≤ fuel := by omega
    obtain ⟨rs, t, g, t', g', hrest, hrest', hs₂⟩ := ih hs₁ hes hfuel₁
    have hs₁' : StandsIn l s₁ h₁ s₁' h₁' := hs₁
    refine ⟨⟨r, s₁.closed, s₁.router.callbacks, s₁.rates⟩ :: rs, t, g, t', g', ?_, ?_, hs₂⟩
    · rw [Session.errands, hx]
      simp only [hrest, Option.map_some]
    · rw [Session.errands, hx']
      simp only [hrest', Option.map_some, hs₁'.closed, hs₁'.router.callbacks, Session.rates,
        hs₁'.router.rates]

end StandsIn

theorem enter_of_vacant {b : Bus ReplyTarget} (hb : b.Vacant) (c : Settings) (mailbox : Nat) :
    ∃ b', Presence.enter b c mailbox =
      (.ok ⟨⟨some (pathOfFilter b.nextFilter), .empty⟩, some b.nextToken⟩, b') ∧
        Lone b.nextFilter b' := by
  have hreached : (b.note (.reach networkPath)).Vacant := { hb with }
  have hswept : ∃ b₁ freed, Presence.start.sweepFirst (b.note (.reach networkPath)) c =
      (.ok freed, b₁) ∧ b₁.Vacant ∧ b₁.nextFilter = b.nextFilter ∧ b₁.nextToken = b.nextToken := by
    unfold Presence.sweepFirst
    split
    · exact ⟨_, 0, FilterKeeper.sweep_of_vacant _ hreached, { hreached with }, rfl, rfl⟩
    · exact ⟨_, 0, rfl, hreached, rfl, rfl⟩
  obtain ⟨b₁, freed, hsweep, hvacant, hfilter, htoken⟩ := hswept
  have hrefusal := refusal?_eq_none hvacant.serving hvacant.refusals "CreateEventFilter"
  have hfurnish := Presence.furnish_start (b.note (.reach networkPath)) c mailbox hreached.serving
  simp only [hsweep, hrefusal, hfilter, htoken] at hfurnish
  have hreach : Line.reach b networkPath = (.ok (), b.note (.reach networkPath)) := by
    simp only [Line.reach, Bus.reach, if_pos hb.serving]
  have hstart : (⟨.start, none⟩ : Presence) = Presence.start := rfl
  refine ⟨b₁.furnished mailbox, ?_, hfilter ▸ hvacant.lone_furnished mailbox⟩
  simp only [Presence.enter, hreach, hstart, hfurnish]

theorem connect_of_vacant {h : Hub (Bus ReplyTarget) κ} (hb : h.line.Vacant) {c : Settings}
    (hc : c.check = .ok ()) (ho : c.offline = false) :
    ∃ b, connect h c =
      (.ok (fresh h.mailboxes.length c
        (some ⟨⟨some (pathOfFilter h.line.nextFilter), .empty⟩, some h.line.nextToken⟩)),
        ({ h with line := b }).openMailbox.2) ∧ Lone h.line.nextFilter b := by
  have hbus : (Line.bus h.line).connect c.scope = (.ok (), connected h.line c) := by
    simp [Line.bus, Bus.connect, hb.connectRefusal, connected]
  have hconnected : (connected h.line c).Vacant := { hb with }
  obtain ⟨b, henter, hlone⟩ := enter_of_vacant hconnected c h.mailboxes.length
  have hwith : Line.withBus h.line (connected h.line c) = connected h.line c := rfl
  refine ⟨b, ?_, hlone⟩
  simp only [connect, hc, ho, Bool.false_eq_true, if_false, Line.connect, hbus, hwith, henter]
  rfl

/-- An offline session stands in for a session that connects to a vacant bus. -/
theorem standsIn_fresh (h : Hub σ κ) (h' : Hub (Bus ReplyTarget) κ) (c : Settings) {n : Nat}
    (token : Nat) (hb : Lone n h'.line) :
    StandsIn h.line (fresh h.mailboxes.length { c with offline := true } none) h.openMailbox.2
      (fresh h'.mailboxes.length { c with offline := false }
        (some ⟨⟨some (pathOfFilter n), .empty⟩, some token⟩)) h'.openMailbox.2 := by
  have hopened {σ : Type} (h : Hub σ κ) : h.openMailbox.2.queue h.mailboxes.length = [] := by
    simp [Hub.openMailbox, Hub.queue]
  have hlt {σ : Type} (h : Hub σ κ) : h.mailboxes.length < h.openMailbox.2.mailboxes.length := by
    simp [Hub.openMailbox]
  exact {
    offline := ⟨rfl, rfl⟩
    line := rfl
    alone := fun _ ↦ ⟨rfl, n, _, token, rfl, hb⟩
    closed := rfl
    names := rfl
    router := .start c.window c.panicPolicy
    mailbox_lt := hlt h
    mailbox_lt' := hlt h'
    queue := (hopened h).trans (hopened h').symm
    common := fun m hm ↦ by
      rw [fresh, hopened h] at hm
      cases hm }

variable [Callback κ]

/-- With the same settings, a session that is to be offline and one that connects to a bus with a
service and no filters both come about. Whatever is then asked of both that concerns neither nodes
nor scripts, as long as nobody emits an event or stands in the way of the service: each errand has
the same answer, and leaves both open or both closed, with the same callbacks for the same events
and the same rates. The offline session leaves the bus that it was given as it is. -/
theorem offline_stands_in [Line σ] (h : Hub σ κ) (h' : Hub (Bus ReplyTarget) κ)
    (hb : h'.line.Vacant) (c : Settings) (hc : 0 < c.window) (es : List (Errand κ))
    (hes : ∀ e ∈ es, e.Common) (fuel : Nat) (hfuel : es.length ≤ fuel) :
    ∃ s g s' g' rs t k t' k',
      connect h { c with offline := true } = (.ok s, g) ∧
      connect h' { c with offline := false } = (.ok s', g') ∧
      s.errands fuel g es = some (rs, t, k) ∧ s'.errands fuel g' es = some (rs, t', k') ∧
      g.line = h.line ∧ k.line = h.line := by
  have hcheck (offline : Bool) : ({ c with offline } : Settings).check = .ok () :=
    if_neg (Nat.ne_of_gt hc)
  obtain ⟨b, hconnect, hlone⟩ := connect_of_vacant hb (hcheck false) rfl
  have hs := standsIn_fresh h { h' with line := b } c h'.line.nextToken hlone
  have hconnect' : connect h { c with offline := true } =
      (.ok (fresh h.mailboxes.length { c with offline := true } none), h.openMailbox.2) := by
    simp only [connect, hcheck true]
    rfl
  have hempty : h.openMailbox.2.queue h.mailboxes.length = [] := by
    simp [Hub.openMailbox, Hub.queue]
  have henough : (h.openMailbox.2.queue h.mailboxes.length).length + es.length ≤ fuel := by
    rw [hempty]
    simpa using hfuel
  obtain ⟨rs, t, k, t', k', hrun, hrun', hs'⟩ := hs.errands hes henough
  exact ⟨_, _, _, _, rs, t, k, t', k', hconnect', hconnect, hrun, hrun', rfl, hs'.line⟩

theorem offline_stands_in_until_stopped :
    let es : List (Errand Script) :=
      [.step (.subscribe (.byId ⟨1⟩) ⟨"near", none, [], 0⟩), .post (.send (.byId ⟨1⟩) [5]),
        .post (.subscribe (.byId ⟨2⟩) ⟨"far", none, [], 0⟩), .step .runQueued, .step .sweep,
        .post .stop, .step .runQueued, .step (.send (.byId ⟨1⟩) [6]), .step .rates]
    ∃ s g rs t k t' k',
      connect (.start (Bus.start : Bus ReplyTarget)) { Settings.default with offline := true } =
        (.ok s, g) ∧
      s.errands 9 g es = some (rs, t, k) ∧
      (first : Session Script).errands 9 firstHub es = some (rs, t', k') ∧
      rs.map (·.closed) = [false, false, false, false, false, false, true, true, true] ∧
      k.line = Bus.start := by
  intro es
  have hb : (Bus.start : Bus ReplyTarget).Vacant := ⟨rfl, rfl, rfl, rfl, by decide⟩
  have hes : ∀ e ∈ es, e.Common := by
    simp only [es, List.forall_mem_cons]
    exact ⟨.subscribe .., .post (.send ..), .post (.subscribe ..), .runQueued, .sweep, .post .stop,
      .runQueued, .send .., .rates, List.forall_mem_nil _⟩
  obtain ⟨s, g, s', g', rs, t, k, t', k', hconnect, hconnect', hrun, hrun', -, hline⟩ :=
    offline_stands_in (.start Bus.start : Hub (Bus ReplyTarget) Script) (.start Bus.start) hb
      .default (by decide) es hes 9 (Nat.le_refl 9)
  cases connect_first.symm.trans hconnect'
  have hclosed : ((first : Session Script).errands 9 firstHub es).map
      (fun r ↦ r.1.map (·.closed)) =
        some [false, false, false, false, false, false, true, true, true] := rfl
  rw [hrun', Option.map_some, Option.some.injEq] at hclosed
  exact ⟨s, g, rs, t, k, t', k', hconnect, hrun, hrun', hclosed, hline⟩

end Session

end RobotBus
