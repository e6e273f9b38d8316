import Mathlib.Data.List.Basic
import RobotBus.Bus.Traffic
import RobotBus.Proofs.Directory

namespace RobotBus

theorem Value.text?_eq_some_iff {v : Value} {s : String} : v.text? = some s ↔ v = .text s := by
  cases v <;> simp [text?]

theorem Value.uint16?_eq_some_iff {v : Value} {n : UInt16} :
    v.uint16? = some n ↔ v = .uint16 n := by
  cases v <;> simp [uint16?]

theorem Value.words?_eq_some_iff {v : Value} {ws : List Word} :
    v.words? = some ws ↔ v = .words ws := by
  cases v <;> simp [words?]

variable {args : List Value}

theorem NetworkOrder.names?_eq_some_iff {node name : String} :
    names? args = some (node, name) ↔ ∃ more, args = .text node :: .text name :: more := by
  unfold names?
  split
  · simp
  · next hno =>
    refine iff_of_false nofun ?_
    rintro ⟨more, rfl⟩
    exact hno node name more rfl

theorem Value.exists_of_first {α : Type} {f : Value → Option α} {a : α}
    (h : args[0]?.bind f = some a) : ∃ v more, args = v :: more ∧ f v = some a := by
  cases args with
  | nil => cases h
  | cons v more => exact ⟨v, more, rfl, h⟩

namespace Bus

variable {ρ : Type} {b b' : Bus ρ} {path interface method : String} {vs : List Value}

theorem writeWords_eq_some_iff {node name : String} {ws : List Word} {ns ns' : List Node} :
    writeWords node name ws ns = some ns' ↔
      ∃ before n after, ns = before ++ n :: after ∧ n.name = node ∧ (∀ m ∈ before, m.name ≠ node) ∧
        ns' = before ++ { n with values := n.values.insert name ws } :: after := by
  induction ns generalizing ns' with
  | nil => simp [writeWords]
  | cons n ns ih =>
    simp only [writeWords]
    split
    · next hn =>
      constructor
      · rintro ⟨⟩
        exact ⟨[], n, ns, rfl, hn, nofun, rfl⟩
      · rintro ⟨before, n', after, hns, hn', hbefore, rfl⟩
        cases before with
        | nil =>
          cases hns
          rfl
        | cons m before =>
          cases hns
          exact absurd hn (hbefore n List.mem_cons_self)
    · next hn =>
      simp only [Option.map_eq_some_iff, ih]
      constructor
      · rintro ⟨_, ⟨before, n', after, rfl, hn', hbefore, rfl⟩, rfl⟩
        exact ⟨n :: before, n', after, rfl, hn', List.forall_mem_cons.mpr ⟨hn, hbefore⟩, rfl⟩
      · rintro ⟨before, n', after, hns, hn', hbefore, rfl⟩
        cases before with
        | nil =>
          cases hns
          exact absurd hn' hn
        | cons m before =>
          cases hns
          exact ⟨_, ⟨before, n', after, rfl, hn', (List.forall_mem_cons.mp hbefore).2, rfl⟩, rfl⟩

/-- The calls that are granted, one constructor for each method: where the method is called, what it
needs in front of the arguments and on the bus, the values in the reply, and the bus with what has
changed. Arguments behind those that are needed are passed over. -/
inductive Granted (b : Bus ρ) : (path interface method : String) → (args : List Value) →
    (reply : List Value) → Bus ρ → Prop
  | listed (args : List Value) :
      Granted b networkPath networkInterface "GetNodesList" args
        [.texts (b.nodes.map Node.name)] b
  | read (node name : String) (more : List Value) {ws : List Word}
      (hws : b.wordsOf node name = some ws) :
      Granted b networkPath networkInterface "GetVariable" (.text node :: .text name :: more)
        [.words ws] b
  | wrote (name : String) (ws : List Word) (more : List Value) {before after : List Node} {n : Node}
      (hnodes : b.nodes = before ++ n :: after) (hfirst : ∀ m ∈ before, m.name ≠ n.name) :
      Granted b networkPath networkInterface "SetVariable"
        (.text n.name :: .text name :: .words ws :: more) []
        { b with nodes := before ++ { n with values := n.values.insert name ws } :: after }
  | made (args : List Value) :
      Granted b networkPath networkInterface "CreateEventFilter" args
        [.path (pathOfFilter b.nextFilter)]
        { b with
          filters := b.filters.insert b.nextFilter .empty
          nextFilter := b.nextFilter + 1
          hadFilter := true }
  | sent (id : EventId) (ws : List Word) (more : List Value) :
      Granted b networkPath networkInterface "SendEvent" (.uint16 id.val :: .words ws :: more) []
        { b with sent := b.sent ++ [(id, ws)] }
  | loaded (file : String) (more : List Value) :
      Granted b networkPath networkInterface "LoadScripts" (.text file :: more) []
        { b with scripts := b.scripts ++ [file] }
  | allowed (id : EventId) (more : List Value) {path : String} {n : Nat} {ids : EventSet}
      (hn : numberInPath? path = some n) (hids : b.filters.get? n = some ids) :
      Granted b path filterInterface "ListenEvent" (.uint16 id.val :: more) []
        { b with filters := b.filters.insert n (ids.insert id ()) }
  | freed (args : List Value) {path : String} {n : Nat} {ids : EventSet}
      (hn : numberInPath? path = some n) (hids : b.filters.get? n = some ids) :
      Granted b path filterInterface "Free" args [] { b with filters := b.filters.erase n }

inductive Outcome (b : Bus ρ) (path interface method : String) (args : List Value) :
    Reply → Bus ρ → Prop
  | refused (f : Fault) : Outcome b path interface method args (.error f) b
  | granted {vs : List Value} {b' : Bus ρ} (h : Granted b path interface method args vs b') :
      Outcome b path interface method args (.ok vs) b'

theorem liveFilter?_eq_some_iff (b : Bus ρ) (path : String) (n : Nat) :
    b.liveFilter? path = some n ↔
      numberInPath? path = some n ∧ ∃ ids, b.filters.get? n = some ids := by
  simp [liveFilter?, Option.filter_eq_some_iff, Directory.contains_eq_true_iff]

theorem outcome_network (b : Bus ρ) {o : NetworkOrder}
    (ho : NetworkOrder.ofCall method args = .ok o) :
    Outcome b networkPath networkInterface method args (b.serveNetwork o).1
      (b.serveNetwork o).2 := by
  -- one case for each method, as in the reading of the order
  unfold NetworkOrder.ofCall at ho
  split at ho
  · cases ho
    exact .granted (.listed args)
  · split at ho
    · next node name hnames =>
      cases ho
      obtain ⟨more, rfl⟩ := NetworkOrder.names?_eq_some_iff.mp hnames
      simp only [serveNetwork]
      split
      · exact .refused _
      · next n hn =>
        split
        · next ws hws => exact .granted (.read node name more (by simp [wordsOf, hn, hws]))
        · exact .refused _
    · cases ho
  · split at ho
    · next node name hnames =>
      obtain ⟨more, rfl⟩ := NetworkOrder.names?_eq_some_iff.mp hnames
      split at ho
      · next ws hws =>
        cases ho
        have hfirst : more[0]?.bind Value.words? = some ws := hws
        obtain ⟨v, more, rfl, hv⟩ := Value.exists_of_first hfirst
        obtain rfl := Value.words?_eq_some_iff.mp hv
        simp only [serveNetwork]
        split
        · next ns hns =>
          obtain ⟨before, n, after, hnodes, rfl, hfirst, rfl⟩ := writeWords_eq_some_iff.mp hns
          exact .granted (.wrote name ws more hnodes hfirst)
        · exact .refused _
      · cases ho
    · cases ho
  · cases ho
    exact .granted (.made args)
  · split at ho
    · next id hid =>
      obtain ⟨v, more, rfl, hv⟩ := Value.exists_of_first hid
      obtain rfl := Value.uint16?_eq_some_iff.mp hv
      split at ho
      · next ws hws =>
        cases ho
        have hfirst : more[0]?.bind Value.words? = some ws := hws
        obtain ⟨w, more, rfl, hw⟩ := Value.exists_of_first hfirst
        obtain rfl := Value.words?_eq_some_iff.mp hw
        exact .granted (.sent ⟨id⟩ ws more)
      · cases ho
    · cases ho
  · split at ho
    · next file hfile =>
      cases ho
      obtain ⟨v, more, rfl, hv⟩ := Value.exists_of_first hfile
      obtain rfl := Value.text?_eq_some_iff.mp hv
      exact .granted (.loaded file more)
    · cases ho
  · cases ho

theorem outcome_filter (b : Bus ρ) {n : Nat} {o : FilterOrder} (hn : b.liveFilter? path = some n)
    (ho : FilterOrder.ofCall method args = .ok o) :
    Outcome b path filterInterface method args (b.serveFilter n o).1 (b.serveFilter n o).2 := by
  obtain ⟨hnumber, ids, hids⟩ := (liveFilter?_eq_some_iff b path n).mp hn
  unfold FilterOrder.ofCall at ho
  split at ho
  · split at ho
    · next id hid =>
      cases ho
      obtain ⟨v, more, rfl, hv⟩ := Value.exists_of_first hid
      obtain rfl := Value.uint16?_eq_some_iff.mp hv
      simp only [serveFilter, hids]
      exact .granted (.allowed ⟨id⟩ more hnumber hids)
    · cases ho
  · cases ho
    exact .granted (.freed args hnumber hids)
  · cases ho

theorem serve_outcome (b : Bus ρ) (path interface method : String) (args : List Value) :
    Outcome b path interface method args (b.serve path interface method args).1
      (b.serve path interface method args).2 := by
  unfold serve
  split
  · exact .refused _
  · split
    · next hi =>
      split
      · next hp =>
        split
        · next o ho =>
          subst hi hp
          exact outcome_network b ho
        · exact .refused _
      · exact .refused _
    · split
      · next hi =>
        split
        · exact .refused _
        · next n hn =>
          split
          · next o ho =>
            subst hi
            exact outcome_filter b hn ho
          · exact .refused _
      · exact .refused _

theorem serve_of_error {f : Fault} (h : (b.serve path interface method args).1 = .error f) :
    (b.serve path interface method args).2 = b := by
  have houtcome := b.serve_outcome path interface method args
  generalize b.serve path interface method args = s at h houtcome ⊢
  obtain ⟨r, b'⟩ := s
  cases h
  cases houtcome with
  | refused => rfl

theorem serve_network {o : NetworkOrder} (hno : b.refusal? method = none)
    (ho : NetworkOrder.ofCall method args = .ok o) :
    b.serve networkPath networkInterface method args = b.serveNetwork o := by
  simp only [serve, hno, if_true, ho]

theorem serve_filter {n : Nat} {o : FilterOrder} (hno : b.refusal? method = none)
    (hn : b.liveFilter? path = some n) (ho : FilterOrder.ofCall method args = .ok o) :
    b.serve path filterInterface method args = b.serveFilter n o := by
  have hi : filterInterface ≠ networkInterface := by decide
  simp only [serve, hno, if_neg hi, if_true, hn, ho]

/-- A call with everything that it needs is granted, unless the service is away or the method is
refused. -/
theorem Granted.serve_eq (h : Granted b path interface method args vs b')
    (hno : b.refusal? method = none) : b.serve path interface method args = (.ok vs, b') := by
  cases h with
  | listed => exact serve_network hno (o := .nodes) rfl
  | made => exact serve_network hno (o := .addFilter) rfl
  | sent id ws => exact serve_network hno (o := .send id ws) rfl
  | loaded file => exact serve_network hno (o := .loadScript file) rfl
  | read node name more hws =>
    obtain ⟨n, hn, hws⟩ := Option.bind_eq_some_iff.mp hws
    rw [serve_network hno (o := .read node name) rfl]
    simp only [serveNetwork, hn, hws]
  | @wrote name ws more before after n hnodes hfirst =>
    have hns : writeWords n.name name ws b.nodes =
        some (before ++ { n with values := n.values.insert name ws } :: after) :=
      writeWords_eq_some_iff.mpr ⟨before, n, after, hnodes, rfl, hfirst, rfl⟩
    rw [serve_network hno (o := .write n.name name ws) rfl]
    simp only [serveNetwork, hns]
  | @allowed id more path n ids hn hids =>
    have hlive := (liveFilter?_eq_some_iff b path n).mpr ⟨hn, ids, hids⟩
    rw [serve_filter hno hlive (o := .allow id) rfl]
    simp only [serveFilter, hids]
  | @freed args path n ids hn hids =>
    have hlive := (liveFilter?_eq_some_iff b path n).mpr ⟨hn, ids, hids⟩
    exact serve_filter hno hlive (o := .free) rfl

end Bus

end RobotBus
