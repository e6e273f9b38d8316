import RobotBus.Proofs.Bus.Network

namespace RobotBus

inductive NodeRecord
  | added (node : String) (values : List (String × List Word))
  | written (node name : String) (words : List Word)
deriving DecidableEq

namespace NodeRecord

def valuesOf? (node : String) : NodeRecord → Option (List (String × List Word))
  | added n values => if n = node then some values else none
  | written _ _ _ => none

def wordsFor? (node name : String) : NodeRecord → Option (List Word)
  | added _ _ => none
  | written n v words => if n = node ∧ v = name then some words else none

/-- The words that a variable has had from the beginning: what is listed for it, last, where the
first node of the name was added. -/
def initial? (es : List NodeRecord) (node name : String) : Option (List Word) :=
  (es.findSome? (valuesOf? node)).bind
    (fun values ↦ (values.reverse.find? (fun e ↦ e.1 = name)).map Prod.snd)

def latest? (es : List NodeRecord) (node name : String) : Option (List Word) :=
  es.reverse.findSome? (wordsFor? node name)

def words? (es : List NodeRecord) (node name : String) : Option (List Word) :=
  (latest? es node name).or (initial? es node name)

/-- What is recorded of a call, given the reply to it. -/
def ofCall (path interface method : String) (args : List Value) (r : Reply) : List NodeRecord :=
  match r, NetworkOrder.ofCall method args with
  | .ok _, .ok (.write node name words) =>
    if path = networkPath ∧ interface = networkInterface then [.written node name words] else []
  | _, _ => []

variable (es : List NodeRecord) (node name : String)

theorem ofCall_of_error (path interface method : String) (args : List Value) (f : Fault) :
    ofCall path interface method args (.error f) = [] := rfl

theorem latest?_append_added (node' : String) (values : List (String × List Word)) :
    latest? (es ++ [.added node' values]) node name = latest? es node name := by
  simp [latest?, List.findSome?_cons, wordsFor?]

theorem latest?_append_written (node' name' : String) (ws : List Word) :
    latest? (es ++ [.written node' name' ws]) node name =
      if node' = node ∧ name' = name then some ws else latest? es node name := by
  simp only [latest?, List.reverse_append, List.reverse_singleton, List.singleton_append,
    List.findSome?_cons, wordsFor?]
  split <;> simp_all

theorem initial?_append_written (node' name' : String) (ws : List Word) :
    initial? (es ++ [.written node' name' ws]) node name = initial? es node name := by
  simp [initial?, List.findSome?_append, valuesOf?]

variable {es node name}

theorem initial?_of_unknown (hno : ∀ values, .added node values ∉ es) :
    es.findSome? (valuesOf? node) = none := by
  apply List.findSome?_eq_none_iff.mpr
  intro e he
  cases e with
  | written => rfl
  | added n values =>
    apply if_neg
    rintro rfl
    exact hno values he

theorem exists_of_known {values : List (String × List Word)} (hmem : .added node values ∈ es) :
    ∃ first, es.findSome? (valuesOf? node) = some first := by
  apply Option.ne_none_iff_exists'.mp
  intro hnone
  have he := List.findSome?_eq_none_iff.mp hnone _ hmem
  simp [valuesOf?] at he

theorem latest?_eq_none_of_unwritten (hno : ∀ name ws, .written node name ws ∉ es) :
    latest? es node name = none := by
  apply List.findSome?_eq_none_iff.mpr
  intro e he
  cases e with
  | added => rfl
  | written n v words =>
    apply if_neg
    rintro ⟨rfl, -⟩
    exact hno v words (List.mem_reverse.mp he)

end NodeRecord

namespace Bus

open NodeRecord

variable {ρ : Type} {b b' : Bus ρ} {es : List NodeRecord} {node name : String} {ws : List Word}

theorem exists_writeWords_iff (ns : List Node) (node name : String) (ws : List Word) :
    (∃ ns', writeWords node name ws ns = some ns') ↔ ∃ n ∈ ns, n.name = node := by
  induction ns with
  | nil => simp [writeWords]
  | cons n ns ih =>
    by_cases hn : n.name = node
    · simp [writeWords, hn]
    · simp [writeWords, hn, ih]

theorem names_writeWords {ns ns' : List Node} (h : writeWords node name ws ns = some ns') :
    ns'.map Node.name = ns.map Node.name := by
  obtain ⟨before, n, after, rfl, -, -, rfl⟩ := writeWords_eq_some_iff.mp h
  simp only [List.map_append, List.map_cons]

theorem find?_writeWords {ns ns' : List Node} (h : writeWords node name ws ns = some ns')
    (node' : String) :
    ns'.find? (fun n ↦ n.name = node') =
      (ns.find? (fun n ↦ n.name = node')).map
        (fun n ↦ if node = node' then { n with values := n.values.insert name ws } else n) := by
  obtain ⟨before, n, after, rfl, rfl, hfirst, rfl⟩ := writeWords_eq_some_iff.mp h
  rw [List.find?_append, List.find?_append, List.find?_cons, List.find?_cons]
  by_cases hnode : n.name = node'
  · subst hnode
    have hbefore : before.find? (fun m ↦ m.name = n.name) = none :=
      List.find?_eq_none.mpr (by simpa using hfirst)
    simp [hbefore]
  · simp [hnode]

/-- The nodes of the bus are what the record says. -/
structure Recorded (b : Bus ρ) (es : List NodeRecord) : Prop where
  known : ∀ node, (∃ n ∈ b.nodes, n.name = node) ↔ ∃ values, .added node values ∈ es
  writable : ∀ node name ws, .written node name ws ∈ es → ∃ n ∈ b.nodes, n.name = node
  words : ∀ node name, b.wordsOf node name = words? es node name

theorem recorded_start : (start : Bus ρ).Recorded [] :=
  ⟨by simp [start], by simp, fun _ _ ↦ rfl⟩

theorem Recorded.congr (h : b.Recorded es) (hn : b'.nodes = b.nodes) : b'.Recorded es where
  known := by
    rw [hn]
    exact h.known
  writable := by
    rw [hn]
    exact h.writable
  words node name := by
    rw [← h.words]
    simp only [wordsOf, node?, hn]

theorem Recorded.same (h : b.Recorded es) (hn : b'.nodes = b.nodes) : b'.Recorded (es ++ []) := by
  rw [List.append_nil]
  exact h.congr hn

theorem Recorded.add (h : b.Recorded es) (node : String) (values : List (String × List Word)) :
    (b.addNode node values).Recorded (es ++ [.added node values]) where
  known node' := by
    simp only [addNode, List.mem_append, List.mem_singleton, or_and_right, exists_or,
      exists_eq_left, NodeRecord.added.injEq, ← h.known]
    apply or_congr_right
    constructor
    · rintro rfl
      exact ⟨values, rfl, rfl⟩
    · rintro ⟨_, rfl, -⟩
      rfl
  writable node' name ws hmem := by
    have hold : .written node' name ws ∈ es := by simpa using hmem
    obtain ⟨n, hn, hname⟩ := h.writable node' name ws hold
    exact ⟨n, List.mem_append_left _ hn, hname⟩
  words node' name := by
    rw [words?, latest?_append_added, initial?, List.findSome?_append]
    have hold := h.words node' name
    simp only [wordsOf, node?, addNode, List.find?_append] at hold ⊢
    by_cases hk : ∃ n ∈ b.nodes, n.name = node'
    · -- The name is taken, so that the new node is never meant.
      obtain ⟨n, hn⟩ : ∃ n, b.nodes.find? (fun n ↦ n.name = node') = some n := by
        apply Option.ne_none_iff_exists'.mp
        simpa using hk
      obtain ⟨first, hfirst⟩ := exists_of_known ((h.known node').mp hk).choose_spec
      rw [hn] at hold ⊢
      simpa [words?, initial?, hfirst] using hold
    · have hunknown : ∀ values, .added node' values ∉ es :=
        fun values hmem ↦ hk ((h.known node').mpr ⟨values, hmem⟩)
      have hunwritten : ∀ name ws, .written node' name ws ∉ es :=
        fun name ws hmem ↦ hk (h.writable node' name ws hmem)
      have hnone : b.nodes.find? (fun n ↦ n.name = node') = none := by simpa using hk
      rw [hnone, latest?_eq_none_of_unwritten hunwritten, initial?_of_unknown hunknown]
      by_cases hnode : node = node'
      · simp [hnode, valuesOf?, Directory.get?_ofList]
      · simp [hnode, valuesOf?]

theorem Recorded.write (h : b.Recorded es) (hn : writeWords node name ws b.nodes = some b'.nodes) :
    b'.Recorded (es ++ [.written node name ws]) where
  known node' := by
    have hnames := names_writeWords hn
    have hiff : (∃ n ∈ b'.nodes, n.name = node') ↔ ∃ n ∈ b.nodes, n.name = node' := by
      rw [← List.mem_map, hnames, List.mem_map]
    rw [hiff, h.known]
    simp
  writable node' name' ws' hmem := by
    rw [← List.mem_map, names_writeWords hn, List.mem_map]
    rcases List.mem_append.mp hmem with hold | hnew
    · exact h.writable node' name' ws' hold
    · cases List.mem_singleton.mp hnew
      exact (exists_writeWords_iff _ _ _ _).mp ⟨_, hn⟩
  words node' name' := by
    have hold := h.words node' name'
    have hfind := find?_writeWords hn node'
    rw [words?, latest?_append_written, initial?_append_written]
    simp only [wordsOf, node?] at hold ⊢
    rw [hfind]
    by_cases hnode : node = node'
    · subst hnode
      obtain ⟨n, hmem, hname⟩ := (exists_writeWords_iff _ _ _ _).mp ⟨_, hn⟩
      obtain ⟨first, hfirst⟩ : ∃ n, b.nodes.find? (fun n ↦ n.name = node) = some n := by
        apply Option.ne_none_iff_exists'.mp
        simpa using ⟨n, hmem, hname⟩
      rw [hfirst] at hold ⊢
      by_cases hv : name = name'
      · simp [hv]
      · simpa [hv, words?] using hold
    · simpa [hnode, words?] using hold

/-- A call leaves the nodes as they are, or it is a write that is accepted. -/
theorem Outcome.nodes {path interface method : String} {args : List Value} {r : Reply}
    (h : Outcome b path interface method args r b') :
    (b'.nodes = b.nodes ∧ ofCall path interface method args r = []) ∨
      ∃ node name ws, ofCall path interface method args r = [.written node name ws] ∧
        writeWords node name ws b.nodes = some b'.nodes ∧ method = "SetVariable" := by
  cases h with
  | refused => exact .inl ⟨rfl, ofCall_of_error ..⟩
  | granted h =>
    cases h with
    | listed | read | made | sent | loaded | allowed | freed => exact .inl ⟨rfl, rfl⟩
    | @wrote name ws more before after n hnodes hfirst =>
      refine .inr ⟨n.name, name, ws, rfl, ?_, rfl⟩
      exact writeWords_eq_some_iff.mpr ⟨before, n, after, hnodes, rfl, hfirst, rfl⟩

theorem Recorded.served (h : b.Recorded es) (path interface method : String)
    (args : List Value) :
    (b.serve path interface method args).2.Recorded
      (es ++ ofCall path interface method args (b.serve path interface method args).1) := by
  rcases (b.serve_outcome path interface method args).nodes with
    ⟨hn, hr⟩ | ⟨node, name, ws, hr, hn, -⟩
  · rw [hr, List.append_nil]
    exact h.congr hn
  · rw [hr]
    exact h.write hn

theorem nodes_call_of_ne (b : Bus ρ) (path interface : String) {method : String}
    (args : List Value) (hm : method ≠ "SetVariable") :
    (b.call path interface method args).2.nodes = b.nodes := by
  rcases ((b.note (.call path method)).serve_outcome path interface method args).nodes with
    ⟨hn, -⟩ | ⟨_, _, _, -, -, hset⟩
  · exact hn
  · exact absurd hset hm

theorem nodes_submit_of_ne (b : Bus ρ) (path interface : String) {method : String}
    (args : List Value) (target : ρ) (hm : method ≠ "SetVariable") :
    (b.submit path interface method args target).2.nodes = b.nodes := by
  rcases ((b.note (.submit path method)).serve_outcome path interface method args).nodes with
    ⟨hn, -⟩ | ⟨_, _, _, -, -, hset⟩
  · simp only [submit]
    split <;> exact hn
  · exact absurd hset hm

end Bus

end RobotBus
