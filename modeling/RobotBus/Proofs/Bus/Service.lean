import RobotBus.Proofs.Bus.Deed

namespace RobotBus.Bus

variable {ρ : Type}

def withRecords (b : Bus ρ) (held : List (ρ × Reply)) (journal : List JournalEntry) : Bus ρ :=
  { b with held := held, journal := journal }

/-- The bus without its journal and without the replies that are held back. -/
def service (b : Bus ρ) : Bus ρ := { b with held := [], journal := [] }

@[simp] theorem service_note (b : Bus ρ) (e : JournalEntry) : (b.note e).service = b.service := rfl

variable (b : Bus ρ) (held : List (ρ × Reply)) (journal : List JournalEntry)

theorem serveNetwork_withRecords (o : NetworkOrder) :
    (b.withRecords held journal).serveNetwork o =
      ((b.serveNetwork o).1, (b.serveNetwork o).2.withRecords held journal) := by
  cases o with
  | nodes | addFilter | send | loadScript => rfl
  | read node name =>
    have hn : (b.withRecords held journal).node? node = b.node? node := rfl
    simp only [serveNetwork, hn]
    cases b.node? node with
    | none => rfl
    | some n =>
      dsimp only
      cases n.values.get? name <;> rfl
  | write node name ws =>
    have hn : (b.withRecords held journal).nodes = b.nodes := rfl
    simp only [serveNetwork, hn]
    cases writeWords node name ws b.nodes <;> rfl

theorem serveFilter_withRecords (n : Nat) (o : FilterOrder) :
    (b.withRecords held journal).serveFilter n o =
      ((b.serveFilter n o).1, (b.serveFilter n o).2.withRecords held journal) := by
  cases o with
  | allow id =>
    have hf : (b.withRecords held journal).filters = b.filters := rfl
    simp only [serveFilter, hf]
    cases b.filters.get? n <;> rfl
  | free => rfl

/-- A call comes to the same whatever has been seen to happen and is held back, and leaves that as
it is. -/
theorem serve_withRecords (path interface method : String) (args : List Value) :
    (b.withRecords held journal).serve path interface method args =
      ((b.serve path interface method args).1,
        (b.serve path interface method args).2.withRecords held journal) := by
  have hr : (b.withRecords held journal).refusal? method = b.refusal? method := rfl
  have hl : (b.withRecords held journal).liveFilter? path = b.liveFilter? path := rfl
  simp only [serve, hr, hl]
  cases b.refusal? method with
  | some f => rfl
  | none =>
    dsimp only
    split
    · split
      · split
        · exact b.serveNetwork_withRecords held journal _
        · rfl
      · rfl
    · split
      · split
        · rfl
        · split
          · exact b.serveFilter_withRecords held journal _ _
          · rfl
      · rfl

theorem serve_service (path interface method : String) (args : List Value) :
    b.service.serve path interface method args =
      ((b.serve path interface method args).1, (b.serve path interface method args).2.service) :=
  b.serve_withRecords [] [] path interface method args

theorem serve_note (e : JournalEntry) (path interface method : String) (args : List Value) :
    (b.note e).serve path interface method args =
      ((b.serve path interface method args).1,
        (b.serve path interface method args).2.note e) := by
  have hserved := b.serve_served path interface method args
  have hrecords := b.serve_withRecords b.held (b.journal ++ [e]) path interface method args
  generalize b.serve path interface method args = s at hserved hrecords ⊢
  have hnote : s.2.withRecords b.held (b.journal ++ [e]) = s.2.note e := by
    rw [withRecords, note, hserved.journal, ← hserved.held.1]
  rw [← hnote]
  exact hrecords

theorem reply_note (e : JournalEntry) (path interface method : String) (args : List Value) :
    ((b.note e).serve path interface method args).1 = (b.serve path interface method args).1 := by
  rw [serve_note]

theorem service_call (b : Bus ρ) (path interface method : String) (args : List Value) :
    (b.call path interface method args).2.service =
      (b.service.serve path interface method args).2 := by
  have h := serve_service (b.note (.call path method)) path interface method args
  rw [service_note] at h
  exact (congrArg Prod.snd h).symm

theorem service_submit (b : Bus ρ) (path interface method : String) (args : List Value)
    (target : ρ) :
    (b.submit path interface method args target).2.service =
      (b.service.serve path interface method args).2 := by
  have h := serve_service (b.note (.submit path method)) path interface method args
  rw [service_note] at h
  have hs := (congrArg Prod.snd h).symm
  simp only [submit]
  split <;> exact hs

theorem service_after (b : Bus ρ) (d : Deed ρ) :
    (b.after d).service = (b.service.after d).service := by
  have hidem : b.service.service = b.service := rfl
  cases d with
  | call path interface method args =>
    simp only [after, service_call, hidem]
  | submit path interface method args target =>
    simp only [after, service_submit, hidem]
  | connect scope =>
    have hr : b.service.connectRefusal = b.connectRefusal := rfl
    simp only [after, connect, hr]
    cases b.connectRefusal <;> rfl
  | disconnect | reach | watch | unwatch | listChildren | addFilter | addNode | release
  | setServing | refuseConnections | refuseMethod | clearRefusals | setHolding | clearJournal => rfl

theorem service_after_congr {b c : Bus ρ} (h : b.service = c.service) (d : Deed ρ) :
    (b.after d).service = (c.after d).service := by
  rw [service_after b, service_after c, h]

theorem reply_call (b : Bus ρ) (path interface method : String) (args : List Value) :
    (b.call path interface method args).1 = (b.service.serve path interface method args).1 := by
  rw [serve_service]
  exact reply_note b _ path interface method args

theorem call_eq (b : Bus ρ) (path interface method : String) (args : List Value) :
    b.call path interface method args =
      ((b.serve path interface method args).1,
        (b.serve path interface method args).2.note (.call path method)) :=
  b.serve_note (.call path method) path interface method args

theorem submit_eq (b : Bus ρ) (path interface method : String) (args : List Value) (target : ρ) :
    b.submit path interface method args target =
      if b.holding then
        (none,
          { (b.serve path interface method args).2.note (.submit path method) with
            held := b.held ++ [(target, (b.serve path interface method args).1)] })
      else
        (some (b.serve path interface method args).1,
          (b.serve path interface method args).2.note (.submit path method)) := by
  have hserved := (b.serve_served path interface method args).held
  have hheld : ((b.serve path interface method args).2.note (.submit path method)).held = b.held :=
    hserved.1
  have hholding :
      ((b.serve path interface method args).2.note (.submit path method)).holding = b.holding :=
    hserved.2
  simp only [submit, serve_note, hheld, hholding]

theorem exists_submit (b : Bus ρ) (path interface method : String) (args : List Value)
    (target : ρ) :
    ∃ b' : Bus ρ, b'.held = b.held ∧ b.submit path interface method args target =
      if b.holding then
        (none, { b' with held := b.held ++ [(target, (b.call path interface method args).1)] })
      else (some (b.call path interface method args).1, b') := by
  have hheld := (b.serve_served path interface method args).held.1
  exact ⟨(b.serve path interface method args).2.note (.submit path method), hheld, by
    rw [submit_eq, call_eq]⟩

end RobotBus.Bus
