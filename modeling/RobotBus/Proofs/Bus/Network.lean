import RobotBus.Proofs.Bus.Deed

namespace RobotBus.Bus

variable {ρ : Type}

theorem call_nodes (b : Bus ρ) :
    b.call networkPath networkInterface "GetNodesList" [] =
      (match b.refusal? "GetNodesList" with
        | some f => .error f
        | none => .ok [.texts (b.nodes.map Node.name)],
        b.note (.call networkPath "GetNodesList")) := by
  have ho : NetworkOrder.ofCall "GetNodesList" [] = .ok .nodes := rfl
  have hr : (b.note (.call networkPath "GetNodesList")).refusal? "GetNodesList" =
    b.refusal? "GetNodesList" := rfl
  simp only [call, serve, if_true, ho, hr]
  cases b.refusal? "GetNodesList" <;> rfl

/-- What a request to read is answered with, if it gets as far as the network object. -/
def readReply (b : Bus ρ) (node name : String) : Reply := (b.serveNetwork (.read node name)).1

theorem call_read (b : Bus ρ) (node name : String) :
    b.call networkPath networkInterface "GetVariable" [.text node, .text name] =
      (match b.refusal? "GetVariable" with
        | some f => .error f
        | none => b.readReply node name,
        b.note (.call networkPath "GetVariable")) := by
  have ho : NetworkOrder.ofCall "GetVariable" [.text node, .text name] = .ok (.read node name) :=
    rfl
  have hr : (b.note (.call networkPath "GetVariable")).refusal? "GetVariable" =
    b.refusal? "GetVariable" := rfl
  simp only [call, serve, if_true, ho, hr]
  cases b.refusal? "GetVariable" with
  | some f => rfl
  | none =>
    have hn : (b.note (.call networkPath "GetVariable")).node? node = b.node? node := rfl
    simp only [readReply, serveNetwork, hn]
    cases b.node? node with
    | none => rfl
    | some n =>
      dsimp only
      cases n.values.get? name <;> rfl

theorem readReply_eq_ok_iff (b : Bus ρ) (node name : String) (vs : List Value) :
    b.readReply node name = .ok vs ↔ ∃ ws, b.wordsOf node name = some ws ∧ vs = [.words ws] := by
  simp only [readReply, serveNetwork, wordsOf]
  cases b.node? node with
  | none => simp
  | some n =>
    dsimp only [Option.bind_some]
    cases n.values.get? name with
    | none => simp
    | some ws => simp [eq_comm]

theorem call_write (b : Bus ρ) (node name : String) (ws : List Word) :
    b.call networkPath networkInterface "SetVariable" [.text node, .text name, .words ws] =
      match b.refusal? "SetVariable" with
      | some f => (.error f, b.note (.call networkPath "SetVariable"))
      | none =>
        match writeWords node name ws b.nodes with
        | some ns => (.ok [], { b.note (.call networkPath "SetVariable") with nodes := ns })
        | none => (.error (unknownNode node), b.note (.call networkPath "SetVariable")) := by
  have ho : NetworkOrder.ofCall "SetVariable" [.text node, .text name, .words ws] =
    .ok (.write node name ws) := rfl
  have hr : (b.note (.call networkPath "SetVariable")).refusal? "SetVariable" =
    b.refusal? "SetVariable" := rfl
  simp only [call, serve, if_true, ho, hr]
  cases b.refusal? "SetVariable" <;> rfl

end RobotBus.Bus
