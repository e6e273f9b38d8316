import RobotBus.Proofs.Bus.Service

namespace RobotBus.Bus

variable {ρ : Type} {b : Bus ρ} (path interface method : String) (args : List Value)

theorem serve_eq_ok_iff (vs : List Value) (b' : Bus ρ) :
    b.serve path interface method args = (.ok vs, b') ↔
      b.refusal? method = none ∧ Granted b path interface method args vs b' := by
  constructor
  · intro h
    have houtcome := b.serve_outcome path interface method args
    rw [h] at houtcome
    cases houtcome with
    | granted hg =>
      refine ⟨?_, hg⟩
      cases hno : b.refusal? method with
      | none => rfl
      | some f =>
        simp only [serve, hno] at h
        cases h
  · rintro ⟨hno, hg⟩
    exact hg.serve_eq hno

/-- On every bus that can come about, each call comes to a reply and to what the bus is then, apart
from the journal; that is the same whether or not the caller waits, and the journal has one entry
more. If the call is refused, nothing has changed. It is granted exactly if the service is there,
does not refuse the method and finds what the method needs, and then one thing has changed; a filter
that is made takes a number that is not in use. -/
theorem refusal_has_no_effect (hb : b.Reachable) :
    ∃ r b',
      (∀ f, r = .error f → b' = b) ∧
      (∀ vs c, r = .ok vs ∧ b' = c ↔
        b.refusal? method = none ∧ Granted b path interface method args vs c) ∧
      b.filters.get? b.nextFilter = none ∧
      b.call path interface method args = (r, b'.note (.call path method)) ∧
      ∀ target, b.submit path interface method args target =
        if b.holding then
          (none, { b'.note (.submit path method) with held := b.held ++ [(target, r)] })
        else (some r, b'.note (.submit path method)) := by
  refine ⟨(b.serve path interface method args).1, (b.serve path interface method args).2,
    fun f ↦ serve_of_error, fun vs c ↦ ?_, ?_, ?_, ?_⟩
  · rw [← serve_eq_ok_iff, Prod.ext_iff]
  · exact hb.sound.get?_filters_eq_none (Nat.le_refl _)
  · exact call_eq b path interface method args
  · exact submit_eq b path interface method args

theorem refusal_has_no_effect_of_missing_words :
    let b : Bus Unit := start.addNode "n" [("v", [1])]
    b.Reachable ∧
      b.call networkPath networkInterface "SetVariable" [.text "n", .text "v"] =
        (.error (.invalidArguments "expected int16 array"),
          b.note (.call networkPath "SetVariable")) := by
  intro b
  have hb : b.Reachable := .after (.addNode "n" [("v", [1])]) .refl
  obtain ⟨r, b', hrefused, -, -, hcall, -⟩ :=
    refusal_has_no_effect networkPath networkInterface "SetVariable" [.text "n", .text "v"] hb
  have hr : r = .error (.invalidArguments "expected int16 array") :=
    (congrArg Prod.fst hcall).symm
  exact ⟨hb, by rw [hcall, hrefused _ hr, hr]⟩

end RobotBus.Bus
