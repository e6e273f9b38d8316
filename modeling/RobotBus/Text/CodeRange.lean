namespace RobotBus.Text

structure CodeRange where
  first : Nat
  last : Nat
deriving DecidableEq, Repr

def covers (ranges : List CodeRange) (code : Nat) : Bool :=
  ranges.any (fun r ↦ r.first ≤ code && code ≤ r.last)

theorem covers_eq_true_iff {ranges : List CodeRange} {code : Nat} :
    covers ranges code = true ↔ ∃ r ∈ ranges, r.first ≤ code ∧ code ≤ r.last := by
  simp [covers]

/-- No range is empty, and there is a gap between any two neighbours. -/
def separated : List CodeRange → Bool
  | [] => true
  | [r] => r.first ≤ r.last
  | r :: s :: ranges => r.first ≤ r.last && r.last + 1 < s.first && separated (s :: ranges)

end RobotBus.Text
