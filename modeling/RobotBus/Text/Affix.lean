namespace RobotBus.Text

def after? : List Char → List Char → Option (List Char)
  | [], s => some s
  | c :: p, d :: s => if c = d then after? p s else none
  | _ :: _, [] => none

theorem after?_eq_some_iff {p s r : List Char} : after? p s = some r ↔ s = p ++ r := by
  induction p generalizing s with
  | nil => simp [after?]
  | cons c p ih =>
    cases s with
    | nil => simp [after?]
    | cons d s =>
      by_cases h : c = d
      · subst h; simp [after?, ih]
      · simp [after?, h, Ne.symm h]

def equalFolded (s t : List Char) : Bool := s.map Char.toLower == t.map Char.toLower

end RobotBus.Text
