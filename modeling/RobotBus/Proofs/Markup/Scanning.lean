import RobotBus.Proofs.Markup.Document
import Mathlib.Data.List.Induction

namespace RobotBus.Markup

open RobotBus.Text

namespace Scanner

variable {ts : List Token} {rev s : List Char}

theorem run_cons (s : Scanner) (c : Char) (cs : List Char) : s.run (c :: cs) = (s.step c).run cs :=
  rfl

theorem run_of_kept {p : List Char → Place}
    (h : ∀ c ∈ s, ∀ rev, step ⟨ts, p rev⟩ c = ⟨ts, p (c :: rev)⟩) (rev : List Char) :
    run ⟨ts, p rev⟩ s = ⟨ts, p (s.reverse ++ rev)⟩ := by
  induction s generalizing rev with
  | nil => rfl
  | cons c s ih =>
    obtain ⟨hc, hs⟩ := List.forall_mem_cons.mp h
    rw [run_cons, hc rev, ih hs (c :: rev), List.reverse_cons, List.append_assoc]
    rfl

/-- Every character is kept but a `>` after two `x`, and the text holds none. -/
theorem run_of_unended {p : List Char → Place} {x : Char} {o : List Char}
    (h : ∀ c b, ¬(c = '>' ∧ [x, x] <:+ b) →
      step ⟨ts, p (b.reverse ++ o)⟩ c = ⟨ts, p (c :: (b.reverse ++ o))⟩)
    (hs : ¬[x, x, '>'] <:+: s) :
    run ⟨ts, p o⟩ s = ⟨ts, p (s.reverse ++ o)⟩ := by
  induction s using List.reverseRecOn with
  | nil => rfl
  | append_singleton b c ih =>
    have hb : ¬[x, x, '>'] <:+: b := by
      intro hb
      exact hs (hb.trans (List.prefix_append b [c]).isInfix)
    have hc : ¬(c = '>' ∧ [x, x] <:+ b) := by
      rintro ⟨rfl, r, rfl⟩
      exact hs ⟨r, [], by simp⟩
    rw [run_append, ih hb, run_cons, h c b hc, List.reverse_append]
    rfl

theorem run_chars (h : '<' ∉ s) : run ⟨ts, .text⟩ s = ⟨ts, .text⟩ := by
  refine run_of_kept (p := fun _ ↦ .text) ?_ []
  intro c hc _
  have hne : c ≠ '<' := by
    rintro rfl
    exact h hc
  simp only [step, if_neg hne]

theorem startsWith_opening (opening s : List Char) :
    startsWith opening (s.reverse ++ opening.reverse) := by
  simp [startsWith, equalFolded]

theorem suffix_of_take {x : Char} {b o : List Char} (hlen : 2 ≤ b.length)
    (h : (b.reverse ++ o).take 2 = [x, x]) : [x, x] <:+ b := by
  rw [List.take_append_of_le_length (by simpa using hlen)] at h
  apply List.reverse_prefix.mp
  change [x, x] <+: b.reverse
  rw [← h]
  exact List.take_prefix 2 b.reverse

theorem run_comment (h : ¬['-', '-', '>'] <:+: s) :
    run ⟨ts, .text⟩ (Aside.comment s h).text = ⟨ts, .text⟩ := by
  have hopen : run ⟨ts, .text⟩ ('<' :: commentOpening) =
      ⟨ts, .comment commentOpening.reverse⟩ := rfl
  have hbody : run ⟨ts, .comment commentOpening.reverse⟩ s =
      ⟨ts, .comment (s.reverse ++ commentOpening.reverse)⟩ := by
    refine run_of_unended (x := '-') ?_ h
    intro c b hcb
    apply if_neg
    rintro ⟨hc, hlen, htake⟩
    have hb : 2 ≤ b.length := by
      simp [commentOpening] at hlen
      omega
    exact hcb ⟨hc, suffix_of_take hb htake⟩
  have hclose : run ⟨ts, .comment (s.reverse ++ commentOpening.reverse)⟩ ['-', '-', '>'] =
      ⟨ts, .text⟩ := by
    have hlen : 3 ≤ (s.reverse ++ commentOpening.reverse).length := by simp [commentOpening]
    have hstarts : startsWith commentOpening
        ('-' :: '-' :: (s.reverse ++ commentOpening.reverse)) := by
      simpa using startsWith_opening commentOpening (s ++ ['-', '-'])
    generalize s.reverse ++ commentOpening.reverse = r at hlen hstarts ⊢
    simp [run, step, hlen, hstarts]
  change run _ (('<' :: commentOpening) ++ s ++ ['-', '-', '>']) = _
  rw [run_append, run_append, hopen, hbody, hclose]

theorem run_characterData (h : ¬[']', ']', '>'] <:+: s) :
    run ⟨ts, .text⟩ (Aside.characterData s h).text = ⟨ts, .text⟩ := by
  have hopen : run ⟨ts, .text⟩ ('<' :: characterDataOpening) =
      ⟨ts, .characterData characterDataOpening.reverse⟩ := rfl
  have hbody : run ⟨ts, .characterData characterDataOpening.reverse⟩ s =
      ⟨ts, .characterData (s.reverse ++ characterDataOpening.reverse)⟩ := by
    refine run_of_unended (x := ']') ?_ h
    intro c b hcb
    apply if_neg
    rintro ⟨hc, htake⟩
    have hb : 2 ≤ b.length := by
      match b with
      | [] => exact absurd htake (by decide)
      | [_] => exact absurd (List.cons.inj (List.cons.inj htake).2).1 (by decide)
      | _ :: _ :: _ => simp
    exact hcb ⟨hc, suffix_of_take hb htake⟩
  have hclose : run ⟨ts, .characterData (s.reverse ++ characterDataOpening.reverse)⟩
      [']', ']', '>'] = ⟨ts, .text⟩ := by
    have hstarts : startsWith characterDataOpening
        (']' :: ']' :: (s.reverse ++ characterDataOpening.reverse)) := by
      simpa using startsWith_opening characterDataOpening (s ++ [']', ']'])
    generalize s.reverse ++ characterDataOpening.reverse = r at hstarts ⊢
    simp [run, step, hstarts]
  change run _ (('<' :: characterDataOpening) ++ s ++ [']', ']', '>']) = _
  rw [run_append, run_append, hopen, hbody, hclose]

theorem run_instruction (h : s ≠ [] ∧ '>' ∉ s) :
    run ⟨ts, .text⟩ (Aside.instruction s h).text = ⟨ts, .text⟩ := by
  have hbody : run ⟨ts, .instruction ['?']⟩ s = ⟨ts, .instruction (s.reverse ++ ['?'])⟩ := by
    refine run_of_kept (p := .instruction) (fun c hc _ ↦ if_neg ?_) ['?']
    rintro rfl
    exact h.2 hc
  have hclose : run ⟨ts, .instruction (s.reverse ++ ['?'])⟩ ['?', '>'] = ⟨ts, .text⟩ := by
    have hlen : s.length ≠ 0 := by simpa using h.1
    have his : isInstruction ('?' :: (s.reverse ++ ['?'])) := by
      simp [isInstruction]
      omega
    simp [run, step, his]
  change run _ (['<', '?'] ++ (s ++ ['?', '>'])) = _
  rw [run_append, run_append]
  change run (run ⟨ts, .instruction ['?']⟩ s) _ = _
  rw [hbody, hclose]

theorem run_balanced {depth : Nat} (h : balanced depth s) (rev : List Char) :
    run ⟨ts, .documentType rev depth⟩ s = ⟨ts, .documentType (s.reverse ++ rev) 0⟩ := by
  fun_induction balanced depth s generalizing rev with
  | case1 depth =>
    obtain rfl : depth = 0 := by simpa using h
    rfl
  | case2 depth s ih =>
    have hrun := ih h ('<' :: rev)
    rw [List.reverse_cons, List.append_assoc]
    exact hrun
  | case3 => cases h
  | case4 depth s ih =>
    have hrun := ih h ('>' :: rev)
    rw [List.reverse_cons, List.append_assoc]
    exact hrun
  | case5 depth c s hlt hgt hgt' ih =>
    have hrun := ih h (c :: rev)
    have hne : c ≠ '<' := hlt
    have hne' : c ≠ '>' := by
      rintro rfl
      cases depth with
      | zero => exact hgt rfl rfl
      | succ d => exact hgt' d rfl rfl
    have hstep : step ⟨ts, .documentType rev depth⟩ c = ⟨ts, .documentType (c :: rev) depth⟩ := by
      simp only [step, if_neg hne, if_neg hne']
    rw [run_cons, hstep, hrun, List.reverse_cons, List.append_assoc]
    rfl

theorem run_documentType (h : balanced 0 s ∧ ∃ c ∈ s, ¬isBlank c) :
    run ⟨ts, .text⟩ (Aside.documentType s h).text = ⟨ts, .text⟩ := by
  have hopen : run ⟨ts, .text⟩ ('<' :: documentTypeOpening) =
      ⟨ts, .documentType documentTypeOpening.reverse 0⟩ := rfl
  have hbody : run ⟨ts, .documentType documentTypeOpening.reverse 0⟩ s =
      ⟨ts, .documentType (s.reverse ++ documentTypeOpening.reverse) 0⟩ :=
    run_balanced h.1 documentTypeOpening.reverse
  have hclose : endDocumentType (s.reverse ++ documentTypeOpening.reverse) = .text := by
    have hall : ¬s.all isBlank := by
      simpa using h.2
    rw [endDocumentType, if_pos (startsWith_opening _ s)]
    simpa using hall
  change run _ (('<' :: documentTypeOpening) ++ s ++ ['>']) = _
  rw [run_append, run_append, hopen, hbody]
  change Scanner.mk ts (endDocumentType (s.reverse ++ documentTypeOpening.reverse)) = _
  rw [hclose]

theorem run_aside (a : Aside) : run ⟨ts, .text⟩ a.text = ⟨ts, .text⟩ := by
  cases a with
  | chars s h => exact run_chars h
  | comment s h => exact run_comment h
  | characterData s h => exact run_characterData h
  | instruction s h => exact run_instruction h
  | documentType s h => exact run_documentType h

theorem run_asides (as : List Aside) : run ⟨ts, .text⟩ (as.flatMap Aside.text) = ⟨ts, .text⟩ := by
  induction as with
  | nil => rfl
  | cons a as ih => rw [List.flatMap_cons, run_append, run_aside, ih]

end Scanner

end RobotBus.Markup
