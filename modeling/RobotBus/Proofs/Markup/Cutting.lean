import RobotBus.Proofs.Markup.Elements

namespace RobotBus.Markup

open RobotBus.Text

/-- What the tokens of a text can come to when the text is cut off. -/
inductive Cut (ts : List Token) : List Token → Prop
  | first {us : List Token} (h : us <+: ts) : Cut ts us
  | inside {us : List Token} {name : List Char} (read : List Char)
      (h : us ++ [.close name] <+: ts) : Cut ts (us ++ [.close read])

theorem Cut.trans {ts ts' us : List Token} (h : Cut ts us) (hts : ts <+: ts') : Cut ts' us := by
  cases h with
  | first h => exact .first (h.trans hts)
  | inside read h => exact .inside read (h.trans hts)

namespace Scanner

variable {ts : List Token} {rev cs ds : List Char}

theorem tokens_step (s : Scanner) (c : Char) : s.tokens <:+ (s.step c).tokens := by
  unfold step
  repeat' split
  all_goals
    first
    | exact List.suffix_rfl
    | exact List.suffix_cons _ _

theorem tokens_run (s : Scanner) (cs : List Char) : s.tokens <:+ (s.run cs).tokens := by
  induction cs generalizing s with
  | nil => exact List.suffix_rfl
  | cons c cs ih => exact (s.tokens_step c).trans (ih (s.step c))

theorem run_failed (f : Fault) (cs : List Char) :
    run ⟨ts, .failed f⟩ cs = ⟨ts, .failed f⟩ := by
  induction cs with
  | nil => rfl
  | cons c cs ih => exact ih

theorem run_closing_place (rev cs : List Char) :
    (∃ rev', run ⟨ts, .closing rev⟩ cs = ⟨ts, .closing rev'⟩) ∨
      ∃ name, .close name :: ts <:+ (run ⟨ts, .closing rev⟩ cs).tokens := by
  induction cs generalizing rev with
  | nil => exact .inl ⟨rev, rfl⟩
  | cons c cs ih =>
    by_cases hc : c = '>'
    · have hstep : step ⟨ts, .closing rev⟩ c = ⟨.close (closingName rev) :: ts, .text⟩ := if_pos hc
      rw [run_cons, hstep]
      exact .inr ⟨closingName rev, tokens_run ⟨.close (closingName rev) :: ts, .text⟩ cs⟩
    · have hstep : step ⟨ts, .closing rev⟩ c = ⟨ts, .closing (c :: rev)⟩ := if_neg hc
      rw [run_cons, hstep]
      exact ih (c :: rev)

/-- Where a text does not end inside an end tag, none of its tokens is made up by its end. -/
theorem cut_of_run {s : Scanner} {place : Place} (hrun : s.run (cs ++ ds) = ⟨ts, place⟩)
    (hplace : ∀ rev, place ≠ .closing rev) : Cut ts.reverse (s.run cs).finish.1 := by
  rw [run_append] at hrun
  have hsuffix := tokens_run (s.run cs) ds
  rcases hs : s.run cs with ⟨us, place'⟩
  rw [hs] at hrun hsuffix
  rw [hrun] at hsuffix
  cases place' with
  | closing rev =>
    have hfinish : (finish ⟨us, .closing rev⟩).1 = us.reverse ++ [.close (closingName rev)] :=
      List.reverse_cons
    rw [hfinish]
    rcases run_closing_place rev ds with ⟨rev', hopen⟩ | ⟨name, hname⟩
    · rw [hrun] at hopen
      exact absurd (congrArg Scanner.place hopen) (hplace rev')
    · have hprefix : us.reverse ++ [.close name] <+: ts.reverse := by
        rw [hrun] at hname
        rw [← List.reverse_cons]
        exact List.reverse_prefix.mpr hname
      exact .inside _ hprefix
  | text | opened | declaration | comment | characterData | documentType | instruction | element
  | failed => exact .first (List.reverse_prefix.mpr hsuffix)

end Scanner

/-- What other dialects allow besides: an instruction that is empty or that holds a `>`, and a
document type with nothing in it. -/
inductive Foreign
  | instruction (s : List Char) (h : s = [] ∨ '>' ∈ s) (unended : ¬['?', '>'] <:+: s)
  | documentType (b : Blanks)

def Foreign.text : Foreign → List Char
  | instruction s _ _ => '<' :: '?' :: (s ++ ['?', '>'])
  | documentType b => '<' :: (documentTypeOpening ++ b.chars ++ ['>'])

inductive Part
  | aside (a : Aside)
  | foreign (x : Foreign)
  | start (t : Tag)
  | empty (t : Tag)
  | close (n : Name) (pad : Blanks)

namespace Part

def text : Part → List Char
  | aside a => a.text
  | foreign x => x.text
  | start t => '<' :: (t.text ++ ['>'])
  | empty t => '<' :: (t.text ++ ['/', '>'])
  | close n pad => '<' :: '/' :: (n.chars ++ pad.chars ++ ['>'])

def tokens : Part → List Token
  | start t => [.start t.text]
  | empty t => [.empty t.text]
  | close n _ => [.close n.chars]
  | aside _ => []
  | foreign _ => []

def isForeign : Part → Bool
  | foreign _ => true
  | _ => false

end Part

mutual

def Element.parts : Element → List Part
  | .empty tag => [.empty tag]
  | .pair tag inside pad => .start tag :: (inside.parts ++ [.close tag.name pad])

def Content.parts : Content → List Part
  | .done => []
  | .aside a rest => .aside a :: rest.parts
  | .element e rest => e.parts ++ rest.parts

end

def Document.parts (d : Document) : List Part :=
  d.prolog.map .aside ++ d.root.parts ++ d.epilog.map .aside

/-- These parts write a document down, with foreign parts anywhere between the others. -/
def Document.WrittenAs (d : Document) (ps : List Part) : Prop :=
  ps.filter (fun p ↦ !p.isForeign) = d.parts

mutual

theorem Element.text_parts (e : Element) : e.parts.flatMap Part.text = e.text := by
  cases e with
  | empty tag => simp [Element.parts, Element.text, Part.text]
  | pair tag inside pad =>
    have hinside := inside.text_parts
    simp [Element.parts, Element.text, Part.text, hinside]

theorem Content.text_parts (c : Content) : c.parts.flatMap Part.text = c.text := by
  cases c with
  | done => rfl
  | aside a rest => rw [Content.parts, List.flatMap_cons, rest.text_parts, Content.text, Part.text]
  | element e rest =>
    rw [Content.parts, List.flatMap_append, e.text_parts, rest.text_parts, Content.text]

end

theorem Document.text_parts (d : Document) :
    String.ofList (d.parts.flatMap Part.text) = d.text := by
  have hasides (as : List Aside) :
      (as.map Part.aside).flatMap Part.text = as.flatMap Aside.text := List.flatMap_map ..
  rw [Document.text, Document.parts, List.flatMap_append, List.flatMap_append, hasides, hasides,
    d.root.text_parts]

mutual

theorem Element.tokens_parts (e : Element) : e.parts.flatMap Part.tokens = e.tokens := by
  cases e with
  | empty tag => rfl
  | pair tag inside pad =>
    have hinside := inside.tokens_parts
    simp [Element.parts, Element.tokens, Part.tokens, hinside]

theorem Content.tokens_parts (c : Content) : c.parts.flatMap Part.tokens = c.tokens := by
  cases c with
  | done => rfl
  | aside a rest =>
    rw [Content.parts, List.flatMap_cons, rest.tokens_parts, Content.tokens]
    rfl
  | element e rest =>
    rw [Content.parts, List.flatMap_append, e.tokens_parts, rest.tokens_parts, Content.tokens]

end

theorem tokens_of_writtenAs {d : Document} {ps : List Part} (h : d.WrittenAs ps) :
    ps.flatMap Part.tokens = d.root.tokens := by
  have hforeign (ps : List Part) :
      (ps.filter (fun p ↦ !p.isForeign)).flatMap Part.tokens = ps.flatMap Part.tokens := by
    induction ps with
    | nil => rfl
    | cons p ps ih =>
      cases p with
      | foreign x => exact ih
      | aside | start | empty | close =>
        rw [List.filter_cons_of_pos rfl, List.flatMap_cons, List.flatMap_cons, ih]
  have hasides (as : List Aside) : (as.map Part.aside).flatMap Part.tokens = [] := by
    rw [List.flatMap_map]
    exact List.flatMap_eq_nil_iff.mpr fun _ _ ↦ rfl
  rw [← hforeign, h, Document.parts, List.flatMap_append, List.flatMap_append, hasides, hasides,
    d.root.tokens_parts, List.nil_append, List.append_nil]

namespace Scanner

variable {cs : List Char}

theorem run_foreign (ts : List Token) (x : Foreign) :
    ∃ f, run ⟨ts, .text⟩ x.text = ⟨ts, .failed f⟩ := by
  cases x with
  | instruction s h unended =>
    refine ⟨.unfinished .instruction, ?_⟩
    rcases h with rfl | hmem
    · rfl
    · obtain ⟨a, b, rfl, ha⟩ := List.eq_append_cons_of_mem hmem
      have hbody : run ⟨ts, .instruction ['?']⟩ a = ⟨ts, .instruction (a.reverse ++ ['?'])⟩ := by
        refine run_of_kept (p := .instruction) (fun c hc _ ↦ if_neg ?_) ['?']
        rintro rfl
        exact ha hc
      have hnot : isInstruction (a.reverse ++ ['?']) = false := by
        induction a using List.reverseRecOn with
        | nil => rfl
        | append_singleton a c _ =>
          have hc : c ≠ '?' := by
            rintro rfl
            exact unended ⟨a, b, by simp⟩
          simp [isInstruction, hc]
      have hend : step ⟨ts, .instruction (a.reverse ++ ['?'])⟩ '>' =
          ⟨ts, .failed (.unfinished .instruction)⟩ := by
        simp [step, hnot]
      change run ⟨ts, .instruction ['?']⟩ ((a ++ '>' :: b) ++ ['?', '>']) = _
      rw [List.append_assoc, run_append, hbody, List.cons_append, run_cons, hend, run_failed]
  | documentType b =>
    refine ⟨.emptyDocumentType, ?_⟩
    have hbody : run ⟨ts, .documentType documentTypeOpening.reverse 0⟩ b.chars =
        ⟨ts, .documentType (b.chars.reverse ++ documentTypeOpening.reverse) 0⟩ := by
      refine run_of_kept (p := fun rev ↦ .documentType rev 0) ?_ _
      intro c hc rev
      have hopen : c ≠ '<' := ne_of_isBlank (b.blank c hc) (by decide)
      have hclose : c ≠ '>' := ne_of_isBlank (b.blank c hc) (by decide)
      simp only [step, if_neg hopen, if_neg hclose]
    have hend : endDocumentType (b.chars.reverse ++ documentTypeOpening.reverse) =
        .failed .emptyDocumentType := by
      rw [endDocumentType, if_pos (startsWith_opening _ b.chars)]
      simpa using b.blank
    change run ⟨ts, .documentType documentTypeOpening.reverse 0⟩ (b.chars ++ ['>']) = _
    rw [run_append, hbody]
    change Scanner.mk ts (endDocumentType (b.chars.reverse ++ documentTypeOpening.reverse)) = _
    rw [hend]

theorem run_part (ts : List Token) (p : Part) :
    ∃ place, run ⟨ts, .text⟩ p.text = ⟨p.tokens.reverse ++ ts, place⟩ ∧
      (place = .text ∨ ∃ f, place = .failed f) := by
  cases p with
  | aside a => exact ⟨_, run_aside a, .inl rfl⟩
  | foreign x =>
    obtain ⟨f, hf⟩ := run_foreign ts x
    exact ⟨_, hf, .inr ⟨f, rfl⟩⟩
  | start t => exact ⟨_, run_start t, .inl rfl⟩
  | empty t => exact ⟨_, run_empty t, .inl rfl⟩
  | close n pad => exact ⟨_, run_closing n pad, .inl rfl⟩

/-- Wherever the parts of a document are cut off, something is found wrong, or nothing but the first
of their tokens is left. -/
theorem cut_of_parts {ps : List Part} (h : cs <+: ps.flatMap Part.text) (ts : List Token) :
    (∃ f, (run ⟨ts, .text⟩ cs).finish.2 = some f) ∨
      Cut (ts.reverse ++ ps.flatMap Part.tokens) (run ⟨ts, .text⟩ cs).finish.1 := by
  induction ps generalizing cs ts with
  | nil =>
    obtain rfl : cs = [] := List.prefix_nil.mp h
    exact .inr (.first (List.prefix_append _ _))
  | cons p ps ih =>
    obtain ⟨place, hrun, hplace⟩ := run_part ts p
    have hclosing : ∀ rev, place ≠ .closing rev := by
      rcases hplace with rfl | ⟨f, rfl⟩
      · exact nofun
      · exact nofun
    obtain ⟨ds, hds⟩ := h
    rw [List.flatMap_cons] at hds
    have htokens : ts.reverse ++ (p :: ps).flatMap Part.tokens =
        (p.tokens.reverse ++ ts).reverse ++ ps.flatMap Part.tokens := by
      simp
    rw [htokens]
    rcases List.append_eq_append_iff.mp hds with ⟨es, hp, -⟩ | ⟨es, rfl, hrest⟩
    · -- the cut is inside this part
      rw [hp] at hrun
      exact .inr ((cut_of_run hrun hclosing).trans (List.prefix_append _ _))
    · -- the cut is behind it
      rw [run_append, hrun]
      rcases hplace with rfl | ⟨f, rfl⟩
      · exact ih ⟨ds, hrest.symm⟩ _
      · rw [run_failed]
        exact .inl ⟨f, rfl⟩

end Scanner

theorem cut_of_writtenAs {d : Document} {ps : List Part} (h : d.WrittenAs ps) {cs : List Char}
    (hcs : cs <+: ps.flatMap Part.text) :
    (∃ f, (tokens cs).2 = some f) ∨ Cut d.root.tokens (tokens cs).1 := by
  have hcut := Scanner.cut_of_parts hcs []
  rw [tokens_of_writtenAs h] at hcut
  rw [tokens, Scanner.run_withoutMark]
  exact hcut

end RobotBus.Markup
