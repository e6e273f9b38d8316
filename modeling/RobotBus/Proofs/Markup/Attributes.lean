import RobotBus.Markup.Attribute
import RobotBus.Proofs.Markup.Spelling

namespace RobotBus.Markup

open RobotBus.Text

variable {wanted key rev s : List Char}

theorem searchFrom_blanks {p : AttributePlace}
    (h : ∀ c s, isBlank c → searchFrom wanted p (c :: s) = searchFrom wanted p s)
    {b : List Char} (hb : ∀ c ∈ b, isBlank c) :
    searchFrom wanted p (b ++ s) = searchFrom wanted p s := by
  induction b with
  | nil => rfl
  | cons c b ih =>
    obtain ⟨hc, hrest⟩ := List.forall_mem_cons.mp hb
    rw [List.cons_append, h c _ hc, ih hrest]

theorem searchFrom_key {n : List Char} (hn : ∀ c ∈ n, isNameChar c) :
    searchFrom wanted (.key rev) (n ++ s) = searchFrom wanted (.key (n.reverse ++ rev)) s := by
  induction n generalizing rev with
  | nil => rfl
  | cons c n ih =>
    obtain ⟨hc, hrest⟩ := List.forall_mem_cons.mp hn
    rw [List.cons_append, searchFrom, if_neg (ne_of_isNameChar hc (by decide)),
      if_neg (isBlank_of_isNameChar hc), ih hrest]
    simp

theorem searchFrom_sign (b : Blanks) :
    searchFrom wanted (.key rev) (b.chars ++ '=' :: s) =
      searchFrom wanted (.beforeValue rev.reverse) s := by
  obtain ⟨b, hb⟩ := b
  cases b with
  | nil => rfl
  | cons c b =>
    obtain ⟨hc, hrest⟩ := List.forall_mem_cons.mp hb
    have hskip : ∀ c s, isBlank c →
        searchFrom wanted (.afterKey rev.reverse) (c :: s) =
          searchFrom wanted (.afterKey rev.reverse) s := by
      intro c s hc
      rw [searchFrom, if_neg (ne_of_isBlank hc (by decide)), if_pos hc]
    rw [List.cons_append, searchFrom, if_neg (ne_of_isBlank hc (by decide)), if_pos hc,
      searchFrom_blanks hskip hrest]
    rfl

theorem searchFrom_open (q : Quote) (b : Blanks) :
    searchFrom wanted (.beforeValue key) (b.chars ++ q.char :: s) =
      searchFrom wanted (.value key q.char []) s := by
  have hskip : ∀ c s, isBlank c →
      searchFrom wanted (.beforeValue key) (c :: s) = searchFrom wanted (.beforeValue key) s := by
    intro c s hc
    have hquotes : ¬(c = '"' ∨ c = '\'') := by
      rintro (h | h)
      · exact ne_of_isBlank hc (by decide) h
      · exact ne_of_isBlank hc (by decide) h
    rw [searchFrom, if_neg hquotes, if_pos hc]
  have hquote : q.char = '"' ∨ q.char = '\'' := by cases q <;> decide
  rw [searchFrom_blanks hskip b.blank, searchFrom, if_pos hquote]

theorem searchFrom_value {q : Char} {w : List Char} (hq : q ∉ w) :
    searchFrom wanted (.value key q rev) (w ++ q :: s) =
      if key = wanted then .found (rev.reverse ++ w) else searchFrom wanted .gap s := by
  induction w generalizing rev with
  | nil => simp [searchFrom]
  | cons c w ih =>
    have hc : c ≠ q := by
      rintro rfl
      exact hq List.mem_cons_self
    rw [List.cons_append, searchFrom, if_neg hc, ih (List.not_mem_of_not_mem_cons hq)]
    simp

theorem searchFrom_gap {b : List Char} (hb : ∀ c ∈ b, isBlank c) :
    searchFrom wanted .gap (b ++ s) = searchFrom wanted .gap s := by
  refine searchFrom_blanks ?_ hb
  intro c s hc
  rw [searchFrom, if_pos hc]

theorem searchFrom_name (n : Name) :
    searchFrom wanted .gap (n.chars ++ s) = searchFrom wanted (.key n.chars.reverse) s := by
  obtain ⟨n, nonempty, plain⟩ := n
  obtain ⟨c, cs, rfl⟩ := List.exists_cons_of_ne_nil nonempty
  obtain ⟨hc, hcs⟩ := List.forall_mem_cons.mp plain
  rw [List.cons_append, searchFrom, if_neg (isBlank_of_isNameChar hc), searchFrom_key hcs,
    List.reverse_cons]

theorem searchFrom_attribute (a : Attribute) :
    searchFrom wanted .gap (a.text ++ s) =
      if a.key.chars = wanted then .found a.written else searchFrom wanted .gap s := by
  have hsplit : a.text ++ s = a.gap.chars ++ (a.key.chars ++ (a.beforeSign.chars ++ '=' ::
      (a.afterSign.chars ++ a.quote.char :: (a.written ++ a.quote.char :: s)))) := by
    simp [Attribute.text]
  rw [hsplit, searchFrom_gap a.gap.blank, searchFrom_name, searchFrom_sign, searchFrom_open,
    searchFrom_value (quote_not_mem_written a), List.reverse_reverse]
  rfl

theorem search_attributes (as : List Attribute) (pad : Blanks) :
    search wanted (as.flatMap Attribute.text ++ pad.chars) =
      match as.find? (fun a ↦ a.key.chars = wanted) with
      | some a => .found a.written
      | none => .absent := by
  unfold search
  induction as with
  | nil =>
    have hpad : searchFrom wanted .gap (pad.chars ++ []) = .absent := searchFrom_gap pad.blank
    rw [List.append_nil] at hpad
    exact hpad
  | cons a as ih =>
    rw [List.flatMap_cons, List.append_assoc, searchFrom_attribute, ih]
    by_cases hkey : a.key.chars = wanted
    · simp [hkey]
    · simp [hkey]

theorem takeWhile_of_blanks {b : List Char} (hb : ∀ c ∈ b, isBlank c) (h : b ≠ [] ∨ s = []) :
    (b ++ s).takeWhile (fun c ↦ !isBlank c) = [] := by
  cases b with
  | nil =>
    obtain rfl : s = [] := by simpa using h
    rfl
  | cons c b =>
    have hc : isBlank c := hb c List.mem_cons_self
    simp [hc]

theorem takeWhile_attributes (t : Tag) :
    (t.attributes.flatMap Attribute.text ++ t.pad.chars).takeWhile (fun c ↦ !isBlank c) = [] := by
  cases t.attributes with
  | nil =>
    have hpad := takeWhile_of_blanks (s := []) t.pad.blank (.inr rfl)
    rw [List.append_nil] at hpad
    exact hpad
  | cons a as =>
    simp only [List.flatMap_cons, Attribute.text, List.append_assoc]
    exact takeWhile_of_blanks a.gap.blank (.inl a.apart)

theorem tagName_text (t : Tag) : tagName t.text = t.name.chars := by
  have hname : ∀ c ∈ t.name.chars, !isBlank c := by
    intro c hc
    simpa using isBlank_of_isNameChar (t.name.plain c hc)
  rw [tagName, Tag.text, List.takeWhile_append_of_pos hname, takeWhile_attributes, List.append_nil]

theorem tagAttributes_text (t : Tag) :
    tagAttributes t.text = t.attributes.flatMap Attribute.text ++ t.pad.chars := by
  have hall := List.takeWhile_append_dropWhile (p := fun c ↦ !isBlank c) (l := t.text)
  change tagName t.text ++ tagAttributes t.text = t.text at hall
  rw [tagName_text, Tag.text] at hall
  exact List.append_cancel_left hall

end RobotBus.Markup
