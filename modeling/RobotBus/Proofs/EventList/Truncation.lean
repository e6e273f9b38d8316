import RobotBus.Proofs.EventList.Documents
import RobotBus.Proofs.Markup.Cutting

namespace RobotBus.Markup

/-- The beginning of a forest closes nothing that was open before it. -/
theorem Forest.opened_suffix (f : Forest) {us : List Token} (h : us <+: f.tokens)
    {n n' : Nesting} (hr : us.foldlM Nesting.step n = .ok n') : n.opened <:+ n'.opened := by
  have hempty : ∀ {us : List Token} {n : Nesting}, us = [] → us.foldlM Nesting.step n = .ok n' →
      n.opened <:+ n'.opened := by
    rintro us n rfl ⟨⟩
    exact List.suffix_rfl
  induction f generalizing us n with
  | done => exact hempty (List.prefix_nil.mp h) hr
  | empty tag rest ih =>
    rcases List.prefix_cons_iff.mp h with hnil | ⟨vs, rfl, hvs⟩
    · exact hempty hnil hr
    · exact ih hvs hr
  | pair tag inside rest ihinside ihrest =>
    rcases List.prefix_cons_iff.mp h with hnil | ⟨vs, rfl, ws, hvs⟩
    · exact hempty hnil hr
    change vs.foldlM Nesting.step ⟨tagName tag :: n.opened⟩ = .ok n' at hr
    rcases List.append_eq_append_iff.mp hvs with ⟨ws', hinside, -⟩ | ⟨ws', rfl, hrest⟩
    · exact (List.suffix_cons _ _).trans (ihinside ⟨ws', hinside.symm⟩ hr)
    · rw [List.foldlM_append, inside.foldlM_tokens] at hr
      change ws'.foldlM Nesting.step ⟨tagName tag :: n.opened⟩ = .ok n' at hr
      rcases List.prefix_cons_iff.mp ⟨ws, hrest.symm⟩ with rfl | ⟨vs', rfl, hvs'⟩
      · cases hr
        exact List.suffix_cons _ _
      · have hclose : Nesting.step ⟨tagName tag :: n.opened⟩ (.close (tagName tag)) = .ok n := by
          rw [Nesting.step_close_iff]
        rw [List.foldlM_cons, hclose] at hr
        exact ihrest hvs' hr

/-- The beginning of an element leaves something of its own open, unless it is nothing at all or
the whole of it. -/
theorem Element.opened_of_prefix (e : Element) {us : List Token} (h : us <+: e.tokens)
    {n n' : Nesting} (hr : us.foldlM Nesting.step n = .ok n') :
    us = [] ∨ us = e.tokens ∨ ∃ name, name :: n.opened <:+ n'.opened := by
  cases e with
  | empty tag =>
    change us <+: [] ++ [.empty tag.text] at h
    rcases List.prefix_concat_iff.mp h with hwhole | hnil
    · exact .inr (.inl hwhole)
    · exact .inl (List.prefix_nil.mp hnil)
  | pair tag inside pad =>
    rcases List.prefix_cons_iff.mp h with hnil | ⟨vs, rfl, hvs⟩
    · exact .inl hnil
    · rcases List.prefix_concat_iff.mp hvs with rfl | hinside
      · exact .inr (.inl rfl)
      · rw [← inside.tokens_forest] at hinside
        exact .inr (.inr ⟨tagName tag.text, inside.forest.opened_suffix hinside hr⟩)

end RobotBus.Markup

namespace RobotBus.EventList.Aesl

open RobotBus.Markup RobotBus.Text

variable {d : Document} {r : Reader} {us : List Token}

theorem finish_of_prefix (h : us <+: d.root.tokens) (hr : Reader.start.run us = .ok r) :
    us = d.root.tokens ∨ ∃ e, r.gathered.finish = .error e := by
  rcases d.root.opened_of_prefix h (Reader.nesting_of_run hr) with rfl | hwhole | ⟨name, hname⟩
  · cases hr
    exact .inr ⟨.noRoot, rfl⟩
  · exact .inl hwhole
  · right
    have hlevel : r.Level := Reader.Level.run (r := .start) rfl hr
    have hpos : r.gathered.depth ≠ 0 := by
      rw [hlevel]
      exact Nat.ne_of_gt (List.length_pos_of_mem (hname.subset List.mem_cons_self))
    unfold Gathered.finish
    rw [if_neg hpos]
    split
    · exact ⟨_, rfl⟩
    · exact ⟨_, rfl⟩

/-- An end tag that was cut off closes the innermost element only if it is complete. -/
theorem run_of_cut (h : Cut d.root.tokens us) (hr : Reader.start.run us = .ok r) :
    us <+: d.root.tokens := by
  cases h with
  | first h => exact h
  | @inside us name read h =>
    rw [Reader.run_append] at hr
    cases hus : Reader.start.run us with
    | error e =>
      rw [hus] at hr
      cases hr
    | ok r₁ =>
      rw [hus] at hr
      change r₁.run [.close read] = .ok r at hr
      rw [run_one] at hr
      have hread := Nesting.step_close_iff.mp (Reader.nesting_of_step hr).1
      -- the whole root is read without a fault, and so is its complete end tag
      obtain ⟨vs, hvs⟩ := h
      have hbefore : us.foldlM Nesting.step .start = .ok r₁.nesting := Reader.nesting_of_run hus
      have hroot := (d.root.before .done).foldlM_tokens .start
      rw [Element.tokens_before_done, ← hvs, List.append_assoc, List.foldlM_append,
        hbefore] at hroot
      change List.foldlM Nesting.step r₁.nesting (.close name :: vs) = .ok Nesting.start at hroot
      rw [List.foldlM_cons] at hroot
      cases hclose : r₁.nesting.step (.close name) with
      | error f =>
        rw [hclose] at hroot
        cases hroot
      | ok n =>
        have hname := Nesting.step_close_iff.mp hclose
        rw [hread] at hname
        obtain ⟨rfl, -⟩ := List.cons.inj hname
        exact ⟨vs, hvs⟩

def spelledName (t : Tag) : Option String :=
  (t.attributes.find? (fun a ↦ a.key.chars = nameKey)).map Attribute.decoded

theorem spelledName_of_announced {t : Tag} {name : String} (h : announced t = .ok name) :
    spelledName t = some name := by
  unfold announced at h
  unfold spelledName
  split at h
  · cases h
  · next a ha =>
    split at h
    · cases h
      rw [ha]
      rfl
    · cases h

theorem mapM_spelledName {ts : List Tag} {names : List String}
    (h : ts.mapM announced = .ok names) : ts.mapM spelledName = some names := by
  induction ts generalizing names with
  | nil =>
    cases h
    rfl
  | cons t ts ih =>
    rw [List.mapM_cons] at h ⊢
    cases ht : announced t with
    | error e =>
      rw [ht] at h
      cases h
    | ok name =>
      rw [ht] at h
      cases hts : ts.mapM announced with
      | error e =>
        rw [hts] at h
        cases h
      | ok rest =>
        rw [hts] at h
        cases h
        rw [spelledName_of_announced ht, ih hts]
        rfl

/-- A document whose events all have names is never taken for another list of names when it is cut
off, wherever that is and however the document was written: its beginning is refused, or comes to
exactly the names of the whole. -/
theorem parse_truncated {names : List String} {ps : List Part} (hps : d.WrittenAs ps)
    (hnames : (events d).mapM spelledName = some names) {s : List Char}
    (hs : s <+: ps.flatMap Part.text) :
    (∃ e, parse (String.ofList s) = .error e) ∨ parse (String.ofList s) = .ok names := by
  rw [parse, String.toList_ofList, parseChars]
  cases hr : Reader.start.run (tokens s).1 with
  | error e => exact .inl ⟨e, rfl⟩
  | ok r =>
    rcases cut_of_writtenAs hps hs with ⟨f, hf⟩ | hcut
    · simp only [hf]
      exact .inl ⟨_, rfl⟩
    · cases (tokens s).2 with
      | some f => exact .inl ⟨_, rfl⟩
      | none =>
        rcases finish_of_prefix (run_of_cut hcut hr) hr with hwhole | herror
        · -- no token is missing
          right
          rw [hwhole, run_root] at hr
          cases hns : (events d).mapM announced with
          | error e =>
            rw [hns] at hr
            cases hr
          | ok ns =>
            have hsame := mapM_spelledName hns
            rw [hnames] at hsame
            cases hsame
            rw [hns] at hr
            cases hr
            simp [Gathered.finish]
        · exact .inl herror

/-- A list with one event, and an instruction of another dialect behind it, cut off in the end tag
of its root. -/
theorem parse_truncated_in_end_tag :
    let none : Blanks := ⟨[], nofun⟩
    let space : Blanks := ⟨[' '], by simp [isBlank]⟩
    let key : Name := ⟨nameKey, nofun, by simp [nameKey, isNameChar, isBlank]⟩
    let name : Attribute := ⟨space, nofun, key, none, none, .single, [.raw 'a' (by decide)]⟩
    let event : Tag := ⟨⟨eventTag, nofun, by simp [eventTag, isNameChar, isBlank]⟩, [name], none⟩
    let list : Tag := ⟨⟨['l'], nofun, by simp [isNameChar, isBlank]⟩, [], none⟩
    let d : Document := ⟨[], .pair list (.element (.empty event) .done) none, []⟩
    let ps : List Part := d.parts ++ [.foreign (.instruction [] (.inl rfl) (by simp))]
    let s : List Char := "<l><event name='a'/></l".toList
    d.WrittenAs ps ∧ (events d).mapM spelledName = some ["a"] ∧ s <+: ps.flatMap Part.text ∧
      ((∃ e, parse (String.ofList s) = .error e) ∨ parse (String.ofList s) = .ok ["a"]) := by
  intro none space key name event list d ps s
  have hps : d.WrittenAs ps := rfl
  have hnames : (events d).mapM spelledName = some ["a"] := rfl
  have hs : s <+: ps.flatMap Part.text := ⟨"><??>".toList, rfl⟩
  exact ⟨hps, hnames, hs, parse_truncated hps hnames hs⟩

/-- A document type with a `<` of its own swallows tags of the root. Cut off in the right place, the
document announces an event, though the root has none in it. -/
theorem parse_truncated_of_other_dialect :
    let text := "<!DOCTYPE a SYSTEM '<'><r><s> > <event><event name='y'/></event></s></r>"
    let cut := "<!DOCTYPE a SYSTEM '<'><r><s> > <event><event name='y'/></event>"
    cut.toList <+: text.toList ∧ cut ≠ text ∧ parse cut = .ok ["y"] ∧
      parse "<r><s> > <event><event name='y'/></event></s></r>" = .ok [] := by
  decide +kernel

end RobotBus.EventList.Aesl
