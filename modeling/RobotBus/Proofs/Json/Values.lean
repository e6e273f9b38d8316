import RobotBus.Proofs.EventNames.Export
import RobotBus.Proofs.Json.Reading
import RobotBus.WordValue.Json

namespace RobotBus

open Json

namespace Json

variable {α : Type}

def readAs? (ofJson? : Json → Option α) (s : String) : Option α := (ofText? s).bind ofJson?

theorem readAs?_eq_some_iff {ofJson? : Json → Option α} {s : String} {a : α} :
    readAs? ofJson? s = some a ↔ ∃ v : Json, ofJson? v = some a ∧ v.WrittenAs s := by
  rw [readAs?, Option.bind_eq_some_iff]
  constructor
  · rintro ⟨v, hv, ha⟩
    exact ⟨v, ha, ofText?_eq_some_iff.mp hv⟩
  · rintro ⟨v, ha, hv⟩
    exact ⟨v, ofText?_eq_some_iff.mpr hv, ha⟩

/-- What is printed is read back; so what has been read out of any text is printed in a text that is
read as the same, and is printed alike the second time. -/
structure Reprints (ofJson? : Json → Option α) (toJson : α → Json) : Prop where
  back : ∀ a, readAs? ofJson? (toJson a).text = some a
  again : ∀ s a, readAs? ofJson? s = some a →
    ∃ b, readAs? ofJson? (toJson a).text = some b ∧ b = a ∧ (toJson b).text = (toJson a).text

theorem reprints_of_legible {ofJson? : Json → Option α} {toJson : α → Json}
    (hlegible : ∀ a, (toJson a).Legible) (hback : ∀ a, ofJson? (toJson a) = some a) :
    Reprints ofJson? toJson := by
  have back (a : α) : readAs? ofJson? (toJson a).text = some a :=
    readAs?_eq_some_iff.mpr ⟨toJson a, hback a, writtenAs_text (hlegible a)⟩
  exact ⟨back, fun s a _ ↦ ⟨a, back a, rfl, rfl⟩⟩

theorem spells_nil_iff {s : List Char} : Spells [] s ↔ ∃ b : Markup.Blanks, s = b.chars := by
  constructor
  · intro h
    cases h with
    | nil b => exact ⟨b, rfl⟩
  · rintro ⟨b, rfl⟩
    exact .nil b

theorem spells_cons_iff {t : Token} {ts : List Token} {s : List Char} :
    Spells (t :: ts) s ↔ ∃ (b : Markup.Blanks) (w r : List Char),
      t.WrittenAs w ∧ Spells ts r ∧ s = b.chars ++ (w ++ r) := by
  constructor
  · intro h
    cases h with
    | cons b ht hts => exact ⟨b, _, _, ht, hts, rfl⟩
  · rintro ⟨b, w, r, ht, hts, rfl⟩
    exact .cons b ht hts

theorem Token.writtenAs_number_iff {s w : List Char} :
    Token.WrittenAs (.number s) w ↔ w = s ∧ ∃ n : Numeral, n.text = s := by
  constructor
  · intro h
    cases h with
    | number n => exact ⟨rfl, n, rfl⟩
  · rintro ⟨rfl, n, rfl⟩
    exact .number n

theorem Token.writtenAs_mark_iff {t : Token} {c : Char} (hc : Token.ofPunctuation? c = some t)
    {w : List Char} : t.WrittenAs w ↔ w = [c] := by
  constructor
  · intro h
    rcases h.kind with ⟨hword, -⟩ | ⟨d, rfl, hd⟩ | ⟨sps, -, ht⟩
    · have hisWord := isWord_of_ofWord? hword
      unfold Token.ofPunctuation? at hc
      split at hc <;> cases hc <;> cases hisWord
    · unfold Token.ofPunctuation? at hc hd
      split at hc <;> cases hc <;> split at hd <;> first | rfl | cases hd
    · rw [ht] at hc
      unfold Token.ofPunctuation? at hc
      split at hc <;> cases hc
  · rintro rfl
    exact writtenAs_of_punctuation hc

end Json

namespace Word

/-- The number is the word, written without fraction and exponent, and with no sign on a zero. -/
structure IsWrittenAs (w : Word) (n : Numeral) : Prop where
  fraction : n.fraction = none
  exponent : n.exponent = none
  sign : n.negative = true → n.whole ≠ 0
  value : w.toInt = if n.negative then -(n.whole : Int) else n.whole

inductive Spelled (w : Word) : List Char → Prop
  | intro (before after : Markup.Blanks) {n : Numeral} (h : w.IsWrittenAs n) :
      Spelled w (before.chars ++ (n.text ++ after.chars))

theorem isWrittenAs_iff {w : Word} {n : Numeral} :
    w.IsWrittenAs n ↔ n.integer? = some w.toInt := by
  obtain ⟨negative, whole, fraction, exponent⟩ := n
  constructor
  · rintro ⟨rfl, rfl, hsign, hvalue⟩
    cases negative with
    | false => simpa [Numeral.integer?, Numeral.isWhole] using hvalue.symm
    | true =>
      have hne : whole ≠ 0 := hsign rfl
      simpa [Numeral.integer?, Numeral.isWhole, hne] using hvalue.symm
  · intro h
    rw [Numeral.integer?] at h
    split at h
    · next hwhole =>
      obtain ⟨rfl, rfl⟩ : fraction = none ∧ exponent = none := by
        simpa [Numeral.isWhole] using hwhole
      cases negative with
      | false => exact ⟨rfl, rfl, by rintro ⟨⟩, by simpa using h.symm⟩
      | true =>
        by_cases hzero : whole = 0
        · simp [hzero] at h
        · exact ⟨rfl, rfl, fun _ ↦ hzero, by simpa [hzero] using h.symm⟩
    · cases h

theorem ofJson?_eq_some_iff {v : Json} {w : Word} :
    ofJson? v = some w ↔ ∃ s, v = .number s ∧ integerOf? s = some w.toInt := by
  have hinteger : v.integer? = some w.toInt ↔ ∃ s, v = .number s ∧ integerOf? s = some w.toInt := by
    cases v with
    | number s => simp [integer?]
    | null | bool | string | array | object => simp [integer?]
  have hlow := w.le_toInt
  have hhigh := w.toInt_lt
  rw [← hinteger, ofJson?]
  constructor
  · intro h
    split at h
    · next n hn =>
      split at h
      · next hrange =>
        obtain rfl := Option.some.inj h
        rw [hn, Int16.toInt_ofInt_of_le hrange.1 hrange.2]
      · cases h
    · cases h
  · intro h
    simp only [h, Int16.ofInt_toInt]
    exact if_pos ⟨hlow, hhigh⟩

theorem exists_spells_iff {w : Word} {ts : List Token} {s : List Char} :
    (∃ v, ofJson? v = some w ∧ Spells (v.tokens ++ ts) s) ↔
      ∃ (b : Markup.Blanks) (n : Numeral) (r : List Char),
        w.IsWrittenAs n ∧ Spells ts r ∧ s = b.chars ++ (n.text ++ r) := by
  constructor
  · rintro ⟨v, hv, hs⟩
    obtain ⟨t, rfl, ht⟩ := ofJson?_eq_some_iff.mp hv
    obtain ⟨b, x, r, hx, hr, rfl⟩ := spells_cons_iff.mp hs
    obtain ⟨rfl, n, rfl⟩ := Token.writtenAs_number_iff.mp hx
    rw [n.integerOf?_text] at ht
    exact ⟨b, n, r, isWrittenAs_iff.mpr ht, hr, rfl⟩
  · rintro ⟨b, n, r, hn, hr, rfl⟩
    refine ⟨.number n.text, ofJson?_eq_some_iff.mpr ⟨n.text, rfl, ?_⟩, .cons b (.number n) hr⟩
    rw [n.integerOf?_text]
    exact isWrittenAs_iff.mp hn

theorem ofJson?_toJson (w : Word) : ofJson? w.toJson = some w := by
  have hinteger : (Numeral.ofInt w.toInt).integer? = some w.toInt := by
    cases w.toInt with
    | ofNat k => rfl
    | negSucc k => rfl
  refine ofJson?_eq_some_iff.mpr ⟨(Numeral.ofInt w.toInt).text, ofInt_eq_number w.toInt, ?_⟩
  rw [Numeral.integerOf?_text, hinteger]

end Word

namespace WordValue

/-- The texts of a value: an integer, or integers in brackets, with commas between them. Blanks may
stand anywhere but inside an integer. -/
inductive Spelled : WordValue → List Char → Prop
  | scalar {w : Word} {t : List Char} (h : w.Spelled t) : Spelled (.scalar w) t
  | empty (before inside after : Markup.Blanks) :
      Spelled (.array []) (before.chars ++ '[' :: (inside.chars ++ ']' :: after.chars))
  | array (before after : Markup.Blanks) {w : Word} {t : List Char} {ws : List Word}
      {ts : List (List Char)} (h : w.Spelled t) (hs : List.Forall₂ Word.Spelled ws ts) :
      Spelled (.array (w :: ws))
        (before.chars ++ '[' :: (t ++ (ts.flatMap (',' :: ·) ++ ']' :: after.chars)))

theorem exists_furtherItems_iff {ws : List Word} {s : List Char} :
    (∃ vs, List.Forall₂ (fun v w ↦ Word.ofJson? v = some w) vs ws ∧
        Spells (furtherItems vs ++ [.closeArray]) s) ↔
      ∃ (b : Markup.Blanks) (ts : List (List Char)) (after : Markup.Blanks),
        List.Forall₂ Word.Spelled ws ts ∧
          s = b.chars ++ (ts.flatMap (',' :: ·) ++ ']' :: after.chars) := by
  induction ws generalizing s with
  | nil =>
    constructor
    · rintro ⟨vs, hvs, hs⟩
      cases hvs
      obtain ⟨b, x, r, hx, hr, rfl⟩ := spells_cons_iff.mp hs
      obtain rfl := (Token.writtenAs_mark_iff (c := ']') rfl).mp hx
      obtain ⟨after, rfl⟩ := spells_nil_iff.mp hr
      exact ⟨b, [], after, .nil, rfl⟩
    · rintro ⟨b, ts, after, hts, rfl⟩
      cases hts
      have hs := Spells.cons b .closeArray (.nil after)
      exact ⟨[], .nil, hs⟩
  | cons w ws ih =>
    constructor
    · rintro ⟨vs, hvs, hs⟩
      cases hvs with
      | @cons v _ vs _ hv hvs =>
        rw [furtherItems, List.cons_append, List.append_assoc] at hs
        obtain ⟨b, x, _, hx, hword, rfl⟩ := spells_cons_iff.mp hs
        obtain rfl := (Token.writtenAs_mark_iff (c := ',') rfl).mp hx
        obtain ⟨before, n, _, hn, hrest, rfl⟩ := Word.exists_spells_iff.mp ⟨v, hv, hword⟩
        obtain ⟨inside, ts, after, hts, rfl⟩ := ih.mp ⟨vs, hvs, hrest⟩
        refine ⟨b, (before.chars ++ (n.text ++ inside.chars)) :: ts, after,
          .cons (.intro before inside hn) hts, ?_⟩
        simp
    · rintro ⟨b, ts, after, hts, rfl⟩
      cases hts with
      | @cons _ t _ ts ht hts =>
        obtain ⟨before, inside, hn⟩ := ht
        obtain ⟨vs, hvs, hr⟩ := ih.mpr ⟨inside, ts, after, hts, rfl⟩
        obtain ⟨v, hv, hr⟩ := Word.exists_spells_iff.mpr ⟨before, _, _, hn, hr, rfl⟩
        have hs := Spells.cons b .comma hr
        refine ⟨v :: vs, .cons hv hvs, ?_⟩
        rw [furtherItems, List.cons_append, List.append_assoc]
        simpa using hs

theorem ofJson?_eq_some_iff {j : Json} {v : WordValue} :
    ofJson? j = some v ↔
      (∃ w, v = .scalar w ∧ Word.ofJson? j = some w) ∨
        ∃ vs ws, j = .array vs ∧ v = .array ws ∧
          List.Forall₂ (fun v w ↦ Word.ofJson? v = some w) vs ws := by
  cases j with
  | array vs =>
    have hnone : Word.ofJson? (.array vs) = none := rfl
    simp only [ofJson?, Option.map_eq_some_iff, mapM_eq_some_iff, hnone]
    constructor
    · rintro ⟨ws, hws, rfl⟩
      exact .inr ⟨vs, ws, rfl, rfl, hws⟩
    · rintro (⟨w, -, hw⟩ | ⟨vs, ws, hj, rfl, hws⟩)
      · cases hw
      · cases hj
        exact ⟨ws, hws, rfl⟩
  | null | bool | number | string | object =>
    simp only [ofJson?, Option.map_eq_some_iff]
    constructor
    · rintro ⟨w, hw, rfl⟩
      exact .inl ⟨w, rfl, hw⟩
    · rintro (⟨w, rfl, hw⟩ | ⟨vs, ws, hj, -⟩)
      · exact ⟨w, hw, rfl⟩
      · cases hj

theorem exists_spells_scalar_iff {w : Word} {s : List Char} :
    (∃ j, Word.ofJson? j = some w ∧ Spells j.tokens s) ↔ Spelled (.scalar w) s := by
  constructor
  · rintro ⟨j, hw, hs⟩
    rw [← List.append_nil j.tokens] at hs
    obtain ⟨before, n, r, hn, hr, rfl⟩ := Word.exists_spells_iff.mp ⟨j, hw, hs⟩
    obtain ⟨after, rfl⟩ := spells_nil_iff.mp hr
    exact .scalar (.intro before after hn)
  · rintro ⟨before, after, hn⟩
    obtain ⟨j, hw, hs⟩ := Word.exists_spells_iff.mpr ⟨before, _, _, hn, .nil after, rfl⟩
    rw [List.append_nil] at hs
    exact ⟨j, hw, hs⟩

theorem exists_spells_array_iff {ws : List Word} {s : List Char} :
    (∃ vs, List.Forall₂ (fun v w ↦ Word.ofJson? v = some w) vs ws ∧
        Spells (Json.array vs).tokens s) ↔ Spelled (.array ws) s := by
  constructor
  · rintro ⟨vs, hvs, hs⟩
    cases hvs with
    | nil =>
      obtain ⟨before, x, _, hx, hclose, rfl⟩ := spells_cons_iff.mp hs
      obtain ⟨inside, y, _, hy, hend, rfl⟩ := spells_cons_iff.mp hclose
      obtain rfl := (Token.writtenAs_mark_iff (c := '[') rfl).mp hx
      obtain rfl := (Token.writtenAs_mark_iff (c := ']') rfl).mp hy
      obtain ⟨after, rfl⟩ := spells_nil_iff.mp hend
      exact .empty before inside after
    | @cons v w vs ws hv hvs =>
      obtain ⟨before, x, _, hx, hword, rfl⟩ := spells_cons_iff.mp hs
      obtain rfl := (Token.writtenAs_mark_iff (c := '[') rfl).mp hx
      obtain ⟨b, n, _, hn, hrest, rfl⟩ := Word.exists_spells_iff.mp ⟨v, hv, hword⟩
      obtain ⟨b', ts, after, hts, rfl⟩ := exists_furtherItems_iff.mp ⟨vs, hvs, hrest⟩
      have hspelled := Spelled.array before after (.intro b b' hn) hts
      simpa using hspelled
  · intro h
    cases h with
    | empty before inside after =>
      exact ⟨[], .nil, .cons before .openArray (.cons inside .closeArray (.nil after))⟩
    | @array before after w _ ws ts h hts =>
      obtain ⟨b, b', hn⟩ := h
      obtain ⟨vs, hvs, hr⟩ := exists_furtherItems_iff.mpr ⟨b', ts, after, hts, rfl⟩
      obtain ⟨v, hv, hr⟩ := Word.exists_spells_iff.mpr ⟨b, _, _, hn, hr, rfl⟩
      have hspells := Spells.cons before .openArray hr
      refine ⟨v :: vs, .cons hv hvs, ?_⟩
      simpa [tokens] using hspells

theorem readAs?_eq_some_iff {s : String} {v : WordValue} :
    readAs? ofJson? s = some v ↔ v.Spelled s.toList := by
  rw [Json.readAs?_eq_some_iff]
  constructor
  · rintro ⟨j, hj, hs⟩
    rcases ofJson?_eq_some_iff.mp hj with ⟨w, rfl, hw⟩ | ⟨vs, ws, rfl, rfl, hvs⟩
    · exact exists_spells_scalar_iff.mp ⟨j, hw, hs⟩
    · exact exists_spells_array_iff.mp ⟨vs, hvs, hs⟩
  · intro h
    cases v with
    | scalar w =>
      obtain ⟨j, hw, hs⟩ := exists_spells_scalar_iff.mpr h
      exact ⟨j, ofJson?_eq_some_iff.mpr (.inl ⟨w, rfl, hw⟩), hs⟩
    | array ws =>
      obtain ⟨vs, hvs, hs⟩ := exists_spells_array_iff.mpr h
      exact ⟨.array vs, ofJson?_eq_some_iff.mpr (.inr ⟨vs, ws, rfl, rfl, hvs⟩), hs⟩

theorem reprints : Reprints ofJson? toJson := by
  refine reprints_of_legible ?_ ?_
  · intro v
    cases v with
    | scalar w => exact legible_ofInt w.toInt
    | array ws =>
      refine legible_array ?_
      intro j hj
      obtain ⟨w, -, rfl⟩ := List.mem_map.mp hj
      exact legible_ofInt w.toInt
  · intro v
    refine ofJson?_eq_some_iff.mpr ?_
    cases v with
    | scalar w => exact .inl ⟨w, rfl, w.ofJson?_toJson⟩
    | array ws =>
      refine .inr ⟨_, ws, rfl, rfl, List.forall₂_map_left_iff.mpr ?_⟩
      exact List.forall₂_same.mpr fun w _ ↦ w.ofJson?_toJson

/-- An array is printed in brackets, a scalar as a bare number. -/
theorem exists_numeral_text_iff (v : WordValue) :
    (∃ n : Numeral, v.toJson.text.toList = n.text) ↔ ∃ w, v = .scalar w := by
  cases v with
  | scalar w =>
    have htext : (Word.toJson w).text.toList = (Numeral.ofInt w.toInt).text := by
      rw [Word.toJson, ofInt_eq_number, Json.text, String.toList_ofList]
      rfl
    exact ⟨fun _ ↦ ⟨w, rfl⟩, fun _ ↦ ⟨_, htext⟩⟩
  | array ws =>
    constructor
    · rintro ⟨n, hn⟩
      rw [toJson, Json.text, String.toList_ofList, render_array] at hn
      have hbracket : '[' ∈ n.text := hn ▸ List.mem_cons_self
      exact absurd (endsWord_of_mem_numeral n hbracket) (by decide)
    · rintro ⟨w, hw⟩
      cases hw

theorem ofList_eq_scalar_iff {ws : List Word} : (∃ w, ofList ws = .scalar w) ↔ ws.length = 1 := by
  rw [List.length_eq_one_iff]
  unfold ofList
  split
  · next w => simp
  · next hne =>
    constructor
    · rintro ⟨w, hw⟩
      cases hw
    · rintro ⟨w, rfl⟩
      exact absurd rfl (hne w)

end WordValue

theorem EventId.ofJson?_toJson (id : EventId) : ofJson? id.toJson = some id := by
  rw [ofJson?, toJson, ofInt_eq_number]
  have hread := natural?_numeral 65536 (.ofNat id.val.toNat)
  have hlt : id.val.toNat < 65536 := id.val.toNat_lt
  rw [if_pos ⟨rfl, rfl, hlt⟩] at hread
  exact (congrArg (Option.map ofPosition) hread).trans (congrArg some id.ofPosition_toNat)

theorem EventId.reprints : Reprints ofJson? toJson :=
  reprints_of_legible (fun id ↦ legible_ofInt id.val.toNat) EventId.ofJson?_toJson

namespace ListedEvent

def Once (named : List (String × Json)) (name : String) (v : Json) : Prop :=
  ∃ before after, named = before ++ (name, v) :: after ∧
    (∀ m ∈ before, m.1 ≠ name) ∧ ∀ m ∈ after, m.1 ≠ name

/-- An object with the name and the number of an event, in whatever order and with any other
members, or an array of the two. -/
inductive RecordOf (e : ListedEvent) : Json → Prop
  | object {ms : List (List Symbol × Json)} {named : List (String × Json)} {s : List Symbol}
      (hms : Named ms named) (hname : Once named "name" (.string s))
      (hid : Once named "id" e.id.toJson) (hs : Denotes s e.name.toList) : RecordOf e (.object ms)
  | array {s : List Symbol} (hs : Denotes s e.name.toList) :
      RecordOf e (.array [.string s, e.id.toJson])

theorem ofJson?_of_recordOf {e : ListedEvent} {v : Json} (h : e.RecordOf v) :
    ofJson? v = some e := by
  have read {s : List Symbol} (hs : Denotes s e.name.toList)
      (hfields : v.fields? ["name", "id"] = some [some (.string s), some e.id.toJson]) :
      ofJson? v = some e := by
    have htext : (Json.string s).string? = some e.name := text?_of_denotes hs
    simp only [ofJson?, hfields, htext, EventId.ofJson?_toJson]
  cases h with
  | @object ms named s hms hname hid hs =>
    refine read hs ?_
    obtain ⟨a, b, rfl, ha, hb⟩ := hname
    obtain ⟨a', b', heq, ha', hb'⟩ := hid
    have hmember := member?_of_once e.id.toJson ha' hb'
    rw [← heq] at hmember
    rw [fields?_of_readAs hms.readAs]
    exact mapM_eq_some_iff.mpr (.cons (member?_of_once _ ha hb) (.cons hmember .nil))
  | array hs => exact read hs rfl

theorem recordOf_toJson (e : ListedEvent) : e.RecordOf e.toJson :=
  .object (named_ofMembers _)
    ⟨[], _, rfl, by simp, by simp⟩
    ⟨[("name", .ofString e.name)], [], rfl, by simp, by simp⟩
    (denotes_ofText e.name)

theorem reprints : Reprints ofJson? toJson :=
  reprints_of_legible EventNames.legible_toJson fun e ↦ ofJson?_of_recordOf e.recordOf_toJson

end ListedEvent

/-- Values, numbers of events and entries of event lists come back from what is printed of them, and
what any text is read as is printed in a text that is read alike. Words come back as they were, a
single word from a bare number. The texts of a value are integers and arrays of integers, and an
entry may be an object with its members in any order and others among them, or an array. -/
theorem values_come_back :
    Reprints WordValue.ofJson? WordValue.toJson ∧
      Reprints EventId.ofJson? EventId.toJson ∧
      Reprints ListedEvent.ofJson? ListedEvent.toJson ∧
      (∀ ws : List Word,
        (readAs? WordValue.ofJson? (WordValue.ofList ws).toJson.text).map WordValue.words =
            some ws ∧
          ((∃ n : Numeral, (WordValue.ofList ws).toJson.text.toList = n.text) ↔ ws.length = 1)) ∧
      (∀ (s : String) (v : WordValue),
        readAs? WordValue.ofJson? s = some v ↔ v.Spelled s.toList) ∧
      ∀ (e : ListedEvent) (v : Json) (s : String), e.RecordOf v → v.WrittenAs s →
        readAs? ListedEvent.ofJson? s = some e := by
  refine ⟨WordValue.reprints, EventId.reprints, ListedEvent.reprints, ?_,
    fun s v ↦ WordValue.readAs?_eq_some_iff, ?_⟩
  · intro ws
    constructor
    · rw [WordValue.reprints.back, Option.map_some, WordValue.words_ofList]
    · rw [WordValue.exists_numeral_text_iff, WordValue.ofList_eq_scalar_iff]
  · intro e v s hrecord hwritten
    exact readAs?_eq_some_iff.mpr ⟨v, ListedEvent.ofJson?_of_recordOf hrecord, hwritten⟩

def ListedEvent.shuffled : Json :=
  .ofMembers [("id", .ofInt 7), ("far", .array []), ("name", .ofString "near")]

theorem ListedEvent.legible_shuffled : shuffled.Legible := by
  refine legible_ofMembers ?_
  simp only [List.forall_mem_cons, List.not_mem_nil, false_imp_iff, implies_true, and_true]
  exact ⟨legible_ofInt 7, legible_array nofun, legible_ofString "near"⟩

theorem ListedEvent.recordOf_shuffled : RecordOf ⟨"near", .ofPosition 7⟩ shuffled :=
  .object (named_ofMembers _)
    ⟨[("id", .ofInt 7), ("far", .array [])], [], rfl, by simp, by simp⟩
    ⟨[], _, rfl, by simp, by simp⟩
    (denotes_ofText "near")

theorem values_come_back_of_shuffled :
    WordValue.Spelled (.array [-1, 2]) " [-1 ,2]".toList ∧
      readAs? WordValue.ofJson? " [-1 ,2]" = some (.array [-1, 2]) ∧
      readAs? ListedEvent.ofJson? ListedEvent.shuffled.text = some ⟨"near", .ofPosition 7⟩ := by
  obtain ⟨-, -, -, -, hvalues, hentries⟩ := values_come_back
  have hspelled : WordValue.Spelled (.array [-1, 2]) " [-1 ,2]".toList := by
    have hfirst : Word.Spelled (-1) "-1 ".toList :=
      .intro noBlanks ⟨[' '], by simp [Text.isBlank]⟩ (n := .ofInt (-1))
        ⟨rfl, rfl, by decide, by decide⟩
    have hsecond : Word.Spelled 2 "2".toList :=
      .intro noBlanks noBlanks (n := .ofInt 2) ⟨rfl, rfl, by decide, by decide⟩
    exact .array ⟨[' '], by simp [Text.isBlank]⟩ noBlanks hfirst (.cons hsecond .nil)
  exact ⟨hspelled, (hvalues _ _).mpr hspelled,
    hentries _ _ _ ListedEvent.recordOf_shuffled (writtenAs_text ListedEvent.legible_shuffled)⟩

end RobotBus
