import RobotBus.Proofs.Json.Writing

namespace RobotBus.Json

namespace Token

def render : Token → List Char
  | openArray => ['[']
  | closeArray => [']']
  | openObject => ['\x7b']
  | closeObject => ['\x7d']
  | comma => [',']
  | colon => [':']
  | null => ['n', 'u', 'l', 'l']
  | bool true => ['t', 'r', 'u', 'e']
  | bool false => ['f', 'a', 'l', 's', 'e']
  | number s => s
  | string s => Symbol.renderAll s

def Legible : Token → Prop
  | number s => ∃ n : Numeral, n.text = s
  | string s => ∀ x ∈ s, x.IsCode
  | _ => True

theorem writtenAs_render {t : Token} (h : t.Legible) : t.WrittenAs t.render := by
  cases t with
  | number s =>
    obtain ⟨n, rfl⟩ := h
    exact .number n
  | string s =>
    obtain ⟨sps, htext, hsymbol⟩ := exists_spellings h
    have hwritten := WrittenAs.string sps
    rwa [htext, hsymbol] at hwritten
  | bool b =>
    cases b with
    | true => exact .yes
    | false => exact .no
  | openArray => exact .openArray
  | closeArray => exact .closeArray
  | openObject => exact .openObject
  | closeObject => exact .closeObject
  | comma => exact .comma
  | colon => exact .colon
  | null => exact .null

end Token

theorem spells_render {ts : List Token} (h : ∀ t ∈ ts, t.Legible) :
    Spells ts (ts.flatMap Token.render) := by
  induction ts with
  | nil => exact .nil noBlanks
  | cons t ts ih =>
    have ht := Token.writtenAs_render (h t List.mem_cons_self)
    exact .cons noBlanks ht (ih (fun u hu ↦ h u (List.mem_cons_of_mem _ hu)))

mutual

theorem render_eq (v : Json) : v.render = v.tokens.flatMap Token.render := by
  match v with
  | null => rfl
  | bool true => rfl
  | bool false => rfl
  | number s => simp [render, tokens, Token.render]
  | string s => simp [render, tokens, Token.render]
  | array [] => rfl
  | array (v :: vs) => simp [render, tokens, Token.render, render_eq v, renderItems_eq vs]
  | object [] => rfl
  | object ((k, v) :: ms) =>
    simp [render, renderMember, tokens, memberTokens, Token.render, render_eq v,
      renderMembers_eq ms]

theorem renderItems_eq (vs : List Json) :
    renderItems vs = (furtherItems vs).flatMap Token.render := by
  match vs with
  | [] => rfl
  | v :: vs => simp [renderItems, furtherItems, Token.render, render_eq v, renderItems_eq vs]

theorem renderMembers_eq (ms : List (List Symbol × Json)) :
    renderMembers ms = (furtherMembers ms).flatMap Token.render := by
  match ms with
  | [] => rfl
  | (k, v) :: ms =>
    simp [renderMembers, renderMember, furtherMembers, memberTokens, Token.render, render_eq v,
      renderMembers_eq ms]

end

def Legible (v : Json) : Prop := ∀ t ∈ v.tokens, t.Legible

theorem writtenAs_text {v : Json} (h : v.Legible) : v.WrittenAs v.text := by
  rw [WrittenAs, text, String.toList_ofList, render_eq]
  exact spells_render h

theorem legible_bool (b : Bool) : (bool b).Legible := by
  simp [Legible, tokens, Token.Legible]

theorem legible_ofInt (i : Int) : (ofInt i).Legible := by
  rw [ofInt_eq_number]
  simp [Legible, tokens, Token.Legible]

theorem isCode_ofText (s : String) : ∀ x ∈ Symbol.ofText s, x.IsCode := by
  simp [Symbol.ofText, Symbol.IsCode]

theorem legible_ofString (s : String) : (ofString s).Legible := by
  have hcodes := isCode_ofText s
  simpa [Legible, tokens, Token.Legible, ofString] using hcodes

theorem legible_afterCommas {α : Type} {f : α → List Token} {l : List α}
    (h : ∀ a ∈ l, ∀ t ∈ f a, t.Legible) {t : Token}
    (ht : t ∈ l.flatMap (fun a ↦ .comma :: f a)) : t.Legible := by
  obtain ⟨a, ha, hmem⟩ := List.mem_flatMap.mp ht
  rcases List.mem_cons.mp hmem with rfl | hmem
  · trivial
  · exact h a ha t hmem

theorem legible_array {vs : List Json} (h : ∀ v ∈ vs, v.Legible) : (array vs).Legible := by
  intro t ht
  cases vs with
  | nil => rcases List.mem_pair.mp ht with rfl | rfl <;> trivial
  | cons v vs =>
    simp only [tokens, List.mem_cons, List.mem_append, List.not_mem_nil, or_false] at ht
    rcases ht with rfl | ht | ht | rfl
    · trivial
    · exact h v List.mem_cons_self t ht
    · rw [furtherItems_eq] at ht
      exact legible_afterCommas (fun w hw ↦ h w (List.mem_cons_of_mem _ hw)) ht
    · trivial

theorem legible_memberTokens {m : List Symbol × Json} (hkey : ∀ x ∈ m.1, x.IsCode)
    (hvalue : m.2.Legible) : ∀ t ∈ memberTokens m, t.Legible := by
  obtain ⟨k, v⟩ := m
  intro t ht
  simp only [memberTokens, List.mem_cons] at ht
  rcases ht with rfl | rfl | ht
  · exact hkey
  · trivial
  · exact hvalue t ht

theorem legible_object {ms : List (List Symbol × Json)}
    (h : ∀ m ∈ ms, (∀ x ∈ m.1, x.IsCode) ∧ m.2.Legible) : (object ms).Legible := by
  have hmember : ∀ m ∈ ms, ∀ t ∈ memberTokens m, t.Legible :=
    fun m hm ↦ legible_memberTokens (h m hm).1 (h m hm).2
  intro t ht
  cases ms with
  | nil => rcases List.mem_pair.mp ht with rfl | rfl <;> trivial
  | cons m ms =>
    simp only [tokens, List.mem_cons, List.mem_append, List.not_mem_nil, or_false] at ht
    rcases ht with rfl | ht | ht | rfl
    · trivial
    · exact hmember m List.mem_cons_self t ht
    · rw [furtherMembers_eq] at ht
      exact legible_afterCommas (fun n hn ↦ hmember n (List.mem_cons_of_mem _ hn)) ht
    · trivial

theorem legible_ofMembers {ms : List (String × Json)} (h : ∀ m ∈ ms, m.2.Legible) :
    (ofMembers ms).Legible := by
  refine legible_object ?_
  intro m hm
  obtain ⟨n, hn, rfl⟩ := List.mem_map.mp hm
  exact ⟨isCode_ofText n.1, h n hn⟩

theorem render_array (vs : List Json) :
    (array vs).render = '[' :: ([','].intercalate (vs.map render) ++ [']']) := by
  have hitems : ∀ v vs, [','].intercalate ((v :: vs).map render) = v.render ++ renderItems vs := by
    intro v vs
    induction vs generalizing v with
    | nil => simp [renderItems]
    | cons w vs ih =>
      rw [List.map_cons, List.map_cons, List.intercalate_cons_cons, ← List.map_cons, ih w,
        renderItems, List.append_assoc]
      rfl
  cases vs with
  | nil => rfl
  | cons v vs =>
    rw [hitems, render]
    simp

end RobotBus.Json
