import RobotBus.Proofs.Json.Fields
import RobotBus.Proofs.Json.Printing
import RobotBus.Settings.Json

namespace RobotBus

open Json

namespace Json

/-- A case without data, as its name or as an object with that one name. -/
inductive IsCase (name : String) : Json → Prop
  | string {s : List Symbol} (h : Denotes s name.toList) : IsCase name (.string s)
  | object {k : List Symbol} (h : Denotes k name.toList) : IsCase name (.object [(k, .null)])

theorem variant?_of_isCase {α : Type} {cases : List (String × α)} {name : String} {a : α}
    (ha : cases.lookup name = some a) {v : Json} (h : IsCase name v) :
    variant? cases v = some a := by
  cases h with
  | string h => rw [variant?, text?_of_denotes h, Option.bind_some, ha]
  | object h => rw [variant?, text?_of_denotes h, Option.bind_some, ha]

end Json

theorem Scope.ofJson?_of_isCase {s : Scope} {v : Json} (h : IsCase s.name v) :
    ofJson? v = some s := by
  refine variant?_of_isCase ?_ h
  cases s <;> rfl

theorem PanicPolicy.ofJson?_of_isCase {p : PanicPolicy} {v : Json} (h : IsCase p.name v) :
    ofJson? v = some p := by
  refine variant?_of_isCase ?_ h
  cases p <;> rfl

namespace Settings

def IsSize (v : Json) (n : Nat) : Prop := v = .number (Numeral.ofNat n).text

inductive Unfit : Json → Prop
  | null : Unfit .null
  | negative {n : Numeral} (h : n.negative = true) : Unfit (.number n.text)
  | fraction {n : Numeral} (h : n.fraction ≠ none) : Unfit (.number n.text)
  | exponent {n : Numeral} (h : n.exponent ≠ none) : Unfit (.number n.text)
  | large {n : Numeral} (h : sizeBound ≤ n.whole) : Unfit (.number n.text)

theorem natural?_of_isSize {v : Json} {n : Nat} (h : IsSize v n) (hn : n < sizeBound) :
    natural? sizeBound v = some n := by
  rw [h, natural?_numeral, if_pos ⟨rfl, rfl, hn⟩]
  rfl

theorem natural?_of_unfit {v : Json} (h : Unfit v) : natural? sizeBound v = none := by
  cases h with
  | null => rfl
  | negative h => simp [natural?_numeral, h]
  | fraction h => simp [natural?_numeral, Numeral.isWhole, h]
  | exponent h => simp [natural?_numeral, Numeral.isWhole, h]
  | large h =>
    rw [natural?_numeral, if_neg]
    intro hfit
    omega

/-- The members give these settings, each field once or left out for its default. -/
structure Gives (c : Settings) (named : List (String × Json)) : Prop where
  scope : Given named "scope" default.scope (fun v s ↦ IsCase s.name v) c.scope
  offline : Given named "offline" default.offline (fun v b ↦ v = .bool b) c.offline
  sweepFirst : Given named "reclaim_orphans" default.sweepFirst (fun v b ↦ v = .bool b) c.sweepFirst
  window : Given named "frequency_window" default.window IsSize c.window
  panicPolicy :
    Given named "callback_policy" default.panicPolicy (fun v p ↦ IsCase p.name v) c.panicPolicy
  offlineLength : Given named "offline_read_len" default.offlineLength IsSize c.offlineLength

def answer (c : Settings) : Except Problem Settings :=
  if c.window = 0 then .error .emptyWindow else .ok c

theorem ofJson?_of_gives {c : Settings} (hwindow : c.window < sizeBound)
    (hlength : c.offlineLength < sizeBound) {ms : List (List Symbol × Json)}
    {named : List (String × Json)} (hms : Named ms named) (h : c.Gives named) :
    ofJson? (.object ms) = some c := by
  have hbool : ∀ (b : Bool) (v : Json), v = .bool b → bool? v = some b := by
    rintro b v rfl
    rfl
  obtain ⟨scope, hscope, rscope⟩ := h.scope.read (fun _ ↦ Scope.ofJson?_of_isCase)
  obtain ⟨offline, hoffline, roffline⟩ := h.offline.read (hbool c.offline)
  obtain ⟨sweep, hsweep, rsweep⟩ := h.sweepFirst.read (hbool c.sweepFirst)
  obtain ⟨window, hwin, rwindow⟩ := h.window.read (fun _ hv ↦ natural?_of_isSize hv hwindow)
  obtain ⟨policy, hpolicy, rpolicy⟩ := h.panicPolicy.read (fun _ ↦ PanicPolicy.ofJson?_of_isCase)
  obtain ⟨length, hlen, rlength⟩ := h.offlineLength.read (fun _ hv ↦ natural?_of_isSize hv hlength)
  have hfields : fields? fieldNames (.object ms) =
      some [scope, offline, sweep, window, policy, length] := by
    rw [fields?_of_readAs hms.readAs, fieldNames]
    exact mapM_eq_some_iff.mpr
      (.cons hscope (.cons hoffline (.cons hsweep (.cons hwin (.cons hpolicy (.cons hlen .nil))))))
  simp only [ofJson?, hfields, rscope, roffline, rsweep, rwindow, rpolicy, rlength,
    Option.bind_eq_bind, Option.bind_some]

theorem ofText_of_ofJson? {s : String} {v : Json} {c : Settings} (hs : v.WrittenAs s)
    (h : ofJson? v = some c) : ofText s = c.answer := by
  rw [ofText, ofText?_of_writtenAs hs, Option.bind_some, h]
  by_cases hwindow : c.window = 0
  · simp [check, answer, hwindow]
  · simp [check, answer, hwindow]

theorem ofText_of_none {s : String} {v : Json} (hs : v.WrittenAs s) (h : ofJson? v = none) :
    ofText s = .error .malformedSettings := by
  rw [ofText, ofText?_of_writtenAs hs, Option.bind_some, h]

theorem gives_toJson (c : Settings) :
    c.Gives
      [("scope", c.scope.toJson), ("offline", .bool c.offline),
        ("reclaim_orphans", .bool c.sweepFirst), ("frequency_window", .ofInt c.window),
        ("callback_policy", c.panicPolicy.toJson),
        ("offline_read_len", .ofInt c.offlineLength)] where
  scope := .once (List.nil_append _).symm (by simp) (by simp) (.string (denotes_ofText _))
  offline := .once List.singleton_append.symm (by simp) (by simp) rfl
  sweepFirst := .once (show _ = [_, _] ++ _ :: _ from rfl) (by simp) (by simp) rfl
  window :=
    .once (show _ = [_, _, _] ++ _ :: _ from rfl) (by simp) (by simp) (ofInt_eq_number _)
  panicPolicy := .once (show _ = [_, _, _, _] ++ _ :: _ from rfl) (by simp) (by simp)
    (.string (denotes_ofText _))
  offlineLength := .once (show _ = [_, _, _, _, _] ++ _ :: _ from rfl) (by simp) (by simp)
    (ofInt_eq_number _)

theorem legible_toJson (c : Settings) : c.toJson.Legible := by
  refine legible_ofMembers ?_
  intro m hm
  simp only [List.mem_cons, List.not_mem_nil, or_false] at hm
  rcases hm with rfl | rfl | rfl | rfl | rfl | rfl
  · exact legible_ofString c.scope.name
  · exact legible_bool c.offline
  · exact legible_bool c.sweepFirst
  · exact legible_ofInt c.window
  · exact legible_ofString c.panicPolicy.name
  · exact legible_ofInt c.offlineLength

theorem ofJson?_of_twice {name : String} {ms : List (List Symbol × Json)}
    {m m' : List Symbol × Json} (hname : name ∈ fieldNames) (h : [m, m'].Sublist ms)
    (hm : Denotes m.1 name.toList) (hm' : Denotes m'.1 name.toList) :
    ofJson? (.object ms) = none := by
  rw [ofJson?, fields?_of_twice hname h hm hm']

def sizeNames : List String := ["frequency_window", "offline_read_len"]

theorem ofJson?_of_unfit {name : String} {v x : Json} (hname : name ∈ sizeNames)
    (h : Json.Gives fieldNames name x v) (hx : Unfit x) : ofJson? v = none := by
  have hnd : fieldNames.Nodup := by decide
  have hnone := natural?_of_unfit hx
  rw [ofJson?]
  split
  · next scope offline sweep window policy length hfields =>
    rcases List.mem_pair.mp hname with rfl | rfl
    · obtain rfl : window = some x := by simpa using h.eq hnd hfields (i := 3) rfl
      simp [orDefault, hnone]
    · obtain rfl : length = some x := by simpa using h.eq hnd hfields (i := 5) rfl
      simp [orDefault, hnone]
  · rfl

/-- Settings printed in JSON are read back, unless their window is empty. So is each text of an
object that gives them: in any order, with other members among the fields, and without those that
have their defaults. A text that gives a field twice, or for a size anything but a size, holds no
settings. -/
theorem printed_settings_come_back (c : Settings) (hwindow : c.window < sizeBound)
    (hlength : c.offlineLength < sizeBound) :
    ofText c.toJson.text = c.answer ∧
      (∀ (s : String) (ms : List (List Symbol × Json)) (named : List (String × Json)),
        (Json.object ms).WrittenAs s → Named ms named → c.Gives named → ofText s = c.answer) ∧
      (∀ (s : String) (ms : List (List Symbol × Json)) (m m' : List Symbol × Json) (name : String),
        (Json.object ms).WrittenAs s → [m, m'].Sublist ms → name ∈ fieldNames →
          Denotes m.1 name.toList → Denotes m'.1 name.toList →
            ofText s = .error .malformedSettings) ∧
      ∀ (s : String) (v x : Json) (name : String), v.WrittenAs s → name ∈ sizeNames →
        Json.Gives fieldNames name x v → Unfit x → ofText s = .error .malformedSettings := by
  have hread : ∀ (ms : List (List Symbol × Json)) (named : List (String × Json)),
      Named ms named → c.Gives named → ofJson? (.object ms) = some c :=
    fun ms named hms h ↦ ofJson?_of_gives hwindow hlength hms h
  refine ⟨?_, ?_, ?_, ?_⟩
  · exact ofText_of_ofJson? (writtenAs_text c.legible_toJson)
      (hread _ _ (named_ofMembers _) c.gives_toJson)
  · intro s ms named hs hms h
    exact ofText_of_ofJson? hs (hread ms named hms h)
  · intro s ms m m' name hs hsub hname hm hm'
    exact ofText_of_none hs (ofJson?_of_twice hname hsub hm hm')
  · intro s v x name hs hname h hx
    exact ofText_of_none hs (ofJson?_of_unfit hname h hx)

/-- Two fields among others, a field given twice, and a size with an exponent. -/
theorem printed_settings_come_back_of_shuffled :
    let c := { default with scope := .system, window := 3 }
    let system := Json.ofMembers [("system", .null)]
    let shuffled := [("x", .array []), ("frequency_window", .ofInt 3), ("scope", system)]
    let tenth := Json.number ['1', 'e', '1']
    ofText c.toJson.text = .ok c ∧
      ofText (ofMembers shuffled).text = .ok c ∧
      ofText (ofMembers [("offline", .bool true), ("offline", .bool true)]).text =
        .error .malformedSettings ∧
      ofText (ofMembers [("frequency_window", tenth)]).text = .error .malformedSettings := by
  intro c system shuffled tenth
  obtain ⟨hprinted, hshuffled, htwice, hunfit⟩ :=
    printed_settings_come_back c (by decide) (by decide)
  have hten : tenth = .number
      (⟨false, 1, none, some ⟨false, none, ⟨['1'], by simp, by simp⟩⟩⟩ : Numeral).text := rfl
  refine ⟨hprinted, ?_, ?_, ?_⟩
  · refine hshuffled _ _ _ (writtenAs_text (legible_ofMembers ?_)) (named_ofMembers _) ?_
    · intro m hm
      simp only [shuffled, List.mem_cons, List.not_mem_nil, or_false] at hm
      rcases hm with rfl | rfl | rfl
      · exact legible_array (List.forall_mem_nil _)
      · exact legible_ofInt 3
      · refine legible_ofMembers ?_
        simp [Legible, tokens, Token.Legible]
    · exact {
        scope := .once (show _ = [_, _] ++ _ :: _ from rfl) (by simp) (by simp)
          (.object (denotes_ofText "system"))
        offline := .omitted (by simp [shuffled])
        sweepFirst := .omitted (by simp [shuffled])
        window := .once (show _ = [_] ++ _ :: _ from rfl) (by simp) (by simp) (ofInt_eq_number 3)
        panicPolicy := .omitted (by simp [shuffled])
        offlineLength := .omitted (by simp [shuffled]) }
  · refine htwice _ _ _ _ "offline" (writtenAs_text (legible_ofMembers ?_)) (List.Sublist.refl _)
      (by decide) (denotes_ofText _) (denotes_ofText _)
    intro m hm
    rcases List.mem_pair.mp hm with rfl | rfl <;> exact legible_bool true
  · refine hunfit _ _ tenth "frequency_window" (writtenAs_text (legible_ofMembers ?_)) (by decide)
      (.member List.mem_cons_self (denotes_ofText _)) ?_
    · intro m hm
      obtain rfl := List.mem_singleton.mp hm
      rw [hten]
      simp [Legible, tokens, Token.Legible]
    · rw [hten]
      exact .exponent (by simp)

end Settings

end RobotBus
