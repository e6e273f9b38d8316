import RobotBus.Event.Json
import RobotBus.Proofs.EventNames.Refusal
import RobotBus.Proofs.Json.Fields
import RobotBus.Proofs.Json.Printing

namespace RobotBus

open Json

namespace EventList.Records

/-- A record and the name in it: an object that has it once, with any other members, or the name
in an array of its own. -/
inductive RecordOf : Json → String → Prop
  | object {ms : List (List Symbol × Json)} {before after : List (String × Json)}
      {s : List Symbol} {name : String}
      (hms : Named ms (before ++ ("name", .string s) :: after))
      (hbefore : ∀ m ∈ before, m.1 ≠ "name") (hafter : ∀ m ∈ after, m.1 ≠ "name")
      (hs : Denotes s name.toList) : RecordOf (.object ms) name
  | array {s : List Symbol} {name : String} (hs : Denotes s name.toList) :
      RecordOf (.array [.string s]) name

theorem recordName?_of_recordOf {v : Json} {name : String} (h : RecordOf v name) :
    recordName? v = some name := by
  cases h with
  | @object ms before after s _ hms hbefore hafter hs =>
    have hfields : fields? ["name"] (.object ms) = some [some (.string s)] := by
      rw [fields?_of_readAs hms.readAs, List.mapM_cons,
        member?_of_once (.string s) hbefore hafter]
      rfl
    rw [recordName?, hfields]
    exact text?_of_denotes hs
  | array hs =>
    rw [recordName?, fields?]
    exact text?_of_denotes hs

/-- Whatever stands around the names and in whatever way they are spelled, they are read in their
order. -/
theorem parse_of_records {s : String} {vs : List Json} {names : List String}
    (h : (Json.array vs).WrittenAs s) (hvs : List.Forall₂ RecordOf vs names) :
    parse s = .ok names := by
  have hnames : names? (.array vs) = some names :=
    mapM_eq_some_iff.mpr (hvs.imp (fun _ _ ↦ recordName?_of_recordOf))
  rw [parse, ofText?_of_writtenAs h, Option.bind_some, hnames]

end EventList.Records

namespace EventNames

open EventList.Records

def exported (e : EventNames) : String :=
  "[" ++ ",".intercalate (e.listed.map (fun l ↦ l.toJson.text)) ++ "]"

theorem exported_eq (e : EventNames) :
    e.exported = (Json.array (e.listed.map ListedEvent.toJson)).text := by
  refine String.ext ?_
  rw [Json.text, String.toList_ofList, render_array]
  simp [exported, String.toList_intercalate, Json.text, Function.comp_def]

theorem legible_toJson (l : ListedEvent) : l.toJson.Legible := by
  refine legible_ofMembers ?_
  intro m hm
  rcases List.mem_pair.mp hm with rfl | rfl
  · exact legible_ofString l.name
  · exact legible_ofInt l.id.val.toNat

theorem recordOf_toJson (l : ListedEvent) : RecordOf l.toJson l.name := by
  have hms := named_ofMembers [("name", .ofString l.name), ("id", l.id.toJson)]
  rw [← List.nil_append [_, _]] at hms
  exact .object hms (by simp) (by simp) (denotes_ofText l.name)

theorem names_listed (e : EventNames) : e.listed.map ListedEvent.name = e.names.toList := by
  rw [listed, List.map_map]
  exact List.zipIdx_map_fst 0 e.names.toList

theorem parse_exported (e : EventNames) : parse e.exported = .ok e.names.toList := by
  have hlegible : (Json.array (e.listed.map ListedEvent.toJson)).Legible := by
    refine legible_array ?_
    intro v hv
    obtain ⟨l, -, rfl⟩ := List.mem_map.mp hv
    exact legible_toJson l
  have hrecords : List.Forall₂ RecordOf (e.listed.map ListedEvent.toJson) e.names.toList := by
    rw [← e.names_listed]
    refine List.forall₂_map_left_iff.mpr (List.forall₂_map_right_iff.mpr ?_)
    exact List.forall₂_same.mpr (fun l _ ↦ recordOf_toJson l)
  rw [exported_eq]
  exact parse_of_records (writtenAs_text hlegible) hrecords

namespace Numbered

variable {e e' : EventNames} {names : List String}

theorem find_congr (h : e.Numbered names) (h' : e'.Numbered names) (name : String) :
    e'.find name = e.find name := by
  by_cases hname : name ∈ names
  · rw [h.find_of_mem hname, h'.find_of_mem hname]
  · rw [h.find_of_not_mem hname, h'.find_of_not_mem hname]

theorem name?_congr (h : e.Numbered names) (h' : e'.Numbered names) (id : EventId) :
    e'.name? id = e.name? id := by
  rw [h.name?_eq, h'.name?_eq]

end Numbered

/-- The list in a text takes the place of the names, as it is or out of a file. -/
inductive Request.Imports (text : String) : Request → Prop
  | replace {names : List String} (h : parse text = .ok names) : Imports text (.replace names)
  | reload {path : String} {file : StoredFile} (hpath : EventList.Format.ofPath path = .json)
      (hread : file.read = .ok text) : Imports text (.reload path file)

theorem run_of_imports {text : String} {names : List String} (htext : parse text = .ok names)
    {r : Request} (h : r.Imports text) (other : EventNames) :
    other.run r = other.run (.replace names) := by
  cases h with
  | replace hnames =>
    rw [htext, Except.ok.injEq] at hnames
    rw [hnames]
  | @reload path file hpath hread =>
    have hlists : Lists path file names := by
      refine ⟨text, hread, ?_⟩
      rw [hpath]
      exact htext
    exact other.run_reload_of_lists hlists

/-- Whatever lists were taken before: the entries printed as an array in JSON are read back as the
names, in their order, and whichever names they take the place of, each name and each number is
then answered as it was. More generally a text of an array of records is read as the names in the
records, with any blanks in it, any members beside the names, and the names spelled in any way. -/
theorem exported_names_come_back (rs : List Request) :
    let e := empty.after rs
    parse e.exported = .ok e.names.toList ∧
      (∀ (other : EventNames) (r : Request), r.Imports e.exported →
        (other.run r).1 = .size e.size ∧
          (∀ name, (other.run r).2.find name = e.find name) ∧
          ∀ id, (other.run r).2.name? id = e.name? id) ∧
      ∀ (s : String) (vs : List Json) (names : List String), (Json.array vs).WrittenAs s →
        List.Forall₂ RecordOf vs names → parse s = .ok names := by
  have h := numbered_empty.after rs
  intro e
  have hnames : e.names.toList = (empty.taken rs).getLastD [] := h.toList_names
  rw [← hnames] at h
  refine ⟨e.parse_exported, ?_, fun s vs names ↦ parse_of_records⟩
  intro other r hr
  rw [run_of_imports e.parse_exported hr other, run]
  rcases other.replaceBy_ofList e.names.toList with ⟨-, e', he', heq⟩ | ⟨hnot, -⟩
  · rw [heq]
    refine ⟨?_, h.find_congr he', h.name?_congr he'⟩
    rw [h.size_eq]
  · exact absurd h.acceptable hnot

theorem exported_names_come_back_of_quoted :
    let e := empty.after [.replace ["\"near\"", "far"]]
    let text := String.ofList ['[', ' ', '[', '"', '\\', 'u', '0', '0', '6', '6', '"', ']', ']']
    parse e.exported = .ok ["\"near\"", "far"] ∧
      (empty.run (.replace ["\"near\"", "far"])).2.find "far" = e.find "far" ∧
      parse text = .ok ["f"] := by
  intro e text
  obtain ⟨hparse, himport, hrecords⟩ :=
    exported_names_come_back [.replace ["\"near\"", "far"]]
  have hacc : Acceptable ["\"near\"", "far"] := by decide
  have hnames : e.names.toList = ["\"near\"", "far"] := by
    obtain ⟨e', hok, he'⟩ := ofList_of_acceptable hacc
    have he : e = e' := by
      change (empty.replaceBy (ofList _)).2 = e'
      rw [hok, replaceBy]
    rw [he]
    exact he'.toList_names
  have hexported : parse e.exported = .ok ["\"near\"", "far"] := by
    rw [← hnames]
    exact hparse
  have hwritten : (Json.array [.array [.string [.char 'f']]]).WrittenAs text := by
    have hspace : ∀ c ∈ [' '], Text.isBlank c := by simp [Text.isBlank]
    have hcode := Token.WrittenAs.string
      [.code ⟨0, false⟩ ⟨0, false⟩ ⟨6, false⟩ ⟨6, false⟩]
    have hspells := Spells.cons noBlanks .openArray (.cons ⟨[' '], hspace⟩ .openArray
      (.cons noBlanks hcode (.cons noBlanks .closeArray
        (.cons noBlanks .closeArray (.nil noBlanks)))))
    rw [Json.WrittenAs, String.toList_ofList]
    exact hspells
  refine ⟨hexported, ?_, ?_⟩
  · exact (himport empty _ (.replace hexported)).2.1 "far"
  · exact hrecords text _ ["f"] hwritten (.cons (.array (.char 'f' .nil)) .nil)

end EventNames

end RobotBus
