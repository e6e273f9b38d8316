import RobotBus.Proofs.EventList.Nested

namespace RobotBus.EventList.Aesl

open RobotBus.Markup

/-- The tags directly inside the root that announce an event. -/
def events (d : Document) : List Tag :=
  (d.root.children.map Element.tag).filter (fun t ↦ t.name.chars = eventTag)

/-- Of several `name` attributes the first counts. -/
def announced (t : Tag) : Except Failure String :=
  match t.attributes.find? (fun a ↦ a.key.chars = nameKey) with
  | none => .error .missingName
  | some a => if a.value.all Spelling.isShort then .ok a.decoded else .error .malformedReference

theorem eventName_text (t : Tag) : eventName t.text = announced t := by
  rw [eventName, announced, tagAttributes_text, search_attributes]
  cases t.attributes.find? (fun a ↦ a.key.chars = nameKey) with
  | none => rfl
  | some a =>
    simp only [unescape_written]
    by_cases hshort : a.value.all Spelling.isShort
    · simp [hshort, Attribute.decoded]
    · simp [hshort]

/-- However deep a tree is, its own tag decides what it adds. -/
theorem eventTags_before (e : Element) (rest : Forest) {k : Nat} (h : 1 ≤ k) :
    eventTags k (e.before rest) = eventTags k (.empty e.tag.text .done) ++ eventTags k rest := by
  cases e with
  | empty tag => exact eventTags_empty k tag.text rest
  | pair tag inside pad =>
    rw [Element.before, eventTags_pair, eventTags_deep inside.forest (by omega), List.nil_append]
    rfl

theorem eventTags_child (t : Tag) :
    eventTags 1 (.empty t.text .done) =
      ([t].filter (fun t ↦ t.name.chars = eventTag)).map Tag.text := by
  by_cases hevent : t.name.chars = eventTag
  · simp [eventTags, Forest.tagsWithin, tagName_text, hevent]
  · simp [eventTags, Forest.tagsWithin, tagName_text, hevent]

theorem eventTags_children (c : Content) :
    eventTags 1 c.forest =
      ((c.elements.map Element.tag).filter (fun t ↦ t.name.chars = eventTag)).map Tag.text := by
  cases c with
  | done => rfl
  | aside a rest => exact eventTags_children rest
  | element e rest =>
    rw [Content.forest, eventTags_before e _ (Nat.le_refl 1), eventTags_child,
      eventTags_children rest, ← List.map_append, ← List.filter_append]
    rfl

theorem eventTags_root (d : Document) :
    eventTags 0 (d.root.before .done) = (events d).map Tag.text := by
  obtain ⟨prolog, root, epilog⟩ := d
  cases root with
  | empty tag => rfl
  | pair tag inside pad =>
    rw [Element.before, eventTags_pair, eventTags_children]
    exact List.append_nil _

theorem run_root (d : Document) :
    Reader.run .start d.root.tokens =
      ((events d).mapM announced).map (fun ns ↦ ⟨.start, ⟨0, true, ns.reverse⟩⟩) := by
  have hnames : (eventTags 0 (d.root.before .done)).mapM eventName = (events d).mapM announced := by
    rw [eventTags_root, List.mapM_map]
    exact congrArg (fun f ↦ (events d).mapM f) (funext eventName_text)
  have hrun := run_forest (d.root.before .done) .start .start
  rw [Element.tokens_before_done] at hrun
  change _ = ((eventTags 0 (d.root.before .done)).mapM eventName).map _ at hrun
  rw [Reader.start, hrun, hnames]
  have hroot : d.root.before .done ≠ .done := by
    cases d.root with
    | empty tag => exact nofun
    | pair tag inside pad => exact nofun
  simp [Gathered.add, Gathered.start, hroot]

/-- The reader's answer for a document is what the tags in its root announce. -/
theorem parse_document (d : Document) : parse d.text = (events d).mapM announced := by
  rw [parse, parseChars, tokens_document, run_root]
  cases (events d).mapM announced with
  | error f => rfl
  | ok ns => simp [Except.map, Gathered.finish]

/-- Markup of other dialects that is refused: a `>` inside an instruction, a `<` of its own inside a
document type, and a code with more digits than the largest character needs. -/
theorem parse_of_other_dialects :
    parse "<?p a>b?><a/>" = .error (.markup (.unfinished .instruction)) ∧
    parse "<!DOCTYPE a [<!ENTITY b '<'>]><a/>" = .error (.markup (.unfinished .documentType)) ∧
    parse "<a><event name='&#00000065;'/></a>" = .error .malformedReference := by
  decide +kernel

end RobotBus.EventList.Aesl
