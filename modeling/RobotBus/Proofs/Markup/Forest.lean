import Mathlib.Data.List.Induction
import RobotBus.Markup.Nesting
import RobotBus.Proofs.Markup.Attributes
import RobotBus.Proofs.Markup.Elements

namespace RobotBus.Markup

/-- Elements one after the other, by their tags; what is inside an element comes before the rest. -/
inductive Forest
  | done
  | empty (tag : List Char) (rest : Forest)
  | pair (tag : List Char) (inside rest : Forest)
deriving DecidableEq, Repr

namespace Forest

def tokens : Forest → List Token
  | done => []
  | empty tag rest => .empty tag :: rest.tokens
  | pair tag inside rest => .start tag :: (inside.tokens ++ .close (tagName tag) :: rest.tokens)

/-- The tags in the order in which they are written, each with the number of elements around it,
when there are so many around all of them. -/
def tagsWithin (around : Nat) : Forest → List (Nat × List Char)
  | done => []
  | empty tag rest => (around, tag) :: rest.tagsWithin around
  | pair tag inside rest =>
    (around, tag) :: (inside.tagsWithin (around + 1) ++ rest.tagsWithin around)

def append : Forest → Forest → Forest
  | done, g => g
  | empty tag rest, g => .empty tag (rest.append g)
  | pair tag inside rest, g => .pair tag inside (rest.append g)

@[simp] theorem tokens_append (f g : Forest) : (f.append g).tokens = f.tokens ++ g.tokens := by
  induction f with
  | done => rfl
  | empty tag rest ih => rw [append, tokens, ih]; rfl
  | pair tag inside rest _ ih => simp [append, tokens, ih]

end Forest

/-- The start tags that are open after some tokens, innermost first. -/
inductive Opened : List Token → List (List Char) → Prop
  | none (f : Forest) : Opened f.tokens []
  | start {ts : List Token} {tags : List (List Char)} (h : Opened ts tags) (tag : List Char)
      (f : Forest) : Opened (ts ++ .start tag :: f.tokens) (tag :: tags)

variable {ts : List Token} {tag : List Char} {tags : List (List Char)} {n n' : Nesting}

theorem Opened.append (h : Opened ts tags) (g : Forest) : Opened (ts ++ g.tokens) tags := by
  cases h with
  | none f =>
    rw [← Forest.tokens_append]
    exact .none _
  | start h tag f =>
    rw [List.append_assoc, List.cons_append, ← Forest.tokens_append]
    exact .start h tag _

theorem Opened.close (h : Opened ts (tag :: tags)) :
    Opened (ts ++ [.close (tagName tag)]) tags := by
  cases h with
  | @start ts _ h _ f =>
    have hpair := h.append (.pair tag f .done)
    simpa [Forest.tokens] using hpair

theorem exists_forest_of_opened (h : Opened ts []) : ∃ f : Forest, ts = f.tokens := by
  cases h with
  | none f => exact ⟨f, rfl⟩

theorem Nesting.step_close_iff {name : List Char} :
    n.step (.close name) = .ok n' ↔ n.opened = name :: n'.opened := by
  obtain ⟨opened⟩ := n
  obtain ⟨opened'⟩ := n'
  cases opened with
  | nil => simp [step]
  | cons top rest =>
    by_cases hname : top = name
    · simp [step, hname]
    · simp [step, hname]

theorem Forest.foldlM_tokens (f : Forest) (n : Nesting) :
    f.tokens.foldlM Nesting.step n = .ok n := by
  induction f generalizing n with
  | done => rfl
  | empty tag rest ih => exact ih n
  | pair tag inside rest ihinside ihrest =>
    have hclose : Nesting.step ⟨tagName tag :: n.opened⟩ (.close (tagName tag)) = .ok n := by
      rw [Nesting.step_close_iff]
    rw [tokens, List.foldlM_cons]
    change (inside.tokens ++ .close (tagName tag) :: rest.tokens).foldlM Nesting.step
      ⟨tagName tag :: n.opened⟩ = _
    rw [List.foldlM_append, ihinside]
    change List.foldlM Nesting.step _ (.close (tagName tag) :: rest.tokens) = _
    rw [List.foldlM_cons, hclose]
    exact ihrest n

theorem Opened.step (h : Opened ts tags) (hnames : n.opened = tags.map tagName) {t : Token}
    (ht : n.step t = .ok n') :
    ∃ tags', Opened (ts ++ [t]) tags' ∧ n'.opened = tags'.map tagName := by
  cases t with
  | start tag =>
    cases ht
    exact ⟨tag :: tags, .start h tag .done, congrArg (tagName tag :: ·) hnames⟩
  | empty tag =>
    cases ht
    exact ⟨tags, h.append (.empty tag .done), hnames⟩
  | close name =>
    rw [Nesting.step_close_iff, hnames] at ht
    cases tags with
    | nil => cases ht
    | cons tag tags =>
      obtain ⟨rfl, hrest⟩ := List.cons.inj ht
      exact ⟨tags, h.close, hrest.symm⟩

theorem Opened.foldlM_eq (h : Opened ts tags) :
    ts.foldlM Nesting.step .start = .ok ⟨tags.map tagName⟩ := by
  induction h with
  | none f => exact f.foldlM_tokens .start
  | @start ts tags _ tag f ih =>
    rw [List.foldlM_append, ih]
    change List.foldlM Nesting.step ⟨tags.map tagName⟩ (.start tag :: f.tokens) = _
    rw [List.foldlM_cons]
    exact f.foldlM_tokens ⟨tagName tag :: tags.map tagName⟩

/-- The names that the check keeps are those of the start tags that are open. -/
theorem foldlM_nesting_eq_ok_iff :
    ts.foldlM Nesting.step .start = .ok n ↔
      ∃ tags, Opened ts tags ∧ n.opened = tags.map tagName := by
  constructor
  · induction ts using List.reverseRecOn generalizing n with
    | nil =>
      rintro ⟨⟩
      exact ⟨[], .none .done, rfl⟩
    | append_singleton ts t ih =>
      intro h
      rw [List.foldlM_append] at h
      cases hn : ts.foldlM Nesting.step .start with
      | error f =>
        rw [hn] at h
        cases h
      | ok n₁ =>
        obtain ⟨tags, hopened, hnames⟩ := ih hn
        rw [hn] at h
        change n₁.step t >>= pure = .ok n at h
        rw [bind_pure] at h
        exact hopened.step hnames h
  · rintro ⟨tags, hopened, hnames⟩
    rw [hopened.foldlM_eq, ← hnames]

mutual

def Element.before (rest : Forest) : Element → Forest
  | .empty tag => .empty tag.text rest
  | .pair tag inside _ => .pair tag.text inside.forest rest

def Content.forest : Content → Forest
  | .done => .done
  | .aside _ rest => rest.forest
  | .element e rest => e.before rest.forest

end

mutual

theorem Element.tokens_before (e : Element) (rest : Forest) :
    (e.before rest).tokens = e.tokens ++ rest.tokens := by
  cases e with
  | empty tag => rfl
  | pair tag inside pad =>
    rw [Element.before, Forest.tokens, inside.tokens_forest, tagName_text, Element.tokens,
      List.cons_append, List.append_assoc]
    rfl

theorem Content.tokens_forest (c : Content) : c.forest.tokens = c.tokens := by
  cases c with
  | done => rfl
  | aside a rest => exact rest.tokens_forest
  | element e rest => rw [Content.forest, e.tokens_before, rest.tokens_forest, Content.tokens]

end

theorem Element.tokens_before_done (e : Element) : (e.before .done).tokens = e.tokens := by
  rw [e.tokens_before, Forest.tokens, List.append_nil]

end RobotBus.Markup
