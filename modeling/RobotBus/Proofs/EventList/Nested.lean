import RobotBus.EventList.Aesl
import RobotBus.Proofs.Markup.Forest

namespace RobotBus.EventList.Aesl

open RobotBus.Markup

variable {g g' : Gathered}

theorem addName_frame {t : List Char} (h : g.addName t = .ok g') :
    g'.depth = g.depth ∧ g'.sawRoot = g.sawRoot := by
  unfold Gathered.addName at h
  split at h
  · split at h
    · cases h
      exact ⟨rfl, rfl⟩
    · cases h
  · cases h
    exact ⟨rfl, rfl⟩

theorem step_close (name : List Char) (opened : List (List Char)) (g : Gathered) :
    Reader.step ⟨⟨name :: opened⟩, g⟩ (.close name) =
      .ok ⟨⟨opened⟩, { g with depth := g.depth - 1 }⟩ := by
  simp [Reader.step, Nesting.step, Gathered.step]

theorem run_one (r : Reader) (t : Token) : r.run [t] = r.step t := by
  rw [Reader.run]
  cases r.step t with
  | error e => rfl
  | ok r' => rfl

namespace Reader

theorem nesting_of_step {r r' : Reader} {t : Token} (h : r.step t = .ok r') :
    r.nesting.step t = .ok r'.nesting ∧ r.gathered.step t = .ok r'.gathered := by
  unfold step at h
  cases hn : r.nesting.step t with
  | error f =>
    rw [hn] at h
    cases h
  | ok n =>
    cases hg : r.gathered.step t with
    | error e =>
      simp only [hn, hg] at h
      cases h
    | ok g =>
      simp only [hn, hg] at h
      cases h
      exact ⟨rfl, rfl⟩

theorem run_cons_iff {r r' : Reader} {t : Token} {ts : List Token} :
    r.run (t :: ts) = .ok r' ↔ ∃ r₁, r.step t = .ok r₁ ∧ r₁.run ts = .ok r' := by
  rw [run]
  cases r.step t with
  | error e => simp
  | ok r₁ => simp

theorem nesting_of_run {r r' : Reader} {ts : List Token} (h : r.run ts = .ok r') :
    ts.foldlM Nesting.step r.nesting = .ok r'.nesting := by
  induction ts generalizing r with
  | nil =>
    cases h
    rfl
  | cons t ts ih =>
    obtain ⟨r₁, ht, hts⟩ := run_cons_iff.mp h
    rw [List.foldlM_cons, (nesting_of_step ht).1]
    exact ih hts

/-- The depth counts what is open. -/
def Level (r : Reader) : Prop := r.gathered.depth = r.nesting.opened.length

theorem Level.step {r r' : Reader} (hl : r.Level) {t : Token} (h : r.step t = .ok r') :
    r'.Level := by
  obtain ⟨⟨opened⟩, g⟩ := r
  obtain ⟨⟨opened'⟩, g'⟩ := r'
  obtain ⟨hn, hg⟩ := nesting_of_step h
  cases t with
  | start tag =>
    cases hn
    simp only [Gathered.step] at hg
    split at hg
    · next g₁ hadd =>
      cases hg
      exact congrArg (· + 1) ((addName_frame hadd).1.trans hl)
    · cases hg
  | empty tag =>
    cases hn
    simp only [Gathered.step] at hg
    split at hg
    · next g₁ hadd =>
      cases hg
      exact (addName_frame hadd).1.trans hl
    · cases hg
  | close name =>
    obtain rfl : opened = name :: opened' := Nesting.step_close_iff.mp hn
    cases hg
    exact congrArg (· - 1) hl

theorem Level.run {r r' : Reader} (hl : r.Level) {ts : List Token} (h : r.run ts = .ok r') :
    r'.Level := by
  induction ts generalizing r with
  | nil =>
    cases h
    exact hl
  | cons t ts ih =>
    obtain ⟨r₁, ht, hts⟩ := run_cons_iff.mp h
    exact ih (hl.step ht) hts

theorem Level.close {r r' : Reader} (hl : r.Level) {name : List Char}
    (h : r.step (.close name) = .ok r') : r'.gathered.depth + 1 = r.gathered.depth := by
  have hopened := Nesting.step_close_iff.mp (nesting_of_step h).1
  rw [hl.step h, hl, hopened]
  rfl

theorem level_start : start.Level := rfl

theorem opened_of_run {r : Reader} {us : List Token} (h : start.run us = .ok r) :
    ∃ tags, Opened us tags ∧ r.nesting.opened = tags.map tagName ∧
      r.gathered.depth = tags.length := by
  obtain ⟨tags, hopened, hnames⟩ := foldlM_nesting_eq_ok_iff.mp (nesting_of_run h)
  have hlevel : r.gathered.depth = r.nesting.opened.length := level_start.run h
  exact ⟨tags, hopened, hnames, by rw [hlevel, hnames, List.length_map]⟩

end Reader

/-- The tags of events with one element around them, when there are so many around the whole
forest. -/
def eventTags (around : Nat) (f : Forest) : List (List Char) :=
  ((f.tagsWithin around).filter (fun e ↦ e.1 = 1 ∧ tagName e.2 = eventTag)).map Prod.snd

theorem eventTags_empty (k : Nat) (tag : List Char) (rest : Forest) :
    eventTags k (.empty tag rest) = eventTags k (.empty tag .done) ++ eventTags k rest := by
  simp only [eventTags, Forest.tagsWithin, ← List.map_append, ← List.filter_append]
  rfl

theorem eventTags_pair (k : Nat) (tag : List Char) (inside rest : Forest) :
    eventTags k (.pair tag inside rest) =
      eventTags k (.empty tag .done) ++ (eventTags (k + 1) inside ++ eventTags k rest) := by
  simp only [eventTags, Forest.tagsWithin, ← List.map_append, ← List.filter_append]
  rfl

theorem eventTags_deep (f : Forest) {k : Nat} (h : 2 ≤ k) : eventTags k f = [] := by
  have hself : ∀ {k : Nat} (tag : List Char), 2 ≤ k → eventTags k (.empty tag .done) = [] := by
    intro k tag h
    have hk : k ≠ 1 := by omega
    simp [eventTags, Forest.tagsWithin, hk]
  induction f generalizing k with
  | done => rfl
  | empty tag rest ih => rw [eventTags_empty, hself tag h, ih h, List.nil_append]
  | pair tag inside rest ihinside ihrest =>
    rw [eventTags_pair, hself tag h, ihinside (by omega), ihrest h]
    rfl

def Gathered.add (g : Gathered) (f : Forest) (names : List String) : Gathered :=
  { g with
    sawRoot := g.sawRoot || f ≠ .done
    names := names.reverse ++ g.names }

theorem addName_eq (g : Gathered) (tag : List Char) :
    g.addName tag = ((eventTags g.depth (.empty tag .done)).mapM eventName).map
      (fun names ↦ { g with names := names.reverse ++ g.names }) := by
  by_cases h : g.depth = 1 ∧ tagName tag = eventTag
  · have htags : eventTags g.depth (.empty tag .done) = [tag] := by
      simp [eventTags, Forest.tagsWithin, h]
    rw [Gathered.addName, if_pos h, htags, List.mapM_cons]
    cases eventName tag with
    | error e => rfl
    | ok name => rfl
  · have htags : eventTags g.depth (.empty tag .done) = [] := by
      simp [eventTags, Forest.tagsWithin, h]
    rw [Gathered.addName, if_neg h, htags]
    rfl

/-- A forest leaves open what was open before it, and the names of its events come out in order; the
first failure is the result. -/
theorem run_forest (f : Forest) (n : Nesting) (g : Gathered) :
    Reader.run ⟨n, g⟩ f.tokens =
      ((eventTags g.depth f).mapM eventName).map (fun names ↦ ⟨n, g.add f names⟩) := by
  induction f generalizing n g with
  | done =>
    have hg : g.add .done [] = g := by simp [Gathered.add]
    change .ok ⟨n, g⟩ = Except.ok (Reader.mk n (g.add .done []))
    rw [hg]
  | empty tag rest ih =>
    rw [Forest.tokens, Reader.run, Reader.step, Nesting.step, Gathered.step, addName_eq,
      eventTags_empty g.depth tag rest, List.mapM_append]
    cases (eventTags g.depth (.empty tag .done)).mapM eventName with
    | error e => rfl
    | ok ns =>
      simp only [Except.map, ih]
      cases (eventTags g.depth rest).mapM eventName with
      | error e => rfl
      | ok ns' =>
        change Except.ok _ = Except.ok _
        simp [Gathered.add]
  | pair tag inside rest ihinside ihrest =>
    rw [Forest.tokens, Reader.run, Reader.step, Nesting.step, Gathered.step, addName_eq,
      eventTags_pair, List.mapM_append, List.mapM_append]
    cases (eventTags g.depth (.empty tag .done)).mapM eventName with
    | error e => rfl
    | ok ns =>
      simp only [Except.map, Reader.run_append, ihinside]
      cases (eventTags (g.depth + 1) inside).mapM eventName with
      | error e => rfl
      | ok ns' =>
        -- the end tag takes back the level that the start tag has added, and the rest begins there
        simp only [Except.map, Except.bind, Reader.run, step_close, Gathered.add, ihrest,
          Nat.add_sub_cancel]
        cases (eventTags g.depth rest).mapM eventName with
        | error e => rfl
        | ok ns'' =>
          change Except.ok _ = Except.ok _
          simp

variable {s : String} {names : List String}

theorem parse_of_tokens {f : Forest} (h : tokens s.toList = (f.tokens, none)) :
    parse s = if f = .done then .error .noRoot else (eventTags 0 f).mapM eventName := by
  have hrun : Reader.start.run f.tokens =
      ((eventTags 0 f).mapM eventName).map (fun ns ↦ ⟨.start, Gathered.start.add f ns⟩) :=
    run_forest f .start .start
  rw [parse, parseChars, h, hrun]
  by_cases hf : f = .done
  · subst hf
    rfl
  · rw [if_neg hf]
    cases (eventTags 0 f).mapM eventName with
    | error e => rfl
    | ok ns => simp [Except.map, Gathered.finish, Gathered.add, Gathered.start, hf]

theorem exists_forest_of_parse (h : parse s = .ok names) :
    ∃ f : Forest, tokens s.toList = (f.tokens, none) := by
  rw [parse, parseChars] at h
  cases hr : Reader.start.run (tokens s.toList).1 with
  | error e =>
    rw [hr] at h
    cases h
  | ok r =>
    rw [hr] at h
    cases hfault : (tokens s.toList).2 with
    | some f =>
      rw [hfault] at h
      cases h
    | none =>
      rw [hfault] at h
      change r.gathered.finish = .ok names at h
      obtain ⟨tags, hopened, -, hlength⟩ := Reader.opened_of_run hr
      have hdepth : r.gathered.depth = 0 := by
        unfold Gathered.finish at h
        split at h
        · split at h
          · assumption
          · cases h
        · cases h
      obtain rfl : tags = [] := List.eq_nil_of_length_eq_zero (hlength.symm.trans hdepth)
      obtain ⟨f, hf⟩ := exists_forest_of_opened hopened
      exact ⟨f, Prod.ext hf hfault⟩

theorem mapM_eventName_eq_ok_iff {tags : List (List Char)} :
    tags.mapM eventName = .ok names ↔ tags.map eventName = names.map .ok := by
  induction tags generalizing names with
  | nil =>
    cases names with
    | nil => exact ⟨fun _ ↦ rfl, fun _ ↦ rfl⟩
    | cons name names => exact ⟨nofun, nofun⟩
  | cons tag tags ih =>
    rw [List.mapM_cons, List.map_cons]
    cases eventName tag with
    | error e => cases names <;> exact ⟨nofun, nofun⟩
    | ok name =>
      constructor
      · cases htags : tags.mapM eventName with
        | error e => exact nofun
        | ok ns =>
          rintro ⟨⟩
          rw [ih.mp htags]
          rfl
      · cases names with
        | nil => exact nofun
        | cons name' names =>
          intro h
          obtain ⟨⟨⟩, hrest⟩ := List.cons.inj h
          rw [ih.mpr hrest]
          rfl

/-- The depth is the number of start tags that are open, at every token of every text, and there is
one to subtract whenever an end tag is matched. Hence the answer is a list of names exactly if the
text comes to its end without a fault, its end tags match its start tags, there is an element, and
each event with exactly one element around it has a name; those are the names, as they are written
one after the other. -/
theorem depth_is_nesting (s : String) :
    (∀ us r, us <+: (tokens s.toList).1 → Reader.start.run us = .ok r →
      (∃ tags, Opened us tags ∧ r.nesting.opened = tags.map tagName ∧
        r.gathered.depth = tags.length) ∧
      ∀ name r', r.step (.close name) = .ok r' → r'.gathered.depth + 1 = r.gathered.depth) ∧
    ∀ names, parse s = .ok names ↔
      ∃ f : Forest, tokens s.toList = (f.tokens, none) ∧ f ≠ .done ∧
        (eventTags 0 f).map eventName = names.map .ok := by
  constructor
  · intro us r _ hr
    exact ⟨Reader.opened_of_run hr, fun _ _ ↦ (Reader.level_start.run hr).close⟩
  · intro names
    constructor
    · intro h
      obtain ⟨f, hf⟩ := exists_forest_of_parse h
      rw [parse_of_tokens hf] at h
      by_cases hdone : f = .done
      · rw [if_pos hdone] at h
        cases h
      · rw [if_neg hdone] at h
        exact ⟨f, hf, hdone, mapM_eventName_eq_ok_iff.mp h⟩
    · rintro ⟨f, hf, hdone, hnames⟩
      rw [parse_of_tokens hf, if_neg hdone]
      exact mapM_eventName_eq_ok_iff.mpr hnames

/-- Of two roots each has its own event; an event inside an event is none. -/
theorem depth_is_nesting_of_two_roots :
    let text := "<a><event name='x'><event/></event></a><event/><b><event name='y'/></b>"
    let before : List Token := [.start "a".toList, .start "event name='x'".toList]
    let r : Reader := ⟨⟨["event".toList, "a".toList]⟩, ⟨2, true, ["x"]⟩⟩
    before <+: (tokens text.toList).1 ∧ Reader.start.run before = .ok r ∧
      (∃ tags, Opened before tags ∧ tags.length = 2) ∧ parse text = .ok ["x", "y"] := by
  intro text before r
  have hbefore : before <+: (tokens text.toList).1 := by decide +kernel
  have hrun : Reader.start.run before = .ok r := by decide +kernel
  let f : Forest :=
    .pair "a".toList (.pair "event name='x'".toList (.empty "event".toList .done) .done)
      (.empty "event".toList (.pair "b".toList (.empty "event name='y'".toList .done) .done))
  have hf : tokens text.toList = (f.tokens, none) := by decide +kernel
  have hnames : (eventTags 0 f).map eventName = ["x", "y"].map .ok := by decide +kernel
  obtain ⟨hdepth, hparse⟩ := depth_is_nesting text
  obtain ⟨⟨tags, hopened, -, hlength⟩, -⟩ := hdepth before r hbefore hrun
  exact ⟨hbefore, hrun, ⟨tags, hopened, hlength.symm⟩, (hparse _).mpr ⟨f, hf, nofun, hnames⟩⟩

end RobotBus.EventList.Aesl
