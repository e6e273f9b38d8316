import Mathlib.Data.List.Nodup
import Mathlib.Data.List.Range
import RobotBus.Proofs.Bus.Service
import RobotBus.Proofs.FilterKeeper

namespace RobotBus.Bus

open scoped List

variable {ρ α : Type}

def afterAll (b : Bus ρ) (ds : List (Deed ρ)) : Bus ρ := ds.foldl after b

def along (f : Bus ρ → Deed ρ → List α) (b : Bus ρ) : List (Deed ρ) → List α
  | [] => []
  | d :: ds => f b d ++ along f (b.after d) ds

theorem afterAll_concat (b : Bus ρ) (ds : List (Deed ρ)) (d : Deed ρ) :
    b.afterAll (ds ++ [d]) = (b.afterAll ds).after d := List.foldl_append

theorem along_concat (f : Bus ρ → Deed ρ → List α) (b : Bus ρ) (ds : List (Deed ρ)) (d : Deed ρ) :
    along f b (ds ++ [d]) = along f b ds ++ f (b.afterAll ds) d := by
  induction ds generalizing b with
  | nil => exact List.append_nil _
  | cons d' ds ih => rw [List.cons_append, along, ih, along, List.append_assoc]; rfl

theorem leads_afterAll (b : Bus ρ) (ds : List (Deed ρ)) : Leads b (b.afterAll ds) := by
  induction ds using List.reverseRecOn with
  | nil => exact .refl
  | append_singleton ds d ih =>
    rw [afterAll_concat]
    exact .after d ih

/-- Each deed gives nothing and leaves the counter, or it gives what belongs to the counter and
counts on. -/
def Numbered (f : Bus ρ → Deed ρ → List α) (count : Bus ρ → Nat) (name : Nat → α) : Prop :=
  ∀ b d, f b d = [] ∧ count (b.after d) = count b ∨
    f b d = [name (count b)] ∧ count (b.after d) = count b + 1

/-- Of what is numbered, each number up to the counter has been given out once, in order. -/
theorem Numbered.along_eq {f : Bus ρ → Deed ρ → List α} {count : Bus ρ → Nat} {name : Nat → α}
    (h : Numbered f count name) (hstart : count start = 0) (ds : List (Deed ρ)) :
    along f start ds = (List.range (count (start.afterAll ds))).map name := by
  induction ds using List.reverseRecOn with
  | nil =>
    change [] = (List.range (count start)).map name
    rw [hstart]
    rfl
  | append_singleton ds d ih =>
    rw [along_concat, afterAll_concat, ih]
    rcases h (start.afterAll ds) d with ⟨hf, hcount⟩ | ⟨hf, hcount⟩
    · rw [hf, hcount, List.append_nil]
    · rw [hf, hcount, List.range_succ, List.map_append]
      rfl

def pathIn : Reply → List String
  | .ok [.path p] => [p]
  | _ => []

def made (b : Bus ρ) : Deed ρ → List String
  | .addFilter => [b.addFilter.1]
  | .call path interface method args | .submit path interface method args _ =>
    pathIn (b.call path interface method args).1
  | _ => []

/-- The paths that are returned, at once or with replies that were held back. -/
def returned (b : Bus ρ) : Deed ρ → List String
  | .addFilter => [b.addFilter.1]
  | .call path interface method args => pathIn (b.call path interface method args).1
  | .submit path interface method args target =>
    (b.submit path interface method args target).1.elim [] pathIn
  | .release => b.release.1.flatMap (fun e ↦ pathIn e.2)
  | _ => []

def withheld (b : Bus ρ) : List String := b.held.flatMap (fun e ↦ pathIn e.2)

theorem Outcome.numbered {b b' : Bus ρ} {path interface method : String} {args : List Value}
    {r : Reply} (h : Outcome b path interface method args r b') :
    pathIn r = [] ∧ b'.nextFilter = b.nextFilter ∨
      pathIn r = [pathOfFilter b.nextFilter] ∧ b'.nextFilter = b.nextFilter + 1 := by
  cases h with
  | refused => exact .inl ⟨rfl, rfl⟩
  | granted h =>
    cases h with
    | made => exact .inr ⟨rfl, rfl⟩
    | listed | read | wrote | sent | loaded | allowed | freed => exact .inl ⟨rfl, rfl⟩

theorem numbered_made : Numbered (made : Bus ρ → _) nextFilter pathOfFilter := by
  intro b d
  cases d with
  | connect scope =>
    simp only [after, connect]
    split <;> exact .inl ⟨rfl, rfl⟩
  | call path interface method args =>
    simp only [made, after, call_eq]
    exact (b.serve_outcome path interface method args).numbered
  | submit path interface method args target =>
    have h := (b.serve_outcome path interface method args).numbered
    simp only [made, after, call_eq, submit_eq]
    split <;> exact h
  | addFilter => exact .inr ⟨rfl, rfl⟩
  | disconnect | reach | watch | unwatch | listChildren | addNode | release | setServing
  | refuseConnections | refuseMethod | clearRefusals | setHolding | clearJournal =>
    exact .inl ⟨rfl, rfl⟩

/-- A path is returned when its filter is made, or held back until the replies are released. -/
theorem returned_perm (b : Bus ρ) (d : Deed ρ) :
    (returned b d ++ (b.after d).withheld).Perm (b.withheld ++ made b d) := by
  cases d with
  | call path interface method args =>
    rw [withheld, after, held_call]
    exact List.perm_append_comm
  | submit path interface method args target =>
    have hheld := (b.serve_served path interface method args).held.1
    simp only [returned, made, after, submit_eq, call_eq, withheld]
    cases b.holding with
    | true => simp
    | false =>
      simp only [Bool.false_eq_true, if_false, Option.elim_some, held_note, hheld]
      exact List.perm_append_comm
  | addFilter => exact List.perm_append_comm
  | release => exact List.Perm.refl _
  | connect | disconnect | reach | watch | unwatch | listChildren | addNode | setServing
  | refuseConnections | refuseMethod | clearRefusals | setHolding | clearJournal =>
    rw [withheld, held_after_eq b]
    · exact List.perm_append_comm
    · intro path interface method args target h
      cases h
    · intro h
      cases h

theorem returned_along_perm (b : Bus ρ) (ds : List (Deed ρ)) :
    (along returned b ds ++ (b.afterAll ds).withheld).Perm (b.withheld ++ along made b ds) := by
  induction ds generalizing b with
  | nil => exact List.perm_append_comm
  | cons d ds ih =>
    calc along returned b (d :: ds) ++ ((b.after d).afterAll ds).withheld
      _ = returned b d ++ (along returned (b.after d) ds ++ ((b.after d).afterAll ds).withheld) :=
        List.append_assoc ..
      _ ~ returned b d ++ ((b.after d).withheld ++ along made (b.after d) ds) :=
        (ih (b.after d)).append_left _
      _ = (returned b d ++ (b.after d).withheld) ++ along made (b.after d) ds :=
        (List.append_assoc ..).symm
      _ ~ (b.withheld ++ made b d) ++ along made (b.after d) ds :=
        (returned_perm b d).append_right _
      _ = b.withheld ++ along made b (d :: ds) := List.append_assoc ..

def tokens (b : Bus ρ) : Deed ρ → List Nat
  | .watch path interface signal listener => [(b.watch path interface signal listener).1]
  | _ => []

theorem numbered_tokens : Numbered (tokens : Bus ρ → _) nextToken id := by
  intro b d
  cases d with
  | connect scope =>
    simp only [after, connect]
    split <;> exact .inl ⟨rfl, rfl⟩
  | call path interface method args =>
    have h := (serve_served (b.note (.call path method)) path interface method args).watches.2
    exact .inl ⟨rfl, h⟩
  | submit path interface method args target =>
    have h := (serve_served (b.note (.submit path method)) path interface method args).watches.2
    simp only [after, submit]
    split <;> exact .inl ⟨rfl, h⟩
  | watch => exact .inr ⟨rfl, rfl⟩
  | disconnect | reach | addFilter | unwatch | listChildren | addNode | release | setServing
  | refuseConnections | refuseMethod | clearRefusals | setHolding | clearJournal =>
    exact .inl ⟨rfl, rfl⟩

theorem Sound.pairwise_keys {b : Bus ρ} (hs : b.Sound) : b.filters.keys.Pairwise (· < ·) :=
  List.pairwise_map.mpr hs.filters_sorted

theorem Sound.liveFilter?_pathOfFilter {b : Bus ρ} (hs : b.Sound)
    (hfew : b.nextFilter < filterBound) {n : Nat} (hn : b.filters.contains n = true) :
    b.liveFilter? (pathOfFilter n) = some n := by
  have hlt := (hs.filter_lt n hn).trans hfew
  rw [liveFilter?_eq_some_iff, numberInPath?_pathOfFilter, if_pos hlt]
  exact ⟨rfl, (Directory.contains_eq_true_iff _ _).mp hn⟩

theorem Sound.exists_children_iff {b : Bus ρ} (hs : b.Sound) :
    (∃ names, b.children filtersPath = .ok names) ↔ 0 < b.nextFilter := by
  rw [children_filtersPath, hs.had_filter]
  by_cases h : 0 < b.nextFilter
  · simp [h]
  · simp [h]

theorem children_eq_ok {b : Bus ρ} {names : List String}
    (h : b.children filtersPath = .ok names) : names = b.filters.keys.map toString := by
  rw [children_filtersPath] at h
  split at h
  · exact (Except.ok.inj h).symm
  · cases h

/-- In any run that makes no more filters than there are numbers, no path is returned twice, at once
or with a reply that was held back, and no token is. The filters that were made have the numbers up
to the counter, so that every live one is below it. There is something to list as soon as a filter
was made; then the live filters are listed in the order of their numbers, under names that lead to
them. -/
theorem never_given_out_twice (ds : List (Deed ρ))
    (hfew : (along made (start : Bus ρ) ds).length < filterBound) :
    let b : Bus ρ := start.afterAll ds
    (along returned start ds).Nodup ∧ (along tokens (start : Bus ρ) ds).Nodup ∧
      along returned start ds ++ b.withheld ~ along made start ds ∧
      along made (start : Bus ρ) ds = (List.range b.nextFilter).map pathOfFilter ∧
      (∀ n, b.filters.contains n = true → n < b.nextFilter) ∧
      ((∃ names, (b.listChildren filtersPath).1 = .ok names) ↔
        along made (start : Bus ρ) ds ≠ []) ∧
      ∀ names, (b.listChildren filtersPath).1 = .ok names →
        ∃ ns : List Nat, names = ns.map toString ∧ ns.Pairwise (· < ·) ∧
          (∀ n, n ∈ ns ↔ b.filters.contains n = true) ∧
          ∀ n ∈ ns, filtersPath ++ "/" ++ toString n ∈ along made (start : Bus ρ) ds ∧
            b.liveFilter? (filtersPath ++ "/" ++ toString n) = some n := by
  intro b
  have hs : b.Sound := Reachable.sound (leads_afterAll start ds)
  -- both parts are read off the counters; what is withheld was made, so it is not returned twice
  have hmade : along made start ds = (List.range b.nextFilter).map pathOfFilter :=
    numbered_made.along_eq rfl ds
  have htokens : along tokens start ds = (List.range b.nextToken).map id :=
    numbered_tokens.along_eq rfl ds
  have hperm : along returned start ds ++ b.withheld ~ along made start ds :=
    returned_along_perm start ds
  have hdistinct : (along made (start : Bus ρ) ds).Nodup := by
    rw [hmade]
    exact List.nodup_range.map pathOfFilter_injective
  have hlength : (along made (start : Bus ρ) ds).length = b.nextFilter := by
    rw [hmade, List.length_map, List.length_range]
  refine ⟨?_, ?_, hperm, hmade, hs.filter_lt, ?_, ?_⟩
  · exact (List.nodup_append.mp (hperm.nodup_iff.mpr hdistinct)).1
  · rw [htokens, List.map_id]
    exact List.nodup_range
  · change (∃ names, b.children filtersPath = .ok names) ↔ _
    rw [hs.exists_children_iff, ← hlength, List.length_pos_iff]
  · intro names hnames
    refine ⟨b.filters.keys, children_eq_ok hnames, hs.pairwise_keys, Directory.mem_keys_iff _, ?_⟩
    intro n hn
    have hlive := (Directory.mem_keys_iff _ _).mp hn
    refine ⟨?_, hs.liveFilter?_pathOfFilter (hlength ▸ hfew) hlive⟩
    rw [hmade]
    exact List.mem_map_of_mem (List.mem_range.mpr (hs.filter_lt n hlive))

/-- The first filter is freed and its watch removed; the reply with the path of the second comes
after that of the third. -/
theorem never_given_out_twice_of_late_reply :
    let watch : Deed Unit := .watch "/events_filters/0" filterInterface eventSignal (.log "a")
    let ds : List (Deed Unit) :=
      [.addFilter, watch, .setHolding true,
        .submit networkPath networkInterface "CreateEventFilter" [] (),
        .call "/events_filters/0" filterInterface "Free" [], .unwatch 0, watch, .addFilter,
        .release]
    (along made start ds).length < filterBound ∧
      along returned start ds = ["/events_filters/0", "/events_filters/2", "/events_filters/1"] ∧
      along tokens start ds = [0, 1] ∧
      (along returned start ds).Nodup ∧
      ((start.afterAll ds).listChildren filtersPath).1 = .ok ["1", "2"] ∧
      (start.afterAll ds).liveFilter? (filtersPath ++ "/" ++ toString 1) = some 1 := by
  intro watch ds
  have hfew : (along made start ds).length < filterBound := by decide +kernel
  have hnames : ((start.afterAll ds).listChildren filtersPath).1 = .ok ["1", "2"] := by
    decide +kernel
  obtain ⟨hreturned, -, -, -, -, -, hlisted⟩ := never_given_out_twice ds hfew
  obtain ⟨ns, -, -, hmem, hlive⟩ := hlisted _ hnames
  have hone : (start.afterAll ds).filters.contains 1 = true := by decide +kernel
  exact ⟨hfew, by decide +kernel, by decide +kernel, hreturned, hnames,
    (hlive 1 ((hmem 1).mpr hone)).2⟩

end RobotBus.Bus
