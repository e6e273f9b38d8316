import RobotBus.Proofs.FilterKeeper
import RobotBus.Session.Basic

namespace RobotBus.FilterKeeper

open Bus

def owns (k : FilterKeeper) (n : Nat) : Bool := k.filter = some (pathOfFilter n)

/-- The live filters that are not the keeper's own, in the order in which they are listed. -/
def others (k : FilterKeeper) (b : Bus ReplyTarget) : List Nat :=
  b.filters.keys.filter (fun n ↦ !k.owns n)

def freeing (ns : List Nat) : List JournalEntry :=
  ns.flatMap (fun n ↦ [.reach (pathOfFilter n), .call (pathOfFilter n) "Free"])

theorem owns_eq_true_iff (k : FilterKeeper) (n : Nat) :
    k.owns n = true ↔ k.filter = some (pathOfFilter n) := decide_eq_true_iff

theorem mem_others_iff (k : FilterKeeper) (b : Bus ReplyTarget) (n : Nat) :
    n ∈ k.others b ↔ b.filters.contains n = true ∧ k.filter ≠ some (pathOfFilter n) := by
  simp [others, Directory.mem_keys_iff, owns]

theorem others_ascend (k : FilterKeeper) {b : Bus ReplyTarget} (hb : b.Sound) :
    (k.others b).Pairwise (· < ·) :=
  (List.pairwise_map.mpr hb.filters_sorted).filter _

theorem freeOne_live {b : Bus ReplyTarget} {n : Nat} (hno : b.refusal? "Free" = none)
    (hlive : b.filters.contains n = true) (hlt : n < filterBound) :
    freeOne b (pathOfFilter n) =
      (.ok true, { b with
        filters := b.filters.erase n
        journal := b.journal ++ freeing [n] }) := by
  have hserving : b.serving = true := ((refusal?_eq_none_iff b _).mp hno).1
  have hno' : (b.note (.reach (pathOfFilter n))).refusal? "Free" = none := hno
  have hl : (b.note (.reach (pathOfFilter n))).liveFilter? (pathOfFilter n) = some n := by
    rw [liveFilter?_eq_some_iff, numberInPath?_pathOfFilter, if_pos hlt]
    exact ⟨rfl, (Directory.contains_eq_true_iff _ n).mp hlive⟩
  simp only [freeOne, Line.reach, Bus.reach, if_pos hserving, Line.call, call_free, hno', hl]
  simp [note, freeing]

theorem freeOne_refused {b : Bus ReplyTarget} {f : Fault} (hf : b.refusal? "Free" = some f)
    (hu : f.isUnknownObject = false) (path : String) :
    ∃ js, freeOne b path =
      (.error (.refusedCall "Free" f), { b with journal := b.journal ++ js }) := by
  by_cases hserving : b.serving = true
  · have hf' : (b.note (.reach path)).refusal? "Free" = some f := hf
    refine ⟨[.reach path, .call path "Free"], ?_⟩
    simp only [freeOne, Line.reach, Bus.reach, if_pos hserving, Line.call, call_free, hf', hu]
    simp [note]
  · have hgone : f = .serviceUnknown serviceName := by simpa [refusal?, hserving] using hf.symm
    refine ⟨[.reach path], ?_⟩
    simp only [freeOne, Line.reach, Bus.reach, if_neg hserving, hgone]
    rfl

theorem sweepEach_eq (k : FilterKeeper) (b : Bus ReplyTarget) (freed : Nat) {ns : List Nat}
    (hno : b.refusal? "Free" = none) (hnd : ns.Nodup)
    (hlive : ∀ n ∈ ns, b.filters.contains n = true) (hlt : ∀ n ∈ ns, n < filterBound) :
    k.sweepEach b freed (ns.map toString) =
      (.ok (freed + (ns.filter (fun n ↦ !k.owns n)).length), { b with
        filters := b.filters.keep (fun n ↦ decide (n ∉ ns) || k.owns n)
        journal := b.journal ++ freeing (ns.filter (fun n ↦ !k.owns n)) }) := by
  induction ns generalizing b freed with
  | nil => simp [sweepEach, freeing, Directory.keep]
  | cons n ns ih =>
    obtain ⟨hn, hnd⟩ := List.nodup_cons.mp hnd
    have hlive' : ∀ m ∈ ns, b.filters.contains m = true :=
      fun m hm ↦ hlive m (List.mem_cons_of_mem _ hm)
    have hlt' : ∀ m ∈ ns, m < filterBound := fun m hm ↦ hlt m (List.mem_cons_of_mem _ hm)
    rw [sweepEach_cons]
    by_cases hown : k.filter = some (pathOfFilter n)
    · -- the keeper's own filter is passed over
      have howns : k.owns n = true := (k.owns_eq_true_iff n).mpr hown
      have hkeep : (fun m ↦ decide (m ∉ n :: ns) || k.owns m) =
          fun m ↦ decide (m ∉ ns) || k.owns m := by
        funext m
        by_cases hm : m = n
        · simp [hm, howns]
        · simp [hm]
      rw [if_pos hown, ih b freed hno hnd hlive' hlt', hkeep]
      simp [howns]
    · -- the filter goes, and the others are as live on what is left as they were
      have howns : k.owns n = false := by simpa [owns] using hown
      have hlive'' : ∀ m ∈ ns, (b.filters.erase n).contains m = true := by
        intro m hm
        have hne : n ≠ m := fun he ↦ hn (he ▸ hm)
        simp [hne, hlive' m hm]
      have hkeep : (b.filters.erase n).keep (fun m ↦ decide (m ∉ ns) || k.owns m) =
          b.filters.keep (fun m ↦ decide (m ∉ n :: ns) || k.owns m) := by
        rw [Directory.erase_eq_keep, Directory.keep_keep]
        congr 1
        funext m
        by_cases hm : m = n
        · simp [hm, howns]
        · simp [hm]
      rw [if_neg hown, freeOne_live hno (hlive n List.mem_cons_self) (hlt n List.mem_cons_self)]
      have hrest := ih { b with filters := b.filters.erase n, journal := b.journal ++ freeing [n] }
        (freed + 1) hno hnd hlive'' hlt'
      simp only [if_true, hrest, hkeep]
      simp [howns, freeing, Nat.add_assoc, Nat.add_comm 1]

theorem sweepEach_refused (k : FilterKeeper) (b : Bus ReplyTarget) (freed : Nat) {ns : List Nat}
    {f : Fault} (hf : b.refusal? "Free" = some f) (hu : f.isUnknownObject = false)
    (hother : ∃ n ∈ ns, k.filter ≠ some (pathOfFilter n)) :
    ∃ js, k.sweepEach b freed (ns.map toString) =
      (.error (.refusedCall "Free" f), { b with journal := b.journal ++ js }) := by
  induction ns with
  | nil => simp at hother
  | cons n ns ih =>
    rw [sweepEach_cons]
    by_cases hown : k.filter = some (pathOfFilter n)
    · rw [if_pos hown]
      exact ih (by simpa [hown] using hother)
    · obtain ⟨js, hjs⟩ := freeOne_refused hf hu (pathOfFilter n)
      rw [if_neg hown, hjs]
      exact ⟨js, rfl⟩

theorem sweep_of_never (k : FilterKeeper) {b : Bus ReplyTarget} (h : b.hadFilter = false) :
    k.sweep b = (.ok 0, b.note (.listChildren filtersPath)) := by
  simp [sweep, Line.listChildren, Bus.listChildren, children_filtersPath, h,
    Fault.isUnknownObject, Fault.unknownObject]

theorem sweep_of_had (k : FilterKeeper) {b : Bus ReplyTarget} (h : b.hadFilter = true) :
    k.sweep b =
      k.sweepEach (b.note (.listChildren filtersPath)) 0 (b.filters.keys.map toString) := by
  simp [sweep, Line.listChildren, Bus.listChildren, children_filtersPath, h]

theorem hadFilter_of_live {b : Bus ReplyTarget} (hb : b.Sound) {n : Nat}
    (hn : b.filters.contains n = true) : b.hadFilter = true := by
  rw [hb.had_filter, decide_eq_true_eq]
  exact Nat.zero_lt_of_lt (hb.filter_lt n hn)

theorem sweep_eq (k : FilterKeeper) {b : Bus ReplyTarget} (hb : b.Sound)
    (hlt : ∀ n, b.filters.contains n = true → n < filterBound)
    (hno : b.refusal? "Free" = none) :
    k.sweep b =
      (.ok (k.others b).length, { b with
        filters := b.filters.keep k.owns
        journal := b.journal ++ .listChildren filtersPath :: freeing (k.others b) }) := by
  have hlive : ∀ n ∈ b.filters.keys, b.filters.contains n = true :=
    fun n hn ↦ (Directory.mem_keys_iff _ n).mp hn
  by_cases hhad : b.hadFilter = true
  · have hkeep : b.filters.keep (fun n ↦ decide (n ∉ b.filters.keys) || k.owns n) =
        b.filters.keep k.owns := Directory.keep_congr fun n hn ↦ by simp [hn]
    have hall := k.sweepEach_eq (b.note (.listChildren filtersPath)) 0 hno
      hb.filters_sorted.nodup_keys hlive fun n hn ↦ hlt n (hlive n hn)
    rw [k.sweep_of_had hhad, hall, filters_note, hkeep]
    simp [others, note]
  · have hkeys : b.filters.keys = [] :=
      List.eq_nil_iff_forall_not_mem.mpr fun n hn ↦ hhad (hadFilter_of_live hb (hlive n hn))
    have hkeep : b.filters.keep k.owns = b.filters := Directory.keep_eq_self (by simp [hkeys])
    rw [k.sweep_of_never (by simpa using hhad), hkeep]
    simp [others, hkeys, freeing, note]

theorem sweep_clears (k : FilterKeeper) {b : Bus ReplyTarget} (hb : b.Sound)
    (hbound : b.nextFilter ≤ filterBound) (hno : b.refusal? "Free" = none) (j : Nat) :
    (k.sweep b).2.filters.get? j =
      if k.filter = some (pathOfFilter j) then b.filters.get? j else none := by
  have hlt (n : Nat) (hn : b.filters.contains n = true) : n < filterBound :=
    Nat.lt_of_lt_of_le (hb.filter_lt n hn) hbound
  rw [k.sweep_eq hb hlt hno]
  simp [owns_eq_true_iff]

/-- What is refused is found out at the first filter that is not the keeper's own. -/
theorem sweep_refused (k : FilterKeeper) {b : Bus ReplyTarget} (hb : b.Sound) {f : Fault}
    (hf : b.refusal? "Free" = some f) (hu : f.isUnknownObject = false) (hothers : k.others b ≠ []) :
    ∃ js, k.sweep b =
      (.error (.refusedCall "Free" f), { b with journal := b.journal ++ js }) := by
  obtain ⟨n, hn⟩ := List.exists_mem_of_ne_nil _ hothers
  obtain ⟨hlive, hown⟩ := (k.mem_others_iff b n).mp hn
  obtain ⟨js, hjs⟩ := k.sweepEach_refused (b.note (.listChildren filtersPath)) 0 hf hu
    ⟨n, (Directory.mem_keys_iff _ n).mpr hlive, hown⟩
  refine ⟨.listChildren filtersPath :: js, ?_⟩
  rw [k.sweep_of_had (hadFilter_of_live hb hlive), hjs]
  simp [note]

theorem sweep_again (k : FilterKeeper) {b : Bus ReplyTarget} (hr : b.Reachable)
    (hlt : ∀ n, b.filters.contains n = true → n < filterBound)
    (hno : b.refusal? "Free" = none) :
    k.sweep (k.sweep b).2 = (.ok 0, (k.sweep b).2.note (.listChildren filtersPath)) := by
  have hsound : (k.sweep b).2.Sound := Reachable.sound (hr.trans (k.sweep_sweeps b).leads)
  rw [k.sweep_eq hr.sound hlt hno] at hsound ⊢
  rw [k.sweep_eq hsound (fun n hn ↦ ?_) hno]
  · have hkeep : (b.filters.keep k.owns).keep k.owns = b.filters.keep k.owns := by
      simp [Directory.keep_keep]
    simp [others, Directory.keys_keep, List.filter_filter, hkeep, freeing, note]
  · simp only [Directory.contains, Directory.get?_keep] at hn
    split at hn
    · exact hlt n hn
    · cases hn

theorem session_sweep {κ : Type} {s : Session κ} {p : Presence} (ho : s.closed = false)
    (hp : s.presence = some p) (h : Hub (Bus ReplyTarget) κ) :
    s.sweep h = ((p.filters.sweep h.line).1, { h with line := (p.filters.sweep h.line).2 }) := by
  simp [Session.sweep, Session.ask, ho, hp]

/-- Whatever has happened on a bus, and whatever filter the keeper has: where the service does its
part, every filter goes that is not the keeper's own, by its path and in the order of the numbers,
and is counted; nothing else changes, and there is nothing left for another sweep. Where there never
was a filter this is found out at once. Where the service is gone, or refuses for another reason
than that the filter is gone, no filter goes. Filter numbers have 32 bits. -/
theorem sweep_frees_the_others {κ : Type} (k : FilterKeeper) {b : Bus ReplyTarget}
    (hr : b.Reachable) (hlt : ∀ n, b.filters.contains n = true → n < filterBound) :
    let others := k.others b
    let swept := k.sweep b
    ((∀ n, n ∈ others ↔ b.filters.contains n = true ∧ k.filter ≠ some (pathOfFilter n)) ∧
      others.Pairwise (· < ·)) ∧
    (b.serving = true → b.refusals.get? "Free" = none →
      swept = (.ok others.length, { b with
        filters := b.filters.keep (fun n ↦ k.filter = some (pathOfFilter n))
        journal := b.journal ++ .listChildren filtersPath ::
          others.flatMap (fun n ↦ [.reach (pathOfFilter n), .call (pathOfFilter n) "Free"]) }) ∧
      k.sweep swept.2 = (.ok 0, swept.2.note (.listChildren filtersPath))) ∧
    (b.hadFilter = false → swept = (.ok 0, b.note (.listChildren filtersPath))) ∧
    (others ≠ [] →
      b.serving = false ∨
        (∃ f, b.refusals.get? "Free" = some f ∧ f.isUnknownObject = false) →
      ∃ f js, swept = (.error (.refusedCall "Free" f), { b with journal := b.journal ++ js })) ∧
    ∀ (s : Session κ) (p : Presence), s.closed = false → s.presence = some p → p.filters = k →
      ∀ h : Hub (Bus ReplyTarget) κ, h.line = b →
        s.sweep h = (swept.1, { h with line := swept.2 }) := by
  intro others swept
  refine ⟨⟨k.mem_others_iff b, k.others_ascend hr.sound⟩, ?_, k.sweep_of_never, ?_, ?_⟩
  · intro hserving hfree
    have hno := (refusal?_eq_none_iff b "Free").mpr ⟨hserving, hfree⟩
    exact ⟨k.sweep_eq hr.sound hlt hno, k.sweep_again hr hlt hno⟩
  · rintro hothers (hgone | ⟨f, hf, hu⟩)
    · have hf : b.refusal? "Free" = some (.serviceUnknown serviceName) := by
        simp [refusal?, hgone]
      exact ⟨_, k.sweep_refused hr.sound hf (by decide) hothers⟩
    · by_cases hserving : b.serving = true
      · have hf' : b.refusal? "Free" = some f := by rw [refusal?, if_pos hserving, hf]
        exact ⟨_, k.sweep_refused hr.sound hf' hu hothers⟩
      · have hf' : b.refusal? "Free" = some (.serviceUnknown serviceName) := by
          simp [refusal?, hserving]
        exact ⟨_, k.sweep_refused hr.sound hf' (by decide) hothers⟩
  · rintro s p ho hp rfl h rfl
    exact session_sweep ho hp h

def crowded : Bus ReplyTarget :=
  ((Bus.start.after .addFilter).after .addFilter).after .addFilter

theorem sweep_frees_the_others_of_crowded :
    let k : FilterKeeper := ⟨some (pathOfFilter 1), .empty⟩
    (k.sweep crowded).1 = .ok 2 ∧ (k.sweep crowded).2.livePaths = [pathOfFilter 1] ∧
      (k.sweep (k.sweep crowded).2).1 = .ok 0 ∧
      ∃ f, (k.sweep (crowded.setServing false)).1 = .error (.refusedCall "Free" f) := by
  intro k
  have hr : crowded.Reachable := .after _ (.after _ (.after _ .refl))
  have hlt (n : Nat) (hn : crowded.filters.contains n = true) : n < filterBound :=
    Nat.lt_trans (hr.sound.filter_lt n hn) (by decide)
  obtain ⟨-, hserved, -⟩ := @sweep_frees_the_others Unit k crowded hr hlt
  obtain ⟨hswept, hagain⟩ := hserved rfl rfl
  obtain ⟨-, -, -, hgone, -⟩ :=
    @sweep_frees_the_others Unit k (crowded.setServing false) (hr.after (.setServing false)) hlt
  obtain ⟨f, js, hrefused⟩ := hgone (by decide) (.inl rfl)
  rw [hagain, hswept, hrefused]
  exact ⟨by decide, by decide, rfl, f, rfl⟩

end RobotBus.FilterKeeper
