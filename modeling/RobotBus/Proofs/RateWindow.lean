import RobotBus.Proofs.Hearing

namespace RobotBus.RateWindow

/-- The latest of the start and the first `j` arrivals. -/
def clock (begin : Instant) (arrivals : Nat → Instant) : Nat → Int
  | 0 => begin
  | j + 1 => max (clock begin arrivals j) (arrivals j)

def windowAt (size : Nat) (begin : Instant) (arrivals : Nat → Instant) : Nat → RateWindow
  | 0 => start size begin
  | j + 1 => ((windowAt size begin arrivals j).arrive (arrivals j)).2

/-- How far the clock moved over the last `count` of the first `j` arrivals. -/
def span (begin : Instant) (arrivals : Nat → Instant) (count j : Nat) : Nat :=
  (clock begin arrivals j - clock begin arrivals (j - count)).toNat

def Completes (size : Nat) (begin : Instant) (arrivals : Nat → Instant) (j : Nat) : Prop :=
  size ∣ j ∧ clock begin arrivals (j - size) < clock begin arrivals j

instance (size : Nat) (begin : Instant) (arrivals : Nat → Instant) (j : Nat) :
    Decidable (Completes size begin arrivals j) :=
  inferInstanceAs (Decidable (_ ∧ _))

/-- The rate of the last window over which the clock moved, among the first `j` arrivals. -/
def rateAt (size : Nat) (begin : Instant) (arrivals : Nat → Instant) : Nat → Float
  | 0 => 0
  | j + 1 =>
    if Completes size begin arrivals (j + 1) then
      perSecond size (span begin arrivals size (j + 1))
    else rateAt size begin arrivals j

variable {size : Nat} {begin : Instant} {arrivals : Nat → Instant}

theorem clock_mono {i j : Nat} (h : i ≤ j) : clock begin arrivals i ≤ clock begin arrivals j := by
  induction h with
  | refl => exact Int.le_refl _
  | step _ ih => exact Int.le_trans ih (Int.le_max_left _ _)

theorem span_pos_iff (count j : Nat) :
    0 < span begin arrivals count j ↔
      clock begin arrivals (j - count) < clock begin arrivals j := by
  unfold span
  omega

theorem span_le {j longest : Nat} (h : ∀ i < j, (arrivals i - begin).toNat ≤ longest)
    (count : Nat) : span begin arrivals count j ≤ longest := by
  have hclock : clock begin arrivals j ≤ clock begin arrivals 0 + longest := by
    induction j with
    | zero => omega
    | succ j ih =>
      have hlast := h j (Nat.lt_succ_self j)
      have hbefore := ih fun i hi ↦ h i (Nat.lt_succ_of_lt hi)
      simp only [clock] at hbefore ⊢
      omega
  have hbegin : clock begin arrivals 0 ≤ clock begin arrivals (j - count) :=
    clock_mono (Nat.zero_le _)
  unfold span
  omega

theorem total_cons (delay : Nat) (delays : List Nat) :
    total (delay :: delays) = delay + total delays := by
  simp only [total, ← List.sum_eq_foldl, List.sum_cons]

theorem later_eq_max (w : RateWindow) (now : Instant) : w.later now = max w.latest now := by
  rw [later, Int.max_def]
  by_cases h : w.latest < now
  · rw [if_pos h, if_pos (Int.le_of_lt h)]
  · rw [if_neg h]
    split
    · next hle => exact Int.le_antisymm hle (Int.not_lt.mp h)
    · rfl

theorem arrive_latest (w : RateWindow) (now : Instant) :
    (w.arrive now).2.latest = max w.latest now := by
  rw [← later_eq_max]
  unfold arrive
  dsimp only
  split
  · rfl
  · split <;> rfl

/-- All that an arrival does: it fills a gap, or it ends a window that took no time, or one that has
a rate. -/
theorem arrive_cases (w : RateWindow) (now : Instant) :
    (w.pending + 1 < w.size ∧ (w.arrive now).1 = none ∧
        (w.arrive now).2.delays = w.delay now :: w.delays ∧ (w.arrive now).2.rate = w.rate) ∨
      (w.size ≤ w.pending + 1 ∧ total (w.delay now :: w.delays) = 0 ∧ (w.arrive now).1 = none ∧
        (w.arrive now).2.delays = [] ∧ (w.arrive now).2.rate = w.rate) ∨
      (w.size ≤ w.pending + 1 ∧ 0 < total (w.delay now :: w.delays) ∧
        (w.arrive now).1 = some (perSecond w.size (total (w.delay now :: w.delays))) ∧
        (w.arrive now).2.delays = [] ∧
        (w.arrive now).2.rate = perSecond w.size (total (w.delay now :: w.delays))) := by
  unfold arrive
  dsimp only
  split
  · next h => exact .inl ⟨h, rfl, rfl, rfl⟩
  · next h =>
    right
    have hsize : w.size ≤ w.pending + 1 := Nat.le_of_not_lt h
    split
    · next h0 => exact .inl ⟨hsize, h0, rfl, rfl, rfl⟩
    · next h0 => exact .inr ⟨hsize, Nat.pos_of_ne_zero h0, rfl, rfl, rfl⟩

/-- What ties a window to the clock. The delays that it holds are those since the last multiple of
its size, and they add up to what the clock moved by since then. -/
structure Follows (size : Nat) (begin : Instant) (arrivals : Nat → Instant) (j : Nat)
    (w : RateWindow) : Prop where
  size_eq : w.size = size
  latest_eq : w.latest = clock begin arrivals j
  pending_eq : w.pending = j % size
  total_eq : total w.delays = span begin arrivals (j % size) j
  rate_eq : w.rate = rateAt size begin arrivals j

theorem Follows.total_cons {j : Nat} {w : RateWindow} (h : Follows size begin arrivals j w) :
    RateWindow.total (w.delay (arrivals j) :: w.delays) =
      span begin arrivals (j % size + 1) (j + 1) := by
  have hdelay : w.delay (arrivals j) = (arrivals j - clock begin arrivals j).toNat := by
    rw [delay, h.latest_eq]
  have hmod : j % size ≤ j := Nat.mod_le j size
  have hmono : clock begin arrivals (j - j % size) ≤ clock begin arrivals j :=
    clock_mono (Nat.sub_le _ _)
  rw [RateWindow.total_cons, h.total_eq, hdelay]
  unfold span
  rw [show j + 1 - (j % size + 1) = j - j % size by omega]
  simp only [clock]
  omega

theorem succ_mod_of_le (hsize : 1 ≤ size) {j : Nat} (h : size ≤ j % size + 1) :
    j % size + 1 = size ∧ (j + 1) % size = 0 := by
  have hlt : j % size < size := Nat.mod_lt j hsize
  have hlast : j % size + 1 = size := by omega
  refine ⟨hlast, ?_⟩
  rw [← Nat.mod_add_mod, hlast, Nat.mod_self]

theorem succ_mod_of_lt {j : Nat} (h : j % size + 1 < size) : (j + 1) % size = j % size + 1 := by
  rw [← Nat.mod_add_mod, Nat.mod_eq_of_lt h]

/-- An arrival answers with a rate exactly when it completes a window over which the clock moved,
and the window follows the clock as before. -/
theorem Follows.arrive (hsize : 1 ≤ size) {j : Nat} {w : RateWindow}
    (h : Follows size begin arrivals j w) :
    Follows size begin arrivals (j + 1) (w.arrive (arrivals j)).2 ∧
      (w.arrive (arrivals j)).1 =
        if Completes size begin arrivals (j + 1) then
          some (perSecond size (span begin arrivals size (j + 1)))
        else none := by
  have hlatest : (w.arrive (arrivals j)).2.latest = clock begin arrivals (j + 1) := by
    rw [arrive_latest, h.latest_eq]
    rfl
  have hkept : (w.arrive (arrivals j)).2.size = size := (arrive_size w (arrivals j)).trans h.size_eq
  have htotal := h.total_cons
  obtain ⟨hlt, hanswer, hdelays, hrate⟩ | ⟨hle, hzero, hanswer, hdelays, hrate⟩ |
    ⟨hle, hpos, hanswer, hdelays, hrate⟩ := arrive_cases w (arrivals j)
  · -- the window has room for more
    rw [h.pending_eq, h.size_eq] at hlt
    have hmod := succ_mod_of_lt hlt
    have hnot : ¬ Completes size begin arrivals (j + 1) := by
      rintro ⟨hdvd, -⟩
      have := Nat.mod_eq_zero_of_dvd hdvd
      omega
    refine ⟨⟨hkept, hlatest, ?_, ?_, ?_⟩, by rw [hanswer, if_neg hnot]⟩
    · rw [pending, hdelays, List.length_cons, hmod, ← h.pending_eq, pending]
    · rw [hdelays, htotal, hmod]
    · rw [hrate, h.rate_eq, rateAt, if_neg hnot]
  all_goals
    rw [h.pending_eq, h.size_eq] at hle
    obtain ⟨hlast, hmod⟩ := succ_mod_of_le hsize hle
    rw [hlast] at htotal
    have hpending : (w.arrive (arrivals j)).2.pending = (j + 1) % size := by
      rw [pending, hdelays, hmod, List.length_nil]
    have hempty : RateWindow.total (w.arrive (arrivals j)).2.delays =
        span begin arrivals ((j + 1) % size) (j + 1) := by
      rw [hdelays, hmod]
      simp [span, RateWindow.total]
  · -- the window ends, and the clock stood still
    have hnot : ¬ Completes size begin arrivals (j + 1) := by
      rintro ⟨-, hmoved⟩
      rw [← span_pos_iff, ← htotal] at hmoved
      exact Nat.ne_of_gt hmoved hzero
    refine ⟨⟨hkept, hlatest, hpending, hempty, ?_⟩, by rw [hanswer, if_neg hnot]⟩
    rw [hrate, h.rate_eq, rateAt, if_neg hnot]
  · -- the window ends, and the clock moved
    have hcompletes : Completes size begin arrivals (j + 1) :=
      ⟨Nat.dvd_of_mod_eq_zero hmod, (span_pos_iff _ _).mp (htotal ▸ hpos)⟩
    rw [htotal, h.size_eq] at hanswer hrate
    refine ⟨⟨hkept, hlatest, hpending, hempty, ?_⟩, by rw [hanswer, if_pos hcompletes]⟩
    rw [hrate, rateAt, if_pos hcompletes]

theorem follows_windowAt (hsize : 1 ≤ size) (j : Nat) :
    Follows size begin arrivals j (windowAt size begin arrivals j) := by
  induction j with
  | zero => exact ⟨rfl, rfl, by simp [windowAt, start, pending], by simp [windowAt, start, total,
      span], rfl⟩
  | succ j ih => exact (ih.arrive hsize).1

/-- What a window knows of any sequence of arrivals, after the first `j` of them and at the next
one. The pending delays are those since the last multiple of the size. The next arrival answers with
a rate exactly when it completes a window over which the clock moved: the size of the window over
what the clock moved by. The rate stays that of the last such window. The delays of a window add up
to what the clock moved by, which is zero exactly when it stood still, and no sum of delays exceeds
the distance of the farthest arrival from the start. -/
theorem rate_of_arrivals (hsize : 1 ≤ size) (begin : Instant) (arrivals : Nat → Instant)
    (j : Nat) :
    let w := windowAt size begin arrivals j
    let delays := w.delay (arrivals j) :: w.delays
    w.pending = j % size ∧
      w.rate = rateAt size begin arrivals j ∧
      (w.arrive (arrivals j)).1 =
        (if Completes size begin arrivals (j + 1) then
          some (perSecond size (span begin arrivals size (j + 1)))
        else none) ∧
      (size ∣ j + 1 →
        delays.length = size ∧
          (total delays : Int) =
            clock begin arrivals (j + 1) - clock begin arrivals (j + 1 - size) ∧
          (total delays = 0 ↔
            clock begin arrivals (j + 1) = clock begin arrivals (j + 1 - size))) ∧
      ∀ longest : Nat, (∀ i ≤ j, (arrivals i - begin).toNat ≤ longest) →
        total delays ≤ longest := by
  intro w delays
  have h : Follows size begin arrivals j w := follows_windowAt hsize j
  have htotal : total delays = span begin arrivals (j % size + 1) (j + 1) := h.total_cons
  refine ⟨h.pending_eq, h.rate_eq, (h.arrive hsize).2, ?_, ?_⟩
  · intro hdvd
    have hlt : j % size < size := Nat.mod_lt j hsize
    have hlast : j % size + 1 = size := by
      by_contra hne
      have hmod : (j + 1) % size = j % size + 1 := succ_mod_of_lt (by omega)
      rw [Nat.mod_eq_zero_of_dvd hdvd] at hmod
      omega
    have hmono : clock begin arrivals (j + 1 - size) ≤ clock begin arrivals (j + 1) :=
      clock_mono (Nat.sub_le _ _)
    have hspan : (total delays : Int) =
        clock begin arrivals (j + 1) - clock begin arrivals (j + 1 - size) := by
      rw [htotal, hlast]
      unfold span
      omega
    refine ⟨?_, hspan, ?_⟩
    · rw [List.length_cons, ← hlast, ← h.pending_eq, pending]
    · omega
  · intro longest hlongest
    rw [htotal]
    exact span_le (fun i hi ↦ hlongest i (Nat.le_of_lt_succ hi)) _

theorem rate_of_five_arrivals :
    let arrivals : Nat → Instant := fun i ↦ [5, 10, 3, 10, 17][i]?.getD 0
    (windowAt 2 0 arrivals 4).rate = perSecond 2 10 ∧
      ((windowAt 2 0 arrivals 1).arrive (arrivals 1)).1 = some (perSecond 2 10) ∧
      ((windowAt 2 0 arrivals 3).arrive (arrivals 3)).1 = none := by
  intro arrivals
  obtain ⟨-, hrate, -⟩ := rate_of_arrivals (show 1 ≤ 2 by decide) 0 arrivals 4
  obtain ⟨-, -, hmoved, -⟩ := rate_of_arrivals (show 1 ≤ 2 by decide) 0 arrivals 1
  obtain ⟨-, -, hstood, -⟩ := rate_of_arrivals (show 1 ≤ 2 by decide) 0 arrivals 3
  exact ⟨hrate, hmoved, hstood⟩

end RobotBus.RateWindow
