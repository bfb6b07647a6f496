import Mathlib.Data.Finset.Max
import Mathlib.Data.Finset.Range
import Mathlib.Data.List.Sort
import Mathlib.Tactic.LinearCombination
import Mathlib.Tactic.Ring

/-! Points on a circle, and the shortest arc that holds them all: it leaves out the largest gap. -/

namespace CircleGap

section Arc

/-- `count` places from `start` on, on a circle of `n` places. -/
def Within (n start count x : Int) : Prop := (x - start) % n < count

theorem offset_eq {n x start : Int} (offset turns : Int) (nonneg : 0 ≤ offset) (less : offset < n)
    (same : x - start = offset + n * turns) : (x - start) % n = offset := by
  rw [same, Int.add_mul_emod_self_left, Int.emod_eq_of_lt nonneg less]

theorem within_start (n start count x : Int) : Within n (start % n) count x ↔ Within n start count x := by
  unfold Within
  rw [Int.sub_emod, Int.emod_emod_of_dvd _ (dvd_refl n), ← Int.sub_emod]

end Arc

/-- The first `count` places of `c` in their order on the circle. -/
structure Points (n : Int) (c : Nat → Int) (count : Nat) : Prop where
  filled : 0 < count
  nonneg : ∀ i < count, 0 ≤ c i
  less : ∀ i < count, c i < n
  sorted : ∀ i j, i < j → j < count → c i < c j

variable {n : Int} {c : Nat → Int} {count : Nat}

/-- The place that follows, behind a whole turn for the last one. -/
def next (n : Int) (c : Nat → Int) (count i : Nat) : Int := if i + 1 < count then c (i + 1) else c 0 + n

def gap (n : Int) (c : Nat → Int) (count i : Nat) : Int := next n c count i - c i - 1

structure Largest (n : Int) (c : Nat → Int) (count i : Nat) : Prop where
  inside : i < count
  most : ∀ j < count, gap n c count j ≤ gap n c count i
  first : ∀ j < i, gap n c count j < gap n c count i

theorem Largest.unique {i j : Nat} (one : Largest n c count i) (other : Largest n c count j) : i = j := by
  rcases Nat.lt_trichotomy i j with before | same | behind
  · exact absurd (other.first i before) (Int.not_lt.mpr (one.most j other.inside))
  · exact same
  · exact absurd (one.first j behind) (Int.not_lt.mpr (other.most i one.inside))

section Points

variable (points : Points n c count)
include points

theorem Points.sorted_le {i j : Nat} (before : i ≤ j) (inside : j < count) : c i ≤ c j := by
  rcases Nat.eq_or_lt_of_le before with rfl | less
  · exact Int.le_refl _
  · exact Int.le_of_lt (points.sorted i j less inside)

theorem Points.next_range {i : Nat} (inside : i < count) :
    c i < next n c count i ∧ next n c count i ≤ c i + n := by
  unfold next
  have here := points.nonneg i inside
  have here' := points.less i inside
  split
  · rename_i more
    have later := points.sorted i (i + 1) (Nat.lt_succ_self i) more
    have bound := points.less (i + 1) more
    omega
  · have first := points.sorted_le (Nat.zero_le i) inside
    have nonneg := points.nonneg 0 points.filled
    omega

theorem Points.gap_range {i : Nat} (inside : i < count) : 0 ≤ gap n c count i ∧ gap n c count i < n := by
  have range := points.next_range inside
  unfold gap
  omega

theorem Points.around {i j : Nat} (inside : i < count) (point : j < count) :
    Within n (next n c count i) (n - gap n c count i) (c j) := by
  have here := points.less i inside
  have nonneg := points.nonneg i inside
  have there := points.less j point
  unfold Within gap next
  by_cases more : i + 1 < count
  · rw [if_pos more]
    have bound := points.less (i + 1) more
    by_cases before : j ≤ i
    · have low := points.sorted_le before inside
      have later := points.sorted j (i + 1) (Nat.lt_succ_of_le before) more
      have least := points.nonneg j point
      rw [offset_eq (c j - c (i + 1) + n) (-1) (by omega) (by omega) (by ring)]
      omega
    · have high := points.sorted_le (show i + 1 ≤ j by omega) point
      have least := points.nonneg (i + 1) more
      rw [offset_eq (c j - c (i + 1)) 0 (by omega) (by omega) (by ring)]
      omega
  · rw [if_neg more]
    have low := points.sorted_le (show j ≤ i by omega) inside
    have first := points.sorted_le (Nat.zero_le j) point
    have least := points.nonneg 0 points.filled
    rw [offset_eq (c j - c 0) (-1) (by omega) (by omega) (by ring)]
    omega

theorem Points.next_point (i : Nat) :
    ∃ j < count, ∃ turns : Int, next n c count i = c j + n * turns := by
  unfold next
  by_cases more : i + 1 < count
  · exact ⟨i + 1, more, 0, by rw [if_pos more]; ring⟩
  · exact ⟨0, points.filled, 1, by rw [if_neg more]; ring⟩

theorem Points.gap_of_arc {start size : Int} (holds : ∀ i < count, Within n start size (c i)) :
    ∃ i < count, n - size ≤ gap n c count i := by
  have positive : 0 < n := by
    have nonneg := points.nonneg 0 points.filled
    have less := points.less 0 points.filled
    omega
  obtain ⟨i, member, last⟩ := (Finset.range count).exists_max_image (fun i => (c i - start) % n)
    ⟨0, Finset.mem_range.mpr points.filled⟩
  have inside := Finset.mem_range.mp member
  refine ⟨i, inside, ?_⟩
  obtain ⟨j, point, turns, follows⟩ := points.next_point i
  have later := last j (Finset.mem_range.mpr point)
  have range := points.next_range inside
  have held := holds i inside
  unfold Within at held
  unfold gap
  -- both places by their offsets from the beginning of the arc
  have here := Int.emod_add_mul_ediv (c i - start) n
  have there := Int.emod_add_mul_ediv (c j - start) n
  have nonneg := Int.emod_nonneg (c j - start) (Int.ne_of_gt positive)
  generalize (c i - start) % n = offset at later held here
  generalize (c j - start) % n = offset' at later nonneg there
  generalize (c i - start) / n = p at here
  generalize (c j - start) / n = q at there
  have apart : next n c count i - c i = offset' - offset + n * (q + turns - p) := by
    rw [follows]
    linear_combination here - there
  have turn : 1 ≤ q + turns - p := by
    by_contra none
    have few : n * (q + turns - p) ≤ n * 0 := Int.mul_le_mul_of_nonneg_left (by omega) (Int.le_of_lt positive)
    omega
  have whole : n * 1 ≤ n * (q + turns - p) := Int.mul_le_mul_of_nonneg_left turn (Int.le_of_lt positive)
  omega

theorem Points.shortest {i : Nat} (largest : Largest n c count i) {start size : Int}
    (holds : ∀ j < count, Within n start size (c j)) : n - gap n c count i ≤ size := by
  obtain ⟨j, inside, room⟩ := points.gap_of_arc holds
  have most := largest.most j inside
  omega

end Points

section Agreement

theorem Points.agree {c' : Nat → Int} {count' : Nat} (points : Points n c count) (points' : Points n c' count')
    (same : ∀ x, (∃ i < count, c i = x) ↔ ∃ i < count', c' i = x) : count = count' ∧ ∀ i < count, c i = c' i := by
  have ordered {c : Nat → Int} {count : Nat} (points : Points n c count) :
      ((List.range count).map c).Pairwise (· < ·) := by
    rw [List.pairwise_map]
    refine List.pairwise_lt_range.imp_of_mem fun {i j} _ inside before => ?_
    exact points.sorted i j before (List.mem_range.mp inside)
  have lists : (List.range count).map c = (List.range count').map c' := by
    apply (ordered points).eq_of_mem_iff (ordered points')
    simpa [List.mem_map] using same
  have length := congrArg List.length lists
  rw [List.length_map, List.length_map, List.length_range, List.length_range] at length
  subst length
  refine ⟨rfl, fun i inside => ?_⟩
  have here := congrArg (fun places => places[i]?) lists
  simpa [List.getElem?_map, List.getElem?_range inside] using here

theorem next_congr {c' : Nat → Int} (points : Points n c count) (same : ∀ i < count, c i = c' i) (i : Nat) :
    next n c count i = next n c' count i := by
  unfold next
  split
  · rename_i more
    exact same (i + 1) more
  · rw [same 0 points.filled]

theorem Largest.congr {c' : Nat → Int} {i : Nat} (points : Points n c count) (same : ∀ i < count, c i = c' i)
    (largest : Largest n c count i) : Largest n c' count i := by
  have gaps : ∀ j < count, gap n c' count j = gap n c count j := by
    intro j inside
    unfold gap
    rw [next_congr points same, same j inside]
  refine ⟨largest.inside, fun j inside => ?_, fun j before => ?_⟩
  · rw [gaps j inside, gaps i largest.inside]
    exact largest.most j inside
  · rw [gaps j (before.trans largest.inside), gaps i largest.inside]
    exact largest.first j before

end Agreement

end CircleGap
