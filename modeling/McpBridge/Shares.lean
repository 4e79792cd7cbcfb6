import Mathlib.Data.Nat.Count
import Mathlib.Algebra.Ring.Periodic

/-!
How often a position of a cycle is taken: by searches around the cycle, which take the first position with a property,
and by walks along a list of weights, which take the position in whose share a number falls.
-/
namespace McpBridge.Shares
open Option

open List Nat

/-- The hits of a periodic property among as many consecutive numbers as its period has. -/
theorem count_shift {p : Nat → Prop} [DecidablePred p] {n : Nat} (periodic : Function.Periodic p n) (a : Nat) :
    count (fun k => p (a + k)) n = count p n := by
  have around : count (fun k => p (n + k)) a = count p a := by
    congr 1
    funext k
    rw [add_comm]
    exact periodic k
  have split := Nat.count_add p a n
  have split' := Nat.count_add p n a
  rw [add_comm n a,around] at split'
  omega

theorem count_congr {p q : Nat → Prop} [DecidablePred p] [DecidablePred q] {n : Nat} (same : ∀ k < n, (p k ↔ q k)) :
    count p n = count q n := by
  simp only [count_eq_card_filter_range]
  congr 1
  exact Finset.filter_congr fun k inside => same k (Finset.mem_range.mp inside)

/-! ### Searches around a cycle -/

section
variable (p : Nat → Bool) (n : Nat)

def seek (s : Nat) : Option Nat := ((range n).find? fun d => p ((s + d) % n)).map fun d => (s + d) % n

/-- How many positions right before the given one, around the cycle, lack the property. -/
def gap (i : Nat) : Nat := ((range n).takeWhile fun d => !p ((i + n - 1 - d) % n)).length

variable {p n} {i s : Nat} {d : Nat}

theorem gap_eq : gap p n i = (range n).findIdx fun d => p ((i + n - 1 - d) % n) := by
  unfold gap
  rw [takeWhile_eq_take_findIdx_not,length_take]
  simp only [Bool.not_not]
  exact min_eq_left findIdx_le_length

theorem lacks_of_lt_gap (close : d < gap p n i) : p ((i + n - 1 - d) % n) = false := by
  rw [gap_eq] at close
  simpa using not_of_lt_findIdx close

theorem gap_lt (inside : i < n) (has : p i = true) : gap p n i < n := by
  rw [gap_eq]
  have found : (range n).findIdx (fun d => p ((i + n - 1 - d) % n)) < (range n).length := by
    refine findIdx_lt_length.mpr ⟨n - 1,mem_range.mpr (by omega),?_⟩
    rw [show i + n - 1 - (n - 1) = i by omega,mod_eq_of_lt inside]
    exact has
  rwa [length_range] at found

theorem has_at_gap (inside : i < n) (has : p i = true) : p ((i + n - 1 - gap p n i) % n) = true := by
  have bound := gap_lt inside has
  rw [gap_eq] at bound ⊢
  have found := @List.findIdx_getElem _ (fun d => p ((i + n - 1 - d) % n)) (range n) (by rwa [length_range])
  simpa using found

theorem seek_eq_none_iff : seek p n s = none ↔ ∀ i < n, p i = false := by
  unfold seek
  rw [map_eq_none_iff,find?_range_eq_none]
  constructor
  · intro none i inside
    have at_i := none ((i + (n - s % n)) % n) (mod_lt _ (by omega))
    have small : s % n < n := mod_lt _ (by omega)
    have same : (s + (i + (n - s % n)) % n) % n = i := by
      rw [add_mod_mod,← mod_add_mod,show s % n + (i + (n - s % n)) = i + n by omega,add_mod_right]
      exact mod_eq_of_lt inside
    rw [same] at at_i
    simpa using at_i
  · intro none d inside
    simpa using none ((s + d) % n) (mod_lt _ (by omega))

theorem has_of_seek (found : seek p n s = some i) : i < n ∧ p i = true := by
  obtain ⟨d,first,rfl⟩ := map_eq_some_iff.mp found
  obtain ⟨has,inside,_⟩ := find?_range_eq_some.mp first
  exact ⟨mod_lt _ (by have := mem_range.mp inside; omega),has⟩

/-- A search ends at a position with the property exactly when it starts within the gap before it. -/
theorem seek_eq_iff (inside : i < n) (has : p i = true) (around : d < n) :
    seek p n (i + n - d) = some i ↔ d ≤ gap p n i := by
  constructor
  · intro found
    by_contra early
    obtain ⟨e,first,same⟩ := map_eq_some_iff.mp found
    obtain ⟨_,_,before⟩ := find?_range_eq_some.mp first
    -- the position that ends the gap comes first
    have passed : e ≤ d - 1 - gap p n i := by
      by_contra beyond
      have lacks := before (d - 1 - gap p n i) (by omega)
      rw [show i + n - d + (d - 1 - gap p n i) = i + n - 1 - gap p n i by omega,has_at_gap inside has] at lacks
      cases lacks
    have apart : (i + n - d + e) % n ≠ i := by
      by_cases wraps : i + n - d + e < n
      · rw [mod_eq_of_lt wraps]
        omega
      · rw [mod_eq_sub_mod (by omega),mod_eq_of_lt (by omega)]
        omega
    exact apart same
  · intro close
    refine map_eq_some_iff.mpr ⟨d,find?_range_eq_some.mpr ⟨?_,mem_range.mpr around,fun e before => ?_⟩,?_⟩
    · rw [show i + n - d + d = i + n by omega,add_mod_right,mod_eq_of_lt inside]
      exact has
    · have lacks := @lacks_of_lt_gap p n i (d - 1 - e) (by omega)
      rw [show i + n - 1 - (d - 1 - e) = i + n - d + e by omega] at lacks
      simp [lacks]
    · rw [show i + n - d + d = i + n by omega,add_mod_right,mod_eq_of_lt inside]

theorem seek_periodic : Function.Periodic (fun s => seek p n s = some i) n := by
  intro s
  have same : seek p n (s + n) = seek p n s := by
    unfold seek
    simp only [add_right_comm s n,add_mod_right]
  simp [same]

/-- Of as many consecutive searches as there are positions, those end at one that start at it or in the gap before it. -/
theorem count_seek (inside : i < n) (has : p i = true) (a : Nat) :
    count (fun k => seek p n (a + k) = some i) n = 1 + gap p n i := by
  have bound := gap_lt inside has
  rw [count_shift seek_periodic a,← count_shift seek_periodic (i + 1)]
  have starts : ∀ k < n, seek p n (i + 1 + k) = some i ↔ n - 1 - gap p n i ≤ k := by
    intro k small
    rw [show i + 1 + k = i + n - (n - 1 - k) by omega,seek_eq_iff inside has (by omega)]
    omega
  have whole := Nat.count_add (fun k => seek p n (i + 1 + k) = some i) (n - 1 - gap p n i) (1 + gap p n i)
  rw [show n - 1 - gap p n i + (1 + gap p n i) = n by omega] at whole
  rw [whole,count_of_forall_not,count_of_forall,zero_add]
  · intro k small
    exact (starts _ (by omega)).mpr (by omega)
  · intro k small
    rw [starts k (by omega)]
    omega

end

/-! ### Walks along weights -/

def walk : List Nat → Nat → Option Nat
  | [],_ => none
  | w :: ws,r => if r < w then some 0 else (walk ws (r - w)).map (· + 1)

variable {ws : List Nat} {r : Nat}

theorem walk_eq_none_iff : walk ws r = none ↔ ws.sum ≤ r := by
  induction ws generalizing r with
  | nil => simp [walk]
  | cons w ws ih =>
    rw [walk,sum_cons]
    split
    next small => exact iff_of_false (by simp) (by omega)
    next => rw [map_eq_none_iff,ih]; omega

variable {i : Nat}

theorem weight_of_walk (found : walk ws r = some i) : ∃ w, ws[i]? = some w ∧ 0 < w := by
  induction ws generalizing i r with
  | nil => cases found
  | cons w ws ih =>
    rw [walk] at found
    split at found
    next small =>
      cases found
      exact ⟨w,rfl,by omega⟩
    next =>
      obtain ⟨j,found',rfl⟩ := map_eq_some_iff.mp found
      simpa using ih found'

variable {w : Nat}

/-- Each position has as many numbers as its weight says. -/
theorem count_walk (at_ : ws[i]? = some w) : count (fun r => walk ws r = some i) ws.sum = w := by
  induction ws generalizing i with
  | nil => cases at_
  | cons v ws ih =>
    have later : ∀ k, walk (v :: ws) (v + k) = (walk ws k).map (· + 1) := by
      intro k
      rw [walk,if_neg (by omega),Nat.add_sub_cancel_left]
    rw [sum_cons,Nat.count_add]
    simp only [later]
    cases i with
    | zero =>
      cases at_
      rw [count_of_forall,count_of_forall_not]
      · rfl
      · intro k _ taken
        obtain ⟨j,_,same⟩ := map_eq_some_iff.mp taken
        cases same
      · intro k small
        rw [walk,if_pos small]
    | succ i =>
      rw [count_of_forall_not,zero_add,← ih (i := i) (by simpa using at_)]
      · congr 1
        funext k
        simp
      · intro k small taken
        rw [walk,if_pos small] at taken
        cases taken

theorem walk_first (at_ : ws[i]? = some w) (zero : ∀ j < i, ws[j]? = some 0) (r : Nat) :
    walk ws r = some i ↔ r < w := by
  induction ws generalizing i with
  | nil => cases at_
  | cons v ws ih =>
    rw [walk]
    cases i with
    | zero =>
      cases at_
      split
      next small => exact iff_of_true rfl small
      next large => exact iff_of_false (by simp) large
    | succ i =>
      have none : v = 0 := by simpa using zero 0 (succ_pos i)
      subst none
      rw [if_neg (not_lt_zero r),← ih (i := i) (by simpa using at_) fun j before => by
        simpa using zero (j + 1) (succ_lt_succ before)]
      simp

theorem walk_last {l : Nat} (at_ : ws[l]? = some w) (zero : ∀ j, l < j → ws[j]?.getD 0 = 0)
    (inside : r < ws.sum) : walk ws r = some l ↔ ws.sum ≤ r + w := by
  induction ws generalizing l r with
  | nil => cases at_
  | cons v ws ih =>
    rw [sum_cons] at inside ⊢
    rw [walk]
    cases l with
    | zero =>
      cases at_
      have rest : ws.sum = 0 := by
        refine sum_eq_zero fun v listed => ?_
        obtain ⟨j,at_j⟩ := mem_iff_getElem?.mp listed
        have := zero (j + 1) (succ_pos j)
        simpa [at_j] using this
      rw [if_pos (by omega)]
      exact iff_of_true rfl (by omega)
    | succ l =>
      have listed : ws[l]? = some w := by simpa using at_
      have below := le_sum_of_mem (mem_of_getElem? listed)
      split
      next small => exact iff_of_false (by simp) (by omega)
      next large =>
        have later : walk ws (r - v) = some l ↔ ws.sum ≤ r - v + w :=
          ih listed (fun j beyond => by simpa using zero (j + 1) (succ_lt_succ beyond)) (by omega)
        simp [later]
        omega

/-- The position that a number falls to; beyond the weights there is one more. -/
def fall (ws : List Nat) (f r : Nat) : Nat := (walk ws r).getD f

section
variable {ws : List Nat} {f wf l wl : Nat} {T : Nat}

theorem fall_eq_iff {i r : Nat} : fall ws f r = i ↔ walk ws r = some i ∨ ws.sum ≤ r ∧ i = f := by
  unfold fall
  cases found : walk ws r with
  | none => simpa [walk_eq_none_iff.mp found] using eq_comm
  | some j =>
    have inside : ¬ws.sum ≤ r := fun beyond => by simp [walk_eq_none_iff.mpr beyond] at found
    simp [inside]

/-- Over a whole period each number below it is drawn once. -/
theorem count_drawn (T a i : Nat) :
    count (fun k => fall ws f ((a + k) % T) = i) T = count (fun r => fall ws f r = i) T := by
  have periodic : Function.Periodic (fun r => fall ws f (r % T) = i) T := fun r => by simp only [add_mod_right]
  rw [count_shift periodic a]
  refine count_congr fun r inside => ?_
  rw [mod_eq_of_lt inside]

theorem count_fall {i w : Nat} (at_ : ws[i]? = some w) (long : ws.sum ≤ T) :
    count (fun r => fall ws f r = i) T = w + if i = f then T - ws.sum else 0 := by
  have below : count (fun r => fall ws f r = i) ws.sum = w := by
    rw [← count_walk at_]
    refine count_congr fun r inside => ?_
    rw [fall_eq_iff]
    exact or_iff_left fun beyond => absurd beyond.1 (by omega)
  have beyond : ∀ k, fall ws f (ws.sum + k) = i ↔ i = f := by
    intro k
    have off : walk ws (ws.sum + k) = none := walk_eq_none_iff.mpr (by omega)
    rw [fall_eq_iff,off]
    simp
  rw [show T = ws.sum + (T - ws.sum) by omega,Nat.count_add,below,Nat.add_sub_cancel_left]
  simp only [beyond]
  split
  next same => rw [count_of_forall fun _ _ => same]
  next apart => rw [count_of_forall_not fun _ _ => apart]

/-- With a period beyond the weights, the draws are in proportion exactly if its rest falls to the first position. -/
theorem drawn_of_sum_le (first : ws[f]? = some wf) (positive : 0 < wf) (long : ws.sum ≤ T) (a : Nat) :
    (∀ i w, ws[i]? = some w → 0 < w → count (fun k => fall ws f ((a + k) % T) = i) ws.sum = w) ↔
      ∀ k, ws.sum ≤ k → k < T → fall ws f ((a + k) % T) = f := by
  have parts : ∀ i, count (fun r => fall ws f r = i) T = count (fun k => fall ws f ((a + k) % T) = i) ws.sum +
      count (fun k => fall ws f ((a + (ws.sum + k)) % T) = i) (T - ws.sum) := by
    intro i
    rw [← count_drawn T a i,← Nat.count_add,Nat.add_sub_cancel' long]
  constructor
  · intro shared k beyond inside
    have turns := parts f
    rw [count_fall first long,if_pos rfl,shared f wf first positive] at turns
    have rest := count_iff_forall.mp (add_left_cancel turns).symm (k - ws.sum) (by omega)
    rwa [show ws.sum + (k - ws.sum) = k by omega] at rest
  · intro rest i w at_ _
    have turns := parts i
    rw [count_fall at_ long] at turns
    have tail : ∀ k < T - ws.sum, fall ws f ((a + (ws.sum + k)) % T) = f := fun k inside =>
      rest (ws.sum + k) (by omega) (by omega)
    by_cases same : i = f
    · subst same
      rw [if_pos rfl,count_of_forall tail] at turns
      omega
    · have never : ∀ k < T - ws.sum, ¬fall ws f ((a + (ws.sum + k)) % T) = i := fun k inside taken =>
        same (taken.symm.trans (tail k inside))
      rw [if_neg same,count_of_forall_not never] at turns
      omega

theorem fall_last (last : ws[l]? = some wl) (zero : ∀ j, l < j → ws[j]?.getD 0 = 0) {r : Nat} (inside : r < ws.sum) :
    fall ws f r = l ↔ ws.sum ≤ r + wl := by
  rw [fall_eq_iff,or_iff_left fun beyond => absurd beyond.1 (by omega)]
  exact walk_last last zero inside

/-- With a period below the sum of the weights, what is drawn after the first takes the place of what is never drawn. -/
theorem drawn_iff_of_lt_sum {i w : Nat} (at_ : ws[i]? = some w) (short : T < ws.sum) (a : Nat) :
    count (fun k => fall ws f ((a + k) % T) = i) ws.sum = w ↔
      count (fun k => fall ws f ((a + (T + k)) % T) = i) (ws.sum - T) =
        count (fun k => fall ws f (T + k) = i) (ws.sum - T) := by
  have drawn : count (fun k => fall ws f ((a + k) % T) = i) ws.sum = count (fun r => fall ws f r = i) T +
      count (fun k => fall ws f ((a + (T + k)) % T) = i) (ws.sum - T) := by
    rw [← count_drawn T a i,← Nat.count_add,Nat.add_sub_cancel' (Nat.le_of_lt short)]
  have whole := count_fall (f := f) at_ (le_refl ws.sum)
  rw [Nat.sub_self,ite_self,Nat.add_zero,← Nat.add_sub_cancel' (Nat.le_of_lt short),Nat.count_add] at whole
  omega

/-- With a period below the sum of the weights, the draws are in proportion exactly if those after it fall to the last
    position. -/
theorem drawn_of_lt_sum (last : ws[l]? = some wl) (positive : 0 < wl) (zero : ∀ j, l < j → ws[j]?.getD 0 = 0)
    (short : T < ws.sum) (some_ : 0 < T) (a : Nat) :
    (∀ i w, ws[i]? = some w → 0 < w → count (fun k => fall ws f ((a + k) % T) = i) ws.sum = w) ↔
      ∀ k, T ≤ k → k < ws.sum → ws.sum ≤ (a + k) % T + wl := by
  have drawn : ∀ k, (a + k) % T < T := fun k => mod_lt _ some_
  constructor
  · intro shared k beyond inside
    have near : ws.sum ≤ T + wl := by
      by_contra far
      have share := shared l wl last positive
      rw [count_of_forall_not] at share
      · omega
      · intro k _ taken
        have := drawn k
        have := (fall_last last zero (by omega)).mp taken
        omega
    have turns := (drawn_iff_of_lt_sum last short a).mp (shared l wl last positive)
    have tail : ∀ k < ws.sum - T, fall ws f (T + k) = l := fun k inside => (fall_last last zero (by omega)).mpr (by omega)
    rw [count_of_forall tail] at turns
    have all := count_iff_forall.mp turns (k - T) (by omega)
    rw [Nat.add_sub_cancel' beyond] at all
    exact (fall_last last zero (lt_trans (drawn k) short)).mp all
  · intro rest i w at_ _
    have near : ws.sum < T + wl := by
      have := rest T (le_refl T) short
      have := drawn T
      omega
    rw [drawn_iff_of_lt_sum at_ short]
    refine count_congr fun k inside => ?_
    rw [(fall_last last zero (lt_trans (drawn (T + k)) short)).mpr (rest (T + k) (by omega) (by omega)),
      (fall_last last zero (by omega)).mpr (by omega)]

end

end McpBridge.Shares
