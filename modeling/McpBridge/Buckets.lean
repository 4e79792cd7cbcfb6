import Mathlib

/-!
Buckets that fill at a rate up to a cap and from which one unit is drawn at a time. What was drawn since a moment and
what is left are at most the cap and what has flowed in since (`Funded`), which bounds the draws of an interval.
-/
namespace McpBridge.Buckets
universe u

theorem countP_eq_zero_of_past {K : Type u} [LinearOrder K] {now : K} {draws : List K} (past : ∀ t ∈ draws, t ≤ now) {a : K}
    (after : now < a) : draws.countP (fun t => decide (a ≤ t)) = 0 := by
  rw [List.countP_eq_zero]
  intro t member
  have early := past t member
  simp only [decide_eq_true_eq,not_le]
  exact lt_of_le_of_lt early after

section
variable {K : Type u} [Field K] [LinearOrder K] [IsStrictOrderedRing K]

/-- The draws, with their times, are paid for by the cap and what has flowed in; the level is what is left. -/
structure Funded (cap rate now level : K) (draws : List K) : Prop where
  past : ∀ t ∈ draws, t ≤ now
  lower : 0 ≤ level
  upper : level ≤ cap
  since : ∀ a ≤ now, (draws.countP (fun t => decide (a ≤ t)) : K) + level ≤ cap + rate * (now - a)
  within : ∀ a b, a ≤ b → (draws.countP (fun t => decide (a ≤ t ∧ t ≤ b)) : K) ≤ cap + rate * (b - a)

variable {cap rate now level later level' : K} {draws : List K}

theorem funded_nil (positive : 0 ≤ rate) (lower : 0 ≤ level) (upper : level ≤ cap) : Funded cap rate now level [] := by
  refine ⟨by simp,lower,upper,fun a early => ?_,fun a b order => ?_⟩
  · have flow := mul_nonneg positive (sub_nonneg.mpr early)
    simp
    linarith
  · have flow := mul_nonneg positive (sub_nonneg.mpr order)
    simp
    linarith

/-- Time passes, and no more flows in than the rate says. -/
theorem Funded.refill (funded : Funded cap rate now level draws) (order : now ≤ later) (lower : 0 ≤ level')
    (upper : level' ≤ cap) (positive : 0 ≤ rate) (flow : level' ≤ level + rate * (later - now)) :
    Funded cap rate later level' draws := by
  refine ⟨fun t member => le_trans (funded.past t member) order,lower,upper,fun a early => ?_,funded.within⟩
  by_cases before : a ≤ now
  · have account := funded.since a before
    linarith
  · rw [countP_eq_zero_of_past funded.past (not_le.mp before),Nat.cast_zero]
    have more := mul_nonneg positive (sub_nonneg.mpr early)
    linarith

theorem Funded.draw (funded : Funded cap rate now level draws) (positive : 0 ≤ rate) (enough : 1 ≤ level) :
    Funded cap rate now (level - 1) (now :: draws) := by
  have since : ∀ a ≤ now,
      ((now :: draws).countP (fun t => decide (a ≤ t)) : K) + (level - 1) ≤ cap + rate * (now - a) := by
    intro a early
    have account := funded.since a early
    rw [List.countP_cons_of_pos (by simpa using early)]
    push_cast
    linarith
  have upper := funded.upper
  refine ⟨?_,by linarith,by linarith,since,fun a b order => ?_⟩
  · rintro t (_ | ⟨_,member⟩)
    · exact le_refl _
    · exact funded.past t member
  · by_cases inside : a ≤ now ∧ now ≤ b
    · -- all draws so far lie before the end of the interval
      have all : (now :: draws).countP (fun t => decide (a ≤ t ∧ t ≤ b)) ≤
          (now :: draws).countP (fun t => decide (a ≤ t)) := by
        refine List.countP_mono_left fun t _ within => ?_
        simp only [decide_eq_true_eq] at within ⊢
        exact within.1
      have account := since a inside.1
      have more := mul_nonneg positive (sub_nonneg.mpr inside.2)
      have count : ((now :: draws).countP (fun t => decide (a ≤ t ∧ t ≤ b)) : K) ≤
          (now :: draws).countP (fun t => decide (a ≤ t)) := Nat.cast_le.mpr all
      linarith
    · rw [List.countP_cons_of_neg (by simpa using inside)]
      exact funded.within a b order

end

/-- The time between the readings of a clock, each interval up to the limit. -/
def gained (limit : Int) (clock : Nat → Int) (n : Nat) : Int :=
  ∑ i ∈ Finset.range n, min (clock (i + 1) - clock i) limit

section
variable {limit : Int} {clock : Nat → Int}

@[simp] theorem gained_zero : gained limit clock 0 = 0 := rfl

theorem gained_succ_first (n : Nat) : gained limit clock (n + 1) =
    min (clock 1 - clock 0) limit + gained limit (fun i => clock (i + 1)) n :=
  (Finset.sum_range_succ' ..).trans (Int.add_comm ..)

theorem gained_add_min_le (room : 0 ≤ limit) (forward : Monotone clock) (n k : Nat) :
    gained limit clock n + min (clock (n + k) - clock n) limit ≤ gained limit clock (n + k) := by
  induction k with
  | zero => simp [room]
  | succ k ih =>
    have ahead := forward (Nat.le_add_right n k)
    have last : clock (n + k) ≤ clock (n + k + 1) := forward (Nat.le_succ (n + k))
    rw [← Nat.add_assoc,show gained limit clock (n + k + 1) = _ from Finset.sum_range_succ ..,← gained]
    omega

/-- As time goes on, the counted time passes every bound. -/
theorem exists_gained_ge (room : 0 < limit) (forward : Monotone clock) (unbounded : ∀ bound, ∃ n, bound ≤ clock n)
    (amount : Nat) : ∃ n, (amount : Int) ≤ gained limit clock n := by
  induction amount with
  | zero => exact ⟨0,Int.le_refl 0⟩
  | succ amount ih =>
    obtain ⟨n,enough⟩ := ih
    obtain ⟨m,ahead⟩ := unbounded (clock n + 1)
    have after : n ≤ m := by
      by_contra before
      have back := forward (Nat.le_of_lt (Nat.not_le.mp before))
      omega
    obtain ⟨k,rfl⟩ := Nat.exists_eq_add_of_le after
    have more := gained_add_min_le (Int.le_of_lt room) forward n k
    refine ⟨n + k,?_⟩
    omega

end

end McpBridge.Buckets
