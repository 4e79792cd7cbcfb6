import McpBridge.LoadBalancers
import McpBridge.Shares

/-!
How `RoundRobin.Next` and `Weighted.Next` of the gateway share out requests. An endpoint is known by its position, since
two may be alike. Round robin gives a healthy endpoint the turns of the unhealthy ones right before it.
-/
namespace McpBridge.LoadBalancers

def healthyAt (endpoints : List Endpoint) (i : Nat) : Bool := endpoints[i]?.any (·.healthy)

namespace RoundRobin

def position (rr : RoundRobin) : Option Nat :=
  ((List.range rr.endpoints.length).find? fun i =>
    healthyAt rr.endpoints ((increment rr.current + i) % 2 ^ 64 % rr.endpoints.length)).map fun i =>
      (increment rr.current + i) % 2 ^ 64 % rr.endpoints.length

def after (rr : RoundRobin) : Nat → RoundRobin
  | 0 => rr
  | k + 1 => (rr.after k).next.2

end RoundRobin

namespace Weighted

/-- The sum of the weights, which the `int` of the code holds as long as it is small. -/
def totalWeight (w : Weighted) : Nat := (w.endpoints.map weightOf).sum

def after (w : Weighted) : Nat → Weighted
  | 0 => w
  | k + 1 => (w.after k).select.2

end Weighted

end McpBridge.LoadBalancers

namespace McpBridge.BalancerShares
open LoadBalancers Shares List

section
variable {rr : RoundRobin}

theorem findSome_healthy (endpoints : List Endpoint) (f : Nat → Nat) (l : List Nat) :
    (l.findSome? fun i => (endpoints[f i]?).filter (·.healthy)) =
      ((l.find? fun i => healthyAt endpoints (f i)).map f).bind (endpoints[·]?) := by
  induction l with
  | nil => rfl
  | cons i l ih =>
    rw [findSome?_cons,find?_cons,healthyAt]
    cases found : endpoints[f i]? with
    | none => simpa using ih
    | some ep =>
      cases healthy : ep.healthy with
      | true => simp [Option.filter,healthy,found]
      | false => simpa [Option.filter,healthy] using ih

theorem next_position (rr : RoundRobin) : rr.next.1 = rr.position.bind (rr.endpoints[·]?) := by
  unfold RoundRobin.next
  split
  next empty => simp [RoundRobin.position,empty]
  next => exact findSome_healthy rr.endpoints _ _

theorem after_eq (present : rr.endpoints ≠ []) {k : Nat} (unwrapped : rr.current + k < 2 ^ 64) :
    rr.after k = { rr with current := rr.current + k } := by
  induction k with
  | zero => rfl
  | succ k ih =>
    rw [RoundRobin.after,ih (by omega),RoundRobin.next,if_neg present]
    simp only [increment]
    rw [Nat.mod_eq_of_lt (by omega),Nat.add_assoc]

theorem position_eq (present : rr.endpoints ≠ []) {k : Nat}
    (unwrapped : rr.current + k + rr.endpoints.length < 2 ^ 64) :
    (rr.after k).position = seek (healthyAt rr.endpoints) rr.endpoints.length (rr.current + 1 + k) := by
  have size : 0 < rr.endpoints.length := length_pos_iff.mpr present
  have start : increment (rr.current + k) = rr.current + 1 + k := by
    rw [increment,Nat.mod_eq_of_lt (by omega)]
    omega
  rw [after_eq present (by omega)]
  unfold RoundRobin.position seek
  simp only [start]
  rw [← head?_filter,← head?_filter,← head?_map,← head?_map]
  congr 1
  have sums : ∀ i ∈ range rr.endpoints.length, (rr.current + 1 + k + i) % 2 ^ 64 = rr.current + 1 + k + i := by
    intro i inside
    have := mem_range.mp inside
    exact Nat.mod_eq_of_lt (by omega)
  rw [filter_congr fun i inside => by rw [sums i inside]]
  refine map_congr_left fun i kept => ?_
  rw [sums i (mem_of_mem_filter kept)]

theorem none_healthy_iff {endpoints : List Endpoint} :
    (∀ i < endpoints.length, healthyAt endpoints i = false) ↔ ∀ ep ∈ endpoints, ep.healthy = false := by
  constructor
  · intro none ep listed
    obtain ⟨i,inside,rfl⟩ := mem_iff_getElem.mp listed
    simpa [healthyAt,inside] using none i inside
  · intro none i inside
    simpa [healthyAt,inside] using none _ (getElem_mem inside)

end

/-- Of as many calls as there are endpoints, each healthy one gets its own turn and those of the unhealthy ones right
    before it; `Next` finds none only if all are unhealthy. -/
theorem roundRobin_shares (rr : RoundRobin) (unwrapped : rr.current + 2 * rr.endpoints.length ≤ 2 ^ 64) :
    (∀ i, healthyAt rr.endpoints i = true → Nat.count (fun k => (rr.after k).position = some i) rr.endpoints.length =
        1 + gap (healthyAt rr.endpoints) rr.endpoints.length i) ∧ ∀ k < rr.endpoints.length,
        (rr.after k).next.1 = (rr.after k).position.bind (rr.endpoints[·]?) ∧
        (∀ i, (rr.after k).position = some i → healthyAt rr.endpoints i = true) ∧
        ((rr.after k).next.1 = none ↔ ∀ ep ∈ rr.endpoints, ep.healthy = false) := by
  by_cases empty : rr.endpoints = []
  · simp [empty,healthyAt]
  have turns : ∀ k < rr.endpoints.length, (rr.after k).position =
      seek (healthyAt rr.endpoints) rr.endpoints.length (rr.current + 1 + k) := fun k early =>
    position_eq empty (by omega)
  refine ⟨fun i healthy => ?_,fun k early => ?_⟩
  · have inside : i < rr.endpoints.length := by
      by_contra beyond
      simp [healthyAt,getElem?_eq_none (Nat.not_lt.mp beyond)] at healthy
    rw [← count_seek inside healthy (rr.current + 1)]
    exact count_congr fun k early => by rw [turns k early]
  · have answered : (rr.after k).next.1 = (rr.after k).position.bind (rr.endpoints[·]?) := by
      rw [next_position,after_eq empty (by omega)]
    refine ⟨answered,fun i taken => (has_of_seek (turns k early ▸ taken)).2,?_⟩
    rw [answered,← none_healthy_iff,← @seek_eq_none_iff _ _ (rr.current + 1 + k),← turns k early]
    cases taken : (rr.after k).position with
    | none => simp
    | some i =>
      rw [turns k early] at taken
      simp [(has_of_seek taken).1]

def node (address : String) (weight : Int) (healthy : Bool) : Endpoint :=
  { ns := "tools",address,port := 8080,scheme := "http",weight,healthy }

theorem roundRobin_shares_four :
    Nat.count (fun k => (RoundRobin.after ⟨[node "a" 1 true,node "b" 1 false,node "c" 1 false,node "d" 1 true],7⟩ k).position =
      some 3) 4 = 3 :=
  (roundRobin_shares ⟨[node "a" 1 true,node "b" 1 false,node "c" 1 false,node "d" 1 true],7⟩ (by decide)).1 3 (by decide)

/-- The counter plus the index of a probe wraps around: the third call probes the first endpoint twice, and the last,
    which is healthy, not at all. -/
theorem roundRobin_wraps : 2 ^ 64 - 4 + 3 < 2 ^ 64 ∧
      Nat.count (fun k => (RoundRobin.after ⟨[node "a" 1 false,node "b" 1 false,node "c" 1 true],2 ^ 64 - 4⟩ k).position =
        some 2) 3 = 2 ∧ 1 + gap (healthyAt [node "a" 1 false,node "b" 1 false,node "c" 1 true]) 3 2 = 3 ∧
      (RoundRobin.after ⟨[node "a" 1 false,node "b" 1 false,node "c" 1 true],2 ^ 64 - 4⟩ 2).next.1 = none := by
  decide

/-! ### The sums of the weighted balancer -/

/-- The weights that the loop of `Next` adds up: an unhealthy endpoint has no share. -/
def shares (endpoints : List Endpoint) : List Nat := endpoints.map fun ep => if ep.healthy then weightOf ep else 0

def healthyWeight (endpoints : List Endpoint) : Nat := ((endpoints.filter (·.healthy)).map weightOf).sum

def firstWeight (endpoints : List Endpoint) : Nat := ((endpoints.find? (·.healthy)).map weightOf).getD 0

def lastWeight (endpoints : List Endpoint) : Nat := firstWeight endpoints.reverse

section
variable {endpoints : List Endpoint}

theorem sum_shares (endpoints : List Endpoint) : (shares endpoints).sum = healthyWeight endpoints := by
  unfold shares healthyWeight
  induction endpoints with
  | nil => rfl
  | cons ep rest ih =>
    cases healthy : ep.healthy with
    | true | false => simp [healthy,ih]

theorem shares_at {i v : Nat} :
    (shares endpoints)[i]? = some v ∧ 0 < v ↔ ∃ ep, endpoints[i]? = some ep ∧ ep.healthy = true ∧ weightOf ep = v := by
  unfold shares
  rw [getElem?_map]
  cases endpoints[i]? with
  | none => simp
  | some ep =>
    cases healthy : ep.healthy with
    | true =>
      have := weightOf_pos ep
      simp [healthy]
      omega
    | false => simp [healthy]; omega

section
variable (some_healthy : ∃ ep ∈ endpoints, ep.healthy = true)
include some_healthy

theorem exists_first :
    ∃ f, endpoints.findIdx? (·.healthy) = some f ∧ (shares endpoints)[f]? = some (firstWeight endpoints) ∧
      ∀ j < f, (shares endpoints)[j]? = some 0 := by
  induction endpoints with
  | nil => simp at some_healthy
  | cons ep rest ih =>
    cases healthy : ep.healthy with
    | true => exact ⟨0,by simp [findIdx?_cons,healthy],by simp [shares,firstWeight,healthy],by simp⟩
    | false =>
      obtain ⟨f,found,first,before⟩ := ih (by simpa [healthy] using some_healthy)
      refine ⟨f + 1,by simp [findIdx?_cons,healthy,found],by simpa [shares,firstWeight,healthy] using first,?_⟩
      intro j early
      cases j with
      | zero => simp [shares,healthy]
      | succ j => simpa [shares] using before j (by omega)

theorem firstWeight_pos : 0 < firstWeight endpoints := by
  unfold firstWeight
  cases found : endpoints.find? (·.healthy) with
  | none =>
    obtain ⟨ep,listed,healthy⟩ := some_healthy
    exact absurd healthy (find?_eq_none.mp found ep listed)
  | some ep => exact weightOf_pos ep

/-- The last healthy endpoint is the first one of the list that is turned around. -/
theorem exists_last : ∃ l, (shares endpoints)[l]? = some (lastWeight endpoints) ∧ 0 < lastWeight endpoints ∧
      ∀ j : Nat, l < j → (shares endpoints)[j]?.getD 0 = 0 := by
  have flipped : ∃ ep ∈ endpoints.reverse, ep.healthy = true := by simpa using some_healthy
  obtain ⟨f,_,first,before⟩ := exists_first flipped
  have around : shares endpoints.reverse = (shares endpoints).reverse := map_reverse
  rw [around] at first before
  have inside : f < (shares endpoints).length := by
    have := (List.getElem?_eq_some_iff.mp first).1
    rwa [length_reverse] at this
  refine ⟨(shares endpoints).length - 1 - f,?_,firstWeight_pos flipped,fun j later => ?_⟩
  · rwa [getElem?_reverse inside] at first
  · by_cases listed : j < (shares endpoints).length
    · have none := before ((shares endpoints).length - 1 - j) (by omega)
      rw [getElem?_reverse (by omega),
        show (shares endpoints).length - 1 - ((shares endpoints).length - 1 - j) = j by omega] at none
      rw [none,Option.getD_some]
    · rw [getElem?_eq_none (Nat.not_lt.mp listed),Option.getD_none]

end

end

/-! ### The loop of the weighted balancer -/

theorem int64_of_ge {x : Nat} (large : 2 ^ 63 ≤ x) (fits : x < 2 ^ 64) : int64 x = x - 2 ^ 64 := by
  rw [int64,Int.bmod_def]
  split <;> omega

theorem int64_add (x y : Int) : int64 (int64 x + y) = int64 (x + y) := Int.bmod_add_bmod

section
variable {endpoints : List Endpoint}

/-- As long as no sum wraps around, the loop walks along the shares. -/
theorem pickPosition_eq {r acc : Nat} (i : Nat) (reached : acc ≤ r) (fits : acc + healthyWeight endpoints < 2 ^ 63) :
    pickPosition r acc i endpoints = (walk (shares endpoints) (r - acc)).map (· + i) := by
  rw [← sum_shares] at fits
  induction endpoints generalizing acc i with
  | nil => rfl
  | cons ep rest ih =>
    rw [pickPosition]
    simp only [shares,map_cons,sum_cons] at fits ih ⊢
    cases healthy : ep.healthy with
    | true =>
      simp only [healthy,if_true] at fits ⊢
      rw [← Int.natCast_add,int64_of_lt (by omega),walk]
      by_cases here : r < acc + weightOf ep
      · rw [if_pos (by omega),if_pos (by omega)]
        simp
      · rw [if_neg (by omega),if_neg (by omega),ih (i + 1) (by omega) (by omega),Nat.sub_sub,Option.map_map]
        congr 1
        funext j
        simp only [Function.comp_apply]
        omega
    | false =>
      simp only [healthy,Bool.false_eq_true,if_false] at fits ⊢
      rw [ih (i + 1) reached (by omega),walk,if_neg (by omega),Option.map_map,Nat.sub_zero]
      congr 1
      funext j
      simp only [Function.comp_apply]
      omega

theorem pickPosition_nonpos {position : Int} (nonpos : position ≤ 0) (i : Nat) :
    pickPosition position 0 i endpoints = (endpoints.findIdx? (·.healthy)).map (· + i) := by
  induction endpoints generalizing i with
  | nil => rfl
  | cons ep rest ih =>
    rw [pickPosition,findIdx?_cons]
    cases healthy : ep.healthy with
    | true =>
      have some_ := weightOf_pos ep
      rw [Int.zero_add,int64_of_lt (weightOf_lt ep)]
      simp
      omega
    | false =>
      rw [ih]
      simp [Option.map_map,Function.comp_def,Nat.add_assoc,Nat.add_comm 1 i]

theorem pickPosition_bounds {position currentWeight : Int} {i j : Nat}
    (found : pickPosition position currentWeight i endpoints = some j) : i ≤ j ∧ j < i + endpoints.length := by
  induction endpoints generalizing currentWeight i with
  | nil => cases found
  | cons ep rest ih =>
    rw [length_cons]
    rw [pickPosition] at found
    split at found
    · split at found
      · cases found
        omega
      · have := ih found
        omega
    · have := ih found
      omega

/-- The endpoint at which the sum wraps around is reached by no position that is not negative. -/
theorem exists_skipped (acc i : Nat) (small : acc < 2 ^ 63) (large : 2 ^ 63 ≤ acc + healthyWeight endpoints)
    (fits : acc + healthyWeight endpoints < 2 ^ 64) : ∃ j ep, endpoints[j]? = some ep ∧ ep.healthy = true ∧
      ∀ position : Int, 0 ≤ position → pickPosition position acc i endpoints ≠ some (i + j) := by
  rw [← sum_shares] at large fits
  induction endpoints generalizing acc i with
  | nil =>
    simp [shares] at large
    omega
  | cons ep rest ih =>
    simp only [shares,map_cons,sum_cons] at large fits ih
    cases healthy : ep.healthy with
    | true =>
      simp only [healthy,if_true] at large fits
      by_cases wraps : acc + weightOf ep < 2 ^ 63
      · obtain ⟨j,skipped,at_,sound,never⟩ := ih _ (i + 1) wraps (by omega) (by omega)
        refine ⟨j + 1,skipped,by simpa using at_,sound,fun position natural found => ?_⟩
        rw [pickPosition,if_pos healthy,← Int.natCast_add,int64_of_lt wraps] at found
        split at found
        · simp at found
        · exact never position natural (by rw [found]; congr 1; omega)
      · refine ⟨0,ep,by simp,healthy,fun position natural found => ?_⟩
        rw [pickPosition,if_pos healthy,← Int.natCast_add,int64_of_ge (by omega) (by omega),if_neg (by omega)] at found
        have := pickPosition_bounds found
        omega
    | false =>
      simp only [healthy,Bool.false_eq_true,if_false] at large fits
      obtain ⟨j,skipped,at_,sound,never⟩ := ih _ (i + 1) small (by omega) (by omega)
      refine ⟨j + 1,skipped,by simpa using at_,sound,fun position natural found => ?_⟩
      rw [pickPosition,if_neg (by simp [healthy])] at found
      exact never position natural (by rw [found]; congr 1; omega)

end

theorem total_eq (w : Weighted) : w.total = int64 w.totalWeight := by
  have sums : ∀ (endpoints : List Endpoint) (acc : Int),
      endpoints.foldl (fun total ep => int64 (total + weightOf ep)) (int64 acc) =
        int64 (acc + (endpoints.map weightOf).sum) := by
    intro endpoints
    induction endpoints with
    | nil => simp
    | cons ep rest ih =>
      intro acc
      rw [foldl_cons,int64_add,ih,map_cons,sum_cons,Int.natCast_add,Int.add_assoc]
  have all := sums w.endpoints 0
  rwa [Int.zero_add] at all

theorem period_eq (w : Weighted) : w.period = w.totalWeight % 2 ^ 64 := by
  rw [Weighted.period,total_eq,int64]
  have same := Int.bmod_emod (x := w.totalWeight) (m := 2 ^ 64)
  omega

theorem total_eq_zero_iff (w : Weighted) : w.total = 0 ↔ w.period = 0 := by
  rw [period_eq,total_eq,int64,Int.bmod_def]
  split <;> omega

section
variable {w : Weighted}

theorem select_eq (present : w.endpoints ≠ []) (turns : w.period ≠ 0) :
    w.select = ((pickPosition (int64 (increment w.current % w.period : Nat)) 0 0 w.endpoints).or
      (w.endpoints.findIdx? (·.healthy)),{ w with current := increment w.current }) := by
  rw [Weighted.select,if_neg (by simp [present,total_eq_zero_iff,turns])]

theorem after_select (present : w.endpoints ≠ []) (turns : w.period ≠ 0) {k : Nat} (unwrapped : w.current + k < 2 ^ 64) :
    w.after k = { w with current := w.current + k } := by
  induction k with
  | zero => rfl
  | succ k ih =>
    rw [Weighted.after,ih (by omega),select_eq (w := { w with current := w.current + k }) present turns]
    simp only [increment]
    rw [Nat.mod_eq_of_lt (by omega),Nat.add_assoc]

/-- The number that a call draws, before it is converted to `int`. -/
def draw (w : Weighted) (k : Nat) : Nat := (w.current + 1 + k) % w.period

theorem draw_lt (turns : w.period ≠ 0) (k : Nat) : draw w k < 2 ^ 64 := by
  have := Nat.mod_lt (w.current + 1 + k) (Nat.pos_of_ne_zero turns)
  have := period_eq w
  unfold draw
  omega

theorem selected_eq (present : w.endpoints ≠ []) (turns : w.period ≠ 0) {k : Nat}
    (unwrapped : w.current + 1 + k < 2 ^ 64) : (w.after k).select.1 =
      (pickPosition (int64 (draw w k)) 0 0 w.endpoints).or (w.endpoints.findIdx? (·.healthy)) := by
  rw [after_select present turns (by omega),select_eq (w := { w with current := w.current + k }) present turns]
  have counter : increment (w.current + k) = w.current + 1 + k := by
    rw [increment,Nat.mod_eq_of_lt (by omega)]
    omega
  simp only [counter]
  rfl

theorem selected_fall (present : w.endpoints ≠ []) (turns : w.period ≠ 0)
    (fits : healthyWeight w.endpoints < 2 ^ 63) {f : Nat}
    (first : w.endpoints.findIdx? (·.healthy) = some f) {k : Nat} (unwrapped : w.current + 1 + k < 2 ^ 64) :
    (w.after k).select.1 = some (fall (shares w.endpoints) f (draw w k)) := by
  rw [selected_eq present turns unwrapped,first]
  by_cases small : draw w k < 2 ^ 63
  · rw [int64_of_lt small]
    have walked := pickPosition_eq 0 (Nat.zero_le (draw w k)) (by rwa [Nat.zero_add])
    rw [show ((0 : Nat) : Int) = 0 from rfl] at walked
    rw [walked,fall]
    cases walk (shares w.endpoints) (draw w k - 0) <;> simp
  · have beyond : walk (shares w.endpoints) (draw w k) = none := walk_eq_none_iff.mpr (by rw [sum_shares]; omega)
    rw [int64_of_ge (by omega) (draw_lt turns k),pickPosition_nonpos (by have := draw_lt turns k; omega),first,fall,beyond]
    rfl

end

/-- Over as many calls as the healthy endpoints weigh, each is returned as often as it weighs. -/
def Proportional (w : Weighted) : Prop :=
  (∀ k < healthyWeight w.endpoints, ∃ i, (w.after k).select.1 = some i ∧ healthyAt w.endpoints i = true) ∧
    ∀ i ep, w.endpoints[i]? = some ep → ep.healthy = true →
      Nat.count (fun k => (w.after k).select.1 = some i) (healthyWeight w.endpoints) = weightOf ep

/-- The draws left of a period fall to the first healthy endpoint; if it has wrapped around below the weight of the
    healthy ones, those after a period fall to the last. -/
def Even (w : Weighted) : Prop :=
  w.period ≠ 0 ∧ healthyWeight w.endpoints < 2 ^ 63 ∧ (∀ k, healthyWeight w.endpoints ≤ k → k < w.period →
      draw w k < firstWeight w.endpoints ∨ healthyWeight w.endpoints ≤ draw w k) ∧
    ∀ k, w.period ≤ k → k < healthyWeight w.endpoints → healthyWeight w.endpoints ≤ draw w k + lastWeight w.endpoints

section
variable {w : Weighted}

theorem turns_of_proportional (some_healthy : ∃ ep ∈ w.endpoints, ep.healthy = true) (proportional : Proportional w) :
    w.period ≠ 0 := by
  intro stuck
  have first : 0 < healthyWeight w.endpoints := by
    have := firstWeight_pos some_healthy
    obtain ⟨f,_,at_,_⟩ := exists_first some_healthy
    have := le_sum_of_mem (mem_of_getElem? at_)
    rw [sum_shares] at this
    omega
  obtain ⟨i,taken,_⟩ := proportional.1 0 first
  have none : w.select.1 = none := by rw [Weighted.select,if_pos (.inr ((total_eq_zero_iff w).mpr stuck))]
  rw [Weighted.after,none] at taken
  cases taken

theorem fits_of_shared (some_healthy : ∃ ep ∈ w.endpoints, ep.healthy = true)
    (unwrapped : w.current + healthyWeight w.endpoints < 2 ^ 64) (turns : w.period ≠ 0)
    (shared : ∀ i ep, w.endpoints[i]? = some ep → ep.healthy = true →
      Nat.count (fun k => (w.after k).select.1 = some i) (healthyWeight w.endpoints) = weightOf ep) :
    healthyWeight w.endpoints < 2 ^ 63 := by
  by_contra large
  rw [← Nat.zero_add (healthyWeight w.endpoints)] at large
  obtain ⟨j,skipped,at_,healthy,never⟩ := exists_skipped 0 0 (by omega) (Nat.not_lt.mp large) (by omega)
  obtain ⟨f,first,_,_⟩ := exists_first some_healthy
  have apart : f ≠ j := by
    intro same
    have at_zero := never 0 (Int.le_refl 0)
    rw [show ((0 : Nat) : Int) = 0 from rfl,pickPosition_nonpos (Int.le_refl 0),first] at at_zero
    simp [same] at at_zero
  have unreached : ∀ k < healthyWeight w.endpoints, ¬(w.after k).select.1 = some j := by
    intro k early taken
    rw [selected_eq (ne_nil_of_mem (mem_of_getElem? at_)) turns (by omega),first] at taken
    rcases Int.le_total (int64 (draw w k)) 0 with nonpos | natural
    · rw [pickPosition_nonpos nonpos,first] at taken
      simp at taken
      exact apart taken
    · have passed := never _ natural
      simp only [Nat.zero_add,Nat.cast_zero] at passed
      cases found : pickPosition (int64 (draw w k)) 0 0 w.endpoints with
      | none =>
        rw [found] at taken
        exact apart (Option.some.inj taken)
      | some i =>
        rw [found] at taken passed
        exact passed taken
  have share := shared j skipped at_ healthy
  rw [Nat.count_of_forall_not unreached] at share
  have := weightOf_pos skipped
  omega

theorem fall_healthy {endpoints : List Endpoint} {f : Nat} (first : endpoints.findIdx? (·.healthy) = some f) (r : Nat) :
    healthyAt endpoints (fall (shares endpoints) f r) = true := by
  rcases (@fall_eq_iff (shares endpoints) f _ r).mp rfl with walked | ⟨_,fallen⟩
  · obtain ⟨v,share⟩ := weight_of_walk walked
    obtain ⟨ep,listed,healthy,_⟩ := shares_at.mp share
    simp [healthyAt,listed,healthy]
  · rw [fallen]
    obtain ⟨inside,healthy,_⟩ := findIdx?_eq_some_iff_getElem.mp first
    simp [healthyAt,inside,healthy]

theorem proportional_iff (present : w.endpoints ≠ [])
    (unwrapped : w.current + healthyWeight w.endpoints < 2 ^ 64) (turns : w.period ≠ 0)
    (fits : healthyWeight w.endpoints < 2 ^ 63) {f : Nat} (first : w.endpoints.findIdx? (·.healthy) = some f) :
    Proportional w ↔ ∀ i v, (shares w.endpoints)[i]? = some v → 0 < v →
      Nat.count (fun k => fall (shares w.endpoints) f ((w.current + 1 + k) % w.period) = i) (shares w.endpoints).sum = v := by
  have selected : ∀ k < healthyWeight w.endpoints,
      (w.after k).select.1 = some (fall (shares w.endpoints) f (draw w k)) := fun k early =>
    selected_fall present turns fits first (by omega)
  have counted : ∀ i, Nat.count (fun k => (w.after k).select.1 = some i) (healthyWeight w.endpoints) =
      Nat.count (fun k => fall (shares w.endpoints) f ((w.current + 1 + k) % w.period) = i) (shares w.endpoints).sum := by
    intro i
    rw [sum_shares]
    exact count_congr fun k early => by rw [selected k early,Option.some.injEq]; rfl
  constructor
  · intro proportional i v at_ positive
    obtain ⟨ep,listed,healthy,rfl⟩ := shares_at.mp ⟨at_,positive⟩
    rw [← counted]
    exact proportional.2 i ep listed healthy
  · intro shared
    refine ⟨fun k early => ⟨_,selected k early,?_⟩,fun i ep listed healthy => ?_⟩
    · exact fall_healthy first (draw w k)
    · obtain ⟨at_,positive⟩ := shares_at.mpr ⟨ep,listed,healthy,rfl⟩
      rw [counted]
      exact shared i _ at_ positive

end

/-- The calls share out in proportion exactly if the draws are even. -/
theorem weighted_proportional_iff (w : Weighted) (some_healthy : ∃ ep ∈ w.endpoints, ep.healthy = true)
    (unwrapped : w.current + healthyWeight w.endpoints < 2 ^ 64) : Proportional w ↔ Even w := by
  have present : w.endpoints ≠ [] := by
    obtain ⟨ep,listed,_⟩ := some_healthy
    exact ne_nil_of_mem listed
  obtain ⟨f,found,first,before⟩ := exists_first some_healthy
  obtain ⟨l,last,positive,zero⟩ := exists_last some_healthy
  have falls : ∀ r, fall (shares w.endpoints) f r = f ↔ r < firstWeight w.endpoints ∨ healthyWeight w.endpoints ≤ r := by
    intro r
    rw [fall_eq_iff,walk_first first before,sum_shares]
    simp
  by_cases turns : w.period = 0
  · exact iff_of_false (fun proportional => turns_of_proportional some_healthy proportional turns) fun even => even.1 turns
  by_cases fits : healthyWeight w.endpoints < 2 ^ 63
  · rw [proportional_iff present unwrapped turns fits found]
    by_cases long : (shares w.endpoints).sum ≤ w.period
    · rw [drawn_of_sum_le first (firstWeight_pos some_healthy) long]
      simp only [falls,sum_shares] at long ⊢
      exact ⟨fun rest => ⟨turns,fits,rest,fun k beyond inside => by omega⟩,fun even => even.2.2.1⟩
    · rw [drawn_of_lt_sum last positive zero (by omega) (by omega)]
      simp only [sum_shares] at long ⊢
      exact ⟨fun rest => ⟨turns,fits,fun k beyond inside => by omega,rest⟩,fun even => even.2.2.2⟩
  · exact iff_of_false (fun proportional => fits (fits_of_shared some_healthy unwrapped turns proportional.2)) fun even =>
      fits even.2.1

def three : List Endpoint := [node "a" 1 true,node "b" 1 false,node "c" 1 true]

theorem weighted_proportional_iff_fresh : Proportional ⟨three,0⟩ := by
  refine (weighted_proportional_iff ⟨three,0⟩ ⟨_,mem_cons_self,rfl⟩ (by decide)).mpr
    ⟨by decide,by decide,fun k beyond inside => ?_,fun k beyond inside => ?_⟩
  · have period : Weighted.period ⟨three,0⟩ = 3 := by decide
    have weight : healthyWeight three = 2 := by decide
    obtain rfl : k = 2 := by simp only [period,weight] at beyond inside; omega
    decide
  · have period : Weighted.period ⟨three,0⟩ = 3 := by decide
    have weight : healthyWeight three = 2 := by decide
    simp only [period,weight] at beyond inside
    omega

/-- After one call, the next two both return the first endpoint. -/
theorem weighted_first_twice :
    healthyWeight three = 2 ∧ (Weighted.after ⟨three,0⟩ 1).select.1 = some 0 ∧ (Weighted.after ⟨three,0⟩ 2).select.1 = some 0 ∧
      ¬Proportional (Weighted.after ⟨three,0⟩ 1) := by
  refine ⟨by decide,by decide,by decide,fun proportional => ?_⟩
  have share := proportional.2 2 (node "c" 1 true) rfl rfl
  revert share
  decide

end McpBridge.BalancerShares
