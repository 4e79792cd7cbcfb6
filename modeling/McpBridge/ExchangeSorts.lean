import Mathlib.Data.List.Sort

/-!
Lists in the order of a key. An exchange sort puts the least of what is left first; an item is inserted before the first
one with a larger key. In a list in order, the first item with a property has the least key of all that have it.
-/
namespace McpBridge.ExchangeSorts
open List

universe u v
variable {α : Type u} {β : Type v} [LinearOrder β] (key : α → β)

def Ranked (l : List α) : Prop := l.Pairwise (key · ≤ key ·)

/-- The inner loop of an exchange sort, which exchanges the first item with each smaller one: what ends up first, and
    the rest. -/
def settle : α → List α → α × List α
  | first,[] => (first,[])
  | first,x :: xs =>
    if key x < key first then ((settle x xs).1,first :: (settle x xs).2) else ((settle first xs).1,x :: (settle first xs).2)

def rounds : Nat → List α → List α
  | 0,l => l
  | _ + 1,[] => []
  | n + 1,x :: xs => (settle key x xs).1 :: rounds n (settle key x xs).2

/-- `for i := 0; i < len(l)-1; i++ { for j := i + 1; j < len(l); j++ { .. } }` -/
def exchangeSort (l : List α) : List α := rounds key (l.length - 1) l

def insertRanked (x : α) (l : List α) : List α := l.orderedInsert (key · < key ·) x

variable {key}

theorem settle_perm (first : α) (xs : List α) : ((settle key first xs).1 :: (settle key first xs).2).Perm (first :: xs) := by
  induction xs generalizing first with
  | nil => exact Perm.refl _
  | cons x xs ih =>
    rw [settle]
    split
    · exact (Perm.swap _ _ _).trans ((ih x).cons first)
    · exact (Perm.swap _ _ _).trans (((ih first).cons x).trans (Perm.swap _ _ _))

theorem settle_le (first : α) (xs : List α) :
    key (settle key first xs).1 ≤ key first ∧ ∀ y ∈ (settle key first xs).2, key (settle key first xs).1 ≤ key y := by
  induction xs generalizing first with
  | nil => simp [settle]
  | cons x xs ih =>
    rw [settle]
    split
    next smaller =>
      obtain ⟨least,rest⟩ := ih x
      have below := least.trans (le_of_lt smaller)
      exact ⟨below,forall_mem_cons.mpr ⟨below,rest⟩⟩
    next larger =>
      obtain ⟨least,rest⟩ := ih first
      exact ⟨least,forall_mem_cons.mpr ⟨least.trans (not_lt.mp larger),rest⟩⟩

theorem rounds_perm (n : Nat) (l : List α) : (rounds key n l).Perm l := by
  induction n generalizing l with
  | zero => exact Perm.refl _
  | succ n ih =>
    cases l with
    | nil => exact Perm.refl _
    | cons x xs => exact ((ih _).cons _).trans (settle_perm x xs)

theorem rounds_ranked {n : Nat} {l : List α} (enough : l.length ≤ n + 1) : Ranked key (rounds key n l) := by
  induction n generalizing l with
  | zero =>
    cases l with
    | nil => exact Pairwise.nil
    | cons x xs =>
      obtain rfl : xs = [] := length_eq_zero_iff.mp (by simpa using enough)
      exact pairwise_singleton _ x
  | succ n ih =>
    cases l with
    | nil => exact Pairwise.nil
    | cons x xs =>
      have size := (@settle_perm _ _ _ key x xs).length_eq
      simp only [length_cons] at size enough
      refine pairwise_cons.mpr ⟨fun y later => ?_,ih (by omega)⟩
      exact (settle_le x xs).2 y ((rounds_perm n _).subset later)

theorem exchangeSort_perm (l : List α) : (exchangeSort key l).Perm l := rounds_perm _ l

theorem exchangeSort_ranked (l : List α) : Ranked key (exchangeSort key l) := rounds_ranked (by omega)

theorem insertRanked_perm (x : α) (l : List α) : (insertRanked key x l).Perm (x :: l) := perm_orderedInsert _ x l

section
variable {l : List α} (ranked : Ranked key l) {x : α}
include ranked

theorem insertRanked_ranked : Ranked key (insertRanked key x l) := by
  induction l with
  | nil => exact pairwise_singleton _ x
  | cons y l ih =>
    obtain ⟨least,rest⟩ := pairwise_cons.mp ranked
    rw [insertRanked,orderedInsert]
    split
    next smaller =>
      refine pairwise_cons.mpr ⟨forall_mem_cons.mpr ⟨le_of_lt smaller,fun z later => ?_⟩,ranked⟩
      exact (le_of_lt smaller).trans (least z later)
    next larger =>
      refine pairwise_cons.mpr ⟨fun z member => ?_,ih rest⟩
      rcases mem_cons.mp ((insertRanked_perm x l).subset member) with rfl | later
      · exact not_lt.mp larger
      · exact least z later

theorem Ranked.filter (p : α → Bool) : Ranked key (l.filter p) :=
  Pairwise.filter p ranked

/-- The first item with a property has the least key. -/
theorem Ranked.find_least {p : α → Bool} (found : l.find? p = some x) :
    ∀ y ∈ l, p y = true → key x ≤ key y := by
  obtain ⟨_,before,after,rfl,missed⟩ := find?_eq_some_iff_append.mp found
  intro y listed has
  rcases mem_append.mp listed with early | late
  · exact absurd has (by simpa using missed y early)
  · rcases mem_cons.mp late with rfl | later
    · exact le_refl _
    · exact (pairwise_cons.mp (pairwise_append.mp ranked).2.1).1 y later

end

end McpBridge.ExchangeSorts
