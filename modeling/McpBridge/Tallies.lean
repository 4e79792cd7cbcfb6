import Mathlib.Algebra.BigOperators.Group.Finset.Piecewise

/-!
Counting by hand. A tally says how many of the first places have a property, and follows changes.
-/
namespace McpBridge.Tallies
open Function Finset

universe u v
variable {Slot : Type u}

/-- How many of the first `n` places have something of the kind. -/
def tally (n : Nat) (kind : Nat → Slot → Bool) (slots : Nat → Slot) : Nat :=
  ((range n).filter fun i => kind i (slots i)).card

section
variable {n i : Nat} {kind : Nat → Slot → Bool} {slots : Nat → Slot}

theorem tally_eq_sum : tally n kind slots = ∑ i ∈ range n, (kind i (slots i)).toNat := by
  rw [tally,card_filter]
  refine sum_congr rfl fun i _ => ?_
  cases kind i (slots i) <;> rfl

theorem tally_succ : tally (n + 1) kind slots = tally n kind slots + (kind n (slots n)).toNat := by
  rw [tally_eq_sum,tally_eq_sum,sum_range_succ]

theorem tally_update (inside : i < n) (x : Slot) :
    tally n kind (update slots i x) + (kind i (slots i)).toNat = tally n kind slots + (kind i x).toNat := by
  have listed : i ∈ range n := mem_range.mpr inside
  have elsewhere : ∑ j ∈ (range n).erase i, (kind j (update slots i x j)).toNat =
      ∑ j ∈ (range n).erase i, (kind j (slots j)).toNat :=
    sum_congr rfl fun j other => by rw [update_of_ne (ne_of_mem_erase other)]
  rw [tally_eq_sum,tally_eq_sum,← add_sum_erase _ _ listed,← add_sum_erase _ _ listed,elsewhere,update_self]
  omega

theorem tally_pos (inside : i < n) (has : kind i (slots i) = true) : 0 < tally n kind slots :=
  card_pos.mpr ⟨i,mem_filter.mpr ⟨mem_range.mpr inside,has⟩⟩

end

/-- Counters that are found through their keys. -/
structure Table (Key : Type u) (Ref : Type v) where
  entry : Key → Option Ref := fun _ => none
  counter : Ref → Int := fun _ => 0

namespace Table
variable {Key : Type u} {Ref : Type v}

def value (t : Table Key Ref) (key : Key) : Int := (t.entry key).elim 0 t.counter

/-- The entry of a key; a missing one is made with the given new counter. -/
def loadOrStore [DecidableEq Key] [DecidableEq Ref] (t : Table Key Ref) (key : Key) (fresh : Ref) :
    Ref × Table Key Ref :=
  match t.entry key with
  | some ref => (ref,t)
  | none => (fresh,{ entry := update t.entry key (some fresh), counter := update t.counter fresh 0 })

def add [DecidableEq Ref] (t : Table Key Ref) (ref : Ref) (amount : Int) : Table Key Ref :=
  { t with counter := update t.counter ref (t.counter ref + amount) }

def delete [DecidableEq Key] (t : Table Key Ref) (key : Key) : Table Key Ref :=
  { t with entry := update t.entry key none }

variable (t : Table Key Ref) (key other : Key) (ref : Ref)

@[simp] theorem add_entry [DecidableEq Ref] (amount : Int) : (t.add ref amount).entry = t.entry := rfl

/-- A change shows at the keys whose entry is the reference. -/
theorem value_add [DecidableEq Ref] (amount : Int) :
    (t.add ref amount).value key = t.value key + if t.entry key = some ref then amount else 0 := by
  unfold value
  rw [add_entry]
  cases found : t.entry key with
  | none => rfl
  | some own =>
    by_cases same : own = ref
    · subst own
      simp [add]
    · simp [add,same]

theorem value_delete [DecidableEq Key] : (t.delete key).value other = if other = key then 0 else t.value other := by
  by_cases same : other = key
  · subst other
    simp [value,delete]
  · simp [value,delete,same]

variable [DecidableEq Key] [DecidableEq Ref] {own : Ref}

/-- Making an entry changes no number, if no entry has the new reference. -/
theorem value_loadOrStore (unused : t.entry key = none → ∀ k, t.entry k ≠ some ref) :
    (t.loadOrStore key ref).2.value other = t.value other := by
  unfold loadOrStore
  split
  · rfl
  · next absent =>
    by_cases same : other = key
    · subst other
      simp [value,absent]
    · unfold value
      simp only [update_of_ne same]
      cases found : t.entry other with
      | none => rfl
      | some own =>
        have different : own ≠ ref := fun equal => unused absent other (equal ▸ found)
        simp [different]

theorem loadOrStore_entry_of_some (found : t.entry other = some own) :
    (t.loadOrStore key ref).2.entry other = some own := by
  unfold loadOrStore
  split
  · exact found
  · next absent =>
    have different : other ≠ key := by
      rintro rfl
      rw [absent] at found
      cases found
    simpa [different] using found

/-- The entries afterwards are those from before and the new one. -/
theorem loadOrStore_entry_cases (found : (t.loadOrStore key ref).2.entry other = some own) :
    t.entry other = some own ∨ other = key ∧ own = ref := by
  unfold loadOrStore at found
  split at found
  · exact .inl found
  · by_cases same : other = key
    · subst other
      simp only [update_self,Option.some.injEq] at found
      exact .inr ⟨rfl,found.symm⟩
    · simp only [update_of_ne same] at found
      exact .inl found

end Table

section
variable {Entry : Type u} {kind : Entry → Bool} {entry : Entry} {log : List Entry}

def streak (kind : Entry → Bool) (log : List Entry) : Nat := (log.takeWhile kind).length

theorem streak_cons_of (is : kind entry = true) : streak kind (entry :: log) = streak kind log + 1 := by
  unfold streak
  rw [List.takeWhile_cons_of_pos is,List.length_cons]

theorem streak_cons_of_not (is : kind entry = false) : streak kind (entry :: log) = 0 := by
  unfold streak
  rw [List.takeWhile_cons_of_neg (by simp [is]),List.length_nil]

end

end McpBridge.Tallies
