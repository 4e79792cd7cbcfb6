import Mathlib.Data.List.AList
import Mathlib.Data.List.Dedup

/-!
Maps from keys to lists, as Go programs keep them: a missing key reads as the empty list, items are appended under their
keys, and a pass drops items and with them empty keys.
-/
namespace McpBridge.Multimaps
open AList List

universe u v
variable {α : Type u} {β : Type v}

abbrev Multimap (α : Type u) (β : Type v) := AList fun _ : α => List β

namespace Multimap
variable [DecidableEq α]

/-- `m[k]` -/
def get (m : Multimap α β) (k : α) : List β := (m.lookup k).getD []

/-- `m[k] = append(m[k], x)` -/
def push (m : Multimap α β) (k : α) (x : β) : Multimap α β := m.insert k (m.get k ++ [x])

def pushAll (key : β → α) (m : Multimap α β) (xs : List β) : Multimap α β := xs.foldl (fun m x => m.push (key x) x) m

def put (m : Multimap α β) (k : α) (xs : List β) : Multimap α β := if xs = [] then m.erase k else m.insert k xs

def sift (keep : β → Bool) (m : Multimap α β) : Multimap α β :=
  m.keys.foldl (fun m k => m.put k ((m.get k).filter keep)) m

def NoEmpty (m : Multimap α β) : Prop := ∀ k, m.lookup k ≠ some []

variable {m : Multimap α β} {keep : β → Bool} {key : β → α} {k l : α} {x : β} {xs : List β}

@[simp] theorem get_empty (k : α) : (∅ : Multimap α β).get k = [] := by
  simp [get]

theorem get_of_not_mem (absent : k ∉ m.keys) : m.get k = [] := by
  have none : m.lookup k = none := lookup_eq_none.mpr absent
  rw [get,none]
  rfl

theorem get_insert : get (m.insert k xs) l = if l = k then xs else m.get l := by
  unfold get
  split
  next same => rw [same,lookup_insert,Option.getD_some]
  next apart => rw [lookup_insert_ne apart]

theorem get_push : (m.push k x).get l = m.get l ++ if l = k then [x] else [] := by
  rw [push,get_insert]
  split
  next same => rw [same]
  next => rw [append_nil]

theorem NoEmpty.push (full : m.NoEmpty) : (m.push k x).NoEmpty := by
  intro l
  by_cases same : l = k
  · rw [same,Multimap.push,lookup_insert]
    simp
  · rw [Multimap.push,lookup_insert_ne same]
    exact full l

/-- A key has what it had, followed by the items with that key in their order. -/
theorem get_pushAll : (pushAll key m xs).get k = m.get k ++ xs.filter (key · = k) := by
  induction xs generalizing m with
  | nil => simp [pushAll]
  | cons x xs ih =>
    have rest : pushAll key m (x :: xs) = pushAll key (m.push (key x) x) xs := rfl
    rw [rest,ih,get_push,append_assoc]
    by_cases here : key x = k
    · simp [here]
    · simp [here,Ne.symm here]

theorem NoEmpty.pushAll (full : m.NoEmpty) : (pushAll key m xs).NoEmpty := by
  induction xs generalizing m with
  | nil => exact full
  | cons x xs ih => exact ih full.push

/-- The same for lists that are found one after another. -/
theorem get_foldl_pushAll {γ : Type*} (found : γ → List β) (ys : List γ) :
    get (ys.foldl (fun m y => pushAll key m (found y)) m) k = m.get k ++ (ys.flatMap found).filter (key · = k) := by
  induction ys generalizing m with
  | nil => simp
  | cons y ys ih => rw [foldl_cons,ih,get_pushAll,flatMap_cons,filter_append,append_assoc]

theorem get_put : (m.put k xs).get l = if l = k then xs else m.get l := by
  unfold put
  split
  next empty =>
    unfold get
    split
    next same => rw [same,lookup_erase,empty,Option.getD_none]
    next apart => rw [lookup_erase_ne apart]
  next => exact get_insert

theorem lookup_put_ne (apart : l ≠ k) : (m.put k xs).lookup l = m.lookup l := by
  unfold put
  split
  next => exact lookup_erase_ne apart
  next => exact lookup_insert_ne apart

theorem lookup_put_self : (m.put k xs).lookup k ≠ some [] := by
  unfold put
  split
  next => simp [lookup_erase]
  next some_ => simpa [lookup_insert] using some_

/-- The pass after some of the keys, which have been filtered and of which none is empty. -/
theorem sift_keys (ks : List α) : (∀ k, get (ks.foldl (fun m k => m.put k ((m.get k).filter keep)) m) k =
      if k ∈ ks then (m.get k).filter keep else m.get k) ∧
      ∀ k, (ks.foldl (fun m k => m.put k ((m.get k).filter keep)) m).lookup k = some [] → k ∉ ks ∧ m.lookup k = some [] := by
  induction ks generalizing m with
  | nil => simp
  | cons j ks ih =>
    obtain ⟨filtered,empty⟩ := @ih (m.put j ((m.get j).filter keep))
    rw [foldl_cons]
    constructor
    · intro k
      rw [filtered,get_put]
      by_cases here : k = j <;> simp [here]
    · intro k found
      obtain ⟨later,found'⟩ := empty k found
      have apart : k ≠ j := by
        rintro rfl
        exact lookup_put_self found'
      rw [lookup_put_ne apart] at found'
      exact ⟨by simp [apart,later],found'⟩

theorem get_sift : (m.sift keep).get k = (m.get k).filter keep := by
  rw [sift,(sift_keys m.keys).1]
  split
  next => rfl
  next absent => rw [get_of_not_mem absent,filter_nil]

theorem noEmpty_sift : (m.sift keep).NoEmpty := by
  intro k found
  obtain ⟨absent,found'⟩ := (sift_keys m.keys).2 k found
  rw [lookup_eq_none.mpr absent] at found'
  cases found'

end Multimap

end McpBridge.Multimaps
