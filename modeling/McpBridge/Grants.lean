import Mathlib.Tactic.Common

/-!
Grants that expire and can be revoked, and stores that are meant to know the valid ones. A store follows the grants when
it has only what was granted and not revoked, and all that is valid.
-/
namespace McpBridge.Grants
open Function

universe u v
variable {Key : Type u} {Value : Type v}

/-- What was granted, with its expiry, and what was revoked. -/
structure Record (Key : Type u) where
  issued : Key → Option Int := fun _ => none
  revoked : Key → Bool := fun _ => false

namespace Record
variable (g : Record Key) (key : Key)

def Valid (now : Int) : Prop := ∃ expiry, g.issued key = some expiry ∧ now ≤ expiry ∧ g.revoked key = false

def unknown : Bool := (g.issued key).isNone && !g.revoked key

variable [DecidableEq Key]

def issue (expiry : Int) : Record Key := { g with issued := update g.issued key (some expiry) }

def revoke : Record Key := { g with revoked := update g.revoked key true }

end Record

/-- The store has only what was granted and not revoked, and all that is valid. -/
structure Follows (g : Record Key) (now : Int) (expiry : Value → Int) (store : Key → Option Value) : Prop where
  sound : ∀ key value, store key = some value → g.issued key = some (expiry value) ∧ g.revoked key = false
  complete : ∀ key, g.Valid key now → (store key).isSome

namespace Follows
variable {g : Record Key} {now : Int} {expiry : Value → Int} {store next : Key → Option Value} {key : Key}

/-- A lookup that compares the expiry with the time finds what is valid. -/
theorem holds_iff (follows : Follows g now expiry store) (key : Key) :
    (∃ value, store key = some value ∧ now ≤ expiry value) ↔ g.Valid key now := by
  constructor
  · rintro ⟨value,found,fresh⟩
    obtain ⟨issued,kept⟩ := follows.sound key value found
    exact ⟨expiry value,issued,fresh,kept⟩
  · intro valid
    obtain ⟨value,found⟩ := Option.isSome_iff_exists.mp (follows.complete key valid)
    obtain ⟨issued,_⟩ := follows.sound key value found
    obtain ⟨limit,issued',fresh,_⟩ := valid
    rw [issued] at issued'
    cases issued'
    exact ⟨value,found,fresh⟩

/-- Time passes, and the store forgets nothing but what has expired. -/
theorem forget (follows : Follows g now expiry store) {later : Int} (passes : now ≤ later)
    (fewer : ∀ key value, next key = some value → store key = some value)
    (kept : ∀ key value, store key = some value → later ≤ expiry value → next key = some value) :
    Follows g later expiry next where
  sound key value found := follows.sound key value (fewer key value found)
  complete key valid := by
    obtain ⟨limit,issued,fresh,active⟩ := valid
    obtain ⟨value,found,_⟩ := (follows.holds_iff key).mpr ⟨limit,issued,Int.le_trans passes fresh,active⟩
    obtain ⟨issued',_⟩ := follows.sound key value found
    rw [issued] at issued'
    cases issued'
    rw [kept key value found fresh]
    rfl

variable [DecidableEq Key]

/-- An entry is written, and the record says at its key what the entry says. -/
theorem put {g' : Record Key} (follows : Follows g now expiry store) {value : Value}
    (issued : g'.issued key = some (expiry value)) (active : g'.revoked key = false)
    (others : ∀ other, other ≠ key → g'.issued other = g.issued other ∧ g'.revoked other = g.revoked other) :
    Follows g' now expiry (update store key (some value)) where
  sound other found at_ := by
    by_cases same : other = key
    · subst other
      rw [update_self] at at_
      cases at_
      exact ⟨issued,active⟩
    · rw [update_of_ne same] at at_
      rw [(others other same).1,(others other same).2]
      exact follows.sound other found at_
  complete other valid := by
    by_cases same : other = key
    · subst other
      rw [update_self]
      rfl
    · rw [Record.Valid,(others other same).1,(others other same).2] at valid
      rw [update_of_ne same]
      exact follows.complete other valid

section
variable (follows : Follows g now expiry store)
include follows

theorem issue (new : g.unknown key = true) (value : Value) :
    Follows (g.issue key (expiry value)) now expiry (update store key (some value)) := by
  simp only [Record.unknown,Bool.and_eq_true,Bool.not_eq_true'] at new
  exact follows.put (update_self _ _ _) new.2 fun other different =>
    ⟨update_of_ne different _ _,rfl⟩

/-- An entry is replaced under a grant that is not revoked. -/
theorem replace {value : Value} (issued : g.issued key = some (expiry value))
    (active : g.revoked key = false) : Follows g now expiry (update store key (some value)) :=
  follows.put issued active fun _ _ => ⟨rfl,rfl⟩

theorem revoke (key : Key) : Follows (g.revoke key) now expiry (update store key none) where
  sound other found at_ := by
    by_cases same : other = key
    · subst other
      rw [update_self] at at_
      cases at_
    · rw [update_of_ne same] at at_
      refine ⟨(follows.sound other found at_).1,?_⟩
      exact (update_of_ne same _ _).trans (follows.sound other found at_).2
  complete other valid := by
    obtain ⟨limit,issued,fresh,active⟩ := valid
    have different : other ≠ key := by
      rintro rfl
      simp [Record.revoke] at active
    simp only [Record.revoke,update_of_ne different] at active
    rw [update_of_ne different]
    exact follows.complete other ⟨limit,issued,fresh,active⟩

/-- An entry goes that has expired. -/
theorem discard {value : Value} (found : store key = some value)
    (late : expiry value < now) : Follows g now expiry (update store key none) := by
  refine follows.forget (Int.le_refl now) (fun other kept at_ => ?_) (fun other kept at_ fresh => ?_)
  · by_cases same : other = key
    · subst other
      rw [update_self] at at_
      cases at_
    · rwa [update_of_ne same] at at_
  · have different : other ≠ key := by
      rintro rfl
      rw [found] at at_
      cases at_
      omega
    rwa [update_of_ne different]

end

end Follows

structure Entry (Value : Type v) where
  value : Value
  deadline : Option Int

def Entry.alive (entry : Entry Value) (now : Int) : Bool := entry.deadline.all fun deadline => decide (now ≤ deadline)

abbrev Store (Key : Type u) (Value : Type v) := Key → Option (Entry Value)

namespace Store

def get (store : Store Key Value) (key : Key) (now : Int) : Option Value :=
  ((store key).filter fun entry => entry.alive now).map Entry.value

variable [DecidableEq Key]

def set (store : Store Key Value) (key : Key) (value : Value) (ttl now : Int) : Store Key Value :=
  update store key (some ⟨value,if 0 < ttl then some (now + ttl) else none⟩)

def delete (store : Store Key Value) (key : Key) : Store Key Value := update store key none

variable {store : Store Key Value} {key other : Key} {value : Value} {now ttl : Int}

theorem get_set_self : (store.set key value ttl now).get key now = some value := by
  unfold get set
  by_cases positive : 0 < ttl
  · have alive : now ≤ now + ttl := by omega
    simp [Entry.alive,positive,alive]
  · simp [Entry.alive,positive]

theorem get_set_of_ne (different : other ≠ key) : (store.set key value ttl now).get other now = store.get other now := by
  unfold get set
  rw [update_of_ne different]

theorem get_delete_self : (store.delete key).get key now = none := by
  unfold get delete
  rw [update_self]
  rfl

theorem get_delete_of_ne (different : other ≠ key) : (store.delete key).get other now = store.get other now := by
  unfold get delete
  rw [update_of_ne different]

end Store

end McpBridge.Grants
