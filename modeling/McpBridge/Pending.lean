import McpBridge.Channels
import Mathlib.Data.List.Nodup

/-!
A concurrent map from keys to the channels on which goroutines wait for an answer. An entry leaves the map by an atomic
removal, and whoever removed it holds its channel until it closes it.
-/
namespace McpBridge.Pending
open Channels Function List
universe u v w
variable {κ : Type u} {α : Type v} {ι : Type w} {c : Nat} {x : Option α} {k : κ}

/-- The entries of the map, its channels, and the name of the next channel. -/
structure Table (κ : Type u) (α : Type v) where
  entries : κ → Option Nat := fun _ => none
  slots : Nat → Slot α := fun _ => {}
  fresh : Nat := 0

namespace Table

def store [DecidableEq κ] (k : κ) (t : Table κ α) : Table κ α :=
  { t with entries := update t.entries k (some t.fresh), fresh := t.fresh + 1 }

def delete [DecidableEq κ] (k : κ) (t : Table κ α) : Table κ α :=
  { t with entries := update t.entries k none }

def setSlot (c : Nat) (slot : Slot α) (t : Table κ α) : Table κ α :=
  { t with slots := update t.slots c slot }

def offer (c : Nat) (x : α) (t : Table κ α) : Except Panic (Table κ α) :=
  ((t.slots c).offer x).map fun slot => t.setSlot c slot

def close (c : Nat) (t : Table κ α) : Except Panic (Table κ α) :=
  (t.slots c).close.map fun slot => t.setSlot c slot

def receive (c : Nat) (t : Table κ α) : Option (Option α × Table κ α) :=
  (t.slots c).receive.map fun (x,slot) => (x,t.setSlot c slot)

@[simp] theorem store_slots [DecidableEq κ] (k : κ) (t : Table κ α) : (t.store k).slots = t.slots := rfl

theorem store_entries [DecidableEq κ] (k k' : κ) (t : Table κ α) :
    (t.store k).entries k' = if k' = k then some t.fresh else t.entries k' := update_apply ..

theorem delete_entries [DecidableEq κ] (k k' : κ) (t : Table κ α) :
    (t.delete k).entries k' = if k' = k then none else t.entries k' := update_apply ..

theorem delete_eq_self [DecidableEq κ] {t : Table κ α} (absent : t.entries k = none) : t.delete k = t := by
  simp [delete,← absent]

@[simp] theorem setSlot_entries (c : Nat) (slot : Slot α) (t : Table κ α) : (t.setSlot c slot).entries = t.entries := rfl

theorem setSlot_slots (c d : Nat) (slot : Slot α) (t : Table κ α) :
    (t.setSlot c slot).slots d = if d = c then slot else t.slots d := update_apply ..

theorem receive_eq {t next : Table κ α} (received : t.receive c = some (x,next)) :
    (t.slots c).value = x ∧ next = t.setSlot c { t.slots c with value := none } := by
  obtain ⟨⟨y,slot⟩,taken,same⟩ := Option.map_eq_some_iff.mp received
  cases same
  exact ⟨(Slot.value_of_receive taken).1,by rw [Slot.eq_of_receive taken]⟩

end Table

/-- An operation only ever adds entries of new channels. -/
structure Later (t next : Table κ α) : Prop where
  fresh : t.fresh ≤ next.fresh
  entries : ∀ k c, next.entries k = some c → t.entries k = some c ∨ t.fresh ≤ c

namespace Later
variable {t : Table κ α}

theorem refl (t : Table κ α) : Later t t := ⟨Nat.le_refl _,fun _ _ found => .inl found⟩

theorem store [DecidableEq κ] (k : κ) (t : Table κ α) : Later t (t.store k) := by
  refine ⟨Nat.le_succ _,fun k' c found => ?_⟩
  rw [Table.store_entries] at found
  split at found
  · exact .inr (Nat.le_of_eq (Option.some.inj found))
  · exact .inl found

theorem delete [DecidableEq κ] (k : κ) (t : Table κ α) : Later t (t.delete k) := by
  refine ⟨Nat.le_refl _,fun k' c found => ?_⟩
  rw [Table.delete_entries] at found
  split at found
  · cases found
  · exact .inl found

theorem setSlot (c : Nat) (slot : Slot α) (t : Table κ α) : Later t (t.setSlot c slot) :=
  ⟨Nat.le_refl _,fun _ _ found => .inl found⟩

/-- An entry of a channel that was there before is an old entry. -/
theorem old {next : Table κ α} (later : Later t next) (made : c < t.fresh)
    (found : next.entries k = some c) : t.entries k = some c :=
  (later.entries k c found).resolve_right (Nat.not_le.mpr made)

end Later

/-- Every channel has at most one goroutine to close it: `held` lists what each took out of the map and has not
    closed. -/
structure Owned (t : Table κ α) (held : ι → List Nat) : Prop where
  made : ∀ k c, t.entries k = some c → c < t.fresh
  single : ∀ k k' c, t.entries k = some c → t.entries k' = some c → k = k'
  listed : ∀ k c, t.entries k = some c → (t.slots c).closed = false
  unheld : ∀ k c i, t.entries k = some c → c ∉ held i
  heldMade : ∀ i, ∀ c ∈ held i, c < t.fresh
  heldOpen : ∀ i, ∀ c ∈ held i, (t.slots c).closed = false
  alone : ∀ i j c, c ∈ held i → c ∈ held j → i = j
  once : ∀ i, (held i).Nodup
  beyond : ∀ c, t.fresh ≤ c → t.slots c = {}
namespace Owned
variable {t : Table κ α} {held : ι → List Nat}

theorem empty : Owned ({} : Table κ α) (fun _ : ι => []) where
  made _ _ found := by cases found
  single _ _ _ found := by cases found
  listed _ _ found := by cases found
  unheld _ _ _ found := by cases found
  heldMade _ _ member := by cases member
  heldOpen _ _ member := by cases member
  alone _ _ _ member := by cases member
  once _ := nodup_nil
  beyond _ _ := rfl

section
variable (owned : Owned t held) {i : ι}
include owned

/-- A stored channel is new; one that it replaces stays open and unheld for good. -/
theorem store [DecidableEq κ] (k : κ) : Owned (t.store k) held := by
  have fresh_of : ∀ k' c, (t.store k).entries k' = some c → (k' = k ∧ c = t.fresh) ∨ t.entries k' = some c := by
    intro k' c found
    rw [Table.store_entries] at found
    split at found
    · exact .inl ⟨‹_›,(Option.some.inj found).symm⟩
    · exact .inr found
  constructor
  · intro k' c found
    rcases fresh_of k' c found with ⟨_,rfl⟩ | old
    · exact Nat.lt_succ_self _
    · exact Nat.lt_succ_of_lt (owned.made k' c old)
  · intro k' k'' c found other
    rcases fresh_of k' c found with ⟨rfl,rfl⟩ | old <;> rcases fresh_of k'' _ other with ⟨rfl,same⟩ | old'
    · rfl
    · exact absurd (owned.made k'' _ old') (Nat.lt_irrefl _)
    · exact absurd (same ▸ owned.made k' _ old) (Nat.lt_irrefl _)
    · exact owned.single k' k'' c old old'
  · intro k' c found
    rcases fresh_of k' c found with ⟨_,rfl⟩ | old
    · rw [Table.store_slots,owned.beyond t.fresh (Nat.le_refl _)]
    · exact owned.listed k' c old
  · intro k' c i found member
    rcases fresh_of k' c found with ⟨_,rfl⟩ | old
    · exact Nat.lt_irrefl _ (owned.heldMade i _ member)
    · exact owned.unheld k' c i old member
  · exact fun i c member => Nat.lt_succ_of_lt (owned.heldMade i c member)
  · exact owned.heldOpen
  · exact owned.alone
  · exact owned.once
  · exact fun c le => owned.beyond c (Nat.le_of_succ_le le)

theorem forget [DecidableEq κ] (k : κ) : Owned (t.delete k) held := by
  have old_of : ∀ k' c, (t.delete k).entries k' = some c → t.entries k' = some c := by
    intro k' c found
    rw [Table.delete_entries] at found
    split at found
    · cases found
    · exact found
  refine ⟨?_,?_,?_,?_,owned.heldMade,owned.heldOpen,owned.alone,owned.once,owned.beyond⟩
  · exact fun k' c found => owned.made k' c (old_of k' c found)
  · exact fun k' k'' c one two => owned.single k' k'' c (old_of k' c one) (old_of k'' c two)
  · exact fun k' c found => owned.listed k' c (old_of k' c found)
  · exact fun k' c i found => owned.unheld k' c i (old_of k' c found)

/-- An open channel outside the map that nobody holds gets a holder. -/
theorem adopt [DecidableEq ι] (i : ι) (made : c < t.fresh) (stays : (t.slots c).closed = false)
    (unlisted : ∀ k, t.entries k ≠ some c) (free : ∀ j, c ∉ held j) :
    Owned t (update held i (held i ++ [c])) := by
  have member_of : ∀ j d, d ∈ update held i (held i ++ [c]) j → d ∈ held j ∨ (j = i ∧ d = c) := by
    intro j d member
    by_cases same : j = i
    · subst same
      rw [update_self,mem_append,mem_singleton] at member
      exact member.imp id fun equal => ⟨rfl,equal⟩
    · rw [update_of_ne same] at member
      exact .inl member
  refine ⟨owned.made,owned.single,owned.listed,?_,?_,?_,?_,?_,owned.beyond⟩
  · intro k d j listed member
    rcases member_of j d member with before | ⟨_,rfl⟩
    · exact owned.unheld k d j listed before
    · exact unlisted k listed
  · intro j d member
    rcases member_of j d member with before | ⟨_,rfl⟩
    · exact owned.heldMade j d before
    · exact made
  · intro j d member
    rcases member_of j d member with before | ⟨_,rfl⟩
    · exact owned.heldOpen j d before
    · exact stays
  · intro j j' d one two
    rcases member_of j d one with before | ⟨rfl,rfl⟩ <;> rcases member_of j' _ two with before' | ⟨rfl,same⟩
    · exact owned.alone j j' d before before'
    · exact absurd (same ▸ before) (free j)
    · exact absurd before' (free j')
    · rfl
  · intro j
    by_cases same : j = i
    · subst same
      rw [update_self,← concat_eq_append]
      exact List.Nodup.concat (free j) (owned.once j)
    · rw [update_of_ne same]
      exact owned.once j

/-- Who removes an entry holds its channel from then on. -/
theorem delete [DecidableEq κ] [DecidableEq ι] (found : t.entries k = some c) (i : ι) : Owned (t.delete k) (update held i (held i ++ [c])) := by
  refine (owned.forget k).adopt i (owned.made k c found) (owned.listed k c found) (fun k' listed => ?_)
    (fun j => owned.unheld k c j found)
  rw [Table.delete_entries] at listed
  split at listed
  next => cases listed
  next other => exact other (owned.single k' k c listed found)

/-- A change of an open channel that leaves it open, of which no entry and no holder notices more. -/
theorem setSlot {slot : Slot α} (made : c < t.fresh) (same : slot.closed = (t.slots c).closed) : Owned (t.setSlot c slot) held := by
  have closed_eq : ∀ d, ((t.setSlot c slot).slots d).closed = (t.slots d).closed := by
    intro d
    rw [Table.setSlot_slots]
    split
    next equal => rw [same,equal]
    next => rfl
  refine ⟨owned.made,owned.single,?_,owned.unheld,owned.heldMade,?_,owned.alone,owned.once,?_⟩
  · exact fun k d listed => (closed_eq d).trans (owned.listed k d listed)
  · exact fun i d member => (closed_eq d).trans (owned.heldOpen i d member)
  · intro d le
    have other : d ≠ c := by
      rintro rfl
      exact absurd made (Nat.not_lt.mpr le)
    rw [Table.setSlot_slots,if_neg other]
    exact owned.beyond d le

/-- Sending to a channel that somebody holds does not panic. -/
theorem offer (x : α) (member : c ∈ held i) :
    ∃ slot, t.offer c x = .ok (t.setSlot c slot) ∧ Owned (t.setSlot c slot) held := by
  have stays := owned.heldOpen i c member
  obtain ⟨slot,offered,same⟩ := Slot.offer_of_open x stays
  exact ⟨slot,by rw [Table.offer,offered]; rfl,owned.setSlot (owned.heldMade i c member) (same.trans stays.symm)⟩

theorem receive {next : Table κ α} (made : c < t.fresh)
    (received : t.receive c = some (x,next)) : Owned next held := by
  rw [(Table.receive_eq received).2]
  exact owned.setSlot made rfl

/-- Who holds a channel closes it without a panic, and holds it no longer. -/
theorem close [DecidableEq ι] {rest : List Nat} (holds : held i = c :: rest) :
    ∃ slot, t.close c = .ok (t.setSlot c slot) ∧ slot.value = (t.slots c).value ∧ slot.closed = true ∧
      Owned (t.setSlot c slot) (update held i rest) := by
  have member : c ∈ held i := by rw [holds]; exact mem_cons_self ..
  have stays := owned.heldOpen i c member
  have nodup : (c :: rest).Nodup := holds ▸ owned.once i
  have member_of : ∀ j d, d ∈ update held i rest j → d ∈ held j ∧ d ≠ c := by
    intro j d listed
    by_cases same : j = i
    · subst same
      rw [update_self] at listed
      refine ⟨holds ▸ mem_cons_of_mem _ listed,?_⟩
      rintro rfl
      exact (nodup_cons.mp nodup).1 listed
    · rw [update_of_ne same] at listed
      refine ⟨listed,?_⟩
      rintro rfl
      exact same (owned.alone j i d listed member)
  refine ⟨{ t.slots c with closed := true },?_,rfl,rfl,?_⟩
  · rw [Table.close,Slot.close,stays]
    rfl
  constructor
  · exact owned.made
  · exact owned.single
  · intro k d found
    have other : d ≠ c := by
      rintro rfl
      exact owned.unheld k d i found member
    rw [Table.setSlot_slots,if_neg other]
    exact owned.listed k d found
  · exact fun k d j found listed => owned.unheld k d j found (member_of j d listed).1
  · exact fun j d listed => owned.heldMade j d (member_of j d listed).1
  · intro j d listed
    obtain ⟨before,other⟩ := member_of j d listed
    rw [Table.setSlot_slots,if_neg other]
    exact owned.heldOpen j d before
  · exact fun j j' d one two => owned.alone j j' d (member_of j d one).1 (member_of j' d two).1
  · intro j
    by_cases same : j = i
    · subst same
      rw [update_self]
      exact (nodup_cons.mp nodup).2
    · rw [update_of_ne same]
      exact owned.once j
  · intro d le
    have other : d ≠ c := by
      rintro rfl
      exact absurd (owned.heldMade i d member) (Nat.not_lt.mpr le)
    rw [Table.setSlot_slots,if_neg other]
    exact owned.beyond d le

end

end Owned
/-- Every channel is stored under one key, and carries only values for that key. -/
structure Labelled (t : Table κ α) (key : α → Option κ) (name : Nat → κ) : Prop where
  entries : ∀ k c, t.entries k = some c → c < t.fresh ∧ name c = k
  values : ∀ c x, (t.slots c).value = some x → c < t.fresh ∧ key x = some (name c)

namespace Labelled
variable {t : Table κ α} {key : α → Option κ} {name : Nat → κ}

theorem empty (key : α → Option κ) (name : Nat → κ) : Labelled {} key name := ⟨nofun,nofun⟩

variable (labelled : Labelled t key name)
include labelled

/-- A new channel is named by the key under which it is stored. -/
theorem store [DecidableEq κ] (k : κ) : Labelled (t.store k) key (update name t.fresh k) where
  entries k' c found := by
    rw [Table.store_entries] at found
    split at found
    next same =>
      cases found
      exact ⟨Nat.lt_succ_self _,by rw [update_self,same]⟩
    next =>
      obtain ⟨made,named⟩ := labelled.entries k' c found
      exact ⟨Nat.lt_succ_of_lt made,by rw [update_of_ne (Nat.ne_of_lt made),named]⟩
  values c x value := by
    obtain ⟨made,named⟩ := labelled.values c x value
    exact ⟨Nat.lt_succ_of_lt made,by rw [update_of_ne (Nat.ne_of_lt made),named]⟩

theorem delete [DecidableEq κ] (k : κ) : Labelled (t.delete k) key name where
  entries k' c found := by
    rw [Table.delete_entries] at found
    split at found
    next => cases found
    next => exact labelled.entries k' c found
  values := labelled.values

theorem setSlot {slot : Slot α}
    (value : ∀ x, slot.value = some x → c < t.fresh ∧ key x = some (name c)) : Labelled (t.setSlot c slot) key name where
  entries := labelled.entries
  values d x found := by
    rw [Table.setSlot_slots] at found
    split at found
    next same =>
      rw [same]
      exact value x found
    next => exact labelled.values d x found

theorem offer {x : α} {slot : Slot α} (made : c < t.fresh)
    (named : key x = some (name c)) (offered : (t.slots c).offer x = .ok slot) :
    Labelled (t.setSlot c slot) key name := by
  refine labelled.setSlot fun y value => ?_
  rcases Slot.value_of_offer offered value with old | rfl
  · exact labelled.values c y old
  · exact ⟨made,named⟩

theorem close {slot : Slot α} (closed : (t.slots c).close = .ok slot) :
    Labelled (t.setSlot c slot) key name := by
  refine labelled.setSlot fun y value => labelled.values c y ?_
  rw [← value,Slot.value_of_close closed]

/-- What is received is for the key of the channel. -/
theorem receive {next : Table κ α} (received : t.receive c = some (x,next)) :
    Labelled next key name ∧ ∀ y, x = some y → key y = some (name c) := by
  obtain ⟨value,rfl⟩ := Table.receive_eq received
  refine ⟨labelled.setSlot nofun,fun y same => ?_⟩
  exact (labelled.values c y (value.trans same)).2

end Labelled

end McpBridge.Pending
