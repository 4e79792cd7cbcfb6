import Mathlib.Tactic.Common

/-!
Go channels of capacity one, which carry an answer to the goroutine that waits for it. Sending on and closing a closed
channel panic, also in a `select` with a `default` case.
-/
namespace McpBridge.Channels
universe u
variable {α : Type u}

/-- What the Go runtime panics with at a channel operation. -/
inductive Panic where
  | sendOnClosed
  | closeOfClosed
  deriving DecidableEq, Repr

/-- A channel of capacity one: the value that it buffers and whether it is closed. -/
structure Slot (α : Type u) where
  value : Option α := none
  closed : Bool := false

namespace Slot

/-- `select { case ch <- x: default: }`: a full buffer drops the value. -/
def offer (x : α) (slot : Slot α) : Except Panic (Slot α) :=
  if slot.closed then .error .sendOnClosed
  else match slot.value with
    | some _ => .ok slot
    | none => .ok { slot with value := some x }

def close (slot : Slot α) : Except Panic (Slot α) :=
  if slot.closed then .error .closeOfClosed else .ok { slot with closed := true }

/-- `<-ch`: `none` while it blocks; a closed and empty channel yields the zero value. -/
def receive (slot : Slot α) : Option (Option α × Slot α) :=
  match slot.value with
  | some x => some (some x,{ slot with value := none })
  | none => if slot.closed then some (none,slot) else none

variable {slot next : Slot α} {panic : Panic} {x : Option α}

theorem value_of_offer {x y : α} (offered : slot.offer x = .ok next) (buffered : next.value = some y) : slot.value = some y ∨ y = x := by
  revert offered
  fun_cases offer x slot <;> rintro ⟨⟩
  case case2 => exact .inl buffered
  case case3 => exact .inr (Option.some.inj buffered).symm

theorem value_ne_none_of_offer {x : α} (offered : slot.offer x = .ok next) : next.value ≠ none := by
  revert offered
  fun_cases offer x slot <;> rintro ⟨⟩
  case case2 buffered =>
    rw [buffered]
    exact nofun
  case case3 => exact nofun

theorem offer_of_open (x : α) (stays : slot.closed = false) :
    ∃ next, slot.offer x = .ok next ∧ next.closed = false := by
  rw [offer,if_neg (by rw [stays]; exact Bool.false_ne_true)]
  cases slot.value with
  | some _ => exact ⟨slot,rfl,stays⟩
  | none => exact ⟨{ slot with value := some x },rfl,stays⟩

theorem closed_of_offer {x : α} (refused : slot.offer x = .error panic) : slot.closed = true := by
  by_contra stays
  obtain ⟨next,offered,_⟩ := offer_of_open x (Bool.eq_false_iff.mpr stays)
  rw [offered] at refused
  cases refused

theorem closed_of_close (refused : slot.close = .error panic) : slot.closed = true := by
  revert refused
  fun_cases close slot <;> rintro ⟨⟩
  assumption

theorem value_of_receive (received : slot.receive = some (x,next)) :
    slot.value = x ∧ next.value = none := by
  revert received
  fun_cases receive slot <;> rintro ⟨⟩
  case case1 buffered => exact ⟨buffered,rfl⟩
  case case2 empty _ => exact ⟨empty,empty⟩

theorem eq_of_receive (received : slot.receive = some (x,next)) :
    next = { slot with value := none } := by
  revert received
  fun_cases receive slot <;> rintro ⟨⟩
  case case1 => rfl
  case case2 empty _ => rw [← empty]

theorem closed_of_receive (received : slot.receive = some (none,next)) : slot.closed = true := by
  revert received
  fun_cases receive slot <;> rintro ⟨⟩
  assumption

theorem value_of_close (closed : slot.close = .ok next) : next.value = slot.value := by
  revert closed
  fun_cases close slot <;> rintro ⟨⟩
  rfl

end Slot
end McpBridge.Channels
