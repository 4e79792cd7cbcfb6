import McpBridge.Channels

/-!
Go channels with a buffer, and the method that closes one once: under a mutex it looks at a flag, sets it and closes.
While nothing else closes the channel the flag is right (`Guarded.Sound`), and the method never panics.
-/
namespace McpBridge.Buffers
open Channels Function
universe u
variable {α : Type u}

structure Buffer (α : Type u) where
  queue : List α := []
  closed : Bool := false

namespace Buffer

/-- `ch <- x`: `none` while it blocks. -/
def send (capacity : Nat) (x : α) (b : Buffer α) : Except Panic (Option (Buffer α)) :=
  if b.closed then .error .sendOnClosed
  else if b.queue.length < capacity then .ok (some { b with queue := b.queue ++ [x] })
  else .ok none

def close (b : Buffer α) : Except Panic (Buffer α) :=
  if b.closed then .error .closeOfClosed else .ok { b with closed := true }

/-- `<-ch`: `none` while it blocks; a closed and empty channel yields the zero value. -/
def receive (b : Buffer α) : Option (Option α × Buffer α) :=
  match b.queue with
  | x :: rest => some (some x,{ b with queue := rest })
  | [] => if b.closed then some (none,b) else none

theorem send_cases {capacity : Nat} {x : α} {b : Buffer α} {result : Except Panic (Option (Buffer α))}
    (sent : b.send capacity x = result) : b.closed = true ∧ result = .error .sendOnClosed ∨
      b.closed = false ∧ capacity ≤ b.queue.length ∧ result = .ok none ∨
      b.closed = false ∧ b.queue.length < capacity ∧ result = .ok (some { b with queue := b.queue ++ [x] }) := by
  subst sent
  fun_cases send capacity x b
  case case1 closed => exact .inl ⟨closed,rfl⟩
  case case2 stays room => exact .inr (.inr ⟨Bool.eq_false_iff.mpr stays,room,rfl⟩)
  case case3 stays full => exact .inr (.inl ⟨Bool.eq_false_iff.mpr stays,Nat.le_of_not_lt full,rfl⟩)

theorem send_closed {b : Buffer α} (capacity : Nat) (x : α) (closed : b.closed = true) :
    b.send capacity x = .error .sendOnClosed := if_pos closed

theorem receive_cases {b next : Buffer α} {result : Option α} (received : b.receive = some (result,next)) :
    (∃ x rest, result = some x ∧ b.queue = x :: rest ∧ next = { b with queue := rest }) ∨
      result = none ∧ b.queue = [] ∧ b.closed = true ∧ next = b := by
  revert received
  fun_cases receive b <;> rintro ⟨⟩
  case case1 queued => exact .inl ⟨_,_,rfl,queued,rfl⟩
  case case2 empty closed => exact .inr ⟨rfl,empty,closed,rfl⟩

end Buffer

/-- A channel with the flag that guards its closing. -/
structure Guarded (α : Type u) where
  buffer : Buffer α := {}
  flag : Bool := false

namespace Guarded

def close (g : Guarded α) : Except Panic (Guarded α) :=
  if g.flag then .ok g else g.buffer.close.map fun buffer => ⟨buffer,true⟩

theorem close_queue {g next : Guarded α} (done : g.close = .ok next) : next.buffer.queue = g.buffer.queue := by
  revert done
  fun_cases close g
  · rintro ⟨⟩
    rfl
  · fun_cases Buffer.close g.buffer <;> rintro ⟨⟩
    rfl

def Sound (g : Guarded α) : Prop := g.flag = g.buffer.closed

/-- Closing a channel whose flag is right does not panic, and keeps the buffer. -/
theorem Sound.close {g : Guarded α} (sound : g.Sound) :
    ∃ next : Guarded α, g.close = .ok next ∧ next.Sound ∧ next.buffer.closed = true ∧
      next.buffer.queue = g.buffer.queue := by
  unfold Guarded.close
  split
  next closed => exact ⟨g,rfl,sound,sound.symm.trans closed,rfl⟩
  next isOpen =>
    refine ⟨⟨{ g.buffer with closed := true },true⟩,?_,rfl,rfl,rfl⟩
    unfold Buffer.close
    rw [← sound,if_neg isOpen]
    rfl

theorem Sound.close_ne_error {g : Guarded α} {panic : Panic} (sound : g.Sound) : g.close ≠ .error panic := by
  obtain ⟨next,closed,-⟩ := sound.close
  rw [closed]
  nofun

end Guarded

/-- A step leaves the guarded channels open and closed as they are, or closes one. -/
inductive Shift (before : Nat → Guarded α) : (Nat → Guarded α) → Option Nat → Prop where
  | keep {after : Nat → Guarded α} (flags : ∀ j, (after j).flag = (before j).flag)
      (closed : ∀ j, (after j).buffer.closed = (before j).buffer.closed) : Shift before after none
  | close {k : Nat} {channel : Guarded α} (done : (before k).close = .ok channel) :
      Shift before (update before k channel) (some k)

namespace Shift
variable {before after : Nat → Guarded α} {which : Option Nat}

theorem refl (before : Nat → Guarded α) : Shift before before none := .keep (fun _ => rfl) fun _ => rfl

/-- One channel changes and stays open or closed. -/
theorem update {k : Nat} {channel : Guarded α} (flag : channel.flag = (before k).flag)
    (closed : channel.buffer.closed = (before k).buffer.closed) :
    Shift before (update before k channel) none := by
  refine .keep (fun j => ?_) fun j => ?_
  · rw [update_apply]
    split
    next same => rw [flag,same]
    next => rfl
  · rw [update_apply]
    split
    next same => rw [closed,same]
    next => rfl

theorem sound (shift : Shift before after which) (right : ∀ j, (before j).Sound) (j : Nat) : (after j).Sound := by
  cases shift with
  | keep flags closed =>
    unfold Guarded.Sound
    rw [flags,closed]
    exact right j
  | @close k channel done =>
    obtain ⟨next,same,sound,-⟩ := (right k).close
    rw [same] at done
    cases done
    rw [update_apply]
    split
    next => exact sound
    next => exact right j

theorem closed (shift : Shift before after which) (right : ∀ j, (before j).Sound) (j : Nat) :
    (after j).buffer.closed = true ↔ (before j).buffer.closed = true ∨ which = some j := by
  cases shift with
  | keep flags closed =>
    rw [closed]
    simp
  | @close k channel done =>
    obtain ⟨next,same,-,shut,-⟩ := (right k).close
    rw [same] at done
    cases done
    rw [update_apply,Option.some.injEq]
    split
    next here => exact iff_of_true shut (.inr here.symm)
    next other => exact ⟨.inl,fun either => either.resolve_right fun here => other here.symm⟩

end Shift

end McpBridge.Buffers
