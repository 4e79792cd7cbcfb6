import McpBridge.Runs

/-!
Items that are sent over a connection and returned in their order. What was sent has been returned, is held by the
reader, or is still on the connection; one that can no longer be read keeps what is on it.
-/
namespace McpBridge.Mailboxes
open Runs

universe u v w
variable {α : Type u} {State : Type v} {Label : Type w}

structure Mailbox (α : Type u) where
  returned : List α := []
  held : List α := []
  coming : List α := []
  isOpen : Bool := true

def Mailbox.sent (b : Mailbox α) : List α := b.returned ++ (b.held ++ b.coming)

inductive Move (b : Mailbox α) : Mailbox α → Prop where
  | stay : Move b b
  | send (xs : List α) : Move b { b with coming := b.coming ++ xs }
  | take {first rest : List α} (readable : b.isOpen = true) (split : b.coming = first ++ rest) :
      Move b { b with held := b.held ++ first, coming := rest }
  | give {first rest : List α} (split : b.held = first ++ rest) :
      Move b { b with returned := b.returned ++ first, held := rest }
  | pass {first rest : List α} (readable : b.isOpen = true) (free : b.held = []) (split : b.coming = first ++ rest) :
      Move b { b with returned := b.returned ++ first, coming := rest }
  | close : Move b { b with isOpen := false }

def Mailbox.Safe (b : Mailbox α) : Prop := b.coming = [] ∨ b.isOpen = true

/-- Nothing gets off a connection that can no longer be read. -/
theorem Move.closed {b c : Mailbox α} (move : Move b c) (closed : b.isOpen = false) :
    c.isOpen = false ∧ c.returned ++ c.held = b.returned ++ b.held := by
  cases move with
  | stay | send | close => exact ⟨by first | exact closed | rfl,rfl⟩
  | take readable | pass readable =>
    rw [closed] at readable
    cases readable
  | give split =>
    refine ⟨closed,?_⟩
    rw [split,List.append_assoc]

/-- A step shows a move, and the condition says whether the mailbox stays safe. -/
def Moved (shows : Mailbox α → Prop) (b : Mailbox α) (fine : Prop) : Prop :=
  ∃ c, shows c ∧ Move b c ∧ (b.Safe → (c.Safe ↔ fine))

/-- A step that keeps what is safe, and that the condition admits. -/
theorem moved_of_kept {shows : Mailbox α → Prop} {b c : Mailbox α} {fine : Prop} (shown : shows c) (move : Move b c)
    (kept : b.Safe → c.Safe) (admitted : fine) : Moved shows b fine :=
  ⟨c,shown,move,fun safe => iff_of_true (kept safe) admitted⟩

/-- All that was sent so far may still be returned. -/
def Delivers (step : State → Label → Option State) (sent returned : State → List α) (s : State) : Prop :=
  ∃ labels t, run step s labels = some t ∧ sent s <+: returned t

/-- The steps move items as a mailbox does, the condition says which keep it safe, and a safe one can be emptied. -/
structure Carrier (step : State → Label → Option State) (fine : State → Label → Prop)
    (shows : State → Mailbox α → Prop) (sent returned : State → List α) : Prop where
  sent_eq : ∀ s b, shows s b → b.sent = sent s
  returned_eq : ∀ s b, shows s b → b.returned = returned s
  moves : ∀ s label t b, shows s b → step s label = some t → Moved (shows t) b (fine s label)
  drains : ∀ s b, shows s b → b.Safe → Delivers step sent returned s

namespace Carrier
variable {step : State → Label → Option State} {fine : State → Label → Prop} {shows : State → Mailbox α → Prop}
  {sent returned : State → List α}

section
variable (carrier : Carrier step fine shows sent returned)
include carrier

theorem shows_next (s : State) (label : Label) (t : State)
    (shown : ∃ b, shows s b) (taken : step s label = some t) : ∃ b, shows t b := by
  obtain ⟨b,shown⟩ := shown
  obtain ⟨c,shown',_⟩ := carrier.moves s label t b shown taken
  exact ⟨c,shown'⟩

variable {s t : State} {labels : List Label}

section
variable {b : Mailbox α} (shown : shows s b)
include shown

/-- In a run from a connection that can no longer be read, only what is held can be returned. -/
theorem run_closed (closed : b.isOpen = false) (executed : run step s labels = some t) :
    returned t <+: b.returned ++ b.held := by
  have kept : ∀ s label next, (∃ c, shows s c ∧ c.isOpen = false ∧ c.returned ++ c.held = b.returned ++ b.held) →
      True → step s label = some next →
      ∃ c, shows next c ∧ c.isOpen = false ∧ c.returned ++ c.held = b.returned ++ b.held := by
    rintro s label next ⟨c,shown,closed,same⟩ _ taken
    obtain ⟨d,shown',move,_⟩ := carrier.moves s label next c shown taken
    obtain ⟨closed',same'⟩ := move.closed closed
    exact ⟨d,shown',closed',same'.trans same⟩
  have meets : Meets step (fun _ _ => True) s labels := meets_of_mem fun _ _ _ => trivial
  obtain ⟨c,shown',_,same⟩ := run_keeps kept ⟨b,shown,closed,rfl⟩ meets executed
  rw [← carrier.returned_eq t c shown',← same]
  exact List.prefix_append ..

theorem delivers_iff : Delivers step sent returned s ↔ b.Safe := by
  constructor
  · rintro ⟨labels,t,executed,all⟩
    by_contra lost
    simp only [Mailbox.Safe,not_or,Bool.not_eq_true] at lost
    have reached := (all.trans (carrier.run_closed shown lost.2 executed)).length_le
    rw [← carrier.sent_eq s b shown,Mailbox.sent] at reached
    have some_coming : 0 < b.coming.length := List.length_pos_iff.mpr lost.1
    simp only [List.length_append] at reached
    omega
  · exact carrier.drains s b shown

theorem always_delivers_iff (safe : b.Safe) (executed : run step s labels = some t) :
    Always step (Delivers step sent returned) s labels ↔ Meets step fine s labels := by
  have breaks : ∀ s label next, (∃ b, shows s b) → Delivers step sent returned s → step s label = some next →
      (Delivers step sent returned next ↔ fine s label) := by
    rintro s label next ⟨b,shown⟩ delivers taken
    obtain ⟨c,shown',_,exact_iff⟩ := carrier.moves s label next b shown taken
    rw [carrier.delivers_iff shown']
    exact exact_iff ((carrier.delivers_iff shown).mp delivers)
  exact always_iff_meets carrier.shows_next breaks ⟨b,shown⟩ ((carrier.delivers_iff shown).mpr safe) executed

/-- Whatever happens, what is returned is what was sent, in order and from the first. -/
theorem returned_of_sent (executed : run step s labels = some t) : returned t <+: sent t := by
  obtain ⟨c,shown'⟩ := reaches_keeps carrier.shows_next ⟨b,shown⟩ ⟨labels,executed⟩
  rw [← carrier.returned_eq t c shown',← carrier.sent_eq t c shown']
  exact List.prefix_append ..

end

end

end Carrier

end McpBridge.Mailboxes
