import McpBridge.Channels
import McpBridge.Runs

/-!
Channels that several goroutines share. Some steps close a channel, and after some a goroutine holds one, to send on it
later.
-/
namespace McpBridge.SharedChannels
open Runs Channels
universe u v
variable {State : Type u} {Label : Type v}

/-- No step closes a channel that somebody holds or gets hold of a closed one. -/
def Careful (closed holds : State → Nat → Prop) (closes finds : State → Label → Nat → Prop) (s : State) (label : Label) :
    Prop :=
  (∀ k, closes s label k → holds s k → closed s k) ∧ ∀ k, finds s label k → ¬ closed s k

theorem careful_of_none {closed holds : State → Nat → Prop} {closes finds : State → Label → Nat → Prop} {s : State}
    {label : Label} (closing : ∀ k, ¬ closes s label k) (finding : ∀ k, ¬ finds s label k) :
    Careful closed holds closes finds s label :=
  ⟨fun k now => absurd now (closing k),fun k now => absurd now (finding k)⟩

/-- What the steps of a system do to its channels: who closes one (`closes`), who gets hold of one (`finds`), and what
    follows when a closed one is held. -/
structure Sharing (step : State → Label → Option State) (panic : State → Option Panic) (closed holds : State → Nat → Prop)
    (closes finds : State → Label → Nat → Prop) (inv : State → Prop) : Prop where
  kept : ∀ s label next, inv s → step s label = some next → inv next
  once : ∀ s, inv s → panic s ≠ some .closeOfClosed
  closing : ∀ s label next k, inv s → step s label = some next → (closed next k ↔ closed s k ∨ closes s label k)
  holding : ∀ s label next k, inv s → step s label = some next → holds next k → holds s k ∨ finds s label k
  finding : ∀ s label next k, step s label = some next → finds s label k → holds next k
  staying : ∀ s label next k, step s label = some next → closes s label k → holds s k → holds next k
  apart : ∀ s label j k, closes s label j → ¬ finds s label k
  panics : ∀ s label next, inv s → step s label = some next →
    panic next = none ∨ panic next = some .sendOnClosed ∧ ∃ k, holds s k ∧ closed s k
  ends : ∀ s k, inv s → panic s = none → holds s k → closed s k →
    ∃ last, Reaches step s last ∧ panic last = some .sendOnClosed

section
variable {step : State → Label → Option State} {panic : State → Option Panic} {closed holds : State → Nat → Prop}
  {closes finds : State → Label → Nat → Prop} {inv : State → Prop}

/-- Nothing has panicked, and every channel that is held is open. -/
structure Quiet (panic : State → Option Panic) (closed holds : State → Nat → Prop) (inv : State → Prop) (s : State) :
    Prop where
  sound : inv s
  calm : panic s = none
  isOpen : ∀ k, holds s k → ¬ closed s k

section
variable (sharing : Sharing step panic closed holds closes finds inv) {s next : State} {label : Label} (quiet : Quiet panic closed holds inv s)
include sharing quiet

theorem Sharing.calm (taken : step s label = some next) : panic next = none := by
  rcases sharing.panics s label next quiet.sound taken with calm | ⟨-,k,held,shut⟩
  · exact calm
  · exact absurd shut (quiet.isOpen k held)

theorem Sharing.step_quiet (careful : Careful closed holds closes finds s label)
    (taken : step s label = some next) : Quiet panic closed holds inv next := by
  refine ⟨sharing.kept s label next quiet.sound taken,sharing.calm quiet taken,fun k held shut => ?_⟩
  rcases (sharing.closing s label next k quiet.sound taken).mp shut with before | now
  · rcases sharing.holding s label next k quiet.sound taken held with already | found
    · exact quiet.isOpen k already before
    · exact careful.2 k found before
  · rcases sharing.holding s label next k quiet.sound taken held with already | found
    · exact quiet.isOpen k already (careful.1 k now already)
    · exact sharing.apart s label k k now found

/-- After a step that is not careful somebody holds a closed channel. -/
theorem Sharing.step_careless (careless : ¬ Careful closed holds closes finds s label)
    (taken : step s label = some next) : ∃ k, holds next k ∧ closed next k := by
  have closing := sharing.closing s label next
  by_cases closer : ∀ k, closes s label k → holds s k → closed s k
  · have finder : ¬ ∀ k, finds s label k → ¬ closed s k := fun all => careless ⟨closer,all⟩
    simp only [not_forall,not_not] at finder
    obtain ⟨k,found,shut⟩ := finder
    exact ⟨k,sharing.finding s label next k taken found,(closing k quiet.sound taken).mpr (.inl shut)⟩
  · simp only [not_forall] at closer
    obtain ⟨k,now,held,-⟩ := closer
    exact ⟨k,sharing.staying s label next k taken now held,(closing k quiet.sound taken).mpr (.inr now)⟩

end

section
variable (sharing : Sharing step panic closed holds closes finds inv) {start t next : State} {label : Label}
include sharing

theorem Sharing.closed_once (sound : inv start) (labels : List Label) :
    Always step (fun s => panic s ≠ some .closeOfClosed) start labels :=
  (always_of_step sharing.kept sound).imp sharing.once

variable {labels : List Label} (quiet : Quiet panic closed holds inv start)
  (careful : Meets step (Careful closed holds closes finds) start labels)
include quiet careful

/-- If all steps are careful nothing panics. -/
theorem Sharing.always_calm : Always step (fun s => panic s = none) start labels := by
  have stays : ∀ s label next, Quiet panic closed holds inv s → Careful closed holds closes finds s label →
      step s label = some next → Quiet panic closed holds inv next :=
    fun _ _ _ now careful taken => sharing.step_quiet now careful taken
  exact (always_of_keeps stays quiet careful).imp fun s now => now.calm

/-- After the first step that is not careful a send on a closed channel can be reached. -/
theorem Sharing.careless_panics (executed : run step start labels = some t) (taken : step t label = some next)
    (careless : ¬ Careful closed holds closes finds t label) :
    ∃ last, Reaches step next last ∧ panic last = some .sendOnClosed := by
  have now := run_keeps (fun _ _ _ now careful taken => sharing.step_quiet now careful taken) quiet careful executed
  obtain ⟨k,held,shut⟩ := sharing.step_careless now careless taken
  exact sharing.ends next k (sharing.kept t label next now.sound taken) (sharing.calm now taken) held shut

end

end

end McpBridge.SharedChannels
