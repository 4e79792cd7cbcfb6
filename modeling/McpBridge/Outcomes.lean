import Mathlib.Tactic.Common

/-!
What a Go call that returns a value and an error comes to: the value, an error, or a panic. The monad stops at the first
error or panic.
-/
namespace McpBridge.Outcomes
universe u v
variable {α : Type u} {β : Type u}

inductive Outcome (α : Type u) where
  | value (a : α)
  | error (text : String)
  | panic
  deriving Repr

namespace Outcome

instance : Monad Outcome where
  pure := .value
  bind x f :=
    match x with
    | .value a => f a
    | .error text => .error text
    | .panic => .panic

/-- `*p` and `p.field` for a pointer `p`. -/
def deref : Option α → Outcome α
  | some a => .value a
  | none => .panic

def ofExcept : Except String α → Outcome α
  | .ok a => .value a
  | .error text => .error text

def Returns : Outcome α → Prop
  | .panic => False
  | _ => True

instance (x : Outcome α) : Decidable x.Returns :=
  match x with
  | .value _ => isTrue trivial
  | .error _ => isTrue trivial
  | .panic => isFalse id

@[simp] theorem returns_pure (a : α) : (pure a : Outcome α).Returns := trivial

@[simp] theorem returns_ofExcept (x : Except String α) : (ofExcept x).Returns := by
  cases x <;> trivial

@[simp] theorem returns_deref (p : Option α) : (deref p).Returns ↔ p.isSome := by
  cases p <;> simp [deref,Returns]

theorem returns_bind (x : Outcome α) (f : α → Outcome β) :
    (x >>= f).Returns ↔ x.Returns ∧ ∀ a, x = .value a → (f a).Returns := by
  cases x with
  | value a =>
    constructor
    · intro returns
      refine ⟨trivial,?_⟩
      rintro _ ⟨⟩
      exact returns
    · intro both
      exact both.2 a rfl
  | error text =>
    refine ⟨fun _ => ⟨trivial,?_⟩,fun _ => trivial⟩
    rintro _ ⟨⟩
  | panic => exact ⟨fun returns => returns.elim,fun both => both.1⟩

theorem bind_eq_value {x : Outcome α} {f : α → Outcome β} {b : β} :
    (x >>= f) = .value b ↔ ∃ a, x = .value a ∧ f a = .value b := by
  constructor
  · intro whole
    cases x with
    | value a => exact ⟨a,rfl,whole⟩
    | error text => cases whole
    | panic => cases whole
  · rintro ⟨a,rfl,second⟩
    exact second

theorem ofExcept_eq_value {x : Except String α} {a : α} : ofExcept x = .value a ↔ x = .ok a := by
  cases x <;> simp [ofExcept]

end Outcome
end McpBridge.Outcomes
