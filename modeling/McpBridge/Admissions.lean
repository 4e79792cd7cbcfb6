import Mathlib.Data.List.Induction

/-!
Machines that answer every input at once, and the times of the inputs they let pass. The rules go by induction on the
history from its end.
-/
namespace McpBridge.Admissions
open List
universe u v w x
variable {State : Type u} {Input : Type v} {Answer : Type w} {View : Type x}

def after (step : State → Input → Answer × State) (s : State) (inputs : List Input) : State :=
  inputs.foldl (fun s input => (step s input).2) s

def answers (step : State → Input → Answer × State) : State → List Input → List (Input × Answer)
  | _,[] => []
  | s,input :: rest => (input,(step s input).1) :: answers step (step s input).2 rest

section
variable {step : State → Input → Answer × State} {s t : State} {inputs rest : List Input} {input : Input}

@[simp] theorem after_nil : after step s [] = s := rfl

@[simp] theorem after_cons : after step s (input :: rest) = after step (step s input).2 rest := rfl

@[simp] theorem after_append : after step s (inputs ++ rest) = after step (after step s inputs) rest :=
  foldl_append ..

theorem answers_append : answers step s (inputs ++ rest) = answers step s inputs ++ answers step (after step s inputs) rest := by
  induction inputs generalizing s with
  | nil => rfl
  | cons input inputs ih => simp [answers,ih,after_cons]

theorem answers_concat :
    answers step s (inputs ++ [input]) = answers step s inputs ++ [(input,(step (after step s inputs) input).1)] := by
  rw [answers_append]
  rfl

@[simp] theorem answers_inputs : (answers step s inputs).map Prod.fst = inputs := by
  induction inputs generalizing s with
  | nil => rfl
  | cons input inputs ih => simp [answers,ih]

theorem input_of_answered {answered : Input × Answer} (listed : answered ∈ answers step s inputs) : answered.1 ∈ inputs := by
  have input := mem_map_of_mem (f := Prod.fst) listed
  rwa [answers_inputs] at input

theorem mem_answers {answer : Answer} (listed : (input,answer) ∈ answers step s inputs) :
    ∃ i : Nat, inputs[i]? = some input ∧ answer = (step (after step s (inputs.take i)) input).1 := by
  induction inputs generalizing s with
  | nil => cases listed
  | cons first rest ih =>
    rcases mem_cons.mp listed with this | later
    · cases this
      exact ⟨0,rfl,rfl⟩
    · obtain ⟨i,found,given⟩ := ih later
      exact ⟨i + 1,found,given⟩

theorem answers_pairwise {r : Input → Input → Prop} (ordered : inputs.Pairwise r) :
    (answers step s inputs).Pairwise fun a b => r a.1 b.1 := by
  rw [← pairwise_map,answers_inputs]
  exact ordered

/-- An invariant of the state and the inputs so far, in histories that satisfy a condition. -/
theorem after_keeps {fine : List Input → Prop} (inv : List Input → State → Prop)
    (shorter : ∀ inputs input, fine (inputs ++ [input]) → fine inputs) (start : inv [] s)
    (kept : ∀ inputs input, fine (inputs ++ [input]) → inv inputs (after step s inputs) →
      inv (inputs ++ [input]) (step (after step s inputs) input).2)
    (inputs : List Input) (meets : fine inputs) : inv inputs (after step s inputs) := by
  induction inputs using reverseRecOn with
  | nil => exact start
  | append_singleton inputs input ih =>
    rw [after_append]
    exact kept inputs input meets (ih (shorter inputs input meets))

/-- Answers that depend on a part of the state which other inputs do not touch are as if those had not come. -/
theorem answers_filter (p : Input → Bool) (view : State → View) (own : ∀ s t input, p input = true → view s = view t →
      (step s input).1 = (step t input).1 ∧ view (step s input).2 = view (step t input).2)
    (idle : ∀ s input, p input = false → view (step s input).2 = view s) (same : view s = view t) :
    (answers step s inputs).filter (fun answered => p answered.1) = answers step t (inputs.filter p) := by
  induction inputs generalizing s t with
  | nil => rfl
  | cons input rest ih =>
    cases mine : p input with
    | true =>
      obtain ⟨answer,next⟩ := own s t input mine same
      simp [answers,mine,answer,ih next]
    | false =>
      simp [answers,mine]
      exact ih ((idle s input mine).trans same)

end

/-- Each time found fewer than the limit in the window of this width that ends with it. -/
def Paced (limit width : Int) (times : List Int) : Prop :=
  ∀ before t rest, times = before ++ t :: rest → (before.countP (fun s => decide (t - width < s)) : Int) < limit

section
variable {limit width : Int} {times : List Int} {t : Int}

theorem paced_nil : Paced limit width [] := by
  intro before t rest same
  simp at same

theorem paced_concat : Paced limit width (times ++ [t]) ↔
    Paced limit width times ∧ (times.countP (fun s => decide (t - width < s)) : Int) < limit := by
  constructor
  · intro paced
    refine ⟨fun before s rest same => paced before s (rest ++ [t]) ?_,paced times t [] rfl⟩
    rw [same,append_assoc,cons_append]
  · rintro ⟨paced,last⟩ before s rest same
    cases rest using reverseRecOn with
    | nil =>
      obtain ⟨rfl,final⟩ := append_inj' same rfl
      cases final
      exact last
    | append_singleton rest final =>
      rw [← cons_append,← append_assoc] at same
      exact paced before s rest (append_inj' same rfl).1

section
variable (paced : Paced limit width times) (ordered : times.Pairwise (· ≤ ·)) (room : 0 ≤ limit)
include paced ordered room

/-- Times that all lie less than the width apart are no more than the limit. -/
theorem Paced.count_le {inside : Int → Bool} (close : ∀ s t, inside s = true → inside t = true → t - width < s) :
    (times.countP inside : Int) ≤ limit := by
  induction times using reverseRecOn with
  | nil => simpa using room
  | append_singleton times t ih =>
    rw [paced_concat] at paced
    have earlier := ih paced.1 (pairwise_append.mp ordered).1
    rw [countP_append,countP_singleton]
    split
    next within =>
      -- the last of the times in the set sees all the others in its own window
      have seen : times.countP inside ≤ times.countP (fun s => decide (t - width < s)) :=
        countP_mono_left fun s _ also => decide_eq_true (close s t also within)
      omega
    next => simpa using earlier

/-- The windows of the width, open at one end or the other. -/
theorem Paced.windows (a : Int) : (times.countP (fun t => decide (a ≤ t ∧ t < a + width)) : Int) ≤ limit ∧
      (times.countP (fun t => decide (a < t ∧ t ≤ a + width)) : Int) ≤ limit := by
  constructor
  all_goals
    refine paced.count_le ordered room fun s t earlier later => ?_
    simp only [decide_eq_true_eq] at earlier later
    omega

end

end

end McpBridge.Admissions
