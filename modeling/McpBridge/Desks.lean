import Mathlib.Data.List.Count

/-!
A desk at which every task is to be answered once. One clerk accepts the tasks, one at a time, and answers each or hands
it to one of any number of workers. Every step answers what it finishes, but that the clerk may drop a task.
-/
namespace McpBridge.Desks
open List

open Function

/-- A task at hand comes with whether its answer is still owed. -/
structure Desk where
  accepted : Nat := 0
  clerk : Option (Nat × Bool) := none
  workers : Nat → Option (Nat × Bool) := fun _ => none
  answers : List Nat := []

inductive Step : Desk → Desk → Prop where
  | accept {l : Desk} (free : l.clerk = none) :
      Step l { l with accepted := l.accepted + 1, clerk := some (l.accepted,true) }
  | answer {l : Desk} {i : Nat} {after : Option (Nat × Bool)} (owes : l.clerk = some (i,true))
      (after_eq : after = none ∨ after = some (i,false)) : Step l { l with clerk := after, answers := i :: l.answers }
  | leave {l : Desk} {i : Nat} (paid : l.clerk = some (i,false)) : Step l { l with clerk := none }
  | delegate {l : Desk} {i c : Nat} (owes : l.clerk = some (i,true)) (unused : l.workers c = none) :
      Step l { l with clerk := none, workers := update l.workers c (some (i,true)) }
  | finish {l : Desk} {i c : Nat} (owes : l.workers c = some (i,true)) :
      Step l { l with workers := update l.workers c (some (i,false)), answers := i :: l.answers }

inductive Drop : Desk → Desk → Prop where
  | drop {l : Desk} {i : Nat} (owes : l.clerk = some (i,true)) : Drop l { l with clerk := none }

variable {l next : Desk} {i : Nat}

def Finished (l : Desk) (i : Nat) : Prop :=
  (∀ b, l.clerk ≠ some (i,b)) ∧ ∀ c, l.workers c ≠ some (i,true)

def Lost (l : Desk) (i : Nat) : Prop := Finished l i ∧ l.answers.count i = 0

/-- What has become of a task. -/
inductive Fate (l : Desk) (i : Nat) : Prop where
  | atClerk (owes : l.clerk = some (i,true)) (unworked : ∀ c b, l.workers c ≠ some (i,b))
      (unanswered : l.answers.count i = 0)
  | atWorker (c : Nat) (owes : l.workers c = some (i,true)) (only : ∀ d b, l.workers d = some (i,b) → d = c)
      (away : ∀ b, l.clerk ≠ some (i,b)) (unanswered : l.answers.count i = 0)
  | answered (paid : l.clerk ≠ some (i,true))
      (ended : ∀ c b, l.workers c = some (i,b) → b = false ∧ ∀ b', l.clerk ≠ some (i,b')) (once : l.answers.count i = 1)
  | dropped (away : ∀ b, l.clerk ≠ some (i,b)) (unworked : ∀ c b, l.workers c ≠ some (i,b))
      (unanswered : l.answers.count i = 0)

structure Sound (l : Desk) : Prop where
  clerk : ∀ i b, l.clerk = some (i,b) → i < l.accepted
  workers : ∀ c i b, l.workers c = some (i,b) → i < l.accepted
  answers : ∀ i ∈ l.answers, i < l.accepted
  fate : ∀ i < l.accepted, Fate l i

theorem Sound.empty : Sound {} where
  clerk _ _ found := by cases found
  workers _ _ _ found := by cases found
  answers _ member := by cases member
  fate i lt := absurd lt (Nat.not_lt_zero i)

/-- While somebody works on a task, its fate is known. -/
theorem Fate.of_clerk_owes (fate : Fate l i) (owes : l.clerk = some (i,true)) :
    (∀ c b, l.workers c ≠ some (i,b)) ∧ l.answers.count i = 0 := by
  cases fate with
  | atClerk _ unworked unanswered => exact ⟨unworked,unanswered⟩
  | atWorker c _ _ away | dropped away => exact absurd owes (away true)
  | answered paid _ _ => exact absurd owes paid

theorem Fate.of_clerk_paid (fate : Fate l i) (paid : l.clerk = some (i,false)) :
    (∀ c b, l.workers c ≠ some (i,b)) ∧ l.answers.count i = 1 := by
  cases fate with
  | atClerk owes _ _ => rw [paid] at owes; cases owes
  | atWorker c _ _ away | dropped away => exact absurd paid (away false)
  | answered _ ended once => exact ⟨fun c b found => (ended c b found).2 false paid,once⟩

theorem Fate.of_worker_owes {c : Nat} (fate : Fate l i) (owes : l.workers c = some (i,true)) :
    (∀ d b, l.workers d = some (i,b) → d = c) ∧ (∀ b, l.clerk ≠ some (i,b)) ∧ l.answers.count i = 0 := by
  cases fate with
  | atClerk _ unworked | dropped _ unworked => exact absurd owes (unworked c true)
  | atWorker d _ only away unanswered =>
    cases only c true owes
    exact ⟨only,away,unanswered⟩
  | answered _ ended _ => cases (ended c true owes).1

theorem Fate.frame (fate : Fate l i) (clerk : ∀ b, next.clerk = some (i,b) ↔ l.clerk = some (i,b))
    (workers : ∀ c b, next.workers c = some (i,b) ↔ l.workers c = some (i,b))
    (answers : next.answers.count i = l.answers.count i) : Fate next i := by
  cases fate with
  | atClerk owes unworked unanswered =>
    exact .atClerk ((clerk true).mpr owes) (fun c b found => unworked c b ((workers c b).mp found))
      (answers.trans unanswered)
  | atWorker c owes only away unanswered =>
    exact .atWorker c ((workers c true).mpr owes) (fun d b found => only d b ((workers d b).mp found))
      (fun b found => away b ((clerk b).mp found)) (answers.trans unanswered)
  | answered paid ended once =>
    refine .answered (fun found => paid ((clerk true).mp found)) (fun c b found => ?_) (answers.trans once)
    obtain ⟨done,away⟩ := ended c b ((workers c b).mp found)
    exact ⟨done,fun b' held => away b' ((clerk b').mp held)⟩
  | dropped away unworked unanswered =>
    exact .dropped (fun b found => away b ((clerk b).mp found)) (fun c b found => unworked c b ((workers c b).mp found))
      (answers.trans unanswered)

/-- A change that concerns one task only, after which the fate of that task is known. -/
structure Touches (l next : Desk) (j : Nat) : Prop where
  grows : l.accepted ≤ next.accepted
  bound : j < next.accepted
  old : ∀ i < next.accepted, i ≠ j → i < l.accepted
  clerk : ∀ i, i ≠ j → ∀ b, next.clerk = some (i,b) ↔ l.clerk = some (i,b)
  workers : ∀ i, i ≠ j → ∀ c b, next.workers c = some (i,b) ↔ l.workers c = some (i,b)
  answers : ∀ i, i ≠ j → next.answers.count i = l.answers.count i
  fate : Fate next j

namespace Touches
variable {j : Nat}

theorem sound (touches : Touches l next j) (before : Sound l) : Sound next := by
  constructor
  · intro i b found
    by_cases same : i = j
    · rw [same]
      exact touches.bound
    · exact Nat.lt_of_lt_of_le (before.clerk i b ((touches.clerk i same b).mp found)) touches.grows
  · intro c i b found
    by_cases same : i = j
    · rw [same]
      exact touches.bound
    · exact Nat.lt_of_lt_of_le (before.workers c i b ((touches.workers i same c b).mp found)) touches.grows
  · intro i member
    by_cases same : i = j
    · rw [same]
      exact touches.bound
    · refine Nat.lt_of_lt_of_le (before.answers i ?_) touches.grows
      rw [← count_pos_iff,← touches.answers i same]
      exact count_pos_iff.mpr member
  · intro i lt
    by_cases same : i = j
    · rw [same]
      exact touches.fate
    · exact (before.fate i (touches.old i lt same)).frame (touches.clerk i same) (touches.workers i same)
        (touches.answers i same)

theorem lost_iff (touches : Touches l next j) (other : i ≠ j) : Lost next i ↔ Lost l i := by
  unfold Lost Finished
  simp [touches.clerk i other,touches.workers i other,touches.answers i other]

end Touches

private theorem ne_of_other {task : Option (Nat × Bool)} {i j : Nat} {b b' : Bool} (found : task = some (j,b))
    (other : i ≠ j) : task ≠ some (i,b') := by
  rw [found]
  intro equal
  cases equal
  exact other rfl

private theorem update_workers {workers : Nat → Option (Nat × Bool)} {c i j : Nat} {b : Bool} (other : i ≠ j)
    (before : ∀ b, workers c ≠ some (i,b)) (d : Nat) (b' : Bool) :
    update workers c (some (j,b)) d = some (i,b') ↔ workers d = some (i,b') := by
  by_cases same : d = c
  · subst same
    exact iff_of_false (ne_of_other (update_self ..) other) (before b')
  · rw [update_of_ne same]

theorem not_lost_of_count (once : l.answers.count i = 1) : ¬ Lost l i := by
  rintro ⟨_,unanswered⟩
  omega

/-- A step touches one task, which is lost neither before nor after it. -/
theorem Step.touches (sound : Sound l) (step : Step l next) :
    ∃ j, Touches l next j ∧ ¬ Lost next j ∧ (j < l.accepted → ¬ Lost l j) := by
  cases step with
  | accept free =>
    refine ⟨l.accepted,⟨Nat.le_succ _,Nat.lt_succ_self _,?_,?_,fun _ _ _ _ => Iff.rfl,fun _ _ => rfl,?_⟩,?_,?_⟩
    · intro i lt other
      exact Nat.lt_of_le_of_ne (Nat.le_of_lt_succ lt) other
    · exact fun i other b => iff_of_false (ne_of_other rfl other) (fun found => by rw [free] at found; cases found)
    · refine .atClerk rfl (fun c b found => Nat.lt_irrefl _ (sound.workers c _ b found)) ?_
      exact count_eq_zero.mpr fun member => Nat.lt_irrefl _ (sound.answers _ member)
    · exact fun lost => lost.1.1 true rfl
    · exact fun lt => absurd lt (Nat.lt_irrefl _)
  | @answer j after owes after_eq =>
    have lt := sound.clerk j true owes
    obtain ⟨unworked,unanswered⟩ := (sound.fate j lt).of_clerk_owes owes
    have once : (j :: l.answers).count j = 1 := by rw [count_cons_self,unanswered]
    refine ⟨j,⟨Nat.le_refl _,lt,fun _ lt _ => lt,?_,fun _ _ _ _ => Iff.rfl,?_,?_⟩,not_lost_of_count once,?_⟩
    · intro i other b
      refine iff_of_false ?_ (ne_of_other owes other)
      rcases after_eq with rfl | rfl
      · exact nofun
      · exact ne_of_other rfl other
    · exact fun i other => count_cons_of_ne (Ne.symm other)
    · refine .answered (fun found => ?_) (fun c b found => absurd found (unworked c b)) once
      rcases after_eq with rfl | rfl <;> cases found
    · exact fun _ lost => lost.1.1 true owes
  | @leave j paid =>
    have lt := sound.clerk j false paid
    obtain ⟨unworked,once⟩ := (sound.fate j lt).of_clerk_paid paid
    refine ⟨j,⟨Nat.le_refl _,lt,fun _ lt _ => lt,?_,fun _ _ _ _ => Iff.rfl,fun _ _ => rfl,?_⟩,not_lost_of_count once,?_⟩
    · exact fun i other b => iff_of_false nofun (ne_of_other paid other)
    · exact .answered nofun (fun c b found => absurd found (unworked c b)) once
    · exact fun _ lost => lost.1.1 false paid
  | @delegate j c owes unused =>
    have lt := sound.clerk j true owes
    obtain ⟨unworked,unanswered⟩ := (sound.fate j lt).of_clerk_owes owes
    refine ⟨j,⟨Nat.le_refl _,lt,fun _ lt _ => lt,?_,?_,fun _ _ => rfl,?_⟩,?_,?_⟩
    · exact fun i other b => iff_of_false nofun (ne_of_other owes other)
    · intro i other d b
      exact update_workers other (fun b found => by rw [unused] at found; cases found) d b
    · -- The worker that has the task now is the only one.
      refine .atWorker c (update_self ..) (fun d b found => ?_) nofun unanswered
      by_contra other
      simp only [update_of_ne other] at found
      exact unworked d b found
    · exact fun lost => lost.1.2 c (update_self ..)
    · exact fun _ lost => lost.1.1 true owes
  | @finish j c owes =>
    have lt := sound.workers c j true owes
    obtain ⟨only,away,unanswered⟩ := (sound.fate j lt).of_worker_owes owes
    have once : (j :: l.answers).count j = 1 := by rw [count_cons_self,unanswered]
    refine ⟨j,⟨Nat.le_refl _,lt,fun _ lt _ => lt,fun _ _ _ => Iff.rfl,?_,?_,?_⟩,not_lost_of_count once,?_⟩
    · exact fun i other d b => update_workers other (fun b => ne_of_other owes other) d b
    · exact fun i other => count_cons_of_ne (Ne.symm other)
    · refine .answered (away true) (fun d b found => ⟨?_,away⟩) once
      by_cases same : d = c
      · simp only [same,update_self] at found
        cases found
        rfl
      · simp only [update_of_ne same] at found
        exact absurd (only d b found) same
    · exact fun _ lost => lost.1.2 c owes

theorem Drop.touches (sound : Sound l) (drop : Drop l next) : ∃ j, Touches l next j ∧ Lost next j := by
  cases drop with
  | @drop j owes =>
    have lt := sound.clerk j true owes
    obtain ⟨unworked,unanswered⟩ := (sound.fate j lt).of_clerk_owes owes
    refine ⟨j,⟨Nat.le_refl _,lt,fun _ lt _ => lt,?_,fun _ _ _ _ => Iff.rfl,fun _ _ => rfl,?_⟩,?_⟩
    · exact fun i other b => iff_of_false nofun (ne_of_other owes other)
    · exact .dropped nofun unworked unanswered
    · exact ⟨⟨nofun,fun c found => unworked c true found⟩,unanswered⟩

def Kept (l : Desk) : Prop := ∀ i < l.accepted, ¬ Lost l i

theorem Step.kept_iff (sound : Sound l) (step : Step l next) : Kept next ↔ Kept l := by
  obtain ⟨j,touches,after,before⟩ := step.touches sound
  constructor
  · intro kept i lt lost
    by_cases same : i = j
    · exact before (same ▸ lt) (same ▸ lost)
    · exact kept i (Nat.lt_of_lt_of_le lt touches.grows) ((touches.lost_iff same).mpr lost)
  · intro kept i lt lost
    by_cases same : i = j
    · exact after (same ▸ lost)
    · exact kept i (touches.old i lt same) ((touches.lost_iff same).mp lost)

theorem Sound.count_le_one (sound : Sound l) (lt : i < l.accepted) : l.answers.count i ≤ 1 := by
  cases sound.fate i lt with
  | atClerk _ _ unanswered => omega
  | atWorker _ _ _ _ unanswered => omega
  | answered _ _ once => omega
  | dropped _ _ unanswered => omega

/-- A finished task that is not lost was answered once. -/
theorem Sound.count_eq_one (sound : Sound l) (lt : i < l.accepted) (finished : Finished l i) (kept : ¬ Lost l i) :
    l.answers.count i = 1 := by
  have most := sound.count_le_one lt
  have least : l.answers.count i ≠ 0 := fun zero => kept ⟨finished,zero⟩
  omega

end McpBridge.Desks
