import Mathlib.Tactic.Common

/-!
Runs of a system with labelled steps. A step function says which labels can be taken in a state and where they lead; a
run is a list of labels. The rules carry an invariant, or a property that some steps break, from steps to runs.
-/
namespace McpBridge.Runs
open List
universe u v w x
variable {State : Type u} {Label : Type v}

def run (step : State → Label → Option State) : State → List Label → Option State
  | s, [] => some s
  | s, label :: rest => (step s label).bind fun next => run step next rest

/-- Every step of the run meets the condition in the state where it is taken. -/
def Meets (step : State → Label → Option State) (fine : State → Label → Prop) : State → List Label → Prop
  | _, [] => True
  | s, label :: rest => fine s label ∧ ∀ next, step s label = some next → Meets step fine next rest

/-- Every state of the run has the property. -/
def Always (step : State → Label → Option State) (holds : State → Prop) : State → List Label → Prop
  | s,[] => holds s
  | s,label :: rest => holds s ∧ ∀ next, step s label = some next → Always step holds next rest

/-- What the steps of a run add to a log that grows at its head, each seen from its state. -/
def emitted {Entry : Type w} (step : State → Label → Option State) (emit : State → Label → List Entry) :
    State → List Label → List Entry
  | _, [] => []
  | s, label :: rest =>
    match step s label with
    | some next => emitted step emit next rest ++ emit s label
    | none => []

def Reaches (step : State → Label → Option State) (s t : State) : Prop := ∃ labels, run step s labels = some t

variable {step : State → Label → Option State}
variable {s t next : State} {label : Label} {labels rest first second : List Label}
  {fine other allowed : State → Label → Prop} {inv safe holds : State → Prop} {Entry : Type w}
  {emit : State → Label → List Entry} {past : List Label} {earlier : List Label → Prop} {kind : Label → Prop}

@[simp] theorem run_nil (s : State) : run step s [] = some s := rfl

theorem run_cons_eq_some :
    run step s (label :: rest) = some t ↔ ∃ next, step s label = some next ∧ run step next rest = some t := by
  simp only [run,Option.bind_eq_some_iff]

theorem run_append :
    run step s (first ++ second) = some t ↔ ∃ mid, run step s first = some mid ∧ run step mid second = some t := by
  induction first generalizing s with
  | nil => simp
  | cons label rest ih =>
    simp only [cons_append,run_cons_eq_some,ih]
    constructor
    · rintro ⟨next,taken,mid,before,after⟩
      exact ⟨mid,⟨next,taken,before⟩,after⟩
    · rintro ⟨mid,⟨next,taken,before⟩,after⟩
      exact ⟨next,taken,mid,before,after⟩

theorem Reaches.cons (taken : step s label = some next) (rest : Reaches step next t) : Reaches step s t := by
  obtain ⟨labels,ran⟩ := rest
  exact ⟨label :: labels,run_cons_eq_some.mpr ⟨next,taken,ran⟩⟩

theorem reaches_of_step (taken : step s label = some t) : Reaches step s t :=
  .cons taken ⟨[],rfl⟩

theorem meets_cons (taken : step s label = some next) :
    Meets step fine s (label :: rest) ↔ fine s label ∧ Meets step fine next rest := by
  refine and_congr_right fun _ => ?_
  rw [taken]
  exact ⟨fun all => all next rfl,fun meets other same => Option.some.inj same ▸ meets⟩

theorem meets_of_mem (always : ∀ label ∈ labels, ∀ s, fine s label) : Meets step fine s labels := by
  induction labels generalizing s with
  | nil => trivial
  | cons label rest ih =>
    refine ⟨always label (mem_cons_self ..) s,fun next _ => ih fun other member => ?_⟩
    exact always other (mem_cons_of_mem _ member)

theorem Meets.and (meets : Meets step fine s labels) (meets' : Meets step other s labels) :
    Meets step (fun s label => fine s label ∧ other s label) s labels := by
  induction labels generalizing s with
  | nil => trivial
  | cons label rest ih =>
    exact ⟨⟨meets.1,meets'.1⟩,fun next taken => ih (meets.2 next taken) (meets'.2 next taken)⟩

theorem Meets.imp (weaker : ∀ s label, fine s label → other s label) (meets : Meets step fine s labels) :
    Meets step other s labels := by
  induction labels generalizing s with
  | nil => trivial
  | cons label rest ih => exact ⟨weaker s label meets.1,fun next taken => ih (meets.2 next taken)⟩

theorem Meets.drop
    (meets : Meets step fine s (first ++ second)) (executed : run step s first = some t) : Meets step fine t second := by
  induction first generalizing s with
  | nil =>
    cases executed
    exact meets
  | cons label rest ih =>
    obtain ⟨next,taken,tail⟩ := run_cons_eq_some.mp executed
    exact ih (meets.2 next taken) tail

/-- Conditions that agree on every step, as long as one was met so far, are met by the same runs. -/
theorem meets_congr (agree : ∀ s label next, inv s → step s label = some next → (fine s label ↔ other s label))
    (kept : ∀ s label next, inv s → fine s label → step s label = some next → inv next)
    (start : inv s) (executed : run step s labels = some t) : Meets step fine s labels ↔ Meets step other s labels := by
  induction labels generalizing s with
  | nil => exact Iff.rfl
  | cons label rest ih =>
    obtain ⟨next,taken,tail⟩ := run_cons_eq_some.mp executed
    rw [meets_cons taken,meets_cons taken,← agree s label next start taken]
    exact and_congr_right fun met => ih (kept s label next start met taken) tail

/-- A property that fine steps keep holds all along a run of fine steps. -/
theorem always_of_keeps (kept : ∀ s label next, holds s → fine s label → step s label = some next → holds next)
    (start : holds s) (meets : Meets step fine s labels) : Always step holds s labels := by
  induction labels generalizing s with
  | nil => exact start
  | cons label rest ih => exact ⟨start,fun next taken => ih (kept s label next start meets.1 taken) (meets.2 next taken)⟩

/-- What every step that meets the condition meets besides, with an invariant that such steps keep. -/
theorem Meets.of_keeps (meets : Meets step fine s labels)
    (kept : ∀ s label next, inv s → fine s label → step s label = some next → inv next)
    (besides : ∀ s label, inv s → fine s label → other s label) (start : inv s) : Meets step other s labels := by
  induction labels generalizing s with
  | nil => trivial
  | cons label rest ih =>
    exact ⟨besides s label start meets.1,fun next taken => ih (meets.2 next taken) (kept s label next start meets.1 taken)⟩

theorem Always.last (always : Always step holds s labels) (executed : run step s labels = some t) : holds t := by
  induction labels generalizing s with
  | nil =>
    cases executed
    exact always
  | cons label rest ih =>
    obtain ⟨next,taken,tail⟩ := run_cons_eq_some.mp executed
    exact ih (always.2 next taken) tail

/-- What every step that meets the condition preserves, a run of such steps preserves. -/
theorem run_keeps (kept : ∀ s label next, holds s → fine s label → step s label = some next → holds next)
    {s t : State} (start : holds s) (meets : Meets step fine s labels) (executed : run step s labels = some t) : holds t :=
  (always_of_keeps kept start meets).last executed

/-- A measure that no step raises, and every step of some kind lowers, bounds how many of that kind a run takes. -/
theorem run_countP_le {measure : State → Nat} {kind : Label → Bool}
    (kept : ∀ s label next, inv s → fine s label → step s label = some next →
      inv next ∧ measure next + (kind label).toNat ≤ measure s) (start : inv s) (meets : Meets step fine s labels)
    (executed : run step s labels = some t) : measure t + labels.countP kind ≤ measure s := by
  induction labels generalizing s with
  | nil =>
    cases executed
    exact Nat.le_refl _
  | cons label rest ih =>
    obtain ⟨next,taken,tail⟩ := run_cons_eq_some.mp executed
    obtain ⟨start',lower⟩ := kept s label next start meets.1 taken
    have rest_le := ih start' (meets.2 next taken) tail
    have counted : (label :: rest).countP kind = rest.countP kind + (kind label).toNat := by
      rw [countP_cons]
      cases kind label <;> rfl
    omega

/-- What every step preserves holds in every reachable state. -/
theorem reaches_keeps (kept : ∀ s label next, holds s → step s label = some next → holds next)
    {s t : State} (start : holds s) (reached : Reaches step s t) : holds t := by
  obtain ⟨labels,executed⟩ := reached
  have meets : Meets step (fun _ _ => True) s labels := meets_of_mem (fun _ _ _ => trivial)
  exact run_keeps (fun s label next now _ taken => kept s label next now taken) start meets executed

/-- In a run of allowed steps, a property that exactly the steps which miss the condition break, for good, holds at the
    end precisely when it held before and every step meets the condition. -/
theorem run_safe_iff_of_meets (kept : ∀ s label next, inv s → allowed s label → step s label = some next → inv next)
    (breaks : ∀ s label next, inv s → allowed s label → step s label = some next → (safe next ↔ safe s ∧ fine s label))
    (start : inv s) (meets : Meets step allowed s labels)
    (executed : run step s labels = some t) : safe t ↔ safe s ∧ Meets step fine s labels := by
  induction labels generalizing s with
  | nil => cases executed; simp [Meets]
  | cons label rest ih =>
    obtain ⟨next,taken,tail⟩ := run_cons_eq_some.mp executed
    rw [ih (kept s label next start meets.1 taken) (meets.2 next taken) tail,breaks s label next start meets.1 taken,
      meets_cons taken,and_assoc]

/-- The same for runs of any steps. -/
theorem run_safe_iff (kept : ∀ s label next, inv s → step s label = some next → inv next)
    (breaks : ∀ s label next, inv s → step s label = some next → (safe next ↔ safe s ∧ fine s label))
    (start : inv s) (executed : run step s labels = some t) : safe t ↔ safe s ∧ Meets step fine s labels := by
  have meets : Meets step (fun _ _ => True) s labels := meets_of_mem (fun _ _ _ => trivial)
  exact run_safe_iff_of_meets (fun s label next now _ taken => kept s label next now taken)
    (fun s label next now _ taken => breaks s label next now taken) start meets executed

/-- What no step brings back held at the start of a run at whose end it holds. -/
theorem run_back (back : ∀ s label next, step s label = some next → safe next → safe s)
    (executed : run step s labels = some t) (last : safe t) : safe s := by
  induction labels generalizing s with
  | nil => cases executed; exact last
  | cons label rest ih =>
    obtain ⟨next,taken,tail⟩ := run_cons_eq_some.mp executed
    exact back s label next taken (ih tail)

theorem always_cons (taken : step s label = some next) :
    Always step holds s (label :: rest) ↔ holds s ∧ Always step holds next rest := by
  refine and_congr_right fun _ => ?_
  rw [taken]
  exact ⟨fun all => all next rfl,fun always other same => Option.some.inj same ▸ always⟩

/-- What every step preserves holds all along every run. -/
theorem always_of_step (kept : ∀ s label next, holds s → step s label = some next → holds next) (start : holds s) :
    Always step holds s labels := by
  have meets : Meets step (fun _ _ => True) s labels := meets_of_mem fun _ _ _ => trivial
  exact always_of_keeps (fun s label next now _ taken => kept s label next now taken) start meets

theorem Always.imp {other : State → Prop} (weaker : ∀ s, holds s → other s)
    (always : Always step holds s labels) : Always step other s labels := by
  induction labels generalizing s with
  | nil => exact weaker s always
  | cons label rest ih => exact ⟨weaker s always.1,fun next taken => ih (always.2 next taken)⟩

theorem Always.head (always : Always step holds s labels) : holds s := by
  cases labels with
  | nil => exact always
  | cons label rest => exact always.1

/-- What every step from a state with the property meets, a run through such states meets. -/
theorem Always.meets (always : Always step holds s labels)
    (each : ∀ s label next, holds s → step s label = some next → fine s label)
    (executed : run step s labels = some t) : Meets step fine s labels := by
  induction labels generalizing s with
  | nil => trivial
  | cons label rest ih =>
    obtain ⟨next,taken,tail⟩ := run_cons_eq_some.mp executed
    rw [meets_cons taken]
    exact ⟨each s label next always.1 taken,ih (always.2 next taken) tail⟩

/-- In a run of allowed steps, a property that may be lost and come back always holds precisely when what guards it, and
    is lost for good, is left at the end. -/
theorem always_iff_of_meets (kept : ∀ s label next, inv s → allowed s label → step s label = some next → inv next)
    (guards : ∀ s, inv s → safe s → holds s) (back : ∀ s label next, step s label = some next → safe next → safe s)
    (breaks : ∀ s label next, inv s → allowed s label → safe s → step s label = some next → holds next → safe next)
    (start : inv s) (sound : safe s) (meets : Meets step allowed s labels)
    (executed : run step s labels = some t) : Always step holds s labels ↔ safe t := by
  induction labels generalizing s with
  | nil =>
    cases executed
    exact ⟨fun _ => sound,guards _ start⟩
  | cons label rest ih =>
    obtain ⟨next,taken,tail⟩ := run_cons_eq_some.mp executed
    have start' := kept s label next start meets.1 taken
    rw [always_cons taken]
    constructor
    · rintro ⟨_,always⟩
      have sound' := breaks s label next start meets.1 sound taken always.head
      exact (ih start' sound' (meets.2 next taken) tail).mp always
    · intro last
      have sound' : safe next := run_back back tail last
      exact ⟨guards s start sound,(ih start' sound' (meets.2 next taken) tail).mpr last⟩

/-- In a run of allowed steps, a property that exactly the steps which miss the condition take away always holds
    precisely when every step meets the condition. -/
theorem always_iff_meets_of_meets
    (kept : ∀ s label next, inv s → allowed s label → holds s → fine s label → step s label = some next → inv next)
    (breaks : ∀ s label next, inv s → allowed s label → holds s → step s label = some next →
      (holds next ↔ fine s label)) (start : inv s) (first : holds s) (meets : Meets step allowed s labels)
    (executed : run step s labels = some t) : Always step holds s labels ↔ Meets step fine s labels := by
  induction labels generalizing s with
  | nil => exact ⟨fun _ => trivial,fun _ => first⟩
  | cons label rest ih =>
    obtain ⟨next,taken,tail⟩ := run_cons_eq_some.mp executed
    have exact_iff := breaks s label next start meets.1 first taken
    rw [always_cons taken,meets_cons taken]
    constructor
    · rintro ⟨_,always⟩
      have now := exact_iff.mp always.head
      have start' := kept s label next start meets.1 first now taken
      exact ⟨now,(ih start' always.head (meets.2 next taken) tail).mp always⟩
    · rintro ⟨now,later⟩
      have start' := kept s label next start meets.1 first now taken
      exact ⟨first,(ih start' (exact_iff.mpr now) (meets.2 next taken) tail).mpr later⟩

/-- The same for runs of any steps. -/
theorem always_iff_meets (kept : ∀ s label next, inv s → step s label = some next → inv next)
    (breaks : ∀ s label next, inv s → holds s → step s label = some next → (holds next ↔ fine s label))
    (start : inv s) (first : holds s) (executed : run step s labels = some t) :
    Always step holds s labels ↔ Meets step fine s labels := by
  have meets : Meets step (fun _ _ => True) s labels := meets_of_mem (fun _ _ _ => trivial)
  exact always_iff_meets_of_meets (fun s label next now _ _ _ taken => kept s label next now taken)
    (fun s label next now _ first taken => breaks s label next now first taken) start first meets executed

theorem emitted_append (executed : run step s first = some t) :
    emitted step emit s (first ++ second) = emitted step emit t second ++ emitted step emit s first := by
  induction first generalizing s with
  | nil =>
    cases executed
    exact (append_nil _).symm
  | cons label rest ih =>
    obtain ⟨next,taken,tail⟩ := run_cons_eq_some.mp executed
    simp [emitted,taken,ih tail]

/-- An invariant of the state and of what was emitted so far. -/
theorem run_keeps_log {holds : List Entry → State → Prop}
    (kept : ∀ log s label next, holds log s → step s label = some next → holds (emit s label ++ log) next)
    {log : List Entry} (start : holds log s)
    (executed : run step s labels = some t) : holds (emitted step emit s labels ++ log) t := by
  induction labels generalizing s log with
  | nil => cases executed; exact start
  | cons label rest ih =>
    obtain ⟨next,taken,tail⟩ := run_cons_eq_some.mp executed
    have later := ih (kept log s label next start taken) tail
    simpa only [emitted,taken,append_assoc] using later

/-- What is seen of the states of a run is what its entries make of what was seen at its start. -/
theorem run_replays {View : Type x} {view : State → View}
    {replay : Entry → View → View}
    (adds : ∀ s label next, step s label = some next → view next = (emit s label).foldr replay (view s))
    (executed : run step s labels = some t) : view t = (emitted step emit s labels).foldr replay (view s) := by
  induction labels generalizing s with
  | nil => cases executed; rfl
  | cons label rest ih =>
    obtain ⟨next,taken,tail⟩ := run_cons_eq_some.mp executed
    rw [ih tail,adds s label next taken]
    simp [emitted,taken]

/-- A log to which every step adds its entries holds those of the run after it. -/
theorem run_emits {log : State → List Entry}
    (adds : ∀ s label next, step s label = some next → log next = emit s label ++ log s)
    (executed : run step s labels = some t) : log t = emitted step emit s labels ++ log s := by
  have pushes : ∀ s label next, step s label = some next → log next = (emit s label).foldr cons (log s) := by
    intro s label next taken
    rw [foldr_cons_eq_append']
    exact adds s label next taken
  rw [run_replays pushes executed,foldr_cons_eq_append']

/-- One of the labels is of the kind, and what came before it has the property. -/
def Once (earlier : List Label → Prop) (kind : Label → Prop) (past : List Label) : Prop :=
  ∃ before label after, past = before ++ label :: after ∧ earlier before ∧ kind label

theorem Once.append (once : Once earlier kind past)
    (more : List Label) : Once earlier kind (past ++ more) := by
  obtain ⟨before,label,after,rfl,held,this⟩ := once
  exact ⟨before,label,after ++ more,by simp,held,this⟩

theorem once_last {label : Label}
    (held : earlier past) (this : kind label) : Once earlier kind (past ++ [label]) :=
  ⟨past,label,[],rfl,held,this⟩

/-- An invariant of the state and of the labels that led to it. -/
theorem run_keeps_past {holds : List Label → State → Prop}
    (kept : ∀ past s label next, holds past s → step s label = some next → holds (past ++ [label]) next)
    {s t : State} {labels : List Label} (start : holds past s)
    (executed : run step s labels = some t) : holds (past ++ labels) t := by
  induction labels generalizing s past with
  | nil =>
    cases executed
    rwa [append_nil]
  | cons label rest ih =>
    obtain ⟨next,taken,tail⟩ := run_cons_eq_some.mp executed
    have later := ih (kept past s label next start taken) tail
    rwa [append_assoc] at later

end McpBridge.Runs
