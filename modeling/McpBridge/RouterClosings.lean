import McpBridge.RouterCircuits

/-!
On what evidence the router's circuit breaker closes, in the system of `RouterCircuits`.
-/
namespace McpBridge.RouterClosings
open Runs
open GatewayBreaker (CircuitBreaker CircuitBreakerConfig CircuitState Outcome)
open RouterCircuits (Label after after_cases after_counters breaker_cases allowRequest_open)

structure State where
  circuits : RouterCircuits.State
  phase : Nat := 0
  admittedAt : Nat → Option Nat := fun _ => none
  evidence : Nat := 0
  /-- The evidence at each closing other than by `ForceClose`. -/
  closings : List Nat := []

namespace State

def breaker (s : State) : CircuitBreaker := s.circuits.gateway.breaker

def now (s : State) : Int := s.circuits.gateway.now

def fresh (s : State) : Label → Bool
  | .op (.record i) => s.admittedAt i == some s.phase
  | _ => false

def gained (s : State) (label : Label) : Nat :=
  if s.circuits.recorded? label = some .success ∧ s.fresh label = true then s.evidence + 1 else s.evidence

def admissions (cfg : CircuitBreakerConfig) (s : State) : Label → Nat → Option Nat
  | .op (.call _) =>
    if s.breaker.allowRequest cfg s.now then Function.update s.admittedAt s.circuits.gateway.begun (some s.phase)
    else s.admittedAt
  | _ => s.admittedAt

def note (cfg : CircuitBreakerConfig) (s : State) (label : Label) (circuits : RouterCircuits.State) : State where
  circuits
  phase := if s.breaker.state ≠ .circuitOpen ∧ circuits.gateway.breaker.state = .circuitOpen then s.phase + 1 else s.phase
  admittedAt := s.admissions cfg label
  evidence := if s.breaker.state ≠ .circuitOpen ∧ circuits.gateway.breaker.state = .circuitOpen then 0 else s.gained label
  closings :=
    match label with
    | .forceClose => s.closings
    | _ => if s.breaker.state ≠ .circuitClosed ∧ circuits.gateway.breaker.state = .circuitClosed then
        s.gained label :: s.closings
      else s.closings

end State

/-- One step, with the evidence noted. -/
def step (cfg : CircuitBreakerConfig) (s : State) (label : Label) : Option State :=
  (RouterCircuits.step cfg s.circuits label).map (s.note cfg label)

def start (client : Bool) : State := { circuits := RouterCircuits.start client }

/-- Each closing came after enough successes. -/
def Evidenced (cfg : CircuitBreakerConfig) (s : State) : Prop := ∀ n ∈ s.closings, cfg.successThreshold ≤ n

def toClose : CircuitState → Nat
  | .circuitOpen => 2
  | .circuitHalfOpen => 1
  | .circuitClosed => 0

/-- With so many successes counted and at least so many to come, there will be enough evidence. -/
def Covered (cfg : CircuitBreakerConfig) (evidence : Nat) (successes : Int) (more : Nat) : Prop :=
  cfg.successThreshold ≤ evidence + more ∨ successes ≤ evidence

/-- How many successes it takes at least after the next one, which may make the breaker half-open or close it. -/
def toCloseAfter (cfg : CircuitBreakerConfig) (now : Int) (cb : CircuitBreaker) : Nat :=
  match cb.state with
  | .circuitOpen => if cfg.recoveryTimeout ≤ now - cb.stateChangedAt then 1 else 2
  | .circuitHalfOpen => if cfg.successThreshold ≤ cb.consecutiveSuccesses + 1 then 0 else 1
  | .circuitClosed => 0

/-- The successes counted are covered by the evidence, until the breaker is forced open or counts one of an earlier
    phase. -/
def Supported (cfg : CircuitBreakerConfig) (s : State) : Label → Prop
  | .forceOpen => s.breaker.state = .circuitOpen ∨ Covered cfg 0 s.breaker.consecutiveSuccesses 2
  | .op (.record i) => s.circuits.recorded? (.op (.record i)) = some .success → s.fresh (.op (.record i)) = false →
      s.breaker.state ≠ .circuitClosed →
      Covered cfg s.evidence (s.breaker.consecutiveSuccesses + 1) (toCloseAfter cfg s.now s.breaker)
  | _ => True

section
variable {cfg : CircuitBreakerConfig} {s next : State} {label : Label}

theorem gained_of_none (nothing : s.circuits.recorded? label = none) : s.gained label = s.evidence := by
  simp [State.gained,nothing]

/-- The breaker is not touched, takes an outcome, or is forced; the notes follow it. -/
theorem step_cases (taken : step cfg s label = some next) :
    (∃ operation, label = .op operation ∧ next.breaker = s.breaker ∧ s.circuits.recorded? label = none ∧
      next.evidence = s.evidence ∧ next.closings = s.closings) ∨
    (∃ outcome, s.circuits.recorded? label = some outcome ∧ next.breaker = after cfg outcome s.now s.breaker ∧
      next.evidence = (if s.breaker.state ≠ .circuitOpen ∧ next.breaker.state = .circuitOpen then 0 else s.gained label) ∧
      next.closings = if s.breaker.state ≠ .circuitClosed ∧ next.breaker.state = .circuitClosed then
        s.gained label :: s.closings else s.closings) ∨
    (label = .forceOpen ∧ next.breaker = s.breaker.setState .circuitOpen s.now ∧
      next.evidence = (if s.breaker.state = .circuitOpen then s.evidence else 0) ∧ next.closings = s.closings) ∨
    (label = .forceClose ∧ next.breaker.state = .circuitClosed ∧ next.closings = s.closings) := by
  obtain ⟨circuits,moved,rfl⟩ := Option.map_eq_some_iff.mp taken
  cases label with
  | op label =>
    obtain ⟨breaker,nothing⟩ | ⟨outcome,recorded,breaker⟩ | ⟨other,_⟩ | ⟨other,_⟩ := breaker_cases moved
    · have still : ∀ state : CircuitState, ¬ (s.breaker.state ≠ state ∧ circuits.gateway.breaker.state = state) := by
        rintro state ⟨before,after⟩
        rw [breaker] at after
        exact before after
      exact .inl ⟨label,rfl,breaker,nothing,(if_neg (still _)).trans (gained_of_none nothing),if_neg (still _)⟩
    · exact .inr (.inl ⟨outcome,recorded,breaker,rfl,rfl⟩)
    all_goals cases other
  | forceOpen =>
    cases moved
    refine .inr (.inr (.inl ⟨rfl,rfl,?_,?_⟩))
    · show (if s.breaker.state ≠ .circuitOpen ∧ CircuitState.circuitOpen = .circuitOpen then 0 else s.gained .forceOpen) = _
      simp [gained_of_none (show s.circuits.recorded? Label.forceOpen = none from rfl)]
    · exact if_neg fun closes => nomatch closes.2
  | forceClose =>
    cases moved
    exact .inr (.inr (.inr ⟨rfl,rfl,rfl⟩))

/-! ### Runs with enough evidence -/

def Safe (cfg : CircuitBreakerConfig) (s : State) : Prop :=
  s.breaker.state ≠ .circuitClosed → Covered cfg s.evidence s.breaker.consecutiveSuccesses (toClose s.breaker.state)

theorem gained_of_fresh (success : s.circuits.recorded? label = some .success) (fresh : s.fresh label = true) :
    s.gained label = s.evidence + 1 := if_pos ⟨success,fresh⟩

theorem gained_of_stale (stale : s.fresh label = false) : s.gained label = s.evidence :=
  if_neg fun both => by simp [stale] at both

theorem toClose_success (cfg : CircuitBreakerConfig) (now : Int) (cb : CircuitBreaker) :
    toClose (after cfg .success now cb).state = toCloseAfter cfg now cb := by
  simp [after,CircuitBreaker.recordSuccess,toCloseAfter]
  cases at_ : cb.state with
  | circuitOpen | circuitHalfOpen =>
    dsimp only
    split
    · rfl
    · simp [toClose]
  | circuitClosed => simp [toClose]

theorem toClose_after (cfg : CircuitBreakerConfig) (now : Int) (cb : CircuitBreaker) :
    toClose cb.state ≤ toClose (after cfg .success now cb).state + 1 := by
  obtain ⟨state,_⟩ | ⟨_,before,after,_⟩ | ⟨_,before,after,_⟩ | ⟨failure,_⟩ := after_cases cfg .success now cb
  · rw [state]
    omega
  · rw [before,after]
    decide
  · rw [before,after]
    decide
  · exact absurd rfl failure

variable {now : Int} {cb : CircuitBreaker}

theorem success_closed (closed : cb.state = .circuitClosed) : (after cfg .success now cb).state = .circuitClosed := by
  obtain ⟨state,_⟩ | ⟨_,_,after,_⟩ | ⟨_,before,_⟩ | ⟨failure,_⟩ := after_cases cfg .success now cb
  · exact state.trans closed
  · exact after
  · rw [closed] at before
    cases before
  · exact absurd rfl failure

theorem success_not_opens (before : cb.state ≠ .circuitOpen) : (after cfg .success now cb).state ≠ .circuitOpen := by
  obtain ⟨state,_⟩ | ⟨_,_,after,_⟩ | ⟨_,opened,_⟩ | ⟨failure,_⟩ := after_cases cfg .success now cb
  · rwa [state]
  · simp [after]
  · exact absurd opened before
  · exact absurd rfl failure

theorem closes_enough (halfOpen : cb.state = .circuitHalfOpen) :
    (after cfg .success now cb).state = .circuitClosed ↔ cfg.successThreshold ≤ cb.consecutiveSuccesses + 1 := by
  simp only [after,if_true,CircuitBreaker.recordSuccess,halfOpen]
  split
  next enough => exact iff_of_true rfl enough
  next fewer => exact iff_of_false (by simp) fewer

section
variable (safe : Safe cfg s) (supported : Supported cfg s label)
include safe supported

theorem covered_success (success : s.circuits.recorded? label = some .success)
    (running : s.breaker.state ≠ .circuitClosed) : Covered cfg (s.gained label) (s.breaker.consecutiveSuccesses + 1)
      (toClose (after cfg .success s.now s.breaker).state) := by
  have before := safe running
  have less := toClose_after cfg s.now s.breaker
  cases fresh : s.fresh label with
  | true =>
    rw [gained_of_fresh success fresh]
    unfold Covered at before ⊢
    omega
  | false =>
    rw [gained_of_stale fresh]
    cases label with
    | op label =>
      cases label with
      | record i =>
        rw [toClose_success]
        exact supported success fresh running
      | _ => cases success
    | forceOpen | forceClose => cases success

theorem Safe.kept (taken : step cfg s label = some next) : Safe cfg next := by
  obtain ⟨_,_,breaker,_,evidence,_⟩ | ⟨outcome,recorded,breaker,evidence,_⟩ | ⟨rfl,breaker,evidence,_⟩ |
    ⟨rfl,closed,_⟩ := step_cases taken
  · unfold Safe
    rw [breaker,evidence]
    exact safe
  · intro running
    by_cases success : outcome = .success
    · subst success
      rw [breaker] at running evidence ⊢
      have before : s.breaker.state ≠ .circuitClosed := fun closed => running (success_closed closed)
      rw [evidence,if_neg fun enters => success_not_opens enters.1 enters.2,after_counters.2,if_pos rfl]
      exact covered_success safe supported recorded before
    · rw [breaker,after_counters.2,if_neg success]
      exact .inr (Int.natCast_nonneg _)
  · intro _
    rw [evidence,breaker]
    split
    next opened =>
      have before := safe (by simp [opened])
      rwa [opened] at before
    next other => exact supported.resolve_left other
  · exact fun running => absurd closed running

/-- The breaker closes by itself at a success, and what it had counted was covered. -/
theorem evidenced_kept (evidenced : Evidenced cfg s) (taken : step cfg s label = some next) : Evidenced cfg next := by
  obtain ⟨_,_,_,_,_,closings⟩ | ⟨outcome,recorded,breaker,_,closings⟩ | ⟨_,_,_,closings⟩ | ⟨_,_,closings⟩ :=
    step_cases taken
  · rwa [Evidenced,closings]
  · rw [Evidenced,closings]
    split
    next closes =>
      obtain ⟨before,closed⟩ := closes
      refine List.forall_mem_cons.mpr ⟨?_,evidenced⟩
      rw [breaker] at closed
      obtain ⟨state,_⟩ | ⟨success,halfOpen,_⟩ | ⟨_,_,halfOpen,_⟩ | ⟨_,opened,_⟩ :=
        after_cases cfg outcome s.now s.breaker
      · exact absurd (state.symm.trans closed) before
      · subst success
        have covered := covered_success safe supported recorded before
        have enough := (closes_enough halfOpen).mp closed
        rw [closed,show toClose .circuitClosed = 0 from rfl] at covered
        unfold Covered at covered
        omega
      · rw [halfOpen] at closed
        cases closed
      · rw [opened] at closed
        cases closed
    next => exact evidenced
  all_goals rwa [Evidenced,closings]

end

/-! ### A closing without enough evidence -/

structure Same (s next : State) : Prop where
  breaker : next.breaker = s.breaker
  now : next.now = s.now
  phase : next.phase = s.phase
  evidence : next.evidence = s.evidence
  closings : next.closings = s.closings

def succeeding (i : Nat) : List Label :=
  [.op (.call .sendRequest),.op (.complete i none),.op (.done i),.op (.record i)]

theorem same_of_quiet {label : GatewayBreaker.Label} {circuits : RouterCircuits.State}
    (nothing : s.circuits.recorded? (.op label) = none) (breaker : circuits.gateway.breaker = s.breaker)
    (now : circuits.gateway.now = s.now) : Same s (s.note cfg (.op label) circuits) := by
  have still : ∀ state : CircuitState, ¬ (s.breaker.state ≠ state ∧ circuits.gateway.breaker.state = state) := by
    rintro state ⟨before,after⟩
    rw [breaker] at after
    exact before after
  refine ⟨breaker,now,?_,?_,?_⟩
  · exact if_neg (still _)
  · exact (if_neg (still _)).trans (gained_of_none nothing)
  · exact if_neg (still _)

theorem note_gateway (c : RouterCircuits.State) (label : GatewayBreaker.Label) (gateway : GatewayBreaker.State) :
    (c.note cfg label gateway).gateway = gateway := by
  cases label with
  | call | record =>
    unfold RouterCircuits.State.note
    dsimp only
    split <;> rfl
  | _ => rfl

theorem step_call (allowed : s.breaker.allowRequest cfg s.now = true) :
    ∃ next, step cfg s (.op (.call .sendRequest)) = some next ∧ Same s next ∧
      next.admittedAt s.circuits.gateway.begun = some s.phase ∧
      next.circuits.gateway.ops s.circuits.gateway.begun =
        some ⟨.sendRequest,s.now + cfg.timeoutDuration,.running⟩ := by
  have running : (s.circuits.gateway.begin cfg .sendRequest).ops s.circuits.gateway.begun =
      some ⟨.sendRequest,s.now + cfg.timeoutDuration,.running⟩ := by
    have allowed' : s.circuits.gateway.breaker.allowRequest cfg s.circuits.gateway.now = true := allowed
    simp [GatewayBreaker.State.begin,allowed',State.now]
  refine ⟨_,rfl,same_of_quiet rfl ?_ ?_,?_,?_⟩
  · rw [note_gateway]
    rfl
  · rw [note_gateway]
    rfl
  · show s.admissions cfg (.op (.call .sendRequest)) s.circuits.gateway.begun = _
    simp [State.admissions,allowed]
  · show ((s.circuits.note cfg (.call .sendRequest) (s.circuits.gateway.begin cfg .sendRequest)).gateway).ops _ = _
    rw [note_gateway,running]

theorem step_setPc {label : GatewayBreaker.Label} {i : Nat} {op : GatewayBreaker.Op} {pc : GatewayBreaker.OpPc}
    (moved : GatewayBreaker.step cfg s.circuits.gateway label = some (s.circuits.gateway.setPc i op pc))
    (nothing : s.circuits.recorded? (.op label) = none) (admits : s.admissions cfg (.op label) = s.admittedAt) :
    ∃ next, step cfg s (.op label) = some next ∧ Same s next ∧ next.admittedAt = s.admittedAt ∧
      next.circuits.gateway.ops i = some { op with pc } := by
  have taken : RouterCircuits.step cfg s.circuits (.op label) =
      some (s.circuits.note cfg label (s.circuits.gateway.setPc i op pc)) := by
    rw [RouterCircuits.step,moved]
    rfl
  refine ⟨_,congrArg (Option.map _) taken,same_of_quiet nothing ?_ ?_,admits,?_⟩
  · rw [note_gateway]
    rfl
  · rw [note_gateway]
    rfl
  · show (s.circuits.note cfg label _).gateway.ops i = _
    rw [note_gateway]
    exact Function.update_self ..

section
variable {g : GatewayBreaker.State} {i : Nat} {op : GatewayBreaker.Op} {err : Option String} {outcome : Outcome}

theorem gateway_complete (found : g.ops i = some op) (at_ : op.pc = .running) (err : Option String) :
    GatewayBreaker.step cfg g (.complete i err) = some (g.setPc i op (.finished err)) := by
  simp [GatewayBreaker.step,found,GatewayBreaker.stepOp,at_]

theorem gateway_done (found : g.ops i = some op) (at_ : op.pc = .finished err) :
    GatewayBreaker.step cfg g (.done i) = some (g.setPc i op (.recording (GatewayBreaker.outcomeOf err) err)) := by
  simp [GatewayBreaker.step,found,GatewayBreaker.stepOp,at_]

theorem gateway_record (found : g.ops i = some op) (at_ : op.pc = .recording outcome err) :
    GatewayBreaker.step cfg g (.record i) = some ((g.record cfg outcome).setPc i op (.returned err)) := by
  simp [GatewayBreaker.step,found,GatewayBreaker.stepOp,at_]

end

theorem Same.trans {t : State} (first : Same s next) (second : Same next t) : Same s t :=
  ⟨second.breaker.trans first.breaker,second.now.trans first.now,second.phase.trans first.phase,
    second.evidence.trans first.evidence,second.closings.trans first.closings⟩

theorem reaches_recording (allowed : s.breaker.allowRequest cfg s.now = true) :
    ∃ next op, run (step cfg) s ((succeeding s.circuits.gateway.begun).take 3) = some next ∧ Same s next ∧
      next.admittedAt s.circuits.gateway.begun = some s.phase ∧
      next.circuits.gateway.ops s.circuits.gateway.begun = some op ∧ op.pc = .recording .success none := by
  obtain ⟨called,call,same,admitted,running⟩ := step_call allowed
  obtain ⟨completed,complete,same',admitted',finished⟩ := step_setPc (gateway_complete running rfl none) rfl rfl
  obtain ⟨next,done,same'',admitted'',recording⟩ := step_setPc (gateway_done finished rfl) rfl rfl
  refine ⟨next,_,?_,(same.trans same').trans same'',?_,recording,rfl⟩
  · exact run_cons_eq_some.mpr ⟨called,call,run_cons_eq_some.mpr ⟨completed,complete,
      run_cons_eq_some.mpr ⟨next,done,rfl⟩⟩⟩
  · rw [admitted'',admitted',admitted]

/-- A request that the breaker lets in can succeed, and counts as evidence. -/
theorem exchange_runs (allowed : s.breaker.allowRequest cfg s.now = true) :
    ∃ t, run (step cfg) s (succeeding s.circuits.gateway.begun) = some t ∧
      t.breaker = after cfg .success s.now s.breaker ∧ t.now = s.now ∧ t.evidence = s.evidence + 1 ∧
      t.closings = if s.breaker.state ≠ .circuitClosed ∧ t.breaker.state = .circuitClosed then
        (s.evidence + 1) :: s.closings else s.closings := by
  obtain ⟨mid,op,ran,same,admitted,found,at_⟩ := reaches_recording allowed
  have recorded : mid.circuits.recorded? (.op (.record s.circuits.gateway.begun)) = some .success := by
    simp [RouterCircuits.State.recorded?,found,at_]
  have fresh : mid.fresh (.op (.record s.circuits.gateway.begun)) = true := by
    simp [State.fresh,admitted,same.phase]
  have moved : RouterCircuits.step cfg mid.circuits (.op (.record s.circuits.gateway.begun)) = some _ :=
    congrArg (Option.map _) (gateway_record found at_)
  have taken : step cfg mid (.op (.record s.circuits.gateway.begun)) = some _ := congrArg (Option.map _) moved
  obtain ⟨_,_,_,nothing,_⟩ | ⟨outcome,found',breaker,evidence,closings⟩ | ⟨other,_⟩ | ⟨other,_⟩ := step_cases taken
  · cases nothing.symm.trans recorded
  · cases found'.symm.trans recorded
    rw [gained_of_fresh recorded fresh,same.breaker,same.evidence] at evidence closings
    rw [same.breaker,same.now] at breaker
    rw [same.closings] at closings
    refine ⟨_,?_,breaker,?_,?_,closings⟩
    · exact run_append.mpr ⟨mid,ran,run_cons_eq_some.mpr ⟨_,taken,rfl⟩⟩
    · exact (congrArg GatewayBreaker.State.now (note_gateway ..)).trans same.now
    · rw [evidence,if_neg]
      rintro ⟨before,opened⟩
      rw [breaker] at opened
      exact success_not_opens before opened
  all_goals cases other

theorem step_tick (cfg : CircuitBreakerConfig) (s : State) (d : Nat) : ∃ next, step cfg s (.op (.tick d)) = some next ∧ next.breaker = s.breaker ∧
    next.now = s.now + d ∧ next.evidence = s.evidence := by
  have taken : step cfg s (.op (.tick d)) = some _ := rfl
  obtain ⟨_,_,breaker,_,evidence,_⟩ | ⟨_,recorded,_⟩ | ⟨other,_⟩ | ⟨other,_⟩ := step_cases taken
  · exact ⟨_,taken,breaker,rfl,evidence⟩
  · cases recorded
  all_goals cases other

theorem not_covered_iff {evidence more : Nat} {successes : Int} : ¬ Covered cfg evidence successes more ↔
    evidence + more < cfg.successThreshold ∧ evidence < successes := by
  unfold Covered
  omega

/-- A half-open breaker that has counted more than the evidence closes when enough requests succeed. -/
theorem halfOpen_closes (k : Nat) {s : State} (few : (cfg.successThreshold - s.breaker.consecutiveSuccesses).toNat ≤ k)
    (halfOpen : s.breaker.state = .circuitHalfOpen)
    (uncovered : ¬ Covered cfg s.evidence s.breaker.consecutiveSuccesses 1) :
    ∃ more u, Label.forceClose ∉ more ∧ run (step cfg) s more = some u ∧ ¬ Evidenced cfg u := by
  have allowed : s.breaker.allowRequest cfg s.now = true := by simp [CircuitBreaker.allowRequest,halfOpen]
  obtain ⟨t,ran,breaker,_,evidence,closings⟩ := exchange_runs allowed
  obtain ⟨short,ahead⟩ := not_covered_iff.mp uncovered
  have counted : t.breaker.consecutiveSuccesses = s.breaker.consecutiveSuccesses + 1 := by
    rw [breaker,after_counters.2,if_pos rfl]
  by_cases enough : cfg.successThreshold ≤ s.breaker.consecutiveSuccesses + 1
  · have closed : t.breaker.state = .circuitClosed := by
      rw [breaker]
      exact (closes_enough halfOpen).mpr enough
    rw [if_pos ⟨by simp [halfOpen],closed⟩] at closings
    refine ⟨succeeding s.circuits.gateway.begun,t,by simp [succeeding],ran,fun evidenced => ?_⟩
    have last := evidenced (s.evidence + 1) (by rw [closings]; exact List.mem_cons_self ..)
    omega
  · have still : t.breaker.state = .circuitHalfOpen := by
      obtain ⟨state,_⟩ | ⟨_,_,closed,_⟩ | ⟨_,opened,_⟩ | ⟨failure,_⟩ := after_cases cfg .success s.now s.breaker
      · rw [breaker,state,halfOpen]
      · exact absurd ((closes_enough halfOpen).mp closed) enough
      · rw [halfOpen] at opened
        cases opened
      · exact absurd rfl failure
    cases k with
    | zero => omega
    | succ k =>
      obtain ⟨more,u,unforced,later,violated⟩ := halfOpen_closes k (by omega) still
        (not_covered_iff.mpr ⟨by omega,by omega⟩)
      refine ⟨succeeding s.circuits.gateway.begun ++ more,u,?_,run_append.mpr ⟨t,ran,later⟩,violated⟩
      simp [succeeding,unforced]

/-- An open breaker that has counted more than the evidence comes to close as well. -/
theorem open_closes {s : State} (opened : s.breaker.state = .circuitOpen)
    (uncovered : ¬ Covered cfg s.evidence s.breaker.consecutiveSuccesses 2) :
    ∃ more u, Label.forceClose ∉ more ∧ run (step cfg) s more = some u ∧ ¬ Evidenced cfg u := by
  obtain ⟨short,ahead⟩ := not_covered_iff.mp uncovered
  obtain ⟨d,long⟩ : ∃ d : Nat, cfg.recoveryTimeout - (s.now - s.breaker.stateChangedAt) ≤ d := ⟨_,Int.self_le_toNat _⟩
  obtain ⟨waiting,tick,same,now,kept⟩ := step_tick cfg s d
  have opened' : waiting.breaker.state = .circuitOpen := by rw [same,opened]
  have waited : cfg.recoveryTimeout ≤ waiting.now - waiting.breaker.stateChangedAt := by
    rw [same,now]
    omega
  obtain ⟨t,ran,breaker,_,evidence,_⟩ := exchange_runs ((allowRequest_open opened').mpr waited)
  have halfOpen : t.breaker.state = .circuitHalfOpen := by
    simp only [breaker,after,if_true,CircuitBreaker.recordSuccess,opened',waited]
    rfl
  have counted : t.breaker.consecutiveSuccesses = s.breaker.consecutiveSuccesses + 1 := by
    rw [breaker,after_counters.2,if_pos rfl,same]
  have uncovered' : ¬ Covered cfg t.evidence t.breaker.consecutiveSuccesses 1 := not_covered_iff.mpr ⟨by omega,by omega⟩
  obtain ⟨more,u,unforced,later,violated⟩ := halfOpen_closes _ (Nat.le_refl _) halfOpen uncovered'
  refine ⟨.op (.tick d) :: (succeeding waiting.circuits.gateway.begun ++ more),u,?_,?_,violated⟩
  · simp [succeeding,unforced]
  · exact run_cons_eq_some.mpr ⟨waiting,tick,run_append.mpr ⟨t,ran,later⟩⟩

theorem uncovered_closes (uncovered : ¬ Covered cfg s.evidence s.breaker.consecutiveSuccesses (toClose s.breaker.state))
    (closing : s.breaker.state = .circuitClosed → s.evidence ∈ s.closings) :
    ∃ more u, Label.forceClose ∉ more ∧ run (step cfg) s more = some u ∧ ¬ Evidenced cfg u := by
  cases at_ : s.breaker.state with
  | circuitOpen =>
    rw [at_] at uncovered
    exact open_closes at_ uncovered
  | circuitHalfOpen =>
    rw [at_] at uncovered
    exact halfOpen_closes _ (Nat.le_refl _) at_ uncovered
  | circuitClosed =>
    obtain ⟨short,_⟩ := not_covered_iff.mp uncovered
    refine ⟨[],s,by simp,rfl,fun evidenced => ?_⟩
    have last := evidenced s.evidence (closing at_)
    omega

theorem stale_of_unsupported {outcome : Outcome} (recorded : s.circuits.recorded? label = some outcome)
    (unsupported : ¬ Supported cfg s label) : s.circuits.recorded? label = some .success ∧ s.fresh label = false ∧
      s.breaker.state ≠ .circuitClosed ∧ ¬ Covered cfg s.evidence (s.breaker.consecutiveSuccesses + 1)
        (toClose (after cfg .success s.now s.breaker).state) := by
  cases label with
  | op label =>
    cases label with
    | record i => simpa only [Supported,Classical.not_imp,← toClose_success] using unsupported
    | _ => cases recorded
  | forceOpen | forceClose => cases recorded

/-- After a step without support a closing without enough evidence can be reached. -/
theorem unsupported_closes (taken : step cfg s label = some next) (unsupported : ¬ Supported cfg s label) :
    ∃ more u, Label.forceClose ∉ more ∧ run (step cfg) next more = some u ∧ ¬ Evidenced cfg u := by
  obtain ⟨operation,rfl,_,nothing,_⟩ | ⟨outcome,recorded,breaker,evidence,closings⟩ | ⟨rfl,breaker,evidence,_⟩ |
    ⟨rfl,_⟩ := step_cases taken
  · cases operation with
    | record i =>
      refine absurd (fun success => ?_) unsupported
      cases nothing.symm.trans success
    | _ => exact absurd trivial unsupported
  · obtain ⟨success,stale,running,uncovered⟩ := stale_of_unsupported recorded unsupported
    cases recorded.symm.trans success
    rw [gained_of_stale stale] at evidence closings
    have kept : ¬ (s.breaker.state ≠ .circuitOpen ∧ next.breaker.state = .circuitOpen) := by
      rintro ⟨before,opened⟩
      rw [breaker] at opened
      exact success_not_opens before opened
    rw [if_neg kept] at evidence
    refine uncovered_closes ?_ fun closed => ?_
    · rw [evidence,breaker,after_counters.2,if_pos rfl]
      exact uncovered
    · rw [closings,if_pos ⟨running,closed⟩,evidence]
      exact List.mem_cons_self ..
  · obtain ⟨other,uncovered⟩ := not_or.mp unsupported
    rw [if_neg other] at evidence
    refine uncovered_closes ?_ ?_
    · rw [breaker,evidence]
      exact uncovered
    · rw [breaker]
      exact nofun
  · exact absurd trivial unsupported

end

/-- While what the breaker counts is covered by the evidence it closes only with enough; else it can close with too
    little. -/
theorem closing_evidence (cfg : CircuitBreakerConfig) (client : Bool) (labels : List Label) :
    (Meets (step cfg) (Supported cfg) (start client) labels → Always (step cfg) (Evidenced cfg) (start client) labels) ∧
    ∀ s label next, step cfg s label = some next → ¬ Supported cfg s label →
      ∃ more u, Label.forceClose ∉ more ∧ run (step cfg) next more = some u ∧ ¬ Evidenced cfg u := by
  refine ⟨fun meets => ?_,fun s label next taken unsupported => unsupported_closes taken unsupported⟩
  have both : Always (step cfg) (fun s => Safe cfg s ∧ Evidenced cfg s) (start client) labels :=
    always_of_keeps (fun _ _ _ fine supported taken => ⟨fine.1.kept supported taken,
      evidenced_kept fine.1 supported fine.2 taken⟩) ⟨fun running => absurd rfl running,nofun⟩ meets
  exact both.imp fun _ fine => fine.2

def recovering : List Label := RouterCircuits.failing 0 ++ [Label.op (.tick 10)] ++ succeeding 1 ++ succeeding 2

theorem closing_evidence_recovering : ∃ t, run (step ⟨1,10,2,5⟩) (start true) recovering = some t ∧ t.closings = [2] ∧
    Always (step ⟨1,10,2,5⟩) (Evidenced ⟨1,10,2,5⟩) (start true) recovering := by
  refine ⟨_,rfl,rfl,(closing_evidence ⟨1,10,2,5⟩ true recovering).1 ?_⟩
  iterate 3 refine (meets_cons rfl).mpr ⟨trivial,?_⟩
  refine (meets_cons rfl).mpr ⟨nofun,?_⟩
  refine (meets_cons rfl).mpr ⟨trivial,?_⟩
  iterate 2
    iterate 3 refine (meets_cons rfl).mpr ⟨trivial,?_⟩
    refine (meets_cons rfl).mpr ⟨fun _ => nofun,?_⟩
  trivial

/-- A success from before the breaker was forced open is one of the three that close it. -/
theorem closed_with_two : ∃ t, run (step ⟨1,10,3,5⟩) (start true) (succeeding 0 ++ [Label.forceOpen,.op (.tick 10)] ++
      succeeding 1 ++ succeeding 2) = some t ∧ t.breaker.state = .circuitClosed ∧ t.closings = [2] ∧
    ¬ Evidenced ⟨1,10,3,5⟩ t :=
  ⟨_,rfl,rfl,rfl,fun evidenced => absurd (evidenced 2 (by decide)) (by decide)⟩

end McpBridge.RouterClosings
