import McpBridge.GatewayBreaker
import McpBridge.Tallies

/-!
The circuit breaker of the router's gateway client: the system of `GatewayBreaker` with `ForceOpen` and `ForceClose`.
-/
namespace McpBridge.RouterCircuits
open Runs Tallies List
open GatewayBreaker (CircuitBreaker CircuitBreakerConfig CircuitState Outcome Operation OpPc)

def forceClose (now : Int) (cb : CircuitBreaker) : CircuitBreaker :=
  { cb.setState .circuitClosed now with consecutiveFailures := 0, consecutiveSuccesses := 0 }

inductive Entry where
  | success
  | failure
  | forceClose
  deriving DecidableEq

/-- The breaker with the history of its outcomes. -/
structure State where
  gateway : GatewayBreaker.State
  history : List Entry := []
  openedAt : Int := 0
  admittedIn : Nat → Option CircuitState := fun _ => none
  admissions : List Int := []
  failedProbes : List Int := []

/-- A step of the breaker, or an override. -/
inductive Label where
  | op (label : GatewayBreaker.Label)
  | forceOpen
  | forceClose

namespace State

/-- The outcome that a step records. -/
def recorded? (s : State) : Label → Option Outcome
  | .op (.record i) =>
    match s.gateway.ops i with
    | some op =>
      match op.pc with
      | .recording outcome _ => some outcome
      | _ => none
    | none => none
  | _ => none

def probe (s : State) (i : Nat) : Bool :=
  s.admittedIn i = some .circuitOpen || s.admittedIn i = some .circuitHalfOpen

def letIn (s : State) (gateway : GatewayBreaker.State) : State :=
  { s with
    gateway
    admittedIn := Function.update s.admittedIn s.gateway.begun (some s.gateway.breaker.state)
    admissions := s.gateway.now :: s.admissions }

def record (s : State) (i : Nat) (outcome : Outcome) (gateway : GatewayBreaker.State) : State :=
  { s with
    gateway
    history := (if outcome = .success then .success else .failure) :: s.history
    openedAt := if s.gateway.breaker.state ≠ .circuitOpen ∧ gateway.breaker.state = .circuitOpen then s.gateway.now
      else s.openedAt
    failedProbes := if outcome ≠ .success ∧ s.probe i = true ∧ gateway.breaker.state = .circuitOpen then
        s.gateway.now :: s.failedProbes
      else s.failedProbes }

def note (cfg : CircuitBreakerConfig) (s : State) (label : GatewayBreaker.Label) (gateway : GatewayBreaker.State) : State :=
  match label with
  | .call _ => if s.gateway.breaker.allowRequest cfg s.gateway.now then s.letIn gateway else { s with gateway }
  | .record i =>
    match s.recorded? (.op (.record i)) with
    | some outcome => s.record i outcome gateway
    | none => { s with gateway }
  | _ => { s with gateway }

def setBreaker (s : State) (breaker : CircuitBreaker) : State := { s with gateway := { s.gateway with breaker } }

end State

/-- One step of the breaker or one of its overrides. -/
def step (cfg : CircuitBreakerConfig) (s : State) : Label → Option State
  | .op label => (GatewayBreaker.step cfg s.gateway label).map (s.note cfg label)
  | .forceOpen =>
    some { s.setBreaker (s.gateway.breaker.setState .circuitOpen s.gateway.now) with
      openedAt := if s.gateway.breaker.state = .circuitOpen then s.openedAt else s.gateway.now }
  | .forceClose =>
    some { s.setBreaker (RouterCircuits.forceClose s.gateway.now s.gateway.breaker) with
      history := .forceClose :: s.history }

def start (client : Bool) : State := { gateway := GatewayBreaker.start client }

def failed (log : List Entry) : Nat := streak (· == .failure) log

def after (cfg : CircuitBreakerConfig) (outcome : Outcome) (now : Int) (cb : CircuitBreaker) : CircuitBreaker :=
  if outcome = .success then cb.recordSuccess cfg now else cb.recordFailure cfg now

inductive Effect (cfg : CircuitBreakerConfig) (s : State) : Label → State → Prop
  | quiet (label : Label) (gateway : GatewayBreaker.State) (breaker : gateway.breaker = s.gateway.breaker)
      (later : s.gateway.now ≤ gateway.now) (nothing : s.recorded? label = none) : Effect cfg s label { s with gateway }
  | letIn (operation : Operation) (gateway : GatewayBreaker.State) (breaker : gateway.breaker = s.gateway.breaker)
      (same : gateway.now = s.gateway.now) (allowed : s.gateway.breaker.allowRequest cfg s.gateway.now = true) :
      Effect cfg s (.op (.call operation)) (s.letIn gateway)
  | record (i : Nat) (outcome : Outcome) (gateway : GatewayBreaker.State)
      (breaker : gateway.breaker = after cfg outcome s.gateway.now s.gateway.breaker)
      (same : gateway.now = s.gateway.now) (recorded : s.recorded? (.op (.record i)) = some outcome) :
      Effect cfg s (.op (.record i)) (s.record i outcome gateway)
  | forceOpen : Effect cfg s .forceOpen { s.setBreaker (s.gateway.breaker.setState .circuitOpen s.gateway.now) with
      openedAt := if s.gateway.breaker.state = .circuitOpen then s.openedAt else s.gateway.now }
  | forceClose : Effect cfg s .forceClose { s.setBreaker (RouterCircuits.forceClose s.gateway.now s.gateway.breaker) with
      history := .forceClose :: s.history }

variable {cfg : CircuitBreakerConfig}

theorem step_effect {s next : State} {label : Label} (taken : step cfg s label = some next) :
    Effect cfg s label next := by
  cases label with
  | forceOpen => cases taken; exact .forceOpen
  | forceClose => cases taken; exact .forceClose
  | op label =>
    obtain ⟨gateway,moved,rfl⟩ := Option.map_eq_some_iff.mp taken
    cases label with
    | call operation =>
      cases moved
      simp only [State.note]
      split
      next allowed => exact .letIn operation _ rfl rfl allowed
      next => exact .quiet _ _ rfl (Int.le_refl _) rfl
    | tick | connection =>
      cases moved
      exact .quiet _ _ rfl (by simp) rfl
    | complete | done | expire =>
      obtain ⟨op,found,moved⟩ := Option.bind_eq_some_iff.mp moved
      simp only [GatewayBreaker.stepOp] at moved
      split at moved <;> cases moved
      all_goals exact .quiet _ _ rfl (Int.le_refl _) rfl
    | record i =>
      obtain ⟨op,found,moved⟩ := Option.bind_eq_some_iff.mp moved
      simp only [GatewayBreaker.stepOp] at moved
      split at moved <;> cases moved
      next outcome err at_ =>
        have recorded : s.recorded? (.op (.record i)) = some outcome := by simp only [State.recorded?,found,at_]
        simp only [State.note,recorded]
        refine .record i outcome _ ?_ rfl recorded
        cases outcome <;> rfl

section
variable {cfg : CircuitBreakerConfig} {outcome : Outcome} {now : Int} {cb : CircuitBreaker}

theorem after_counters :
    (after cfg outcome now cb).consecutiveFailures = (if outcome = .success then 0 else cb.consecutiveFailures + 1) ∧
    (after cfg outcome now cb).consecutiveSuccesses = if outcome = .success then cb.consecutiveSuccesses + 1 else 0 := by
  unfold after
  split
  · unfold CircuitBreaker.recordSuccess CircuitBreaker.setState
    dsimp only
    split
    · split <;> exact ⟨rfl,rfl⟩
    · split <;> exact ⟨rfl,rfl⟩
    · exact ⟨rfl,rfl⟩
  · unfold CircuitBreaker.recordFailure CircuitBreaker.setState
    dsimp only
    split
    · split <;> exact ⟨rfl,rfl⟩
    all_goals exact ⟨rfl,rfl⟩

/-- An outcome leaves the state, closes a half-open breaker, makes one half-open that was open long enough, or opens
    it. -/
theorem after_cases (cfg : CircuitBreakerConfig) (outcome : Outcome) (now : Int) (cb : CircuitBreaker) :
    ((after cfg outcome now cb).state = cb.state ∧ (after cfg outcome now cb).stateChangedAt = cb.stateChangedAt ∧
      (outcome ≠ .success → cb.state ≠ .circuitHalfOpen ∧
        (cb.state = .circuitClosed → cb.consecutiveFailures + 1 < cfg.failureThreshold))) ∨
    (outcome = .success ∧ cb.state = .circuitHalfOpen ∧ (after cfg outcome now cb).state = .circuitClosed ∧
      (after cfg outcome now cb).stateChangedAt = now) ∨
    (outcome = .success ∧ cb.state = .circuitOpen ∧ (after cfg outcome now cb).state = .circuitHalfOpen ∧
      (after cfg outcome now cb).stateChangedAt = now ∧ cfg.recoveryTimeout ≤ now - cb.stateChangedAt) ∨
    (outcome ≠ .success ∧ (after cfg outcome now cb).state = .circuitOpen ∧
      (after cfg outcome now cb).stateChangedAt = now ∧
      (cb.state = .circuitHalfOpen ∨ cb.state = .circuitClosed ∧ cfg.failureThreshold ≤ cb.consecutiveFailures + 1)) := by
  unfold after
  by_cases success : outcome = .success
  · rw [if_pos success]
    unfold CircuitBreaker.recordSuccess
    dsimp only
    split
    next at_ =>
      split
      · exact .inr (.inl ⟨success,at_,rfl,rfl⟩)
      · exact .inl ⟨rfl,rfl,fun failure => absurd success failure⟩
    next at_ =>
      split
      next ready => exact .inr (.inr (.inl ⟨success,at_,rfl,rfl,ready⟩))
      next => exact .inl ⟨rfl,rfl,fun failure => absurd success failure⟩
    next => exact .inl ⟨rfl,rfl,fun failure => absurd success failure⟩
  · rw [if_neg success]
    unfold CircuitBreaker.recordFailure
    dsimp only
    split
    next at_ =>
      split
      next enough => exact .inr (.inr (.inr ⟨success,rfl,rfl,.inr ⟨at_,enough⟩⟩))
      next fewer => exact .inl ⟨rfl,rfl,fun _ => ⟨by simp [at_],fun _ => Int.not_le.mp fewer⟩⟩
    next at_ => exact .inr (.inr (.inr ⟨success,rfl,rfl,.inl at_⟩))
    next at_ => exact .inl ⟨rfl,rfl,fun _ => ⟨by simp [at_],by simp [at_]⟩⟩

theorem after_stamp_le (past : cb.stateChangedAt ≤ now) : (after cfg outcome now cb).stateChangedAt ≤ now := by
  obtain ⟨_,stamp,_⟩ | ⟨_,_,_,stamp⟩ | ⟨_,_,_,stamp,_⟩ | ⟨_,_,stamp,_⟩ := after_cases cfg outcome now cb
  · rwa [stamp]
  all_goals exact Int.le_of_eq stamp

end

/-! ### Counters and transitions -/

structure Timed (s : State) : Prop where
  past : s.gateway.breaker.stateChangedAt ≤ s.gateway.now
  opened : s.gateway.breaker.state = .circuitOpen → s.openedAt ≤ s.gateway.breaker.stateChangedAt

structure Sound (cfg : CircuitBreakerConfig) (s : State) : Prop where
  single : s.gateway.breaker.consecutiveFailures = 0 ∨ s.gateway.breaker.consecutiveSuccesses = 0
  failures : s.gateway.breaker.consecutiveFailures = failed s.history
  closed : s.gateway.breaker.state = .circuitClosed → s.gateway.breaker.consecutiveFailures < cfg.failureThreshold

def State.Fails (s : State) (label : Label) : Prop := ∃ outcome, s.recorded? label = some outcome ∧ outcome ≠ .success

section
variable {cfg : CircuitBreakerConfig} {s next : State} {label : Label} (log : List Entry)

theorem failed_failure : failed (.failure :: log) = failed log + 1 := streak_cons_of rfl

theorem Timed.kept (timed : Timed s) (taken : step cfg s label = some next) : Timed next := by
  have past := timed.past
  cases step_effect taken with
  | quiet _ gateway breaker later nothing =>
    refine ⟨?_,?_⟩ <;> dsimp only <;> rw [breaker]
    · omega
    · exact timed.opened
  | letIn operation gateway breaker same allowed =>
    refine ⟨?_,?_⟩ <;> dsimp only [State.letIn] <;> rw [breaker]
    · omega
    · exact timed.opened
  | record i outcome gateway breaker same recorded =>
    refine ⟨?_,?_⟩ <;> dsimp only [State.record] <;> rw [breaker]
    · rw [same]
      exact after_stamp_le past
    · intro opened
      obtain ⟨state,stamp,_⟩ | ⟨_,_,closed,_⟩ | ⟨_,_,halfOpen,_⟩ | ⟨_,_,stamp,before⟩ :=
        after_cases cfg outcome s.gateway.now s.gateway.breaker
      · have before := state.symm.trans opened
        rw [if_neg fun both => both.1 before,stamp]
        exact timed.opened before
      · rw [closed] at opened
        cases opened
      · rw [halfOpen] at opened
        cases opened
      · have shut : s.gateway.breaker.state ≠ .circuitOpen := by
          obtain at_ | ⟨at_,_⟩ := before <;> simp [at_]
        rw [stamp,if_pos ⟨shut,opened⟩]
  | forceOpen =>
    refine ⟨Int.le_refl _,fun _ => ?_⟩
    split
    next opened => exact Int.le_trans (timed.opened opened) past
    next => exact Int.le_refl _
  | forceClose => exact ⟨Int.le_refl _,nofun⟩

theorem Sound.kept (positive : 1 ≤ cfg.failureThreshold) (sound : Sound cfg s) (taken : step cfg s label = some next) :
    Sound cfg next := by
  cases step_effect taken with
  | quiet _ gateway breaker later nothing =>
    refine ⟨?_,?_,?_⟩ <;> dsimp only <;> rw [breaker]
    exacts [sound.single,sound.failures,sound.closed]
  | letIn operation gateway breaker same allowed =>
    refine ⟨?_,?_,?_⟩ <;> dsimp only [State.letIn] <;> rw [breaker]
    exacts [sound.single,sound.failures,sound.closed]
  | record i outcome gateway breaker same recorded =>
    refine ⟨?_,?_,?_⟩ <;> dsimp only [State.record] <;> rw [breaker]
    · rw [after_counters.1,after_counters.2]
      split
      · exact .inl rfl
      · exact .inr rfl
    · rw [after_counters.1]
      split
      · rfl
      · rw [failed_failure,sound.failures]
        rfl
    · intro closed
      rw [after_counters.1]
      split
      · omega
      next failure =>
        obtain ⟨state,_,below⟩ | ⟨success,_⟩ | ⟨success,_⟩ | ⟨_,opened,_⟩ :=
          after_cases cfg outcome s.gateway.now s.gateway.breaker
        · exact (below failure).2 (state.symm.trans closed)
        · exact absurd success failure
        · exact absurd success failure
        · rw [opened] at closed
          cases closed
  | forceOpen => exact ⟨sound.single,sound.failures,nofun⟩
  | forceClose => exact ⟨.inl rfl,(congrArg _ (streak_cons_of_not rfl)).symm,fun _ => positive⟩

theorem breaker_cases (taken : step cfg s label = some next) :
    (next.gateway.breaker = s.gateway.breaker ∧ s.recorded? label = none) ∨
    (∃ outcome, s.recorded? label = some outcome ∧
      next.gateway.breaker = after cfg outcome s.gateway.now s.gateway.breaker) ∨
    (label = .forceOpen ∧ next.gateway.breaker = s.gateway.breaker.setState .circuitOpen s.gateway.now) ∨
    (label = .forceClose ∧ next.gateway.breaker = forceClose s.gateway.now s.gateway.breaker) := by
  cases step_effect taken with
  | quiet _ gateway breaker later nothing => exact .inl ⟨breaker,nothing⟩
  | letIn operation gateway breaker same allowed => exact .inl ⟨breaker,rfl⟩
  | record i outcome gateway breaker same recorded => exact .inr (.inl ⟨outcome,recorded,breaker⟩)
  | forceOpen => exact .inr (.inr (.inl ⟨rfl,rfl⟩))
  | forceClose => exact .inr (.inr (.inr ⟨rfl,rfl⟩))

/-- A closed breaker opens by itself at the failure that completes the row. -/
theorem Sound.opens_iff (sound : Sound cfg s) (taken : step cfg s label = some next)
    (closed : s.gateway.breaker.state = .circuitClosed) (other : label ≠ .forceOpen) :
    next.gateway.breaker.state = .circuitOpen ↔
      s.Fails label ∧ (failed (.failure :: s.history) : Int) = cfg.failureThreshold := by
  have below := sound.closed closed
  have failures := sound.failures
  rw [failed_failure]
  obtain ⟨breaker,nothing⟩ | ⟨outcome,recorded,breaker⟩ | ⟨forced,_⟩ | ⟨rfl,breaker⟩ := breaker_cases taken
  · rw [breaker,closed]
    exact iff_of_false nofun fun ⟨⟨_,recorded,_⟩,_⟩ => nomatch nothing.symm.trans recorded
  · have fails : s.Fails label ↔ outcome ≠ .success := by simp [State.Fails,recorded]
    rw [breaker,fails]
    obtain ⟨state,_,row⟩ | ⟨_,halfOpen,_⟩ | ⟨_,opened,_⟩ | ⟨failure,opened,_,row⟩ :=
      after_cases cfg outcome s.gateway.now s.gateway.breaker
    · rw [state,closed]
      refine iff_of_false nofun fun ⟨failure,complete⟩ => ?_
      have := (row failure).2 closed
      omega
    · rw [closed] at halfOpen
      cases halfOpen
    · rw [closed] at opened
      cases opened
    · rw [closed] at row
      obtain row | ⟨_,row⟩ := row
      · cases row
      · exact iff_of_true opened ⟨failure,by omega⟩
  · exact absurd forced other
  · rw [breaker]
    exact iff_of_false nofun fun ⟨⟨_,recorded,_⟩,_⟩ => nomatch recorded

/-- An open breaker becomes half-open at a success, once the recovery timeout is over. -/
theorem Timed.halfOpens (timed : Timed s) (taken : step cfg s label = some next)
    (opened : s.gateway.breaker.state = .circuitOpen) (halfOpen : next.gateway.breaker.state = .circuitHalfOpen) :
    s.recorded? label = some .success ∧ cfg.recoveryTimeout ≤ s.gateway.now - s.openedAt := by
  obtain ⟨breaker,_⟩ | ⟨outcome,recorded,breaker⟩ | ⟨_,breaker⟩ | ⟨_,breaker⟩ := breaker_cases taken
  · rw [breaker,opened] at halfOpen
    cases halfOpen
  · rw [breaker] at halfOpen
    obtain ⟨state,_⟩ | ⟨_,before,_⟩ | ⟨success,_,_,_,waited⟩ | ⟨_,after,_⟩ :=
      after_cases cfg outcome s.gateway.now s.gateway.breaker
    · rw [state,opened] at halfOpen
      cases halfOpen
    · rw [opened] at before
      cases before
    · have := timed.opened opened
      exact ⟨recorded.trans (congrArg some success),by omega⟩
    · rw [after] at halfOpen
      cases halfOpen
  all_goals
    rw [breaker] at halfOpen
    cases halfOpen

theorem fails_opens (taken : step cfg s label = some next) (halfOpen : s.gateway.breaker.state = .circuitHalfOpen)
    (fails : s.Fails label) : next.gateway.breaker.state = .circuitOpen := by
  obtain ⟨outcome,recorded,failure⟩ := fails
  obtain ⟨_,nothing⟩ | ⟨other,found,breaker⟩ | ⟨rfl,_⟩ | ⟨rfl,_⟩ := breaker_cases taken
  · cases nothing.symm.trans recorded
  · cases found.symm.trans recorded
    rw [breaker]
    obtain ⟨_,_,row⟩ | ⟨success,_⟩ | ⟨success,_⟩ | ⟨_,opened,_⟩ :=
      after_cases cfg outcome s.gateway.now s.gateway.breaker
    · exact absurd halfOpen (row failure).1
    · exact absurd success failure
    · exact absurd success failure
    · exact opened
  all_goals cases recorded

end

theorem start_timed (client : Bool) : Timed (start client) := ⟨Int.le_refl _,nofun⟩

/-- The counters and the transitions in every reachable state. -/
theorem counters_and_transitions (cfg : CircuitBreakerConfig) (positive : 1 ≤ cfg.failureThreshold) (client : Bool)
    (s : State) (reached : Reaches (step cfg) (start client) s) :
    ¬(0 < s.gateway.breaker.consecutiveFailures ∧ 0 < s.gateway.breaker.consecutiveSuccesses) ∧
    (s.gateway.breaker.state = .circuitClosed → s.gateway.breaker.consecutiveFailures < cfg.failureThreshold) ∧
    ∀ label next, step cfg s label = some next → (s.gateway.breaker.state = .circuitClosed → label ≠ .forceOpen →
        (next.gateway.breaker.state = .circuitOpen ↔
          s.Fails label ∧ (failed (.failure :: s.history) : Int) = cfg.failureThreshold)) ∧
      (s.gateway.breaker.state = .circuitOpen → next.gateway.breaker.state = .circuitHalfOpen →
        s.recorded? label = some .success ∧ cfg.recoveryTimeout ≤ s.gateway.now - s.openedAt) ∧
      (s.gateway.breaker.state = .circuitHalfOpen → s.Fails label → next.gateway.breaker.state = .circuitOpen) := by
  have timed : Timed s := reaches_keeps (fun _ _ _ timed taken => timed.kept taken) (start_timed client) reached
  have sound : Sound cfg s :=
    reaches_keeps (fun _ _ _ sound taken => sound.kept positive taken) (⟨.inl rfl,rfl,fun _ => positive⟩ : Sound cfg (start client)) reached
  refine ⟨fun ⟨failures,successes⟩ => ?_,sound.closed,fun label next taken =>
    ⟨sound.opens_iff taken,timed.halfOpens taken,fails_opens taken⟩⟩
  have := sound.single
  omega

def failing (i : Nat) : List Label :=
  [.op (.call .sendRequest),.op (.complete i (some "EOF")),.op (.done i),.op (.record i)]

/-- The failure that completes a row of two opens the breaker. -/
theorem transitions_two_failures : ∃ s next, run (step ⟨2,10,1,5⟩) (start true) (failing 0 ++ (failing 1).take 3) = some s ∧
    step ⟨2,10,1,5⟩ s (.op (.record 1)) = some next ∧ next.gateway.breaker.state = .circuitOpen := by
  refine ⟨_,_,rfl,rfl,?_⟩
  exact (((counters_and_transitions ⟨2,10,1,5⟩ (by decide) true _ ⟨failing 0 ++ (failing 1).take 3,rfl⟩).2.2
    (.op (.record 1)) _ rfl).1 rfl nofun).mpr ⟨⟨.failed,rfl,nofun⟩,rfl⟩

/-! ### Failed probes -/

/-- No request was admitted within the recovery timeout after a probe failed. -/
def NoEarly (cfg : CircuitBreakerConfig) (s : State) : Prop :=
  ∀ t ∈ s.failedProbes, ∀ a ∈ s.admissions, ¬(t < a ∧ a < t + cfg.recoveryTimeout)

/-- A failure of a probe does not meet a breaker that has been open for a while; a timeout of a nanosecond has no time
    in it. -/
def Rearmed (cfg : CircuitBreakerConfig) (s : State) (label : Label) : Prop :=
  cfg.recoveryTimeout ≤ 1 ∨ ∀ i outcome, label = .op (.record i) → s.recorded? label = some outcome →
    outcome ≠ .success → s.probe i = true → s.gateway.breaker.state = .circuitOpen →
    s.gateway.breaker.stateChangedAt = s.gateway.now

/-- Until the recovery timeout after a failed probe is over, the breaker is open. -/
structure Armed (cfg : CircuitBreakerConfig) (s : State) : Prop where
  past : s.gateway.breaker.stateChangedAt ≤ s.gateway.now
  admissions : ∀ a ∈ s.admissions, a ≤ s.gateway.now
  probes : ∀ t ∈ s.failedProbes, t ≤ s.gateway.now
  armed : ∀ t ∈ s.failedProbes, s.gateway.now < t + cfg.recoveryTimeout →
    s.gateway.breaker.state = .circuitOpen ∧ t ≤ s.gateway.breaker.stateChangedAt
  noEarly : NoEarly cfg s

section
variable {cfg : CircuitBreakerConfig} {s next : State} {label : Label}

variable {now : Int} {cb : CircuitBreaker} {gateway : GatewayBreaker.State} {i : Nat}

theorem allowRequest_open (opened : cb.state = .circuitOpen) :
    cb.allowRequest cfg now = true ↔ cfg.recoveryTimeout ≤ now - cb.stateChangedAt := by
  simp [CircuitBreaker.allowRequest,opened]

theorem after_open (cfg : CircuitBreakerConfig) (outcome : Outcome)
    (opened : cb.state = .circuitOpen) (short : outcome ≠ .success ∨ now - cb.stateChangedAt < cfg.recoveryTimeout) :
    (after cfg outcome now cb).state = .circuitOpen ∧
      (after cfg outcome now cb).stateChangedAt = cb.stateChangedAt := by
  obtain ⟨state,stamp,_⟩ | ⟨_,before,_⟩ | ⟨success,_,_,_,waited⟩ | ⟨_,_,_,before⟩ := after_cases cfg outcome now cb
  · exact ⟨state.trans opened,stamp⟩
  · rw [opened] at before
    cases before
  · obtain failure | short := short
    · exact absurd success failure
    · omega
  · rw [opened] at before
    obtain before | ⟨before,_⟩ := before <;> cases before

theorem after_failure {outcome : Outcome} (failure : outcome ≠ .success)
    (opened : (after cfg outcome now cb).state = .circuitOpen) : (after cfg outcome now cb).stateChangedAt = now ∨
      cb.state = .circuitOpen ∧ (after cfg outcome now cb).stateChangedAt = cb.stateChangedAt := by
  obtain ⟨state,stamp,_⟩ | ⟨success,_⟩ | ⟨success,_⟩ | ⟨_,_,stamp,_⟩ := after_cases cfg outcome now cb
  · exact .inr ⟨state.symm.trans opened,stamp⟩
  · exact absurd success failure
  · exact absurd success failure
  · exact .inl stamp

theorem Armed.letIn (armed : Armed cfg s) (breaker : gateway.breaker = s.gateway.breaker)
    (same : gateway.now = s.gateway.now) (allowed : s.gateway.breaker.allowRequest cfg s.gateway.now = true) :
    Armed cfg (s.letIn gateway) := by
  refine ⟨?_,?_,?_,?_,?_⟩ <;> dsimp only [State.letIn]
  · rw [breaker,same]
    exact armed.past
  · rw [same]
    exact forall_mem_cons.mpr ⟨Int.le_refl _,armed.admissions⟩
  · rw [same]
    exact armed.probes
  · rw [breaker,same]
    exact armed.armed
  · refine fun t listed => forall_mem_cons.mpr ⟨fun ⟨_,soon⟩ => ?_,armed.noEarly t listed⟩
    obtain ⟨opened,stamp⟩ := armed.armed t listed soon
    have := (allowRequest_open opened).mp allowed
    omega

theorem Armed.record {outcome : Outcome} (armed : Armed cfg s)
    (rearmed : outcome ≠ .success → s.probe i = true → s.gateway.breaker.state = .circuitOpen →
      s.gateway.breaker.stateChangedAt = s.gateway.now)
    (breaker : gateway.breaker = after cfg outcome s.gateway.now s.gateway.breaker)
    (same : gateway.now = s.gateway.now) : Armed cfg (s.record i outcome gateway) := by
  have kept : ∀ t ∈ s.failedProbes, s.gateway.now < t + cfg.recoveryTimeout →
      gateway.breaker.state = .circuitOpen ∧ t ≤ gateway.breaker.stateChangedAt := by
    intro t listed soon
    obtain ⟨opened,stamp⟩ := armed.armed t listed soon
    have short : s.gateway.now - s.gateway.breaker.stateChangedAt < cfg.recoveryTimeout := by omega
    obtain ⟨state,unchanged⟩ := after_open cfg outcome opened (.inr short)
    rw [breaker,unchanged]
    exact ⟨state,stamp⟩
  refine ⟨?_,?_,?_,?_,?_⟩ <;> dsimp only [State.record]
  · rw [breaker,same]
    exact after_stamp_le armed.past
  · rw [same]
    exact armed.admissions
  · rw [same]
    split
    · exact forall_mem_cons.mpr ⟨Int.le_refl _,armed.probes⟩
    · exact armed.probes
  · rw [same]
    split
    next failed =>
      obtain ⟨failure,probe,opened⟩ := failed
      refine forall_mem_cons.mpr ⟨fun _ => ⟨opened,?_⟩,kept⟩
      rw [breaker] at opened ⊢
      obtain stamp | ⟨before,stamp⟩ := after_failure failure opened
      · exact Int.le_of_eq stamp.symm
      · rw [stamp,rearmed failure probe before]
    next => exact kept
  · unfold NoEarly
    dsimp only
    split
    next =>
      refine forall_mem_cons.mpr ⟨fun a listed ⟨later,_⟩ => ?_,armed.noEarly⟩
      exact absurd (armed.admissions a listed) (Int.not_le.mpr later)
    next => exact armed.noEarly

theorem Armed.kept (armed : Armed cfg s) (rearmed : Rearmed cfg s label) (long : 1 < cfg.recoveryTimeout)
    (unforced : label ≠ .forceClose) (taken : step cfg s label = some next) : Armed cfg next := by
  have rearmed := rearmed.resolve_left (Int.not_le.mpr long)
  cases step_effect taken with
  | quiet _ gateway breaker later nothing =>
    refine ⟨?_,fun a listed => ?_,fun t listed => ?_,fun t listed soon => ?_,armed.noEarly⟩
    · rw [show gateway.breaker.stateChangedAt = _ from congrArg _ breaker]
      exact Int.le_trans armed.past later
    · exact Int.le_trans (armed.admissions a listed) later
    · exact Int.le_trans (armed.probes t listed) later
    · rw [breaker]
      exact armed.armed t listed (Int.lt_of_le_of_lt later soon)
  | letIn operation gateway breaker same allowed => exact armed.letIn breaker same allowed
  | record i outcome gateway breaker same recorded => exact armed.record (rearmed i outcome rfl recorded) breaker same
  | forceOpen =>
    exact ⟨Int.le_refl _,armed.admissions,armed.probes,fun t listed _ => ⟨rfl,armed.probes t listed⟩,armed.noEarly⟩
  | forceClose => exact absurd rfl unforced

theorem noEarly_of_short (short : cfg.recoveryTimeout ≤ 1) (s : State) : NoEarly cfg s := by
  intro t _ a _ within
  omega

/-- Time passes until the open breaker lets a request in, too early after the probe. -/
theorem early_after_probe {s : State} (long : 1 < cfg.recoveryTimeout) (opened : s.gateway.breaker.state = .circuitOpen)
    (before : s.gateway.breaker.stateChangedAt < s.gateway.now) (probe : s.gateway.now ∈ s.failedProbes) :
    ∃ more u, Label.forceClose ∉ more ∧ run (step cfg) s more = some u ∧ ¬NoEarly cfg u := by
  obtain ⟨d,waited,early,later⟩ : ∃ d : Nat, cfg.recoveryTimeout ≤ s.gateway.now + d - s.gateway.breaker.stateChangedAt ∧
      s.gateway.now + d < s.gateway.now + cfg.recoveryTimeout ∧ 0 < d :=
    ⟨(cfg.recoveryTimeout - 1).toNat,by omega,by omega,by omega⟩
  let waiting : State := { s with gateway := { s.gateway with now := s.gateway.now + d } }
  have allowed : waiting.gateway.breaker.allowRequest cfg waiting.gateway.now = true := (allowRequest_open opened).mpr waited
  have called : step cfg waiting (.op (.call .sendRequest)) =
      some (waiting.letIn (waiting.gateway.begin cfg .sendRequest)) := by
    simp [step,GatewayBreaker.step,State.note,allowed]
  refine ⟨[.op (.tick d),.op (.call .sendRequest)],waiting.letIn (waiting.gateway.begin cfg .sendRequest),by simp,?_,?_⟩
  · exact run_cons_eq_some.mpr ⟨waiting,rfl,run_cons_eq_some.mpr ⟨_,called,rfl⟩⟩
  · refine fun none => none s.gateway.now probe (s.gateway.now + d) (mem_cons_self ..) ⟨?_,early⟩
    omega

theorem probe_not_rearmed {outcome : Outcome} (taken : step cfg s (.op (.record i)) = some next)
    (recorded : s.recorded? (.op (.record i)) = some outcome) (failure : outcome ≠ .success) (probe : s.probe i = true)
    (opened : s.gateway.breaker.state = .circuitOpen) :
    next.gateway.breaker.state = .circuitOpen ∧ next.gateway.now = s.gateway.now ∧
    next.gateway.breaker.stateChangedAt = s.gateway.breaker.stateChangedAt ∧ s.gateway.now ∈ next.failedProbes := by
  cases step_effect taken with
  | quiet _ gateway breaker later nothing =>
    rw [nothing] at recorded
    cases recorded
  | record _ other gateway breaker same found =>
    cases found.symm.trans recorded
    obtain ⟨state,stamp⟩ := after_open cfg outcome opened (.inl failure)
    rw [← breaker] at state stamp
    refine ⟨state,same,stamp,?_⟩
    dsimp only [State.record]
    rw [if_pos ⟨failure,probe,state⟩]
    exact mem_cons_self ..

end

theorem noEarly_of_rearmed {client : Bool} {labels : List Label}
    (unforced : Label.forceClose ∉ labels) (meets : Meets (step cfg) (Rearmed cfg) (start client) labels) :
    Always (step cfg) (NoEarly cfg) (start client) labels := by
  by_cases short : cfg.recoveryTimeout ≤ 1
  · exact always_of_keeps (fun _ _ next _ _ _ => noEarly_of_short short next) (noEarly_of_short short _) meets
  · have others : Meets (step cfg) (fun _ label => label ≠ .forceClose) (start client) labels :=
      meets_of_mem fun label listed _ same => unforced (same ▸ listed)
    have initial : Armed cfg (start client) := ⟨Int.le_refl _,nofun,nofun,nofun,nofun⟩
    have armed : Always (step cfg) (Armed cfg) (start client) labels :=
      always_of_keeps (fun _ _ _ armed fine taken => armed.kept fine.1 (Int.not_le.mp short) fine.2 taken) initial
        (meets.and others)
    exact armed.imp fun _ armed => armed.noEarly

/-- If each failed probe restarts the recovery timeout no request is admitted too early. A probe that fails when the
    breaker is open already does not restart it: then one can be. -/
theorem failed_probe_rearms (cfg : CircuitBreakerConfig) (client : Bool) (labels : List Label) (t : State)
    (unforced : Label.forceClose ∉ labels) (executed : run (step cfg) (start client) labels = some t) :
    (Meets (step cfg) (Rearmed cfg) (start client) labels → Always (step cfg) (NoEarly cfg) (start client) labels) ∧
    ∀ label next, step cfg t label = some next → ¬Rearmed cfg t label →
      ∃ more u, Label.forceClose ∉ more ∧ run (step cfg) next more = some u ∧ ¬NoEarly cfg u := by
  refine ⟨noEarly_of_rearmed unforced,fun label next taken broken => ?_⟩
  have timed : Timed t := reaches_keeps (fun _ _ _ timed taken => timed.kept taken) (start_timed client) ⟨labels,executed⟩
  simp only [Rearmed,not_or,not_forall] at broken
  obtain ⟨long,i,outcome,rfl,recorded,failure,probe,opened,stale⟩ := broken
  obtain ⟨state,same,stamp,listed⟩ := probe_not_rearmed taken recorded failure probe opened
  have past := timed.past
  refine early_after_probe (Int.not_le.mp long) state ?_ ?_
  · omega
  · rw [same]
    exact listed

theorem rearmed_of_shut {s : State} {label : Label}
    (shut : s.gateway.breaker.state ≠ .circuitOpen) : Rearmed cfg s label :=
  .inr fun _ _ _ _ _ _ opened => absurd opened shut

def halfOpenProbe : List Label :=
  failing 0 ++ [Label.op (.tick 10),.op (.call .sendRequest),.op (.complete 1 none),.op (.done 1),.op (.record 1)] ++
    failing 2 ++ [Label.op (.tick 10),.op (.call .sendRequest)]

theorem failed_probe_rearms_halfOpen : ∃ t, run (step ⟨1,10,2,5⟩) (start true) halfOpenProbe = some t ∧ t.failedProbes = [10] ∧
    t.admissions = [20,10,10,0] ∧ Always (step ⟨1,10,2,5⟩) (NoEarly ⟨1,10,2,5⟩) (start true) halfOpenProbe := by
  have executed : run (step ⟨1,10,2,5⟩) (start true) halfOpenProbe = some _ := rfl
  have unforced : Label.forceClose ∉ halfOpenProbe := by simp [halfOpenProbe,failing]
  refine ⟨_,executed,rfl,rfl,(failed_probe_rearms ⟨1,10,2,5⟩ true halfOpenProbe _ unforced executed).1 ?_⟩
  iterate 4 refine (meets_cons rfl).mpr ⟨rearmed_of_shut nofun,?_⟩
  iterate 4 refine (meets_cons rfl).mpr ⟨.inr nofun,?_⟩
  refine ⟨.inr fun i outcome _ recorded failure => ?_,fun _ taken => ?_⟩
  · cases recorded
    exact absurd rfl failure
  cases taken
  iterate 4 refine (meets_cons rfl).mpr ⟨rearmed_of_shut nofun,?_⟩
  iterate 2 refine (meets_cons rfl).mpr ⟨.inr nofun,?_⟩
  trivial

/-- A probe fails while the breaker is open, and a request is admitted a nanosecond later. -/
theorem admitted_after_failed_probe : ∃ t, run (step ⟨1,10,1,5⟩) (start true) (failing 0 ++ [Label.op (.tick 10)] ++ failing 1 ++
      [Label.op (.tick 1),.op (.call .sendRequest)]) = some t ∧ t.failedProbes = [10] ∧ t.admissions = [11,10,0] ∧
    ¬NoEarly ⟨1,10,1,5⟩ t :=
  ⟨_,rfl,rfl,rfl,fun none => none 10 (by decide) 11 (by decide) (by decide)⟩

end McpBridge.RouterCircuits
