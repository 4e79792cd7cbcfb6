import Mathlib.Data.List.Infix
import McpBridge.Runs

/-!
`CircuitBreaker` of the router's gateway package, around a gateway client. Any number of operations may be under way at
once.
-/
namespace McpBridge.GatewayBreaker
open Runs List Function

inductive CircuitState where
  | circuitClosed
  | circuitOpen
  | circuitHalfOpen
  deriving DecidableEq, Repr

def second : Int := 1000000000

/-- The settings of the breaker. -/
structure CircuitBreakerConfig where
  failureThreshold : Int
  recoveryTimeout : Int
  successThreshold : Int
  timeoutDuration : Int

def defaultCircuitBreakerConfig : CircuitBreakerConfig := ⟨5,30 * second,3,10 * second⟩

structure CircuitBreaker where
  state : CircuitState := .circuitClosed
  stateChangedAt : Int := 0
  consecutiveFailures : Int := 0
  consecutiveSuccesses : Int := 0

namespace CircuitBreaker

def setState (newState : CircuitState) (now : Int) (cb : CircuitBreaker) : CircuitBreaker :=
  { cb with state := newState, stateChangedAt := now }

def allowRequest (cfg : CircuitBreakerConfig) (now : Int) (cb : CircuitBreaker) : Bool :=
  match cb.state with
  | .circuitClosed => true
  | .circuitOpen => decide (cfg.recoveryTimeout ≤ now - cb.stateChangedAt)
  | .circuitHalfOpen => true

def recordSuccess (cfg : CircuitBreakerConfig) (now : Int) (cb : CircuitBreaker) : CircuitBreaker :=
  let counted :=
    { cb with consecutiveFailures := 0, consecutiveSuccesses := cb.consecutiveSuccesses + 1 }
  match cb.state with
  | .circuitHalfOpen =>
    if cfg.successThreshold ≤ counted.consecutiveSuccesses then counted.setState .circuitClosed now else counted
  | .circuitOpen =>
    if cfg.recoveryTimeout ≤ now - cb.stateChangedAt then counted.setState .circuitHalfOpen now else counted
  | .circuitClosed => counted

def recordFailure (cfg : CircuitBreakerConfig) (now : Int) (cb : CircuitBreaker) : CircuitBreaker :=
  let counted :=
    { cb with consecutiveSuccesses := 0, consecutiveFailures := cb.consecutiveFailures + 1 }
  match cb.state with
  | .circuitClosed =>
    if cfg.failureThreshold ≤ counted.consecutiveFailures then counted.setState .circuitOpen now else counted
  | .circuitHalfOpen => counted.setState .circuitOpen now
  | .circuitOpen => counted

def isConnected (client : Bool) (cb : CircuitBreaker) : Bool :=
  if cb.state = .circuitOpen then false else client

end CircuitBreaker

inductive Operation where
  | connect
  | sendRequest
  | receiveResponse
  | sendPing
  deriving DecidableEq, Repr

def Operation.name : Operation → String
  | .connect => "Connect"
  | .sendRequest => "SendRequest"
  | .receiveResponse => "ReceiveResponse"
  | .sendPing => "SendPing"

/-- How an operation ends for its caller. -/
inductive Outcome where
  | success
  | failed
  | timedOut
  | rejected
  deriving DecidableEq, Repr

inductive OpPc where
  | running
  | finished (err : Option String)
  | recording (outcome : Outcome) (err : Option String)
  | returned (err : Option String)

structure Op where
  operation : Operation
  deadline : Int
  pc : OpPc

inductive Over where
  | deadline
  | caller (err : String)

/-- `Connect` has no deadline of its own; only `Connect` and `SendRequest` have a caller's context. -/
def Op.ended (now : Int) (op : Op) : Over → Option String
  | .deadline => if op.operation ≠ .connect ∧ op.deadline ≤ now then some "context deadline exceeded" else none
  | .caller err => if op.operation = .connect ∨ op.operation = .sendRequest then some err else none

/-- The breaker, the clock, the client and the operations. -/
structure State where
  breaker : CircuitBreaker := {}
  now : Int := 0
  /-- What `IsConnected` of the wrapped client reports. -/
  client : Bool
  ops : Nat → Option Op := fun _ => none
  begun : Nat := 0
  recorded : List Outcome := []

def start (client : Bool) : State := { client := client }

/-- The steps of operations and of what is around them. -/
inductive Label where
  | call (operation : Operation)
  | complete (op : Nat) (err : Option String)
  | done (op : Nat)
  | expire (op : Nat) (cause : Over)
  | record (op : Nat)
  | tick (duration : Nat)
  | connection (up : Bool)

namespace State

def setPc (i : Nat) (op : Op) (pc : OpPc) (s : State) : State :=
  { s with ops := update s.ops i (some { op with pc := pc }) }

def begin (cfg : CircuitBreakerConfig) (operation : Operation) (s : State) : State :=
  let pc :=
    if s.breaker.allowRequest cfg s.now then OpPc.running
    else .recording .rejected (some ("circuit breaker is OPEN, rejecting " ++ operation.name ++ " request"))
  { s with
    ops := update s.ops s.begun (some ⟨operation,s.now + cfg.timeoutDuration,pc⟩)
    begun := s.begun + 1 }

def record (cfg : CircuitBreakerConfig) (outcome : Outcome) (s : State) : State :=
  { s with
    breaker := match outcome with
      | .success => s.breaker.recordSuccess cfg s.now
      | _ => s.breaker.recordFailure cfg s.now
    recorded := outcome :: s.recorded }

end State

def outcomeOf : Option String → Outcome
  | none => .success
  | some _ => .failed

def stepOp (cfg : CircuitBreakerConfig) (i : Nat) (op : Op) (s : State) : Label → Option State
  | .complete _ err =>
    match op.pc with
    | .running => some (s.setPc i op (.finished err))
    | _ => none
  | .done _ =>
    match op.pc with
    | .finished err => some (s.setPc i op (.recording (outcomeOf err) err))
    | _ => none
  | .expire _ cause =>
    match op.pc,op.ended s.now cause with
    | .running,some err | .finished _,some err =>
      some (s.setPc i op (.recording .timedOut (some (op.operation.name ++ " request timed out: " ++ err))))
    | _,_ => none
  | .record _ =>
    match op.pc with
    | .recording outcome err => some ((s.record cfg outcome).setPc i op (.returned err))
    | _ => none
  | _ => none

/-- One step of an operation, the clock or the client. -/
def step (cfg : CircuitBreakerConfig) (s : State) (label : Label) : Option State :=
  match label with
  | .call operation => some (s.begin cfg operation)
  | .tick duration => some { s with now := s.now + duration }
  | .connection up => some { s with client := up }
  | .complete i _ | .done i | .expire i _ | .record i => (s.ops i).bind fun op => stepOp cfg i op s label

/-! ### What a step does to the breaker -/

variable {cfg : CircuitBreakerConfig} {s next : State} {label : Label} {i : Nat} {op : Op}

theorem stepOp_cases (moved : stepOp cfg i op s label = some next) :
    (next.breaker = s.breaker ∧ next.recorded = s.recorded) ∨
      ∃ outcome err, op.pc = .recording outcome err ∧ next = (s.record cfg outcome).setPc i op (.returned err) := by
  revert moved
  fun_cases stepOp cfg i op s label <;> rintro ⟨⟩
  case case8 stands => exact .inr ⟨_,_,stands,rfl⟩
  all_goals exact .inl ⟨rfl,rfl⟩

/-- A step leaves the breaker alone or records the outcome of one operation. -/
theorem step_cases (taken : step cfg s label = some next) : (next.breaker = s.breaker ∧ next.recorded = s.recorded) ∨
      ∃ i op outcome err, s.ops i = some op ∧ op.pc = .recording outcome err ∧
        next = (s.record cfg outcome).setPc i op (.returned err) := by
  cases label with
  | call | tick | connection => cases taken; exact .inl ⟨rfl,rfl⟩
  | complete | done | expire | record =>
    obtain ⟨op,found,moved⟩ := Option.bind_eq_some_iff.mp taken
    exact (stepOp_cases moved).imp_right fun ⟨outcome,err,rest⟩ => ⟨_,op,outcome,err,found,rest⟩

/-- The client reports no error. -/
def Healthy (_ : State) : Label → Prop
  | .complete _ err => err = none
  | _ => True

def OpPc.Calm : OpPc → Prop
  | .running => True
  | .finished err => err = none
  | .recording outcome _ => outcome = .success ∨ outcome = .timedOut
  | .returned _ => True

def State.Calm (s : State) : Prop := ∀ i op, s.ops i = some op → op.pc.Calm

theorem State.Calm.setPc (calm : s.Calm) (i : Nat) (op : Op) {pc : OpPc} (calm' : pc.Calm) :
    (s.setPc i op pc).Calm := by
  intro j other found
  by_cases same : j = i
  · subst same
    simp only [State.setPc,update_self,Option.some.injEq] at found
    subst found
    exact calm'
  · simp only [State.setPc,update_of_ne same] at found
    exact calm j other found

theorem stepOp_calm (calm : s.Calm) (found : s.ops i = some op) (healthy : Healthy s label)
    (moved : stepOp cfg i op s label = some next) : next.Calm := by
  have now := calm i op found
  revert moved
  fun_cases stepOp cfg i op s label <;> rintro ⟨⟩
  case case1 => exact calm.setPc i op healthy
  case case3 stands =>
    rw [stands] at now
    cases now
    exact calm.setPc i op (.inl rfl)
  case case5 | case6 => exact calm.setPc i op (.inr rfl)
  case case8 outcome _ _ =>
    have calm' : (s.record cfg outcome).Calm := calm
    exact calm'.setPc i op trivial

theorem step_calm (calm : s.Calm)
    (closed : s.breaker.state = .circuitClosed) (healthy : Healthy s label) (taken : step cfg s label = some next) :
    next.Calm := by
  cases label with
  | call operation =>
    cases taken
    intro j other found
    have allowed : s.breaker.allowRequest cfg s.now = true := by rw [CircuitBreaker.allowRequest,closed]
    by_cases same : j = s.begun
    · subst same
      simp only [State.begin,update_self,allowed,if_true,Option.some.injEq] at found
      subst found
      trivial
    · simp only [State.begin,update_of_ne same] at found
      exact calm j other found
  | tick | connection => cases taken; exact calm
  | complete | done | expire | record =>
    obtain ⟨op,found,moved⟩ := Option.bind_eq_some_iff.mp taken
    exact stepOp_calm calm found healthy moved

/-! ### The breaker trips on a row of timeouts -/

def CircuitBreakerConfig.row (cfg : CircuitBreakerConfig) : Nat := max 1 cfg.failureThreshold.toNat

def Untripped (cfg : CircuitBreakerConfig) (s : State) : Prop :=
  ¬ replicate cfg.row Outcome.timedOut <:+: s.recorded

/-- The breaker was always closed, and its counter is how many of the newest outcomes are timeouts. -/
structure Quiet (s : State) : Prop where
  closed : s.breaker.state = .circuitClosed
  counted : ∀ k : Nat, replicate k Outcome.timedOut <+: s.recorded ↔ (k : Int) ≤ s.breaker.consecutiveFailures
  calm : s.Calm

theorem Quiet.failures_nonneg (quiet : Quiet s) : 0 ≤ s.breaker.consecutiveFailures := by
  have none := (quiet.counted 0).mp nil_prefix
  omega

theorem Quiet.counted_timedOut (quiet : Quiet s) (k : Nat) :
    replicate k Outcome.timedOut <+: .timedOut :: s.recorded ↔ (k : Int) ≤ s.breaker.consecutiveFailures + 1 := by
  cases k with
  | zero =>
    have := quiet.failures_nonneg
    constructor
    · intro _
      omega
    · intro _
      exact nil_prefix
  | succ k =>
    rw [replicate_succ,cons_prefix_cons,quiet.counted k]
    constructor
    · rintro ⟨_,bound⟩
      omega
    · intro bound
      exact ⟨rfl,by omega⟩

theorem counted_success (recorded : List Outcome) (k : Nat) :
    replicate k Outcome.timedOut <+: .success :: recorded ↔ (k : Int) ≤ 0 := by
  cases k with
  | zero =>
    constructor
    · intro _
      omega
    · intro _
      exact nil_prefix
  | succ k =>
    rw [replicate_succ,cons_prefix_cons]
    constructor
    · rintro ⟨same,_⟩
      cases same
    · intro bound
      omega

theorem Quiet.row_iff (quiet : Quiet s) (sound : Untripped cfg s) :
    replicate cfg.row Outcome.timedOut <:+: .timedOut :: s.recorded ↔
      cfg.failureThreshold ≤ s.breaker.consecutiveFailures + 1 := by
  have bound := quiet.failures_nonneg
  rw [infix_cons_iff,quiet.counted_timedOut]
  unfold CircuitBreakerConfig.row
  constructor
  · rintro (reached | older)
    · omega
    · exact absurd older sound
  · intro reached
    left
    omega

theorem Quiet.recordSuccess (quiet : Quiet s) : Quiet (s.record cfg .success) := by
  have recorded : s.breaker.recordSuccess cfg s.now =
      { s.breaker with consecutiveFailures := 0, consecutiveSuccesses := s.breaker.consecutiveSuccesses + 1 } := by
    simp [CircuitBreaker.recordSuccess,quiet.closed]
  refine ⟨?_,?_,quiet.calm⟩
  · simp [State.record,recorded,quiet.closed]
  · intro k
    simp only [State.record,recorded]
    exact counted_success s.recorded k

theorem Quiet.recordTimeout (quiet : Quiet s)
    (below : ¬ cfg.failureThreshold ≤ s.breaker.consecutiveFailures + 1) : Quiet (s.record cfg .timedOut) := by
  have recorded : s.breaker.recordFailure cfg s.now =
      { s.breaker with consecutiveSuccesses := 0, consecutiveFailures := s.breaker.consecutiveFailures + 1 } := by
    simp only [CircuitBreaker.recordFailure,quiet.closed,if_neg below]
  refine ⟨?_,?_,quiet.calm⟩
  · simp [State.record,recorded,quiet.closed]
  · intro k
    simp only [State.record,recorded]
    exact quiet.counted_timedOut k

theorem recordTimeout_opens (closed : s.breaker.state = .circuitClosed)
    (reached : cfg.failureThreshold ≤ s.breaker.consecutiveFailures + 1) :
    (s.record cfg .timedOut).breaker.state = .circuitOpen := by
  simp only [State.record,CircuitBreaker.recordFailure,closed,if_pos reached,CircuitBreaker.setState]

theorem untripped_back (taken : step cfg s label = some next) (sound : Untripped cfg next) : Untripped cfg s := by
  obtain ⟨_,same⟩ | ⟨i,op,outcome,err,_,_,rfl⟩ := step_cases taken
  · rwa [Untripped,same] at sound
  · intro older
    exact sound (infix_cons older)

theorem Quiet.step (quiet : Quiet s)
    (healthy : Healthy s label) (taken : step cfg s label = some next) (sound : Untripped cfg next) : Quiet next := by
  have calm := step_calm quiet.calm quiet.closed healthy taken
  have before := untripped_back taken sound
  obtain ⟨breaker,recorded⟩ | ⟨i,op,outcome,err,found,stands,rfl⟩ := step_cases taken
  · exact ⟨by rw [breaker]; exact quiet.closed,by rw [breaker,recorded]; exact quiet.counted,calm⟩
  · have outcomes : outcome = .success ∨ outcome = .timedOut := by
      have := quiet.calm i op found
      rwa [stands] at this
    obtain rfl | rfl := outcomes
    · have after : Quiet (s.record cfg .success) := quiet.recordSuccess
      exact ⟨after.closed,after.counted,calm⟩
    · have below : ¬ cfg.failureThreshold ≤ s.breaker.consecutiveFailures + 1 :=
        fun reached => sound ((quiet.row_iff before).mpr reached)
      have after := quiet.recordTimeout below
      exact ⟨after.closed,after.counted,calm⟩

theorem Quiet.opens (quiet : Quiet s)
    (before : Untripped cfg s) (taken : GatewayBreaker.step cfg s label = some next) (tripped : ¬ Untripped cfg next) :
    next.breaker.state = .circuitOpen := by
  obtain ⟨_,recorded⟩ | ⟨i,op,outcome,err,found,stands,rfl⟩ := step_cases taken
  · rw [Untripped,recorded] at tripped
    exact absurd before tripped
  · have outcomes : outcome = .success ∨ outcome = .timedOut := by
      have := quiet.calm i op found
      rwa [stands] at this
    have row : replicate cfg.row Outcome.timedOut <:+: outcome :: s.recorded := not_not.mp tripped
    obtain rfl | rfl := outcomes
    · rw [infix_cons_iff,counted_success] at row
      unfold CircuitBreakerConfig.row at row
      obtain none | older := row
      · omega
      · exact absurd older before
    · exact recordTimeout_opens quiet.closed ((quiet.row_iff before).mp row)

theorem start_quiet (client : Bool) : Quiet (start client) := by
  refine ⟨rfl,?_,nofun⟩
  intro k
  rw [start,prefix_nil,replicate_eq_nil_iff]
  change k = 0 ↔ (k : Int) ≤ 0
  omega

/-- With a client that never fails, the breaker is always closed and reports the client's connection precisely when
    never as many operations in a row time out as the threshold says. -/
theorem stays_closed_iff (cfg : CircuitBreakerConfig) (client : Bool) {labels : List Label} {t : State}
    (executed : run (step cfg) (start client) labels = some t)
    (healthy : Meets (step cfg) Healthy (start client) labels) :
    Always (step cfg) (fun s => s.breaker.state = .circuitClosed ∧ s.breaker.isConnected s.client = s.client)
        (start client) labels ↔ ¬ replicate cfg.row Outcome.timedOut <:+: t.recorded := by
  have sound : Untripped cfg (start client) := by
    rw [Untripped,start,infix_nil,replicate_eq_nil_iff,CircuitBreakerConfig.row]
    omega
  have kept : ∀ s label next, (Untripped cfg s → Quiet s) → Healthy s label → step cfg s label = some next →
      Untripped cfg next → Quiet next := by
    intro s label next inv fine taken sound
    exact (inv (untripped_back taken sound)).step fine taken sound
  have guards : ∀ s, (Untripped cfg s → Quiet s) → Untripped cfg s →
      s.breaker.state = .circuitClosed ∧ s.breaker.isConnected s.client = s.client := by
    intro s inv sound
    have closed := (inv sound).closed
    exact ⟨closed,by simp [CircuitBreaker.isConnected,closed]⟩
  refine always_iff_of_meets kept guards (fun _ _ _ => untripped_back) ?_ (fun _ => start_quiet client) sound healthy
    executed
  intro s label next inv fine sound taken holds
  by_contra tripped
  have opened := (inv sound).opens sound taken tripped
  rw [opened] at holds
  cases holds.1

def idleAttempts (n : Nat) : List Label :=
  (range n).flatMap fun i =>
    [.call .receiveResponse,.tick 10000000000,.expire i .deadline,.record i]

theorem idleAttempts_healthy (n : Nat) : Meets (step cfg) Healthy s (idleAttempts n) := by
  apply meets_of_mem
  intro label member other
  obtain ⟨i,_,among⟩ := mem_flatMap.mp member
  simp only [mem_cons,not_mem_nil,or_false] at among
  rcases among with rfl | rfl | rfl | rfl <;> trivial

/-- Four attempts in a row leave the breaker closed. -/
theorem four_attempts_stay_closed :
    ∃ t, run (step defaultCircuitBreakerConfig) (start true) (idleAttempts 4) = some t ∧
      Always (step defaultCircuitBreakerConfig)
        (fun s => s.breaker.state = .circuitClosed ∧ s.breaker.isConnected s.client = s.client) (start true)
        (idleAttempts 4) :=
  ⟨_,rfl,(stays_closed_iff defaultCircuitBreakerConfig true rfl (idleAttempts_healthy 4)).mpr (by decide)⟩

/-- The fifth attempt on an idle connection opens the breaker, which then denies it. -/
theorem idle_connection_trips :
    Meets (step defaultCircuitBreakerConfig) Healthy (start true) (idleAttempts 5) ∧
      ∃ t, run (step defaultCircuitBreakerConfig) (start true) (idleAttempts 5) = some t ∧
        t.breaker.state = .circuitOpen ∧ t.client = true ∧ t.breaker.isConnected t.client = false :=
  ⟨idleAttempts_healthy 5,_,rfl,rfl,rfl,rfl⟩

end McpBridge.GatewayBreaker
