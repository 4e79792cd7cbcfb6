import McpBridge.MessageRouter

/-!
`AdaptiveRetry` of the direct clients: the retry loop, and the circuit breaker around it.
-/
namespace McpBridge.DirectRetries
open List
open MessageRouter (contains toLower)
open Runs

/-- An error; `retryable` is the flag of the first `RetryableError` in its chain. -/
structure Failure where
  message : String
  retryable : Option Bool := none

def containsAny (s : String) (substrings : List String) : Bool :=
  substrings.any fun substr =>
    contains (String.ofList (s.toList.map toLower)) (String.ofList (substr.toList.map toLower))

def isRetryable (err : Failure) : Bool :=
  err.retryable.getD (containsAny err.message
    ["timeout","connection","temporary","refused","reset","broken pipe","no route to host"])

/-- What the two `select`s see of the context, before an attempt and while waiting after it. -/
structure Context where
  done : Nat → Bool
  interrupts : Nat → Bool

/-- `executeWithRetry` returns `nil`, the error of the context, or the last error, perhaps wrapped. -/
inductive Outcome where
  | nil
  | cancelled
  | failed (err : Failure)
  | exhausted (err : Failure)

section loop
variable (ctx : Context) (fn : Nat → Option Failure)

/-- The loop from an attempt on, with the retries left: how often it calls `fn`, and what it returns. -/
def retry (left attempt : Nat) : Nat × Outcome :=
  if ctx.done attempt then (0,.cancelled)
  else match fn attempt with
    | none => (1,.nil)
    | some err =>
      if isRetryable err then
        match left with
        | 0 => (1,.exhausted err)
        | left + 1 =>
          if ctx.interrupts attempt then (1,.cancelled)
          else
            let (calls,outcome) := retry left (attempt + 1)
            (calls + 1,outcome)
      else (1,.failed err)

def executeWithRetry (maxRetries : Nat) : Nat × Outcome := retry ctx fn maxRetries 0

/-- The law of the loop, for the calls that it makes from an attempt on. -/
structure Lawful (left attempt calls : Nat) (outcome : Outcome) : Prop where
  bounded : calls ≤ left + 1
  begun : ctx.done attempt = false → 0 < calls
  live : ∀ i < calls, ctx.done (attempt + i) = false
  retried : ∀ i, i + 1 < calls →
    (∃ err, fn (attempt + i) = some err ∧ isRetryable err = true) ∧ ctx.interrupts (attempt + i) = false
  continued : ∀ i err, i < calls → fn (attempt + i) = some err → isRetryable err = true → i < left →
    ctx.interrupts (attempt + i) = false → ctx.done (attempt + i + 1) = false → i + 1 < calls
  nil : outcome = .nil ↔ ∃ last, calls = last + 1 ∧ fn (attempt + last) = none
  error : outcome = .nil ∨ outcome = .cancelled ∨
    ∃ last err, calls = last + 1 ∧ fn (attempt + last) = some err ∧ (outcome = .failed err ∨ outcome = .exhausted err)

variable {ctx fn} {left attempt : Nat} {outcome : Outcome}

theorem lawful_cancelled (done : ctx.done attempt = true) : Lawful ctx fn left attempt 0 .cancelled where
  bounded := Nat.zero_le _
  begun := by simp [done]
  live := nofun
  retried := nofun
  continued := nofun
  nil := by simp
  error := .inr (.inl rfl)

theorem lawful_last (live : ¬ ctx.done attempt = true)
    (stops : ∀ err, fn attempt = some err → isRetryable err = true → 0 < left → ctx.interrupts attempt = true)
    (nil : outcome = .nil ↔ fn attempt = none) (error : outcome = .nil ∨ outcome = .cancelled ∨
      ∃ err, fn attempt = some err ∧ (outcome = .failed err ∨ outcome = .exhausted err)) :
    Lawful ctx fn left attempt 1 outcome where
  bounded := Nat.le_add_left ..
  begun _ := Nat.one_pos
  live i only := by
    obtain rfl := Nat.lt_one_iff.mp only
    simpa using live
  retried i more := by omega
  continued i err only failed retryable more waits _ := by
    obtain rfl := Nat.lt_one_iff.mp only
    simp [stops err failed retryable more] at waits
  nil := by simpa using nil
  error := by simpa using error

theorem Lawful.cons {calls : Nat} {err : Failure} (lawful : Lawful ctx fn left (attempt + 1) calls outcome)
    (live : ¬ ctx.done attempt = true) (failed : fn attempt = some err) (retryable : isRetryable err = true)
    (waits : ¬ ctx.interrupts attempt = true) : Lawful ctx fn (left + 1) attempt (calls + 1) outcome := by
  have shift (i : Nat) : attempt + (i + 1) = attempt + 1 + i := by omega
  obtain ⟨bounded,begun,alive,retried,continued,nil,error⟩ := lawful
  refine ⟨Nat.succ_le_succ bounded,fun _ => Nat.succ_pos _,fun i within => ?_,fun i more => ?_,fun i other within => ?_,?_,?_⟩
  · cases i with
    | zero => simpa using live
    | succ i => exact shift i ▸ alive i (Nat.lt_of_succ_lt_succ within)
  · cases i with
    | zero => exact ⟨⟨err,failed,retryable⟩,by simpa using waits⟩
    | succ i => exact shift i ▸ retried i (Nat.lt_of_succ_lt_succ more)
  · cases i with
    | zero => exact fun _ _ _ _ again => Nat.succ_lt_succ (begun again)
    | succ i =>
      rw [shift]
      intro fails again more unbroken alive
      exact Nat.succ_lt_succ (continued i other (Nat.lt_of_succ_lt_succ within) fails again (Nat.lt_of_succ_lt_succ more)
        unbroken alive)
  · rw [nil]
    constructor
    · rintro ⟨last,rfl,ok⟩
      exact ⟨last + 1,rfl,shift last ▸ ok⟩
    · rintro ⟨last,same,ok⟩
      cases last with
      | zero => simp [failed] at ok
      | succ last => exact ⟨last,Nat.succ.inj same,shift last ▸ ok⟩
  · refine error.imp_right (Or.imp_right ?_)
    rintro ⟨last,last_err,rfl,fails,which⟩
    exact ⟨last + 1,last_err,rfl,shift last ▸ fails,which⟩

theorem retry_lawful : Lawful ctx fn left attempt (retry ctx fn left attempt).1 (retry ctx fn left attempt).2 := by
  fun_induction retry ctx fn left attempt with
  | case1 _ _ done => exact lawful_cancelled done
  | case2 left attempt live ok => exact lawful_last live (by simp [ok]) (by simp [ok]) (.inl rfl)
  | case3 attempt live err failed retryable =>
    exact lawful_last live (fun _ _ _ more => absurd more (Nat.lt_irrefl 0)) (by simp [failed])
      (.inr (.inr ⟨err,failed,.inr rfl⟩))
  | case4 attempt live err failed retryable left cancelled =>
    exact lawful_last live (fun _ _ _ _ => cancelled) (by simp [failed]) (.inr (.inl rfl))
  | case5 attempt live err failed retryable left waits calls outcome more ih =>
    rw [more] at ih
    exact ih.cons live failed retryable waits
  | case6 left attempt live err failed final =>
    refine lawful_last live (fun other same retryable => ?_) (by simp [failed]) (.inr (.inr ⟨err,failed,.inl rfl⟩))
    cases failed.symm.trans same
    exact absurd retryable final

/-- The loop calls `fn` at most `MaxRetries + 1` times and keeps the law from its first attempt on. -/
theorem executeWithRetry_lawful (ctx : Context) (fn : Nat → Option Failure) (maxRetries : Nat) :
    Lawful ctx fn maxRetries 0 (executeWithRetry ctx fn maxRetries).1 (executeWithRetry ctx fn maxRetries).2 := retry_lawful

end loop

/-! ### The circuit breaker -/

inductive CircuitState where
  | closed
  | opened
  | halfOpen
  deriving DecidableEq

/-- The settings of the breaker. -/
structure AdaptiveRetryConfig where
  circuitBreakerEnabled : Bool
  failureThreshold : Int
  recoveryTimeout : Int

/-- The breaker of the direct clients' retries. -/
structure CircuitBreaker where
  failureCount : Int := 0
  lastFailureTime : Int := 0
  state : CircuitState := .closed

def CircuitBreaker.recordFailure (config : AdaptiveRetryConfig) (now : Int) (cb : CircuitBreaker) : CircuitBreaker where
  failureCount := cb.failureCount + 1
  lastFailureTime := now
  state := if config.failureThreshold ≤ cb.failureCount + 1 then .opened else cb.state

def CircuitBreaker.recordSuccess (cb : CircuitBreaker) : CircuitBreaker := { cb with failureCount := 0, state := .closed }

/-- A call of `Execute`: its distance from the one before, how long `fn` takes and whether it succeeds. -/
structure Call where
  wait : Nat
  took : Nat
  ok : Bool

/-- What a call did; `probes` says that it changed the breaker from open to half-open. -/
structure Record where
  probes : Bool
  executed : Bool
  ok : Bool
  start : Int
  finish : Int
  after : CircuitState

/-- The breaker, the clock and the calls so far, the last one first. -/
structure State where
  breaker : CircuitBreaker := {}
  now : Int
  log : List Record := []

/-- `fn` is called and its result recorded; the mutex is held all the time. -/
def State.call (config : AdaptiveRetryConfig) (s : State) (cb : CircuitBreaker) (probes : Bool) (c : Call) : State :=
  let finish := s.now + c.wait + c.took
  let cb := if c.ok then cb.recordSuccess else cb.recordFailure config finish
  ⟨cb,finish,⟨probes,true,c.ok,s.now + c.wait,finish,cb.state⟩ :: s.log⟩

def State.recovered (config : AdaptiveRetryConfig) (s : State) (c : Call) : Prop :=
  config.recoveryTimeout < s.now + c.wait - s.breaker.lastFailureTime

instance (config : AdaptiveRetryConfig) (s : State) (c : Call) : Decidable (s.recovered config c) :=
  inferInstanceAs (Decidable (_ < _))

def execute (config : AdaptiveRetryConfig) (s : State) (c : Call) : State :=
  if !config.circuitBreakerEnabled then
    ⟨s.breaker,s.now + c.wait + c.took,⟨false,true,c.ok,s.now + c.wait,s.now + c.wait + c.took,s.breaker.state⟩ :: s.log⟩
  else if s.breaker.state = .opened then
    if s.recovered config c then s.call config { s.breaker with state := .halfOpen, failureCount := 0 } true c
    else ⟨s.breaker,s.now + c.wait,⟨false,false,c.ok,s.now + c.wait,s.now + c.wait,.opened⟩ :: s.log⟩
  else s.call config s.breaker false c

/-- A step is a whole call. -/
def step (config : AdaptiveRetryConfig) (s : State) (c : Call) : Option State := some (execute config s c)

/-- A probe is the one call until the breaker closes or opens, and a failed one reopens it. -/
def Record.Settled (r : Record) : Prop :=
  r.probes = true → r.executed = true ∧ r.after ≠ .halfOpen ∧ (r.ok = false → r.after = .opened)

/-- After a failed probe no call is executed for `RecoveryTimeout`. -/
def Spaced (config : AdaptiveRetryConfig) (later r : Record) : Prop :=
  r.probes = true → r.ok = false → later.executed = true → r.finish + config.recoveryTimeout < later.start

/-- Every probe is settled, and a failed one followed by a pause. -/
structure Disciplined (config : AdaptiveRetryConfig) (s : State) : Prop where
  settled : ∀ r ∈ s.log, r.Settled
  spaced : s.log.Pairwise (Spaced config)

/-- A probe fails only where one failure is enough to open the breaker. -/
def Decisive (config : AdaptiveRetryConfig) (s : State) (c : Call) : Prop :=
  config.failureThreshold ≤ 1 ∨ s.breaker.state ≠ .opened ∨ ¬ s.recovered config c ∨ c.ok = true

/-- Every failed probe is longer ago than `RecoveryTimeout`. -/
def Past (config : AdaptiveRetryConfig) (s : State) (now : Int) : Prop :=
  ∀ r ∈ s.log, r.probes = true → r.ok = false → r.finish + config.recoveryTimeout < now

structure Kept (config : AdaptiveRetryConfig) (s : State) : Prop where
  disciplined : Disciplined config s
  steady : s.breaker.state ≠ .halfOpen
  enabled : ∀ r ∈ s.log, r.probes = true → config.circuitBreakerEnabled = true
  waits : ∀ r ∈ s.log, r.probes = true → r.ok = false →
    s.breaker.state = .opened ∧ s.breaker.lastFailureTime = r.finish ∨ r.finish + config.recoveryTimeout < s.now

variable {config : AdaptiveRetryConfig} {s : State} {c : Call}

theorem Kept.called {cb : CircuitBreaker} {probes : Bool} (kept : Kept config s) (past : Past config s (s.now + c.wait))
    (enabled : probes = true → config.circuitBreakerEnabled = true) (steady : cb.state ≠ .halfOpen)
    (opens : probes = true → c.ok = false → cb.state = .opened ∧ cb.lastFailureTime = s.now + c.wait + c.took) :
    Kept config ⟨cb,s.now + c.wait + c.took,
      ⟨probes,true,c.ok,s.now + c.wait,s.now + c.wait + c.took,cb.state⟩ :: s.log⟩ where
  disciplined :=
    { settled := forall_mem_cons.mpr
        ⟨fun isProbe => ⟨rfl,steady,fun failed => (opens isProbe failed).1⟩,kept.disciplined.settled⟩
      spaced := pairwise_cons.mpr ⟨fun r member isProbe failed _ => past r member isProbe failed,kept.disciplined.spaced⟩ }
  steady := steady
  enabled := forall_mem_cons.mpr ⟨enabled,kept.enabled⟩
  waits := by
    refine forall_mem_cons.mpr ⟨fun isProbe failed => .inl (opens isProbe failed),fun r member isProbe failed => ?_⟩
    have ended := past r member isProbe failed
    exact .inr (by dsimp only; omega)

theorem Kept.past (kept : Kept config s) (shut : s.breaker.state ≠ .opened) : Past config s (s.now + c.wait) := by
  intro r member isProbe failed
  have ended := (kept.waits r member isProbe failed).resolve_left fun both => shut both.1
  omega

open CircuitBreaker

theorem Kept.execute (kept : Kept config s) (decisive : Decisive config s c) : Kept config (execute config s c) := by
  fun_cases DirectRetries.execute config s c with
  | case1 off =>
    refine kept.called (fun r member isProbe => ?_) nofun kept.steady nofun
    simp [kept.enabled r member isProbe] at off
  | case2 on opened recovered =>
    have enough : c.ok = false → config.failureThreshold ≤ 1 := by
      simpa [Decisive,opened,recovered,or_iff_not_imp_right] using decisive
    refine kept.called (fun r member isProbe failed => ?_) (fun _ => by simpa using on) ?_ (fun _ failed => ?_)
    · have ended := kept.waits r member isProbe failed
      unfold State.recovered at recovered
      omega
    · cases ok : c.ok with
      | true => simp [recordSuccess]
      | false => simp [recordFailure,enough ok]
    · simp [recordFailure,failed,enough failed]
  | case3 on opened early =>
    obtain ⟨⟨settled,spaced⟩,steady,enabled,waits⟩ := kept
    refine ⟨⟨forall_mem_cons.mpr ⟨nofun,settled⟩,pairwise_cons.mpr ⟨fun _ _ _ _ => nofun,spaced⟩⟩,steady,
      forall_mem_cons.mpr ⟨nofun,enabled⟩,forall_mem_cons.mpr ⟨nofun,fun r member isProbe failed => ?_⟩⟩
    exact (waits r member isProbe failed).imp_right fun ended => by dsimp only; omega
  | case4 on shut =>
    refine kept.called (kept.past shut) nofun ?_ nofun
    cases c.ok with
    | true => simp [recordSuccess]
    | false =>
      by_cases enough : config.failureThreshold ≤ s.breaker.failureCount + 1
      · simp [recordFailure,enough]
      · simp [recordFailure,enough,kept.steady]

/-- If a probe fails only where one failure opens the breaker, each change from open to half-open is followed by one
    call that closes or reopens it, and a failed one by a pause of `RecoveryTimeout`. -/
theorem probes_disciplined (config : AdaptiveRetryConfig) (now : Int) (calls : List Call)
    (meets : Meets (step config) (Decisive config) ⟨{},now,[]⟩ calls) :
    Always (step config) (Disciplined config) ⟨{},now,[]⟩ calls := by
  have start : Kept config ⟨{},now,[]⟩ := ⟨⟨nofun,.nil⟩,nofun,nofun,nofun⟩
  refine (always_of_keeps (fun s c next kept decisive taken => ?_) start meets).imp fun _ kept => kept.disciplined
  cases taken
  exact kept.execute decisive

theorem probes_disciplined_reopened :
    Always (step ⟨true,1,10⟩) (Disciplined ⟨true,1,10⟩) ⟨{},0,[]⟩ [⟨0,1,false⟩,⟨20,1,false⟩,⟨5,1,true⟩] :=
  probes_disciplined ⟨true,1,10⟩ 0 _ ⟨.inl (Int.le_refl 1),fun _ _ => ⟨.inl (Int.le_refl 1),fun _ _ =>
    ⟨.inl (Int.le_refl 1),fun _ _ => trivial⟩⟩⟩

/-- With a threshold of two, a failed probe leaves the breaker half-open, and the next call runs at once. -/
theorem probe_undecided :
    ¬ Always (step ⟨true,2,10⟩) (Disciplined ⟨true,2,10⟩) ⟨{},0,[]⟩ [⟨0,1,false⟩,⟨0,1,false⟩,⟨20,1,false⟩,⟨0,1,true⟩] := by
  intro always
  have last : Disciplined ⟨true,2,10⟩ _ := always.last rfl
  exact (last.settled ⟨true,true,false,22,23,.halfOpen⟩ (.tail _ (.head _)) rfl).2.1 rfl

end McpBridge.DirectRetries
