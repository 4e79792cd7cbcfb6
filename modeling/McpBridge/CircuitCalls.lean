import McpBridge.HealthChecks
import McpBridge.Tallies

/-!
Calls through a circuit breaker of the gateway (`circuit.CircuitBreaker`). `Call` looks at the state, runs the function
without the lock and records the result, perhaps in another phase.
-/
namespace McpBridge.CircuitCalls
open Runs Tallies
open Routing (Breaker BreakerState)
open HealthChecks (checkAndTransitionToHalfOpen)

def reset (b : Breaker) : Breaker := { b with state := .closed, failures := 0, successes := 0 }

inductive Pc where
  | start
  | running (phase : Nat)
  | returned
  deriving DecidableEq

inductive Entry where
  | success
  | failure
  | reset
  | opening
  deriving DecidableEq

/-- The breaker, its calls and what they recorded. -/
structure State where
  breaker : Breaker
  now : Int
  calls : Nat → Pc := fun _ => .start
  recorded : List Entry := []
  /-- How often the breaker became half-open. -/
  phase : Nat := 0
  evidence : Nat := 0
  /-- The evidence at each step from half-open to closed. -/
  closings : List Nat := []

inductive Label where
  | call (i : Nat)
  | record (i : Nat) (ok : Bool)
  | recovery
  | reset
  | elapse (duration : Nat)
  deriving DecidableEq

namespace State

def begin (s : State) (i : Nat) : State :=
  { s with calls := Function.update s.calls i (if s.breaker.state = .opened then .returned else .running s.phase) }

def succeed (s : State) (i phase : Nat) : State :=
  let breaker := s.breaker.recordSuccess
  let evidence := if phase = s.phase then s.evidence + 1 else s.evidence
  { s with
    breaker, evidence
    calls := Function.update s.calls i .returned
    recorded := .success :: s.recorded
    closings := if s.breaker.state = .halfOpen ∧ breaker.state = .closed then evidence :: s.closings else s.closings }

def fail (s : State) (i : Nat) : State :=
  let breaker := s.breaker.recordFailure s.now
  { s with
    breaker
    calls := Function.update s.calls i .returned
    recorded := if s.breaker.state ≠ .opened ∧ breaker.state = .opened then .opening :: .failure :: s.recorded
      else .failure :: s.recorded }

def recover (s : State) : State :=
  let breaker := checkAndTransitionToHalfOpen s.breaker s.now
  if s.breaker.state = .opened ∧ breaker.state = .halfOpen then { s with breaker, phase := s.phase + 1, evidence := 0 }
  else { s with breaker }

def clear (s : State) : State :=
  { s with
    breaker := reset s.breaker
    recorded := .reset :: s.recorded
    closings := if s.breaker.state = .halfOpen then s.evidence :: s.closings else s.closings }

end State

/-- A call begins or ends, or the breaker recovers. -/
def step (s : State) : Label → Option State
  | .call i => if s.calls i = .start then some (s.begin i) else none
  | .record i ok =>
    match s.calls i with
    | .running phase => some (if ok then s.succeed i phase else s.fail i)
    | _ => none
  | .recovery => some s.recover
  | .reset => some s.clear
  | .elapse duration => some { s with now := s.now + duration }

def start (maxFailures successThreshold timeout now : Int) : State :=
  { breaker := { maxFailures, successThreshold, timeout }, now }

def failed (log : List Entry) : Nat := streak (· == .failure) log

section
variable {b : Breaker} {now : Int}

structure Bounded (b : Breaker) : Prop where
  maxFailures : 0 < b.maxFailures
  successThreshold : 0 < b.successThreshold
  closed : b.state = .closed → b.failures < b.maxFailures
  halfOpen : b.state = .halfOpen → b.successes < b.successThreshold

theorem Bounded.recordSuccess (bounded : Bounded b) : Bounded b.recordSuccess := by
  obtain ⟨failures,successes,closed,halfOpen⟩ := bounded
  unfold Breaker.recordSuccess
  dsimp only
  split
  next =>
    split
    · exact ⟨failures,successes,fun _ => failures,nofun⟩
    next under => exact ⟨failures,successes,by simp [*],fun _ => Int.not_le.mp under⟩
  next at_ => exact ⟨failures,successes,fun _ => failures,by simp [at_]⟩
  next at_ => exact ⟨failures,successes,by simp [at_],by simp [at_]⟩

theorem Bounded.recordFailure (bounded : Bounded b) : Bounded (b.recordFailure now) := by
  obtain ⟨failures,successes,closed,halfOpen⟩ := bounded
  unfold Breaker.recordFailure
  dsimp only
  split
  next at_ =>
    split
    · exact ⟨failures,successes,nofun,nofun⟩
    next under => exact ⟨failures,successes,fun _ => Int.not_le.mp under,by simp [at_]⟩
  next => exact ⟨failures,successes,nofun,nofun⟩
  next at_ => exact ⟨failures,successes,by simp [at_],by simp [at_]⟩

theorem Bounded.reset (bounded : Bounded b) : Bounded (CircuitCalls.reset b) :=
  ⟨bounded.maxFailures,bounded.successThreshold,fun _ => bounded.maxFailures,nofun⟩

@[simp] theorem recordSuccess_failures : b.recordSuccess.failures = 0 := by
  unfold Breaker.recordSuccess
  dsimp only
  split
  · split <;> rfl
  · rfl
  · rfl

theorem recordFailure_opens : b.state ≠ .opened ∧ (b.recordFailure now).state = .opened ↔
    b.state = .halfOpen ∨ b.state = .closed ∧ b.maxFailures ≤ b.failures + 1 := by
  unfold Breaker.recordFailure
  cases at_ : b.state with
  | closed => by_cases enough : b.maxFailures ≤ b.failures + 1 <;> simp [enough]
  | opened => simp
  | halfOpen => simp

theorem recordFailure_failures : (b.recordFailure now).failures =
    if b.state ≠ .opened ∧ (b.recordFailure now).state = .opened then 0 else b.failures + 1 := by
  unfold Breaker.recordFailure
  cases at_ : b.state with
  | closed => by_cases enough : b.maxFailures ≤ b.failures + 1 <;> simp [enough]
  | opened => simp
  | halfOpen => simp

def settings (b : Breaker) : Int × Int × Int := (b.maxFailures,b.successThreshold,b.timeout)

@[simp] theorem recordSuccess_settings : settings b.recordSuccess = settings b := by
  unfold Breaker.recordSuccess
  dsimp only
  split
  · split <;> rfl
  · rfl
  · rfl

@[simp] theorem recordFailure_settings : settings (b.recordFailure now) = settings b := by
  unfold Breaker.recordFailure
  dsimp only
  split
  · split <;> rfl
  · rfl
  · rfl

end

theorem recover_cases (b : Breaker) (now : Int) : checkAndTransitionToHalfOpen b now = b ∨
    b.state = .opened ∧ checkAndTransitionToHalfOpen b now = { b with state := .halfOpen, successes := 0 } := by
  unfold checkAndTransitionToHalfOpen
  split
  next ready => exact .inr ⟨ready.1,rfl⟩
  next => exact .inl rfl

namespace State

def halfOpen (s : State) : State :=
  { s with breaker := { s.breaker with state := .halfOpen, successes := 0 }, phase := s.phase + 1, evidence := 0 }

end State

inductive Effect (s : State) : Label → State → Prop
  | call (i : Nat) (at_ : s.calls i = .start) : Effect s (.call i) (s.begin i)
  | success (i phase : Nat) (at_ : s.calls i = .running phase) : Effect s (.record i true) (s.succeed i phase)
  | failure (i phase : Nat) (at_ : s.calls i = .running phase) : Effect s (.record i false) (s.fail i)
  | early : Effect s .recovery s
  | recovery (opened : s.breaker.state = .opened) : Effect s .recovery s.halfOpen
  | reset : Effect s .reset s.clear
  | elapse (duration : Nat) : Effect s (.elapse duration) { s with now := s.now + duration }

theorem step_effect {s next : State} {label : Label} (taken : step s label = some next) : Effect s label next := by
  revert taken
  fun_cases step s label <;> rintro ⟨⟩
  case case1 i at_ => exact .call i at_
  case case3 i ok phase at_ =>
    cases ok with
    | true => exact .success i phase at_
    | false => exact .failure i phase at_
  case case5 =>
    unfold State.recover
    obtain same | ⟨opened,same⟩ := recover_cases s.breaker s.now
    · rw [same,if_neg (by rintro ⟨opened,halfOpen⟩; rw [opened] at halfOpen; cases halfOpen)]
      exact .early
    · rw [same,if_pos ⟨opened,rfl⟩]
      exact .recovery opened
  case case6 => exact .reset
  case case7 duration => exact .elapse duration

/-- The failure counter is the number of failures that came last. -/
structure Sound (s : State) : Prop where
  bounded : Bounded s.breaker
  failures : s.breaker.failures = failed s.recorded

section
variable {s next : State} {label : Label}

theorem step_settings (taken : step s label = some next) : settings next.breaker = settings s.breaker := by
  cases step_effect taken with
  | call i at_ => rfl
  | success i phase at_ => exact recordSuccess_settings
  | failure i phase at_ => exact recordFailure_settings
  | early => rfl
  | recovery opened => rfl
  | reset => rfl
  | elapse duration => rfl

theorem failed_cons_failure (log : List Entry) : failed (.failure :: log) = failed log + 1 := streak_cons_of rfl

theorem Sound.kept (sound : Sound s) (taken : step s label = some next) : Sound next := by
  obtain ⟨bounded,failures⟩ := sound
  cases step_effect taken with
  | call | early | elapse => exact ⟨bounded,failures⟩
  | success i phase at_ => exact ⟨bounded.recordSuccess,by simp [State.succeed,failed,streak_cons_of_not]⟩
  | failure i phase at_ =>
    refine ⟨bounded.recordFailure,?_⟩
    show (s.breaker.recordFailure s.now).failures = failed (s.fail i).recorded
    rw [recordFailure_failures]
    simp only [State.fail]
    split
    · simp [failed,streak_cons_of_not]
    · rw [failures,failed_cons_failure]
      rfl
  | recovery opened => exact ⟨⟨bounded.maxFailures,bounded.successThreshold,nofun,fun _ => bounded.successThreshold⟩,failures⟩
  | reset => exact ⟨bounded.reset,by simp [State.clear,CircuitCalls.reset,failed,streak_cons_of_not]⟩

theorem Sound.opens_iff (sound : Sound s) (closed : s.breaker.state = .closed) (taken : step s label = some next) :
    next.breaker.state = .opened ↔
      (∃ i, label = .record i false) ∧ s.breaker.maxFailures ≤ failed (.failure :: s.recorded) := by
  cases step_effect taken with
  | call i at_ => simp [State.begin,closed]
  | success i phase at_ => simp [State.succeed,Breaker.recordSuccess,closed]
  | failure i phase at_ =>
    have opens : _ ∧ (s.breaker.recordFailure s.now).state = .opened ↔ _ := recordFailure_opens
    rw [failed_cons_failure]
    push_cast
    rw [← sound.failures]
    simpa [closed,State.fail] using opens
  | early | elapse => simp [closed]
  | recovery opened =>
    rw [closed] at opened
    cases opened
  | reset => simp [State.clear,CircuitCalls.reset]

end

/-- The counters always are below their limits, and a closed breaker opens exactly at a failure that completes a
    streak. -/
theorem invariant_and_opening_law (maxFailures successThreshold timeout now : Int) (failing : 1 ≤ maxFailures)
    (succeeding : 1 ≤ successThreshold) (s : State)
    (reached : Reaches step (start maxFailures successThreshold timeout now) s) :
    (s.breaker.state = .closed → s.breaker.failures < maxFailures) ∧
      (s.breaker.state = .halfOpen → s.breaker.successes < successThreshold) ∧
      ∀ label next, step s label = some next → s.breaker.state = .closed → (next.breaker.state = .opened ↔
          (∃ i, label = .record i false) ∧ maxFailures ≤ failed (.failure :: s.recorded)) := by
  have configured : settings s.breaker = (maxFailures,successThreshold,timeout) :=
    reaches_keeps (fun _ _ _ kept taken => (step_settings taken).trans kept) rfl reached
  have initial : Sound (start maxFailures successThreshold timeout now) :=
    ⟨⟨Int.lt_of_lt_of_le Int.one_pos failing,Int.lt_of_lt_of_le Int.one_pos succeeding,
      fun _ => Int.lt_of_lt_of_le Int.one_pos failing,nofun⟩,rfl⟩
  have sound : Sound s := reaches_keeps (fun _ _ _ sound taken => sound.kept taken) initial reached
  have failures : s.breaker.maxFailures = maxFailures := congrArg Prod.fst configured
  have successes : s.breaker.successThreshold = successThreshold := congrArg (fun all => all.2.1) configured
  rw [← failures,← successes]
  exact ⟨sound.bounded.closed,sound.bounded.halfOpen,fun label next taken closed => sound.opens_iff closed taken⟩

/-- Two failures in a row open a breaker that allows one. -/
theorem opening_law_twice :
    ∃ s, run step (start 2 1 30 0) [.call 0,.call 1,.record 0 false] = some s ∧ s.breaker.state = .closed ∧
      ((∃ next, step s (.record 1 false) = some next ∧ next.breaker.state = .opened) ∧ s.breaker.failures < 2) := by
  refine ⟨_,rfl,rfl,⟨_,rfl,?_⟩,?_⟩
  · exact ((invariant_and_opening_law 2 1 30 0 (by decide) (by decide) _
      ⟨[.call 0,.call 1,.record 0 false],rfl⟩).2.2 (.record 1 false) _ rfl rfl).mpr ⟨⟨1,rfl⟩,by decide⟩
  · exact (invariant_and_opening_law 2 1 30 0 (by decide) (by decide) _
      ⟨[.call 0,.call 1,.record 0 false],rfl⟩).1 rfl

/-- The breaker closed only when enough calls of the half-open phase had succeeded, and counts just these. -/
structure Evidenced (s : State) : Prop where
  closings : ∀ n ∈ s.closings, s.breaker.successThreshold ≤ n
  counted : s.breaker.state = .halfOpen → s.breaker.successes = s.evidence

/-- No success of a call from an earlier phase is recorded by a half-open breaker. -/
def Fresh (s : State) (label : Label) : Prop :=
  s.breaker.successThreshold ≤ 0 ∨
    ∀ i, label = .record i true → s.breaker.state = .halfOpen → s.calls i = .running s.phase

def Short (b : Breaker) : Prop := b.state = .halfOpen → b.successes = 0 ∨ b.successes < b.successThreshold

section
variable {b : Breaker} {s next : State} {label : Label} {now : Int} {i phase : Nat}

theorem recordSuccess_halfOpen (at_ : b.state = .halfOpen) : b.recordSuccess =
    if b.successThreshold ≤ b.successes + 1 then { b with failures := 0, state := .closed, successes := 0 }
    else { b with failures := 0, successes := b.successes + 1 } := by
  unfold Breaker.recordSuccess
  simp [at_]

theorem recordSuccess_elsewhere (at_ : b.state ≠ .halfOpen) : b.recordSuccess = { b with failures := 0 } := by
  unfold Breaker.recordSuccess
  dsimp only
  split
  next halfOpen => exact absurd halfOpen at_
  next => rfl
  next => rfl

theorem recordFailure_not_halfOpen : (b.recordFailure now).state ≠ .halfOpen := by
  unfold Breaker.recordFailure
  dsimp only
  split
  next at_ => split <;> simp [at_]
  next => simp
  next at_ => simp [at_]

theorem short_step (short : Short s.breaker) (taken : step s label = some next) : Short next.breaker := by
  cases step_effect taken with
  | call i at_ => exact short
  | success i phase at_ =>
    show Short s.breaker.recordSuccess
    by_cases halfOpen : s.breaker.state = .halfOpen
    · rw [recordSuccess_halfOpen halfOpen]
      split
      next => exact nofun
      next under => exact fun _ => .inr (Int.not_le.mp under)
    · rw [recordSuccess_elsewhere halfOpen]
      exact fun again => absurd again halfOpen
  | failure i phase at_ => exact fun halfOpen => absurd halfOpen recordFailure_not_halfOpen
  | early => exact short
  | recovery opened => exact fun _ => .inl rfl
  | reset => exact nofun
  | elapse duration => exact short

/-- The success that closes a half-open breaker. -/
theorem evidenced_closing_iff (short : Short s.breaker) (evidenced : Evidenced s)
    (halfOpen : s.breaker.state = .halfOpen) (closes : s.breaker.successThreshold ≤ s.breaker.successes + 1) :
    Evidenced (s.succeed i phase) ↔ s.breaker.successThreshold ≤ 0 ∨ phase = s.phase := by
  have counted := evidenced.counted halfOpen
  have missing := short halfOpen
  have breaker : (s.succeed i phase).breaker = { s.breaker with failures := 0, state := .closed, successes := 0 } := by
    show s.breaker.recordSuccess = _
    rw [recordSuccess_halfOpen halfOpen,if_pos closes]
  have closings : (s.succeed i phase).closings =
      (if phase = s.phase then s.evidence + 1 else s.evidence) :: s.closings := by
    simp [State.succeed,recordSuccess_halfOpen halfOpen,closes,halfOpen]
  constructor
  · intro after
    have last := after.closings _ (by rw [closings]; exact List.mem_cons_self ..)
    rw [breaker] at last
    by_cases own : phase = s.phase
    · exact .inr own
    · rw [if_neg own] at last
      dsimp only at last
      omega
  · intro fine
    refine ⟨?_,by rw [breaker]; exact nofun⟩
    rw [closings,breaker]
    rw [List.forall_mem_cons]
    refine ⟨?_,evidenced.closings⟩
    dsimp only
    split
    · push_cast
      omega
    next other =>
      omega

/-- A success after which a half-open breaker waits for more. -/
theorem evidenced_counting_iff (evidenced : Evidenced s) (halfOpen : s.breaker.state = .halfOpen)
    (waits : s.breaker.successes + 1 < s.breaker.successThreshold) :
    Evidenced (s.succeed i phase) ↔ phase = s.phase := by
  have counted := evidenced.counted halfOpen
  have breaker : (s.succeed i phase).breaker = { s.breaker with failures := 0, successes := s.breaker.successes + 1 } := by
    show s.breaker.recordSuccess = _
    rw [recordSuccess_halfOpen halfOpen,if_neg (Int.not_le.mpr waits)]
  have closings : (s.succeed i phase).closings = s.closings := by
    simp [State.succeed,recordSuccess_halfOpen halfOpen,Int.not_le.mpr waits,halfOpen]
  have evidence : (s.succeed i phase).evidence = if phase = s.phase then s.evidence + 1 else s.evidence := rfl
  constructor
  · intro after
    have now_counted := after.counted (by rw [breaker]; exact halfOpen)
    rw [breaker,evidence] at now_counted
    by_contra own
    rw [if_neg own] at now_counted
    dsimp only at now_counted
    omega
  · intro own
    refine ⟨by rw [closings,breaker]; exact evidenced.closings,fun _ => ?_⟩
    rw [breaker,evidence,if_pos own]
    push_cast
    omega

theorem evidenced_success_iff (short : Short s.breaker) (evidenced : Evidenced s)
    (halfOpen : s.breaker.state = .halfOpen) :
    Evidenced (s.succeed i phase) ↔ s.breaker.successThreshold ≤ 0 ∨ phase = s.phase := by
  by_cases closes : s.breaker.successThreshold ≤ s.breaker.successes + 1
  · exact evidenced_closing_iff short evidenced halfOpen closes
  · have counted := evidenced.counted halfOpen
    have needed : ¬ s.breaker.successThreshold ≤ 0 := by omega
    rw [evidenced_counting_iff evidenced halfOpen (Int.not_le.mp closes),or_iff_right needed]

theorem evidenced_step_iff (short : Short s.breaker) (evidenced : Evidenced s) (kept : label ≠ .reset)
    (taken : step s label = some next) : Evidenced next ↔ Fresh s label := by
  cases step_effect taken with
  | call | elapse => exact iff_of_true ⟨evidenced.closings,evidenced.counted⟩ (.inr nofun)
  | success i phase at_ =>
    by_cases halfOpen : s.breaker.state = .halfOpen
    · rw [evidenced_success_iff short evidenced halfOpen]
      unfold Fresh
      simp [at_,halfOpen]
    · have breaker : (s.succeed i phase).breaker = { s.breaker with failures := 0 } := recordSuccess_elsewhere halfOpen
      have closings : (s.succeed i phase).closings = s.closings := by simp [State.succeed,halfOpen]
      refine iff_of_true ⟨by rw [closings,breaker]; exact evidenced.closings,?_⟩ (.inr fun _ _ again => absurd again halfOpen)
      rw [breaker]
      exact fun again => absurd again halfOpen
  | failure i phase at_ =>
    have same : (s.breaker.recordFailure s.now).successThreshold = s.breaker.successThreshold :=
      congrArg (fun all => all.2.1) (recordFailure_settings (b := s.breaker))
    refine iff_of_true ⟨?_,fun halfOpen => absurd halfOpen recordFailure_not_halfOpen⟩ (.inr nofun)
    show ∀ n ∈ s.closings,(s.breaker.recordFailure s.now).successThreshold ≤ n
    rw [same]
    exact evidenced.closings
  | early => exact iff_of_true evidenced (.inr nofun)
  | recovery opened => exact iff_of_true ⟨evidenced.closings,fun _ => rfl⟩ (.inr nofun)
  | reset => exact absurd rfl kept

end

/-- Without resets, the breaker closes only on the evidence of the half-open phase exactly when no success of an earlier
    phase's call is recorded while it is half-open. -/
theorem closing_evidence_iff (maxFailures successThreshold timeout now : Int) (labels : List Label) (t : State)
    (kept : ∀ label ∈ labels, label ≠ .reset)
    (executed : run step (start maxFailures successThreshold timeout now) labels = some t) :
    Always step Evidenced (start maxFailures successThreshold timeout now) labels ↔
      Meets step Fresh (start maxFailures successThreshold timeout now) labels := by
  refine always_iff_meets_of_meets (fun s label next short _ _ _ taken => short_step short taken)
    (fun s label next short allowed evidenced taken => evidenced_step_iff short evidenced allowed taken)
    (show Short _ from nofun) ⟨nofun,nofun⟩ (meets_of_mem fun label listed _ => kept label listed) executed

def probed : List Label := [.call 0,.record 0 false,.elapse 2,.recovery,.call 1,.record 1 true]

theorem closing_evidence_probed : ∃ t, run step (start 1 1 1 0) probed = some t ∧ t.breaker.state = .closed ∧
    t.closings = [1] ∧ Always step Evidenced (start 1 1 1 0) probed := by
  have executed : run step (start 1 1 1 0) probed = some _ := rfl
  refine ⟨_,executed,rfl,rfl,(closing_evidence_iff 1 1 1 0 probed _ (by decide) executed).mpr ?_⟩
  iterate 5
    refine ⟨.inr nofun,fun _ taken => ?_⟩
    cases taken
  refine ⟨.inr fun i same _ => ?_,fun _ _ => trivial⟩
  cases same
  rfl

def straddling : List Label := [.call 0,.call 1,.record 1 false,.elapse 2,.recovery,.record 0 true]

theorem closed_without_evidence : ∃ t, run step (start 1 1 1 0) straddling = some t ∧ t.breaker.state = .closed ∧
    t.closings = [0] := ⟨_,rfl,rfl,rfl⟩

end McpBridge.CircuitCalls
