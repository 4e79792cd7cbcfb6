import McpBridge.CircuitCalls
import McpBridge.RedisLimiter

/-!
The Redis rate limiter behind a circuit breaker, with the in-memory limiter as its fallback
(`ratelimit.RedisRateLimiterWithCircuitBreaker`). Each admits at most the configured number in a clock minute; but they
count apart, and a minute in which both admit has the sum.
-/
namespace McpBridge.LimiterFallback
open Admissions Auth Grants HealthChecks RedisLimiter List Option
open MemoryLimiter (InMemoryRateLimiter)
open Routing (Breaker)
open CircuitCalls (settings recordSuccess_settings recordFailure_settings recordSuccess_failures recordFailure_failures
  recordFailure_opens)

/-- `RedisRateLimiterWithCircuitBreaker`, with what Redis has. -/
structure State where
  redis : Redis := fun _ => none
  circuitBreaker : Breaker := { maxFailures := 5, successThreshold := 3, timeout := 30 * second }
  fallback : InMemoryRateLimiter := {}

inductive Limiter where
  | redis
  | fallback
  deriving DecidableEq

def State.useFallback (s : State) (key : String) (config : RateLimitConfig) (now : Nat) : (Limiter × Bool) × State :=
  let (allowed,fallback) := s.fallback.allow key config now
  ((.fallback,allowed),{ s with fallback })

/-- `RedisRateLimiterWithCircuitBreaker.Allow`. Nothing comes between `IsOpen` and the test in `Call`. -/
def State.allow (s : State) (key : String) (config : RateLimitConfig) (now : Nat) (exec burstExec : Exec) :
    (Limiter × Bool) × State :=
  if s.circuitBreaker.state = .opened then s.useFallback key config now else
  match RedisLimiter.allow s.redis key config now now exec burstExec with
  | (.ok allowed,redis) => ((.redis,allowed),{ s with redis, circuitBreaker := s.circuitBreaker.recordSuccess })
  | (.error _,redis) =>
    { s with redis, circuitBreaker := s.circuitBreaker.recordFailure now : State }.useFallback key config now

inductive Kind where
  /-- `Allow`, with what becomes of the two pipelines where they are sent. -/
  | call (key : String) (config : RateLimitConfig) (exec burstExec : Exec)
  | recovery
  | reset

/-- A call or change, and its time. -/
structure Event where
  now : Nat
  kind : Kind

def Event.serve (s : State) (event : Event) : Option (Limiter × Bool) × State :=
  match event.kind with
  | .call key config exec burstExec =>
    (some (s.allow key config event.now exec burstExec).1,(s.allow key config event.now exec burstExec).2)
  | .recovery => (none,{ s with circuitBreaker := checkAndTransitionToHalfOpen s.circuitBreaker event.now })
  | .reset => (none,{ s with circuitBreaker := { s.circuitBreaker with state := .closed, failures := 0, successes := 0 } })

/-- The request that the limiter admitted. -/
def admission (key : String) (limiter : Limiter) : Event × Option (Limiter × Bool) → Option Nat
  | (⟨now,.call key' _ _ _⟩,some (limiter',allowed)) => if key' = key ∧ limiter' = limiter ∧ allowed = true then some now else none
  | _ => none

open Event

def admittedBy (limiter : Limiter) (key : String) (events : List Event) : List Nat :=
  (answers serve {} events).filterMap (admission key limiter)

def inClockMinute (limiter : Limiter) (key : String) (events : List Event) (k : Nat) : Nat :=
  (admittedBy limiter key events).countP fun t => decide (k * oneMinute ≤ t ∧ t < k * oneMinute + oneMinute)

/-- Calls at times that do not decrease, those of the key with one configuration, those of others not in the first
    minute. -/
structure History (key : String) (config : RateLimitConfig) (events : List Event) : Prop where
  ordered : events.Pairwise (·.now ≤ ·.now)
  fixed : ∀ now config' exec burstExec, ⟨now,.call key config' exec burstExec⟩ ∈ events → config' = config
  late : ∀ now key' config' exec burstExec, ⟨now,.call key' config' exec burstExec⟩ ∈ events → key' ≠ key →
    0 < minuteOf now

/-- A call with a pipeline that fails, if it is sent. -/
def Event.Fails (event : Event) : Prop :=
  match event.kind with
  | .call _ _ exec burstExec => exec ≠ .done ∨ burstExec ≠ .done
  | _ => False

/-- The breaker passes calls on to Redis after these events: fewer than five have failed in a row since the start or a
    reset, or none since a recovery on trial. -/
inductive Passes : Bool → Nat → List Event → Prop
  | start : Passes false 0 []
  | reset (events : List Event) (now : Nat) : Passes false 0 (events ++ [⟨now,.reset⟩])
  | recovery (events : List Event) (now : Nat)
      (quiet : ∀ event ∈ events, event.Fails → event.now + 30 * second < now) : Passes true 0 (events ++ [⟨now,.recovery⟩])
  | tick {trial : Bool} {n : Nat} {events : List Event} (now : Nat) (before : Passes trial n events) :
      Passes trial n (events ++ [⟨now,.recovery⟩])
  | works {trial : Bool} {n : Nat} {events : List Event} (now : Nat) (key : String) (config : RateLimitConfig)
      (before : Passes trial n events) : Passes trial 0 (events ++ [⟨now,.call key config .done .done⟩])
  | fails {n : Nat} {events : List Event} (now : Nat) (key : String) (config : RateLimitConfig) (exec burstExec : Exec)
      (before : Passes false n events) (few : n < 4) : Passes false (n + 1) (events ++ [⟨now,.call key config exec burstExec⟩])

def Event.calls (key : String) (k : Nat) : Event → Bool
  | ⟨now,.call key' _ _ _⟩ => decide (key' = key ∧ minuteOf now = k)
  | _ => false

/-- The key has few calls in the clock minute, or Redis fails for all of them, or for none and the breaker passes them. -/
inductive Settled (key : String) (config : RateLimitConfig) (events : List Event) (k : Nat) : Prop
  | few (calls : (events.countP (Event.calls key k) : Int) ≤ config.requestsPerMinute)
  | down (failed : ∀ now exec burstExec, ⟨now,.call key config exec burstExec⟩ ∈ events → minuteOf now = k → exec ≠ .done)
  | up (works : ∀ i now exec burstExec, events[i]? = some ⟨now,.call key config exec burstExec⟩ → minuteOf now = k →
      exec = .done ∧ burstExec = .done ∧ ∃ trial n, Passes trial n (events.take i))

/-! ### The counters of Redis when commands fail -/

section
variable {redis : Redis} {key : String} {ttl now t : Int}

theorem live_dead (dead : (redis key).filter (fun entry => entry.alive now) = none) (later : now ≤ t) :
    live redis key t = 0 := by
  unfold live Store.get
  cases held : redis key with
  | none => rfl
  | some entry =>
    rw [held,filter_some] at dead
    have expired : ¬ entry.alive t = true := by
      intro alive
      have earlier : entry.alive now = true := by
        unfold Entry.alive at alive ⊢
        cases limit : entry.deadline with
        | none => rfl
        | some deadline =>
          rw [limit] at alive
          simp only [all_some,decide_eq_true_eq] at alive ⊢
          omega
      rw [if_pos earlier] at dead
      cases dead
    rw [filter_some,if_neg expired]
    rfl

theorem live_incr_le (later : now ≤ t) : live redis key t ≤ live (incr redis key now).2 key t := by
  cases found : (redis key).filter fun entry => entry.alive now with
  | none =>
    rw [live_dead found later]
    exact Nat.zero_le _
  | some entry =>
    have held : redis key = some entry := (filter_eq_some_iff.mp found).1
    have after : (incr redis key now).2 key = some { entry with value := entry.value + 1 } := by
      unfold incr
      rw [found]
      exact Function.update_self ..
    unfold live Store.get
    rw [held,after,filter_some,filter_some]
    unfold Entry.alive
    split <;> simp

theorem live_expire_le (later : now ≤ t) (soon : t ≤ now + ttl) :
    live redis key t ≤ live (expire redis key ttl now) key t := by
  cases found : (redis key).filter fun entry => entry.alive now with
  | none =>
    rw [live_dead found later]
    exact Nat.zero_le _
  | some entry =>
    obtain ⟨held,alive⟩ := filter_eq_some_iff.mp found
    rw [expire_alive held alive]
    unfold live Store.get
    rw [held,Function.update_self,filter_some,filter_some]
    have lives : ({ entry with deadline := some (now + ttl) } : Entry Nat).alive t = true := by
      simpa [Entry.alive] using soon
    split <;> simp

theorem live_pipeline_le (later : now ≤ t) (soon : t ≤ now + ttl) (exec : Exec) :
    live redis key t ≤ live (pipeline redis key ttl now exec).2 key t := by
  cases exec with
  | done => exact (live_incr_le later).trans (live_expire_le later soon)
  | failed incremented expiring =>
    have first : live redis key t ≤ live (if incremented then (incr redis key now).2 else redis) key t := by
      split
      · exact live_incr_le later
      · exact Nat.le_refl _
    simp only [pipeline]
    split
    · exact first.trans (live_expire_le later soon)
    · exact first

end

section
variable {redis : Redis} {key other : String} {config : RateLimitConfig} {now t : Nat} {exec burstExec : Exec}
  {keeps : Redis → Prop}

/-- What the two pipelines of a call keep, the call keeps. -/
theorem allow_rule (start : keeps redis)
    (first : ∀ redis, keeps redis → keeps (pipeline redis (redisKey key now) (minute + second) now exec).2)
    (burst : ∀ redis, keeps redis → keeps (pipeline redis (burstKey key now) (10 * second + second) now burstExec).2) :
    keeps (RedisLimiter.allow redis key config now now exec burstExec).2 := by
  have counted := first redis start
  unfold RedisLimiter.allow checkRateLimit checkBurstLimit
  split
  · exact start
  · generalize pipeline redis (redisKey key now) (minute + second) now exec = answer at counted
    obtain ⟨_ | count,redis'⟩ := answer
    · exact counted
    · have bursted := burst redis' counted
      dsimp only
      split
      · exact counted
      · split
        · generalize pipeline redis' (burstKey key now) (10 * second + second) now burstExec = answer at bursted
          obtain ⟨_ | burstCount,redis''⟩ := answer <;> exact bursted
        · exact counted

/-- A call that is admitted has been counted. -/
theorem allow_true (limited : 0 < config.requestsPerMinute)
    (allowed : (RedisLimiter.allow redis key config now now exec burstExec).1 = .ok true)
    (minute : keeps (Call.counted ⟨key,config,now⟩ redis))
    (burst : ∀ redis, keeps redis → keeps (pipeline redis (burstKey key now) (10 * second + second) now burstExec).2) :
    (live redis (redisKey key now) now : Int) < config.requestsPerMinute ∧
      keeps (RedisLimiter.allow redis key config now now exec burstExec).2 := by
  have bursted := burst _ minute
  unfold Call.counted at minute bursted
  unfold RedisLimiter.allow checkRateLimit checkBurstLimit at allowed ⊢
  rw [if_neg (by omega)] at allowed ⊢
  cases exec with
  | failed incremented expiring => simp [pipeline] at allowed
  | done =>
    rw [pipeline_done] at allowed minute bursted ⊢
    dsimp only at allowed minute bursted ⊢
    split at allowed
    next => cases allowed
    next under =>
      rw [if_neg under]
      refine ⟨by push_cast at under; omega,?_⟩
      split
      next =>
        revert bursted
        split
        next _ redis' same => exact fun kept => by rw [same] at kept; exact kept
        next _ redis' same => exact fun kept => by rw [same] at kept; exact kept
      next => exact minute

/-- From a time on, the counters have at least the admitted requests. -/
def Covers (key : String) (admitted : List Nat) (u : Nat) (redis : Redis) : Prop :=
  ∀ t, u ≤ t → inMinute admitted t ≤ live redis (redisKey key t) t

variable {admitted : List Nat}

theorem covers_minute (covers : Covers key admitted now redis) :
    Covers key admitted now (pipeline redis (redisKey other now) (minute + second) now exec).2 := by
  intro t later
  refine (covers t later).trans ?_
  by_cases same : redisKey key t = redisKey other now
  · have together := (redisKey_eq.mp same).2
    rw [same]
    refine live_pipeline_le (by omega) ?_ exec
    simp only [minuteOf,unix] at together
    simp only [minute,second]
    omega
  · exact Nat.le_of_eq (live_pipeline_other same exec).symm

theorem covers_burst (past : ∀ s ∈ admitted, s ≤ now) (late : other ≠ key → 0 < minuteOf now)
    (covers : Covers key admitted now redis) : Covers key admitted now
      (pipeline redis (burstKey other now) (10 * second + second) now burstExec).2 := by
  intro t later
  by_cases clash : burstKey other now = redisKey key t
  · -- the number of the ten seconds is that of a minute still to come
    obtain ⟨named,numbers⟩ := burstKey_eq_redisKey.mp clash
    have foreign : other ≠ key := fun same => burst_ne key (same ▸ named)
    have clock := late foreign
    have none_yet : inMinute admitted t = 0 := by
      refine countP_eq_zero.mpr fun s listed => ?_
      have earlier := past s listed
      rw [decide_eq_true_eq]
      simp only [tenOf,minuteOf,unix] at numbers clock ⊢
      omega
    rw [none_yet]
    exact Nat.zero_le _
  · rw [live_pipeline_other (Ne.symm clash)]
    exact covers t later

theorem covers_counted (covers : Covers key admitted now redis) :
    Covers key (admitted ++ [now]) now (Call.counted ⟨key,config,now⟩ redis) := by
  intro t later
  rw [inMinute_concat,show redisKey key t = redisKey (Call.mk key config now).key t from rfl,live_counted_own]
  dsimp only
  split
  next same =>
    have counted := covers now (Nat.le_refl now)
    rw [inMinute_congr _ same] at counted
    omega
  next => exact covers t later

end

/-! ### Both limiters over a history -/

def fallbackCall : Event × Option (Limiter × Bool) → Option MemoryLimiter.Call
  | (⟨now,.call key config _ _⟩,some (.fallback,_)) => some ⟨key,config,now⟩
  | _ => none

def fallbackCalls (events : List Event) : List MemoryLimiter.Call :=
  (answers serve {} events).filterMap fallbackCall

section
variable {s : State} {key : String} {config : RateLimitConfig} {now : Nat} {exec burstExec : Exec}

/-- A call is decided by the fallback, perhaps after a failed attempt, or by Redis. -/
theorem allow_cases (s : State) (key : String) (config : RateLimitConfig) (now : Nat) (exec burstExec : Exec) :
    ((s.allow key config now exec burstExec).1 = (.fallback,(s.fallback.allow key config now).1) ∧
      (s.allow key config now exec burstExec).2.fallback = (s.fallback.allow key config now).2 ∧
      ((s.allow key config now exec burstExec).2.redis = s.redis ∨ (s.allow key config now exec burstExec).2.redis =
        (RedisLimiter.allow s.redis key config now now exec burstExec).2)) ∨
    ∃ allowed, (RedisLimiter.allow s.redis key config now now exec burstExec).1 = .ok allowed ∧
      (s.allow key config now exec burstExec).1 = (.redis,allowed) ∧
      (s.allow key config now exec burstExec).2.fallback = s.fallback ∧
      (s.allow key config now exec burstExec).2.redis =
        (RedisLimiter.allow s.redis key config now now exec burstExec).2 := by
  unfold State.allow
  split
  next => exact .inl ⟨rfl,rfl,.inl rfl⟩
  next =>
    split
    next allowed redis same => exact .inr ⟨allowed,by rw [same],rfl,rfl,by rw [same]⟩
    next _ redis same => exact .inl ⟨rfl,rfl,.inr (by rw [same]; rfl)⟩

end

section
variable {key : String} {config : RateLimitConfig} {events : List Event} {event : Event} {limiter : Limiter}
  {answered : Event × Option (Limiter × Bool)}

theorem History.init (history : History key config (events ++ [event])) : History key config events where
  ordered := (pairwise_append.mp history.ordered).1
  fixed now config' exec burstExec listed := history.fixed now config' exec burstExec (mem_append_left _ listed)
  late now key' config' exec burstExec listed :=
    history.late now key' config' exec burstExec (mem_append_left _ listed)

theorem History.last (history : History key config (events ++ [event])) : ∀ earlier ∈ events, earlier.now ≤ event.now :=
  fun earlier listed => (pairwise_append.mp history.ordered).2.2 earlier listed event (mem_singleton_self _)

theorem filterMap_one {α β : Type} (f : α → Option β) (x : α) : [x].filterMap f = (f x).toList := by
  cases found : f x with
  | none => exact filterMap_cons_none found
  | some y => exact filterMap_cons_some found

theorem admittedBy_concat : admittedBy limiter key (events ++ [event]) = admittedBy limiter key events ++
    (admission key limiter (event,(event.serve (after serve {} events)).1)).toList := by
  unfold admittedBy
  rw [answers_concat,filterMap_append,filterMap_one]

theorem fallbackCalls_concat : fallbackCalls (events ++ [event]) = fallbackCalls events ++
    (fallbackCall (event,(event.serve (after serve {} events)).1)).toList := by
  unfold fallbackCalls
  rw [answers_concat,filterMap_append,filterMap_one]

theorem admission_of {t : Nat}
    (passed : admission key limiter answered = some t) :
    ∃ config exec burstExec, answered.1 = ⟨t,.call key config exec burstExec⟩ := by
  unfold admission at passed
  split at passed
  next now key' config exec burstExec limiter' allowed =>
    split at passed
    next conditions =>
      obtain ⟨rfl,_⟩ := conditions
      cases passed
      exact ⟨config,exec,burstExec,rfl⟩
    next => cases passed
  next => cases passed

theorem mem_admittedBy {t : Nat} (listed : t ∈ admittedBy limiter key events) :
    ∃ config exec burstExec, ⟨t,.call key config exec burstExec⟩ ∈ events := by
  obtain ⟨answered,member,passed⟩ := mem_filterMap.mp listed
  obtain ⟨config,exec,burstExec,made⟩ := admission_of passed
  exact ⟨config,exec,burstExec,made ▸ input_of_answered member⟩

theorem admittedBy_le {u : Nat} (current : ∀ event ∈ events, event.now ≤ u) :
    ∀ t ∈ admittedBy limiter key events, t ≤ u := by
  intro t listed
  obtain ⟨_,_,_,member⟩ := mem_admittedBy listed
  exact current _ member

/-- What Redis admitted is counted there, with no minute above the limit; the fallback has had the calls left to it. -/
structure Tracks (key : String) (config : RateLimitConfig) (events : List Event) (s : State) : Prop where
  covers : ∀ u, (∀ event ∈ events, event.now ≤ u) → Covers key (admittedBy .redis key events) u s.redis
  bounded : ∀ t, (inMinute (admittedBy .redis key events) t : Int) ≤ config.requestsPerMinute
  fallback : s.fallback = after MemoryLimiter.Call.serve (MemoryLimiter.fresh (10 * second)) (fallbackCalls events)

variable {s next : State}

section
variable (tracks : Tracks key config events s)
include tracks

theorem Tracks.idle (admits : admittedBy .redis key (events ++ [event]) = admittedBy .redis key events)
    (covers : Covers key (admittedBy .redis key events) event.now next.redis)
    (fallback : next.fallback = after MemoryLimiter.Call.serve (MemoryLimiter.fresh (10 * second))
      (fallbackCalls (events ++ [event]))) : Tracks key config (events ++ [event]) next where
  covers u later t due := by
    rw [admits]
    exact covers t (Nat.le_trans (later event (mem_append_right _ (mem_singleton_self _))) due)
  bounded := by
    rw [admits]
    exact tracks.bounded
  fallback := fallback

theorem Tracks.admits {redis : Redis}
    (admits : admittedBy .redis key (events ++ [event]) = admittedBy .redis key events ++ [event.now])
    (current : ∀ earlier ∈ events, earlier.now ≤ event.now)
    (under : (live s.redis (redisKey key event.now) event.now : Int) < config.requestsPerMinute)
    (covers : Covers key (admittedBy .redis key events ++ [event.now]) event.now redis) (written : next.redis = redis)
    (fallback : next.fallback = after MemoryLimiter.Call.serve (MemoryLimiter.fresh (10 * second))
      (fallbackCalls (events ++ [event]))) : Tracks key config (events ++ [event]) next where
  covers u later t due := by
    rw [admits,written]
    exact covers t (Nat.le_trans (later event (mem_append_right _ (mem_singleton_self _))) due)
  bounded t := by
    rw [admits,inMinute_concat]
    split
    next same =>
      have counted := tracks.covers event.now current event.now (Nat.le_refl _)
      rw [inMinute_congr _ same] at counted
      omega
    next => simpa using tracks.bounded t
  fallback := fallback

theorem Tracks.unanswered (current : ∀ earlier ∈ events, earlier.now ≤ event.now)
    (silent : (event.serve (after serve {} events)).1 = none) (redis : next.redis = s.redis)
    (fallback : next.fallback = s.fallback) : Tracks key config (events ++ [event]) next := by
  refine tracks.idle ?_ ?_ ?_
  · rw [admittedBy_concat,silent]
    simp [admission]
  · rw [redis]
    exact tracks.covers event.now current
  · rw [fallbackCalls_concat,silent,fallback,tracks.fallback]
    simp [fallbackCall]

end

section
variable (limited : 0 < config.requestsPerMinute)
include limited

theorem tracks_call {now : Nat} {key' : String} {config' : RateLimitConfig} {exec burstExec : Exec}
    (history : History key config (events ++ [⟨now,.call key' config' exec burstExec⟩]))
    (state : after serve {} events = s) (tracks : Tracks key config events s) :
    Tracks key config (events ++ [⟨now,.call key' config' exec burstExec⟩]) (s.allow key' config' now exec burstExec).2 := by
  have late : key' ≠ key → 0 < minuteOf now := history.late now key' config' exec burstExec (by simp)
  have current : ∀ event ∈ events, event.now ≤ now := history.last
  have past : ∀ t ∈ admittedBy .redis key events, t ≤ now := admittedBy_le current
  have covers := tracks.covers now current
  have tried : Covers key (admittedBy .redis key events) now
      (RedisLimiter.allow s.redis key' config' now now exec burstExec).2 :=
    allow_rule covers (fun _ => covers_minute) (fun _ => covers_burst past late)
  have served : (serve (after serve {} events) ⟨now,.call key' config' exec burstExec⟩).1 =
      some (s.allow key' config' now exec burstExec).1 := by rw [state]; rfl
  obtain ⟨reply,fallback,redis⟩ | ⟨allowed,result,reply,fallback,redis⟩ := allow_cases s key' config' now exec burstExec
  · refine tracks.idle ?_ ?_ ?_
    · rw [admittedBy_concat,served,reply]
      simp [admission]
    · obtain untouched | attempted := redis
      · exact untouched ▸ covers
      · exact attempted ▸ tried
    · rw [fallbackCalls_concat,served,reply,fallback,tracks.fallback]
      simp [fallbackCall,MemoryLimiter.Call.serve]
  · have kept : (s.allow key' config' now exec burstExec).2.fallback =
        after MemoryLimiter.Call.serve (MemoryLimiter.fresh (10 * second))
          (fallbackCalls (events ++ [⟨now,.call key' config' exec burstExec⟩])) := by
      rw [fallback,fallbackCalls_concat,served,reply,tracks.fallback]
      simp [fallbackCall]
    by_cases own : key' = key ∧ allowed = true
    · obtain ⟨rfl,rfl⟩ := own
      have configured : config' = config := history.fixed now config' exec burstExec (by simp)
      subst configured
      have new : ∀ t ∈ admittedBy .redis key' events ++ [now], t ≤ now := by
        intro t listed
        obtain earlier | last := mem_append.mp listed
        · exact past t earlier
        · exact Nat.le_of_eq (mem_singleton.mp last)
      obtain ⟨under,counted⟩ := allow_true limited result (covers_counted covers) fun _ => covers_burst new late
      refine tracks.admits ?_ current under counted redis kept
      rw [admittedBy_concat,served,reply]
      simp [admission]
    · refine tracks.idle ?_ (redis ▸ tried) kept
      rw [admittedBy_concat,served,reply]
      simp [admission,own]

theorem tracks_after (history : History key config events) : Tracks key config events (after serve {} events) := by
  have start : Tracks key config [] {} := ⟨fun _ _ _ _ => Nat.zero_le _,fun _ => Int.le_of_lt limited,rfl⟩
  refine after_keeps (Tracks key config) (fun _ _ => History.init) start (fun events event history tracks => ?_) events history
  obtain ⟨now,kind⟩ := event
  cases kind with
  | call key' config' exec burstExec => exact tracks_call limited history rfl tracks
  | recovery | reset => exact tracks.unanswered history.last rfl rfl rfl

/-- The fallback admits what it would if the calls left to it were all there are. -/
theorem admittedBy_fallback (history : History key config events) :
    (admittedBy .fallback key events).map (fun t : Nat => (t : Int)) =
      MemoryLimiter.admitted (MemoryLimiter.fresh (10 * second)) key (fallbackCalls events) := by
  induction events using reverseRecOn with
  | nil => rfl
  | append_singleton events event ih =>
    have fallback := (tracks_after limited history.init).fallback
    rw [admittedBy_concat,map_append,ih history.init,fallbackCalls_concat]
    obtain ⟨now,kind⟩ := event
    cases kind with
    | recovery | reset => simp [admission,fallbackCall]
    | call key' config' exec burstExec =>
      simp only [serve]
      obtain ⟨reply,_⟩ | ⟨allowed,_,reply,_⟩ := allow_cases (after serve {} events) key' config' now exec burstExec
      · rw [reply,fallback]
        rw [fallbackCall,toList_some,MemoryLimiter.admitted_concat]
        simp only [admission,true_and]
        split
        next passes => exact congrArg _ (if_pos passes).symm
        next rejects => exact congrArg _ (if_neg rejects).symm
      · rw [reply]
        simp [admission,fallbackCall]

end

theorem fallbackCall_of {call : MemoryLimiter.Call}
    (left : fallbackCall answered = some call) : (answered.1.now : Int) = call.now ∧
      ∃ exec burstExec, answered.1.kind = .call call.key call.config exec burstExec := by
  obtain ⟨⟨now,kind⟩,reply⟩ := answered
  unfold fallbackCall at left
  split at left
  next same =>
    cases same
    cases left
    exact ⟨rfl,_,_,rfl⟩
  next => cases left

theorem fallback_history (history : History key config events) : MemoryLimiter.History key config (fallbackCalls events) where
  ordered := by
    refine (answers_pairwise history.ordered).filterMap _ fun first second earlier call left call' left' => ?_
    rw [← (fallbackCall_of left).1,← (fallbackCall_of left').1]
    omega
  fixed call listed own := by
    obtain ⟨⟨⟨now,kind⟩,reply⟩,member,left⟩ := mem_filterMap.mp listed
    obtain ⟨_,exec,burstExec,made⟩ := fallbackCall_of left
    have input := input_of_answered member
    dsimp only at made input
    rw [made,own] at input
    exact history.fixed now call.config exec burstExec input

theorem clock_minute (k t : Nat) : k * oneMinute ≤ t ∧ t < k * oneMinute + oneMinute ↔ minuteOf t = k := by
  simp only [oneMinute,minuteOf,unix]
  omega

section
variable (limited : 0 < config.requestsPerMinute) (history : History key config events) (k : Nat)
include limited history k

theorem redis_minute_le : (inClockMinute .redis key events k : Int) ≤ config.requestsPerMinute := by
  have bounded := (tracks_after limited history).bounded (k * oneMinute)
  have number : minuteOf (k * oneMinute) = k := (clock_minute k _).mp ⟨Nat.le_refl _,by simp [oneMinute]⟩
  rw [inMinute,number] at bounded
  unfold inClockMinute
  rwa [show (fun t => decide (k * oneMinute ≤ t ∧ t < k * oneMinute + oneMinute)) = fun t => decide (minuteOf t = k) from
    funext fun t => decide_eq_decide.mpr (clock_minute k t)]

theorem fallback_minute_le : (inClockMinute .fallback key events k : Int) ≤ config.requestsPerMinute := by
  have calls := fallback_history history
  have paced : Paced config.requestsPerMinute minute
      (MemoryLimiter.admitted (MemoryLimiter.fresh (10 * second)) key (fallbackCalls events)) :=
    (MemoryLimiter.admitted_paced limited (fun _ => by decide) calls).1
  have bounded := (paced.windows (MemoryLimiter.admitted_ordered calls.ordered) (Int.le_of_lt limited) (k * oneMinute : Nat)).1
  rw [← admittedBy_fallback limited history,countP_map] at bounded
  refine Int.le_trans (Int.ofNat_le.mpr (countP_mono_left fun t _ inside => ?_)) bounded
  have width : (oneMinute : Int) = minute := rfl
  rw [decide_eq_true_eq] at inside
  rw [Function.comp_apply,decide_eq_true_eq,← width]
  omega

end

end

/-! ### The minutes of the key -/

section
variable {s : State} {key : String} {config : RateLimitConfig} {now : Nat} {exec burstExec : Exec}

theorem redis_allow_done (redis : Redis) :
    ∃ allowed after, RedisLimiter.allow redis key config now now .done .done = (.ok allowed,after) := by
  unfold RedisLimiter.allow checkRateLimit checkBurstLimit
  simp only [pipeline]
  split
  · exact ⟨_,_,rfl⟩
  · split
    · exact ⟨_,_,rfl⟩
    · split <;> exact ⟨_,_,rfl⟩

/-- An open breaker stays as it is, another one records how the attempt at Redis ended. -/
theorem allow_breaker : (s.circuitBreaker.state = .opened ∧
      (s.allow key config now exec burstExec).2.circuitBreaker = s.circuitBreaker) ∨
    (s.allow key config now exec burstExec).2.circuitBreaker = s.circuitBreaker.recordSuccess ∨
    (exec ≠ .done ∨ burstExec ≠ .done) ∧
      (s.allow key config now exec burstExec).2.circuitBreaker = s.circuitBreaker.recordFailure now := by
  unfold State.allow
  split
  next opened => exact .inl ⟨opened,rfl⟩
  next =>
    split
    next => exact .inr (.inl rfl)
    next failed =>
      refine .inr (.inr ⟨?_,rfl⟩)
      by_contra done
      rw [not_or,not_not,not_not] at done
      obtain ⟨rfl,rfl⟩ := done
      obtain ⟨_,_,allowed⟩ := @redis_allow_done key config now s.redis
      rw [allowed] at failed
      cases failed

theorem allow_done (passes : s.circuitBreaker.state ≠ .opened) :
    (s.allow key config now .done .done).1.1 = .redis ∧
      (s.allow key config now .done .done).2.circuitBreaker = s.circuitBreaker.recordSuccess := by
  obtain ⟨_,_,allowed⟩ := @redis_allow_done key config now s.redis
  unfold State.allow
  rw [if_neg passes,allowed]
  exact ⟨rfl,rfl⟩

theorem allow_failed (limited : 0 < config.requestsPerMinute) (failed : exec ≠ .done) :
    (s.allow key config now exec burstExec).1.1 = .fallback := by
  have refused : ∃ err after, RedisLimiter.allow s.redis key config now now exec burstExec = (.error err,after) := by
    unfold RedisLimiter.allow checkRateLimit
    cases exec with
    | done => exact absurd rfl failed
    | failed incremented expiring => exact ⟨_,_,by rw [if_neg (by omega)]; rfl⟩
  obtain ⟨err,after,refused⟩ := refused
  unfold State.allow
  rw [refused]
  split <;> rfl

end

section
variable {key : String} {config : RateLimitConfig} {events : List Event} {limiter : Limiter} {trial : Bool} {n : Nat}

theorem recordSuccess_last (b : Breaker) : b.recordSuccess.lastFailureTime = b.lastFailureTime := by
  unfold Breaker.recordSuccess
  dsimp only
  split <;> [split; skip; skip] <;> rfl

theorem recordFailure_last (b : Breaker) (now : Int) : (b.recordFailure now).lastFailureTime = some now := by
  unfold Breaker.recordFailure
  dsimp only
  split <;> [split; skip; skip] <;> rfl

theorem recordSuccess_passes {b : Breaker} (passes : b.state ≠ .opened) : b.recordSuccess.state ≠ .opened := by
  unfold Breaker.recordSuccess
  dsimp only
  split <;> [split; skip; skip] <;> simp_all

/-- The breaker keeps its settings, and its last failure is that of a failing call. -/
theorem breaker_after (events : List Event) :
    settings (after serve {} events).circuitBreaker = (5,3,30 * second) ∧
      ∀ t ∈ (after serve {} events).circuitBreaker.lastFailureTime, ∃ event ∈ events, event.Fails ∧ (event.now : Int) = t := by
  induction events using reverseRecOn with
  | nil => exact ⟨rfl,nofun⟩
  | append_singleton events event ih =>
    have kept : ∀ b : Breaker, settings b = settings (after serve {} events).circuitBreaker →
        (∀ t ∈ b.lastFailureTime, t ∈ (after serve {} events).circuitBreaker.lastFailureTime ∨ event.Fails ∧ event.now = t) →
        settings b = (5,3,30 * second) ∧
          ∀ t ∈ b.lastFailureTime, ∃ event' ∈ events ++ [event], event'.Fails ∧ (event'.now : Int) = t := by
      refine fun b same last => ⟨same.trans ih.1,fun t failed => ?_⟩
      rcases last t failed with before | this
      · obtain ⟨event',listed,rest⟩ := ih.2 t before
        exact ⟨event',mem_append_left _ listed,rest⟩
      · exact ⟨event,mem_append_right _ (mem_singleton_self _),this⟩
    rw [after_append,after_cons,after_nil]
    obtain ⟨now,kind⟩ := event
    cases kind with
    | reset => exact kept _ rfl fun _ => .inl
    | recovery =>
      refine kept (checkAndTransitionToHalfOpen (after serve {} events).circuitBreaker now) ?_ ?_
      all_goals
        unfold checkAndTransitionToHalfOpen
        split
      exacts [rfl,rfl,fun _ => .inl,fun _ => .inl]
    | call key config exec burstExec =>
      refine kept ((after serve {} events).allow key config now exec burstExec).2.circuitBreaker ?_ ?_
      all_goals obtain ⟨_,same⟩ | same | ⟨fails,same⟩ :=
        @allow_breaker (after serve {} events) key config now exec burstExec
      all_goals rw [same]
      · exact recordSuccess_settings
      · exact recordFailure_settings
      · exact fun _ => .inl
      · rw [recordSuccess_last]
        exact fun _ => .inl
      · rw [recordFailure_last]
        exact fun t failed => .inr ⟨fails,some.inj failed⟩

theorem Passes.breaker (passes : Passes trial n events) :
    (after serve {} events).circuitBreaker.state ≠ .opened ∧
      (trial = false → (after serve {} events).circuitBreaker.state = .closed ∧
        (after serve {} events).circuitBreaker.failures ≤ n) := by
  induction passes with
  | start => exact ⟨by rintro ⟨⟩,fun _ => ⟨rfl,Int.le_refl 0⟩⟩
  | reset events now =>
    rw [after_append]
    exact ⟨by rintro ⟨⟩,fun _ => ⟨rfl,Int.le_refl 0⟩⟩
  | recovery events now quiet =>
    rw [after_append]
    refine ⟨?_,by rintro ⟨⟩⟩
    show (checkAndTransitionToHalfOpen (after serve {} events).circuitBreaker now).state ≠ .opened
    obtain ⟨same,failures⟩ := breaker_after events
    have timeout : (after serve {} events).circuitBreaker.timeout = 30 * second := congrArg (·.2.2) same
    unfold checkAndTransitionToHalfOpen
    split
    next => rintro ⟨⟩
    next stays =>
      intro opened
      refine stays ⟨opened,fun t failed => ?_⟩
      obtain ⟨event,listed,fails,rfl⟩ := failures t failed
      have long := quiet event listed fails
      omega
  | @tick _ _ events now before ih =>
    rw [after_append]
    have same : (serve (after serve {} events) ⟨now,.recovery⟩).2.circuitBreaker = (after serve {} events).circuitBreaker :=
      if_neg fun opened => ih.1 opened.1
    rw [after_cons,after_nil,same]
    exact ih
  | @works _ _ events now key config before ih =>
    rw [after_append]
    have recorded : (serve (after serve {} events) ⟨now,.call key config .done .done⟩).2.circuitBreaker = _ := (allow_done ih.1).2
    rw [after_cons,after_nil,recorded]
    refine ⟨recordSuccess_passes ih.1,fun normal => ⟨?_,Int.le_of_eq recordSuccess_failures⟩⟩
    simp [Breaker.recordSuccess,(ih.2 normal).1]
  | @fails _ events now key config exec burstExec before few ih =>
    rw [after_append]
    obtain ⟨closed,failures⟩ := ih.2 rfl
    have most : (after serve {} events).circuitBreaker.maxFailures = 5 := congrArg Prod.fst (breaker_after events).1
    obtain ⟨opened,_⟩ | same | ⟨-,same⟩ := @allow_breaker (after serve {} events) key config now exec burstExec
    · exact absurd opened ih.1
    all_goals
      have recorded : (serve (after serve {} events) ⟨now,.call key config exec burstExec⟩).2.circuitBreaker = _ := same
      rw [after_cons,after_nil,recorded]
    · refine ⟨by simp [Breaker.recordSuccess,closed],fun _ => ⟨by simp [Breaker.recordSuccess,closed],?_⟩⟩
      rw [recordSuccess_failures]
      exact Int.natCast_nonneg _
    · have below : ¬ (after serve {} events).circuitBreaker.maxFailures ≤ (after serve {} events).circuitBreaker.failures + 1 := by
        omega
      simp only [Breaker.recordFailure,closed,if_neg below]
      exact ⟨by rintro ⟨⟩,fun _ => ⟨trivial,by push_cast; omega⟩⟩

/-- Both limiters admit at most the calls that are made. -/
theorem minute_le_calls (k : Nat) :
    inClockMinute .redis key events k + inClockMinute .fallback key events k ≤ events.countP (Event.calls key k) := by
  induction events using reverseRecOn with
  | nil => exact Nat.le_refl 0
  | append_singleton events event ih =>
    unfold inClockMinute at ih ⊢
    simp only [admittedBy_concat,countP_append]
    obtain ⟨now,kind⟩ := event
    cases kind with
    | recovery | reset => simpa [admission,Event.calls] using ih
    | call key' config exec burstExec =>
      generalize (serve (after serve {} events) ⟨now,.call key' config exec burstExec⟩).1 = reply
      simp only [clock_minute] at ih ⊢
      obtain - | ⟨_ | _,_ | _⟩ := reply <;> by_cases own : key' = key <;> by_cases inside : minuteOf now = k <;>
        simp [admission,Event.calls,own,inside] <;> omega

/-- An admitted request was decided in the state that the events before it left. -/
theorem admittedBy_at {t : Nat} (listed : t ∈ admittedBy limiter key events) :
    ∃ i config exec burstExec, events[i]? = some ⟨t,.call key config exec burstExec⟩ ∧
      ((after serve {} (events.take i)).allow key config t exec burstExec).1.1 = limiter := by
  obtain ⟨⟨⟨now,kind⟩,answer⟩,member,passed⟩ := mem_filterMap.mp listed
  obtain ⟨i,made,answered⟩ := mem_answers member
  cases kind with
  | recovery | reset => cases passed
  | call key' config exec burstExec =>
    cases answered
    simp only [admission,serve,ite_none_right_eq_some,some.injEq] at passed
    obtain ⟨⟨rfl,by_,-⟩,rfl⟩ := passed
    exact ⟨i,config,exec,burstExec,made,by_⟩

end

/-- No clock minute has more admitted requests of the key than the limit, when in each the key has few calls or all go
    to one limiter. -/
theorem clock_minutes_bounded (key : String) (config : RateLimitConfig) (events : List Event)
    (limited : 0 < config.requestsPerMinute) (ordered : events.Pairwise (·.now ≤ ·.now))
    (fixed : ∀ now config' exec burstExec, ⟨now,.call key config' exec burstExec⟩ ∈ events → config' = config)
    (late : ∀ now key' config' exec burstExec, ⟨now,.call key' config' exec burstExec⟩ ∈ events → key' ≠ key →
      0 < minuteOf now) (settled : ∀ k, Settled key config events k) (k : Nat) :
    (inClockMinute .redis key events k + inClockMinute .fallback key events k : Int) ≤ config.requestsPerMinute := by
  have history : History key config events := ⟨ordered,fixed,late⟩
  have redis := redis_minute_le limited history k
  have fallback := fallback_minute_le limited history k
  -- In a minute of the other limiter this one admits nothing.
  have none : ∀ limiter, (∀ i now exec burstExec, events[i]? = some ⟨now,.call key config exec burstExec⟩ → minuteOf now = k →
      ((after serve {} (events.take i)).allow key config now exec burstExec).1.1 ≠ limiter) →
      inClockMinute limiter key events k = 0 := by
    refine fun limiter other => countP_eq_zero.mpr fun t listed inside => ?_
    obtain ⟨i,config',exec,burstExec,made,by_⟩ := admittedBy_at listed
    cases fixed t config' exec burstExec (mem_of_getElem? made)
    exact other i t exec burstExec made ((clock_minute k t).mp (of_decide_eq_true inside)) by_
  obtain calls | failed | works := settled k
  · have counted := @minute_le_calls key events k
    omega
  · rw [none .redis fun i now exec burstExec made inside => by
      rw [allow_failed limited (failed now exec burstExec (mem_of_getElem? made) inside)]
      exact nofun]
    omega
  · rw [none .fallback fun i now exec burstExec made inside => by
      obtain ⟨rfl,rfl,trial,n,passes⟩ := works i now exec burstExec made inside
      rw [(allow_done passes.breaker.1).1]
      exact nofun]
    omega

/-- Redis answers; then it fails until the breaker opens, and answers again when it is tried. -/
def outage : List Event :=
  [⟨60000000000,.call "k" ⟨1,0⟩ .done .done⟩,⟨61000000000,.call "k" ⟨1,0⟩ .done .done⟩] ++
    replicate 6 ⟨125000000000,.call "k" ⟨1,0⟩ (.failed false false) .done⟩ ++
    [⟨170000000000,.recovery⟩,⟨180000000000,.call "k" ⟨1,0⟩ .done .done⟩,⟨181000000000,.call "k" ⟨1,0⟩ .done .done⟩]

theorem mem_outage {event : Event} (listed : event ∈ outage) : (∃ exec, event.kind = .call "k" ⟨1,0⟩ exec .done ∧
      (exec = .done ∧ minuteOf event.now ≠ 2 ∨ exec ≠ .done ∧ event.now = 125000000000)) ∨ event.kind = .recovery := by
  simp only [outage,mem_append,mem_cons,mem_replicate,not_mem_nil,or_false] at listed
  rcases listed with ((rfl | rfl) | ⟨-,rfl⟩) | rfl | rfl | rfl
  all_goals simp [minuteOf,unix]

theorem clock_minutes_outage : admittedBy .redis "k" outage = [60000000000,180000000000] ∧
    admittedBy .fallback "k" outage = [125000000000] ∧
    ∀ k, (inClockMinute .redis "k" outage k + inClockMinute .fallback "k" outage k : Int) ≤ 1 := by
  refine ⟨by decide,by decide,clock_minutes_bounded "k" ⟨1,0⟩ outage (by decide) (by decide) ?_ ?_ fun k => ?_⟩
  · intro now config' exec burstExec listed
    obtain ⟨_,⟨⟩,-⟩ | none := mem_outage listed
    · rfl
    · cases none
  · intro now key' config' exec burstExec listed other
    obtain ⟨_,⟨⟩,-⟩ | none := mem_outage listed
    · exact absurd rfl other
    · cases none
  · by_cases middle : k = 2
    · refine .down fun now exec burstExec listed inside => ?_
      obtain ⟨_,⟨⟩,⟨_,other⟩ | ⟨failed,-⟩⟩ | none := mem_outage listed
      · exact absurd (inside.trans middle) other
      · exact failed
      · cases none
    · have tried : Passes true 0 (outage.take 9) := by
        refine Passes.recovery (outage.take 8) 170000000000 fun event listed fails => ?_
        obtain ⟨exec,made,⟨rfl,-⟩ | ⟨-,now⟩⟩ | made := mem_outage (mem_of_mem_take listed)
        · simp [Event.Fails,made] at fails
        · simp [now,second]
        · simp [Event.Fails,made] at fails
      refine .up fun i now exec burstExec made inside => ?_
      rcases i with _ | _ | _ | _ | _ | _ | _ | _ | _ | _ | _ | i <;> cases made
      · exact ⟨rfl,rfl,false,0,.start⟩
      · exact ⟨rfl,rfl,false,0,.works _ _ _ .start⟩
      iterate 6 exact absurd inside.symm middle
      · exact ⟨rfl,rfl,true,0,tried⟩
      · exact ⟨rfl,rfl,true,0,.works _ _ _ tried⟩

/-- The first request is counted in Redis; the second finds Redis failing and the fallback empty. -/
def failingOver : List Event :=
  [⟨60000000000,.call "k" ⟨1,0⟩ .done .done⟩,⟨61000000000,.call "k" ⟨1,0⟩ (.failed false false) .done⟩]

theorem limit_doubled : failingOver.Pairwise (·.now ≤ ·.now) ∧
    (inClockMinute .redis "k" failingOver 1 + inClockMinute .fallback "k" failingOver 1 : Int) = 2 := by
  decide

end McpBridge.LimiterFallback
