import McpBridge.Grants
import McpBridge.MemoryLimiter
import Mathlib.Data.List.Basic

/-!
The Redis rate limiter of the gateway (`ratelimit.RedisRateLimiter`). It counts the calls of a key in the clock minute
and, with a burst, in their ten seconds, under keys with the number of the window.
-/
namespace McpBridge.RedisLimiter
open Admissions Auth Grants Function List

abbrev Redis := Store String Nat

/-- `INCR`: a counter that is not there any more begins anew, without a deadline. -/
def incr (redis : Redis) (key : String) (now : Int) : Nat × Redis :=
  match (redis key).filter fun entry => entry.alive now with
  | some entry => (entry.value + 1,update redis key (some { entry with value := entry.value + 1 }))
  | none => (1,update redis key (some ⟨1,none⟩))

def expire (redis : Redis) (key : String) (ttl now : Int) : Redis :=
  match (redis key).filter fun entry => entry.alive now with
  | some entry => update redis key (some { entry with deadline := some (now + ttl) })
  | none => redis

/-- Both commands of a pipeline are executed and answered, or `Exec` fails, and each may have been executed
    nevertheless. -/
inductive Exec where
  | done
  | failed (incremented expiring : Bool)
  deriving DecidableEq

/-- The pipeline of `INCR` and `EXPIRE`, with the new number unless it failed. -/
def pipeline (redis : Redis) (key : String) (ttl now : Int) : Exec → Option Nat × Redis
  | .done => (some (incr redis key now).1,expire (incr redis key now).2 key ttl now)
  | .failed incremented expiring =>
    let redis := if incremented then (incr redis key now).2 else redis
    (none,if expiring then expire redis key ttl now else redis)

def live (redis : Redis) (key : String) (now : Int) : Nat := (redis.get key now).getD 0

def unix (now : Nat) : Nat := now / 1000000000

def minuteOf (now : Nat) : Nat := unix now / 60

def tenOf (now : Nat) : Nat := unix now / 10

def redisKey (key : String) (now : Nat) : String := "ratelimit:" ++ key ++ ":" ++ toString (minuteOf now)

def burstKey (key : String) (now : Nat) : String := "ratelimit:" ++ ("burst:" ++ key) ++ ":" ++ toString (tenOf now)

def checkRateLimit (redis : Redis) (key : String) (now : Nat) (exec : Exec) : Except String Nat × Redis :=
  match pipeline redis (redisKey key now) (minute + second) now exec with
  | (some count,redis) => (.ok count,redis)
  | (none,redis) => (.error "rate limit check failed",redis)

def checkBurstLimit (redis : Redis) (key : String) (burst : Int) (now : Nat) (exec : Exec) : Except String Bool × Redis :=
  match pipeline redis (burstKey key now) (10 * second + second) now exec with
  | (some burstCount,redis) => (.ok (decide ((burstCount : Int) ≤ burst)),redis)
  | (none,redis) => (.error "burst limit check failed",redis)

/-- `RedisRateLimiter.Allow`; each of the two checks reads the clock for itself. -/
def allow (redis : Redis) (key : String) (config : RateLimitConfig) (now burstNow : Nat) (exec burstExec : Exec) :
    Except String Bool × Redis :=
  if config.requestsPerMinute ≤ 0 then (.ok true,redis) else
  match checkRateLimit redis key now exec with
  | (.error err,redis) => (.error err,redis)
  | (.ok count,redis) =>
    if ¬ (count : Int) ≤ config.requestsPerMinute then (.ok false,redis)
    else if 0 < config.burst then checkBurstLimit redis key config.burst burstNow burstExec
    else (.ok true,redis)

structure Call where
  key : String
  config : RateLimitConfig
  now : Nat

def Call.serve (redis : Redis) (call : Call) : Bool × Redis :=
  match allow redis call.key call.config call.now call.now .done .done with
  | (.ok allowed,redis) => (allowed,redis)
  | (.error _,redis) => (false,redis)

open Call

def admitted (key : String) (calls : List Call) : List Nat :=
  ((answers serve (fun _ => none) calls).filter fun answered => decide (answered.1.key = key) && answered.2).map
    (·.1.now)

def times (key : String) (calls : List Call) : List Nat :=
  (calls.filter fun call => decide (call.key = key)).map (·.now)

section
variable {redis : Redis} {key other : String} {ttl now t : Int}

theorem incr_value : (incr redis key now).1 = live redis key now + 1 := by
  unfold incr live Store.get
  cases (redis key).filter fun entry => entry.alive now <;> rfl

theorem incr_other (different : other ≠ key) : (incr redis key now).2 other = redis other := by
  unfold incr
  cases (redis key).filter fun entry => entry.alive now <;> exact update_of_ne different _ _

theorem expire_other (different : other ≠ key) : expire redis key ttl now other = redis other := by
  unfold expire
  cases (redis key).filter fun entry => entry.alive now
  · rfl
  · exact update_of_ne different _ _

theorem live_congr {redis' : Redis} (same : redis' other = redis other) : live redis' other t = live redis other t := by
  unfold live Store.get
  rw [same]

theorem expire_alive {entry : Entry Nat} (held : redis key = some entry) (alive : entry.alive now = true) :
    expire redis key ttl now = update redis key (some { entry with deadline := some (now + ttl) }) := by
  unfold expire
  rw [held,Option.filter_some,if_pos alive]

theorem pipeline_done : pipeline redis key ttl now .done = (some (live redis key now + 1),
    update redis key (some ⟨live redis key now + 1,some (now + ttl)⟩)) := by
  simp only [pipeline,incr_value,Prod.mk.injEq,true_and]
  unfold incr live Store.get
  cases found : (redis key).filter fun entry => entry.alive now with
  | none =>
    rw [expire_alive (update_self ..) rfl,update_idem]
    rfl
  | some entry =>
    have alive : ({ entry with value := entry.value + 1 } : Entry Nat).alive now = true :=
      (Option.filter_eq_some_iff.mp found).2
    rw [expire_alive (update_self ..) alive,update_idem]
    rfl

theorem live_pipeline_self : live (pipeline redis key ttl now .done).2 key t =
    if t ≤ now + ttl then live redis key now + 1 else 0 := by
  have held : (pipeline redis key ttl now .done).2 key = some ⟨live redis key now + 1,some (now + ttl)⟩ := by
    rw [pipeline_done]
    exact update_self ..
  rw [live,Store.get,held,Option.filter_some]
  by_cases early : t ≤ now + ttl <;> simp [Entry.alive,early]

theorem live_pipeline_other (different : other ≠ key) (exec : Exec) :
    live (pipeline redis key ttl now exec).2 other t = live redis other t := by
  refine live_congr ?_
  cases exec with
  | done => exact (expire_other different).trans (incr_other different)
  | failed incremented expiring =>
    simp only [pipeline]
    split
    · rw [expire_other different]
      split
      · exact incr_other different
      · rfl
    · split
      · exact incr_other different
      · rfl

end

/-- The keys end with a number that no colon interrupts, so they are read in one way. -/
theorem counter_key_inj {name name' : String} {n n' : Nat} :
    "ratelimit:" ++ name ++ ":" ++ toString n = "ratelimit:" ++ name' ++ ":" ++ toString n' ↔ name = name' ∧ n = n' := by
  refine ⟨fun same => ?_,fun ⟨names,numbers⟩ => by rw [names,numbers]⟩
  have digits : ∀ m : Nat, ∀ c ∈ (toString m).toList.reverse, (c != ':') = true := by
    intro m c listed
    rw [mem_reverse,Nat.toString_eq_repr,Nat.toList_repr] at listed
    have digit := Nat.isDigit_of_mem_toDigits (by decide) (by decide) listed
    by_contra colon
    rw [bne_iff_ne,not_not] at colon
    subst colon
    exact absurd digit (by decide)
  have lists := congrArg (fun key : String => key.toList.reverse) same
  simp only [String.toList_append,reverse_append,append_assoc] at lists
  have tails := congrArg (takeWhile (· != ':')) lists
  rw [takeWhile_append_of_pos (digits n),takeWhile_append_of_pos (digits n')] at tails
  have numbers : (toString n).toList.reverse = (toString n').toList.reverse := by simpa using tails
  rw [numbers] at lists
  have names := append_cancel_left (append_cancel_left lists)
  have same_number : n = n' := by
    have parsed := congrArg (fun cs => Nat.ofDigitChars 10 cs.reverse 0) numbers
    simpa [Nat.toString_eq_ofList_toDigits] using parsed
  exact ⟨String.toList_inj.mp (reverse_injective (append_cancel_right names)),same_number⟩

theorem burst_ne (key : String) : "burst:" ++ key ≠ key := by
  intro same
  have lengths := congrArg String.length same
  rw [String.length_append] at lengths
  have six : "burst:".length = 6 := rfl
  omega

section
variable {key other : String} {now t : Nat}

theorem redisKey_eq : redisKey key now = redisKey other t ↔ key = other ∧ minuteOf now = minuteOf t := counter_key_inj

theorem burstKey_eq : burstKey key now = burstKey other t ↔ key = other ∧ tenOf now = tenOf t := by
  have keys : burstKey key now = burstKey other t ↔ "burst:" ++ key = "burst:" ++ other ∧ tenOf now = tenOf t :=
    counter_key_inj
  rw [keys]
  refine and_congr_left fun _ => ⟨fun same => ?_,fun same => by rw [same]⟩
  have lists := congrArg String.toList same
  simp only [String.toList_append] at lists
  exact String.toList_inj.mp (append_cancel_left lists)

theorem burstKey_eq_redisKey : burstKey key now = redisKey other t ↔ "burst:" ++ key = other ∧ tenOf now = minuteOf t :=
  counter_key_inj

theorem burstKey_ne : burstKey key now ≠ redisKey key t := fun same => burst_ne key (burstKey_eq_redisKey.mp same).1

end

/-! ### Quotas of the clock -/

def inMinute (earlier : List Nat) (t : Nat) : Nat := earlier.countP fun s => decide (minuteOf s = minuteOf t)

def inTen (earlier : List Nat) (t : Nat) : Nat := earlier.countP fun s => decide (tenOf s = tenOf t)

/-- After the earlier calls of its key, the call is among the first of its minute and ten seconds. -/
def within (config : RateLimitConfig) (earlier : List Nat) (t : Nat) : Bool :=
  decide (config.requestsPerMinute ≤ 0 ∨
    (inMinute earlier t : Int) < config.requestsPerMinute ∧ (0 < config.burst → (inTen earlier t : Int) < config.burst))

def firsts (config : RateLimitConfig) (earlier : List Nat) : List Nat → List Nat
  | [] => []
  | t :: rest => (if within config earlier t then [t] else []) ++ firsts config (earlier ++ [t]) rest

/-- Calls at times that do not decrease, those of the key with one configuration; those of other keys come after the
    first minute of all, where two counters can have one key. -/
structure History (key : String) (config : RateLimitConfig) (calls : List Call) : Prop where
  ordered : calls.Pairwise (·.now ≤ ·.now)
  fixed : ∀ call ∈ calls, call.key = key → call.config = config
  late : ∀ call ∈ calls, call.key ≠ key → 0 < minuteOf call.now

section
variable {key : String} {config : RateLimitConfig} {calls : List Call} {call : Call} {redis : Redis} {t : Nat}

section
variable (history : History key config (calls ++ [call]))
include history

theorem History.init : History key config calls where
  ordered := (pairwise_append.mp history.ordered).1
  fixed earlier listed := history.fixed earlier (mem_append_left _ listed)
  late earlier listed := history.late earlier (mem_append_left _ listed)

theorem History.last : ∀ earlier ∈ calls, earlier.now ≤ call.now :=
  fun earlier listed => (pairwise_append.mp history.ordered).2.2 earlier listed call (mem_singleton_self _)

theorem History.config_eq (own : call.key = key) : call.config = config :=
  history.fixed call (mem_append_right _ (mem_singleton_self _)) own

end

theorem times_concat : times key (calls ++ [call]) = times key calls ++ if call.key = key then [call.now] else [] := by
  unfold times
  by_cases own : call.key = key <;> simp [own]

theorem times_le (current : ∀ call ∈ calls, call.now ≤ t) : ∀ s ∈ times key calls, s ≤ t := by
  intro s listed
  obtain ⟨call,kept,rfl⟩ := mem_map.mp listed
  exact current call (mem_filter.mp kept).1

def Call.counted (call : Call) (redis : Redis) : Redis :=
  (pipeline redis (redisKey call.key call.now) (minute + second) call.now .done).2

def Call.bursted (call : Call) (redis : Redis) : Redis :=
  (pipeline redis (burstKey call.key call.now) (10 * second + second) call.now .done).2

theorem serve_unlimited (unlimited : call.config.requestsPerMinute ≤ 0) : call.serve redis = (true,redis) := by
  unfold serve allow
  rw [if_pos unlimited]

theorem serve_eq (limited : 0 < call.config.requestsPerMinute) : call.serve redis =
    if (live redis (redisKey call.key call.now) call.now : Int) < call.config.requestsPerMinute then
      if 0 < call.config.burst then
        (decide ((live (call.counted redis) (burstKey call.key call.now) call.now : Int) < call.config.burst),
          call.bursted (call.counted redis))
      else (true,call.counted redis)
    else (false,call.counted redis) := by
  have unlimited : ¬ call.config.requestsPerMinute ≤ 0 := by omega
  simp only [serve,allow,checkRateLimit,checkBurstLimit,counted,bursted,pipeline_done,if_neg unlimited]
  by_cases under : (live redis (redisKey call.key call.now) call.now : Int) < call.config.requestsPerMinute
  · rw [if_neg (by push_cast; omega),if_pos under]
    by_cases bursts : 0 < call.config.burst
    · rw [if_pos bursts,if_pos bursts]
      simp only [Prod.mk.injEq,decide_eq_decide,and_true]
      omega
    · rw [if_neg bursts,if_neg bursts]
  · rw [if_pos (by push_cast; omega),if_neg under]

/-! ### What a call does to the counters of a key -/

theorem live_counted_own : live (call.counted redis) (redisKey call.key t) t =
    if minuteOf call.now = minuteOf t then live redis (redisKey call.key call.now) call.now + 1
    else live redis (redisKey call.key t) t := by
  unfold counted
  split
  next same =>
    have soon : (t : Int) ≤ call.now + (minute + second) := by
      simp only [minuteOf,unix] at same
      simp only [minute,second]
      omega
    rw [← redisKey_eq.mpr ⟨rfl,same⟩,live_pipeline_self,if_pos soon]
  next different => exact live_pipeline_other (fun same => different (redisKey_eq.mp same).2.symm) _

theorem live_counted_burst (u : Int) :
    live (call.counted redis) (burstKey call.key t) u = live redis (burstKey call.key t) u :=
  live_pipeline_other burstKey_ne _

theorem live_bursted_own : live (call.bursted redis) (burstKey call.key t) t =
    if tenOf call.now = tenOf t then live redis (burstKey call.key call.now) call.now + 1
    else live redis (burstKey call.key t) t := by
  unfold bursted
  split
  next same =>
    have soon : (t : Int) ≤ call.now + (10 * second + second) := by
      simp only [tenOf,unix] at same
      simp only [second]
      omega
    rw [← burstKey_eq.mpr ⟨rfl,same⟩,live_pipeline_self,if_pos soon]
  next different => exact live_pipeline_other (fun same => different (burstKey_eq.mp same).2.symm) _

theorem live_counted_foreign_burst (late : 0 < minuteOf call.now) (due : call.now ≤ t) (u : Int) :
    live (call.counted redis) (burstKey key t) u = live redis (burstKey key t) u := by
  refine live_pipeline_other (fun same => ?_) _
  have numbers := (burstKey_eq_redisKey.mp same).2
  simp only [tenOf,minuteOf,unix] at numbers late
  omega

theorem live_bursted_foreign_minute (late : 0 < minuteOf call.now) (due : call.now ≤ t) :
    live (call.bursted redis) (redisKey key t) t =
      if burstKey call.key call.now = redisKey key t then 0 else live redis (redisKey key t) t := by
  unfold bursted
  split
  next same =>
    have passed : ¬ (t : Int) ≤ call.now + (10 * second + second) := by
      have numbers := (burstKey_eq_redisKey.mp same).2
      simp only [tenOf,minuteOf,unix] at numbers late
      simp only [second]
      omega
    rw [same,live_pipeline_self,if_neg passed]
  next different => exact live_pipeline_other (Ne.symm different) _

end

/-! ### The counters and the history -/

/-- From now on the minute's counter has all calls of the key, and that of the ten seconds while the minute is not full. -/
def Counts (key : String) (config : RateLimitConfig) (calls : List Call) (redis : Redis) : Prop :=
  ∀ t, (∀ call ∈ calls, call.now ≤ t) → live redis (redisKey key t) t = inMinute (times key calls) t ∧
    (0 < config.burst → (inMinute (times key calls) t : Int) < config.requestsPerMinute →
      live redis (burstKey key t) t = inTen (times key calls) t)

section
variable {key : String} {config : RateLimitConfig} {calls : List Call} {call : Call} {redis : Redis} {t : Nat}

variable (earlier : List Nat)

theorem inMinute_concat (s t : Nat) :
    inMinute (earlier ++ [s]) t = inMinute earlier t + if minuteOf s = minuteOf t then 1 else 0 := by
  simp [inMinute,countP_append]

theorem inTen_concat (s t : Nat) : inTen (earlier ++ [s]) t = inTen earlier t + if tenOf s = tenOf t then 1 else 0 := by
  simp [inTen,countP_append]

theorem inMinute_congr {s t : Nat} (same : minuteOf s = minuteOf t) : inMinute earlier s = inMinute earlier t := by
  unfold inMinute
  rw [same]

theorem inTen_congr {s t : Nat} (same : tenOf s = tenOf t) : inTen earlier s = inTen earlier t := by
  unfold inTen
  rw [same]

theorem minuteOf_of_tenOf {s t : Nat} (same : tenOf s = tenOf t) : minuteOf s = minuteOf t := by
  simp only [tenOf,minuteOf] at same ⊢
  omega

theorem Counts.own (counts : Counts key config calls redis) (limited : 0 < config.requestsPerMinute)
    (own : call.key = key) (configured : call.config = config) (ready : ∀ earlier ∈ calls, earlier.now ≤ call.now) :
    Counts key config (calls ++ [call]) (call.serve redis).2 := by
  subst own
  subst configured
  obtain ⟨minute,ten⟩ := counts call.now ready
  intro t current
  obtain ⟨minute',ten'⟩ := counts t fun earlier listed => current earlier (mem_append_left _ listed)
  rw [times_concat,if_pos rfl,inMinute_concat,inTen_concat,serve_eq limited]
  have counted : live (call.counted redis) (redisKey call.key t) t =
      inMinute (times call.key calls) t + if minuteOf call.now = minuteOf t then 1 else 0 := by
    rw [live_counted_own]
    split
    next same => rw [minute,inMinute_congr _ same]
    next => exact minute'
  split
  next under =>
    rw [minute] at under
    split
    next bursts =>
      refine ⟨(live_pipeline_other (Ne.symm burstKey_ne) _).trans counted,fun _ room => ?_⟩
      rw [live_bursted_own,live_counted_burst,live_counted_burst]
      split
      next same =>
        rw [ten bursts under,inTen_congr _ same]
      next different =>
        refine ten' bursts ?_
        split at room <;> push_cast at room <;> omega
    next quiet => exact ⟨counted,fun bursts => absurd bursts quiet⟩
  next full =>
    refine ⟨counted,fun bursts room => ?_⟩
    have elsewhere : ¬ minuteOf call.now = minuteOf t := by
      intro same
      rw [if_pos same,← inMinute_congr _ same] at room
      omega
    rw [if_neg elsewhere] at room
    rw [if_neg fun same => elsewhere (minuteOf_of_tenOf same)]
    exact (live_counted_burst _).trans (ten' bursts (by simpa using room))

theorem Counts.foreign (counts : Counts key config calls redis) (foreign : call.key ≠ key)
    (late : 0 < minuteOf call.now) (ready : ∀ earlier ∈ calls, earlier.now ≤ call.now) :
    Counts key config (calls ++ [call]) (call.serve redis).2 := by
  intro t current
  have due : call.now ≤ t := current call (by simp)
  obtain ⟨minute,ten⟩ := counts t fun earlier listed => current earlier (mem_append_left _ listed)
  rw [times_concat,if_neg foreign,append_nil]
  by_cases limited : 0 < call.config.requestsPerMinute
  · rw [serve_eq limited]
    have counted : live (call.counted redis) (redisKey key t) t = inMinute (times key calls) t :=
      (live_pipeline_other (fun same => foreign (redisKey_eq.mp same).1.symm) _).trans minute
    have counted_burst : live (call.counted redis) (burstKey key t) t = live redis (burstKey key t) t :=
      live_counted_foreign_burst late due _
    split
    next =>
      split
      next =>
        refine ⟨?_,fun bursts room => ?_⟩
        · rw [live_bursted_foreign_minute late due]
          split
          next clash =>
            -- the ten seconds bear the number of a minute that is still to come
            refine (countP_eq_zero.mpr fun s listed => ?_).symm
            have earlier := times_le ready s listed
            have numbers := (burstKey_eq_redisKey.mp clash).2
            simp only [tenOf,minuteOf,unix] at numbers late
            rw [decide_eq_true_eq]
            simp only [minuteOf,unix]
            omega
          next => exact counted
        · rw [bursted,live_pipeline_other fun same => foreign (burstKey_eq.mp same).1.symm,counted_burst]
          exact ten bursts room
      next => exact ⟨counted,fun bursts room => counted_burst.trans (ten bursts room)⟩
    next => exact ⟨counted,fun bursts room => counted_burst.trans (ten bursts room)⟩
  · rw [serve_unlimited (by omega)]
    exact ⟨minute,ten⟩

theorem counts_after (limited : 0 < config.requestsPerMinute) (history : History key config calls) :
    Counts key config calls (after serve (fun _ => none) calls) := by
  refine after_keeps (Counts key config) (fun _ _ => History.init) (fun t _ => ⟨rfl,fun _ _ => rfl⟩)
    (fun calls call history counts => ?_) calls history
  by_cases own : call.key = key
  · exact counts.own limited own (history.config_eq own) history.last
  · exact counts.foreign own (history.late call (by simp) own) history.last

theorem serve_within (history : History key config (calls ++ [call])) (own : call.key = key) :
    (call.serve (after serve (fun _ => none) calls)).1 = within config (times key calls) call.now := by
  have configured := history.config_eq own
  by_cases limited : 0 < config.requestsPerMinute
  · obtain ⟨minute,ten⟩ := counts_after limited history.init call.now history.last
    subst own
    rw [serve_eq (configured ▸ limited),configured,minute,live_counted_burst,within]
    split
    next under =>
      split
      next bursts =>
        rw [ten bursts under,decide_eq_decide]
        omega
      next quiet => exact (decide_eq_true (.inr ⟨under,fun bursts => absurd bursts quiet⟩)).symm
    next full => exact (decide_eq_false (by omega)).symm
  · rw [serve_unlimited (by rw [configured]; omega),within]
    exact (decide_eq_true (.inl (by omega))).symm

theorem firsts_concat (rest : List Nat) (t : Nat) : firsts config earlier (rest ++ [t]) =
    firsts config earlier rest ++ if within config (earlier ++ rest) t then [t] else [] := by
  induction rest generalizing earlier with
  | nil => simp [firsts]
  | cons s rest ih => simp [firsts,ih]

theorem admitted_concat : admitted key (calls ++ [call]) = admitted key calls ++
    if call.key = key ∧ (call.serve (after serve (fun _ => none) calls)).1 = true then [call.now] else [] := by
  unfold admitted
  rw [answers_concat,filter_append,map_append]
  congr 1
  by_cases own : call.key = key
  · cases (call.serve (after serve (fun _ => none) calls)).1 <;> simp [own]
  · simp [own]

theorem admitted_eq (history : History key config calls) : admitted key calls = firsts config [] (times key calls) := by
  induction calls using reverseRecOn with
  | nil => rfl
  | append_singleton calls call ih =>
    rw [admitted_concat,times_concat,ih history.init]
    by_cases own : call.key = key
    · rw [if_pos own,firsts_concat,serve_within history own,nil_append]
      simp [own]
    · rw [if_neg own,if_neg fun passed => own passed.1,append_nil,append_nil]

/-! ### Sliding minutes -/

def oneMinute : Nat := 60 * 1000000000

def turn (a : Nat) : Nat := (minuteOf a + 1) * oneMinute

theorem firsts_sublist (rest : List Nat) : (firsts config earlier rest).Sublist rest := by
  induction rest generalizing earlier with
  | nil => exact .slnil
  | cons t rest ih =>
    rw [firsts]
    split
    · exact (ih _).cons_cons t
    · exact (ih _).cons t

theorem firsts_minute_le (limited : 0 < config.requestsPerMinute) (all : List Nat) (k : Nat) :
    ((firsts config [] all).countP (fun t => decide (minuteOf t = k)) : Int) ≤ config.requestsPerMinute := by
  induction all using reverseRecOn with
  | nil => simpa [firsts] using Int.le_of_lt limited
  | append_singleton all t ih =>
    rw [firsts_concat,nil_append,countP_append]
    split
    next inside =>
      have fewer : (firsts config [] all).countP (fun s => decide (minuteOf s = k)) ≤
          all.countP (fun s => decide (minuteOf s = k)) := (firsts_sublist [] all).countP_le
      rw [within,decide_eq_true_eq] at inside
      by_cases same : minuteOf t = k
      · subst same
        have room := (inside.resolve_left (by omega)).1
        unfold inMinute at room
        simp only [countP_singleton,decide_true,if_true]
        omega
      · simpa [same] using ih
    next => simpa using ih

theorem countP_split (all : List Nat) {a b c : Nat} (first : a ≤ b) (second : b ≤ c) :
    all.countP (fun t => decide (a ≤ t ∧ t < b)) + all.countP (fun t => decide (b ≤ t ∧ t < c)) =
      all.countP (fun t => decide (a ≤ t ∧ t < c)) := by
  induction all with
  | nil => rfl
  | cons t all ih =>
    simp only [countP_cons,decide_eq_true_eq]
    split_ifs <;> omega

theorem aligned_minute {a : Nat} (aligned : oneMinute ∣ a) (t : Nat) :
    a ≤ t ∧ t < a + oneMinute ↔ minuteOf t = minuteOf a := by
  obtain ⟨k,rfl⟩ := aligned
  simp only [oneMinute,minuteOf,unix]
  omega

theorem turn_bounds (a : Nat) : a ≤ turn a ∧ turn a ≤ a + oneMinute := by
  simp only [turn,minuteOf,unix,oneMinute]
  omega

theorem firsts_unlimited (unlimited : config.requestsPerMinute ≤ 0) (earlier rest : List Nat) :
    firsts config earlier rest = rest := by
  induction rest generalizing earlier with
  | nil => rfl
  | cons t rest ih =>
    rw [firsts,within,if_pos (decide_eq_true (.inl unlimited)),ih]
    rfl

end

/-- No minute, wherever it lies, has more admitted requests of the key than the limit, exactly when this holds of those
    that reach from one clock minute into the next. Without a limit all calls are admitted. -/
theorem sliding_bound_iff (key : String) (config : RateLimitConfig) (calls : List Call)
    (ordered : calls.Pairwise (·.now ≤ ·.now)) (fixed : ∀ call ∈ calls, call.key = key → call.config = config)
    (late : ∀ call ∈ calls, call.key ≠ key → 0 < minuteOf call.now) :
    (∀ a, ((admitted key calls).countP (fun t => decide (a ≤ t ∧ t < a + oneMinute)) : Int) ≤ config.requestsPerMinute) ↔
      (0 < config.requestsPerMinute ∧ ∀ a, ¬ oneMinute ∣ a →
        ((firsts config [] (times key calls)).countP (fun t => decide (a ≤ t ∧ t < turn a)) +
          (firsts config [] (times key calls)).countP (fun t => decide (turn a ≤ t ∧ t < a + oneMinute)) : Int) ≤
            config.requestsPerMinute) ∨ (config.requestsPerMinute = 0 ∧ times key calls = []) := by
  rw [admitted_eq ⟨ordered,fixed,late⟩]
  have joined := fun a => countP_split (firsts config [] (times key calls)) (turn_bounds a).1 (turn_bounds a).2
  by_cases limited : 0 < config.requestsPerMinute
  · constructor
    · intro bounded
      refine .inl ⟨limited,fun a _ => ?_⟩
      have whole := joined a
      have limit := bounded a
      omega
    · intro condition a
      obtain ⟨_,straddling⟩ := condition.resolve_right (by omega)
      by_cases aligned : oneMinute ∣ a
      · have minutes := firsts_minute_le limited (times key calls) (minuteOf a)
        have same : (fun t => decide (a ≤ t ∧ t < a + oneMinute)) = fun t => decide (minuteOf t = minuteOf a) :=
          funext fun t => decide_eq_decide.mpr (aligned_minute aligned t)
        rwa [same]
      · have whole := joined a
        have limit := straddling a aligned
        omega
  · rw [firsts_unlimited (by omega)]
    constructor
    · intro bounded
      have zero := bounded 0
      refine .inr ⟨by omega,eq_nil_iff_forall_not_mem.mpr fun t listed => ?_⟩
      have some_t : 0 < (times key calls).countP (fun s => decide (t ≤ s ∧ s < t + oneMinute)) :=
        countP_pos_iff.mpr ⟨t,listed,by simp [oneMinute]⟩
      have at_t := bounded t
      omega
    · intro condition a
      obtain ⟨zero,none⟩ := condition.resolve_left fun limits => limited limits.1
      simp [none,zero]

def spaced : List Call :=
  [⟨"k",⟨1,0⟩,60000000000⟩,⟨"other",⟨5,2⟩,100000000000⟩,⟨"k",⟨1,0⟩,150000000000⟩]

theorem sliding_bound_spaced : admitted "k" spaced = [60000000000,150000000000] ∧
    ∀ a, ((admitted "k" spaced).countP (fun t => decide (a ≤ t ∧ t < a + oneMinute)) : Int) ≤ 1 := by
  refine ⟨by decide,(sliding_bound_iff "k" ⟨1,0⟩ spaced (by decide) (by decide) (by decide)).mpr
    (.inl ⟨by decide,fun a _ => ?_⟩)⟩
  have listed : firsts ⟨1,0⟩ [] (times "k" spaced) = [60000000000,150000000000] := by decide
  have bounds := turn_bounds a
  rw [listed]
  simp only [countP_cons,countP_nil,decide_eq_true_eq]
  unfold oneMinute at bounds ⊢
  split_ifs <;> simp <;> omega

def atTheTurn : List Call := [⟨"k",⟨1,0⟩,119000000000⟩,⟨"k",⟨1,0⟩,121000000000⟩]

theorem two_in_two_seconds : atTheTurn.Pairwise (·.now ≤ ·.now) ∧
    ¬ ((admitted "k" atTheTurn).countP (fun t => decide (100000000000 ≤ t ∧ t < 100000000000 + oneMinute)) : Int) ≤ 1 := by
  decide

/-! ### What a rejected call uses up -/

def decisions (key : String) (config : RateLimitConfig) (all : List Nat) : List Bool :=
  (answers serve (fun _ => none) (all.map fun t => ⟨key,config,t⟩)).map (·.2)

def verdicts (config : RateLimitConfig) (earlier : List Nat) : List Nat → List Bool
  | [] => []
  | t :: rest => within config earlier t :: verdicts config (earlier ++ [t]) rest

section
variable {key : String} {config : RateLimitConfig} {all : List Nat} {before mid : List Nat}

theorem verdicts_append (earlier first second : List Nat) : verdicts config earlier (first ++ second) =
    verdicts config earlier first ++ verdicts config (earlier ++ first) second := by
  induction first generalizing earlier with
  | nil => simp [verdicts]
  | cons t first ih => simp [verdicts,ih]

theorem verdicts_length (earlier rest : List Nat) : (verdicts config earlier rest).length = rest.length := by
  induction rest generalizing earlier with
  | nil => rfl
  | cons t rest ih => rw [verdicts,length_cons,ih,length_cons]

theorem verdicts_eq_iff (earlier earlier' rest : List Nat) :
    verdicts config earlier rest = verdicts config earlier' rest ↔
      ∀ mid t post, rest = mid ++ t :: post → within config (earlier ++ mid) t = within config (earlier' ++ mid) t := by
  induction rest generalizing earlier earlier' with
  | nil => simp [verdicts]
  | cons s rest ih =>
    rw [verdicts,verdicts,cons_eq_cons,ih]
    constructor
    · rintro ⟨first,others⟩ mid t post same
      cases mid with
      | nil =>
        cases same
        simpa using first
      | cons _ mid =>
        cases same
        simpa using others mid t post rfl
    · intro alike
      refine ⟨by simpa using alike [] s rest rfl,fun mid t post same => ?_⟩
      simpa using alike (s :: mid) t post (by rw [same]; rfl)

theorem times_of_key (all : List Nat) : times key (all.map fun t => (⟨key,config,t⟩ : Call)) = all := by
  induction all with
  | nil => rfl
  | cons t all ih =>
    unfold times at ih ⊢
    simp [ih]

theorem history_of_key (key : String) (config : RateLimitConfig) (ordered : all.Pairwise (· ≤ ·)) :
    History key config (all.map fun t => ⟨key,config,t⟩) where
  ordered := pairwise_map.mpr ordered
  fixed call listed _ := by
    obtain ⟨t,_,rfl⟩ := mem_map.mp listed
    rfl
  late call listed foreign := by
    obtain ⟨t,_,rfl⟩ := mem_map.mp listed
    exact absurd rfl foreign

theorem decisions_eq (ordered : all.Pairwise (· ≤ ·)) :
    decisions key config all = verdicts config [] all := by
  induction all using reverseRecOn with
  | nil => rfl
  | append_singleton all t ih =>
    have history : History key config (all.map (fun t => (⟨key,config,t⟩ : Call)) ++ [⟨key,config,t⟩]) := by
      simpa using history_of_key key config ordered
    rw [verdicts_append,← ih (pairwise_append.mp ordered).1]
    unfold decisions
    rw [map_append,map_singleton,answers_concat,map_append,map_singleton,serve_within history rfl,times_of_key]
    rfl

theorem inMinute_insert (before mid : List Nat) (x t : Nat) :
    inMinute (before ++ x :: mid) t = inMinute (before ++ mid) t + if minuteOf x = minuteOf t then 1 else 0 := by
  simp only [inMinute,countP_append,countP_cons,decide_eq_true_eq]
  omega

theorem inTen_insert (before mid : List Nat) (x t : Nat) :
    inTen (before ++ x :: mid) t = inTen (before ++ mid) t + if tenOf x = tenOf t then 1 else 0 := by
  simp only [inTen,countP_append,countP_cons,decide_eq_true_eq]
  omega

theorem inMinute_le_append (before mid : List Nat) (t : Nat) : inMinute before t ≤ inMinute (before ++ mid) t := by
  simp [inMinute,countP_append]

theorem inTen_le_append (before mid : List Nat) (t : Nat) : inTen before t ≤ inTen (before ++ mid) t := by
  simp [inTen,countP_append]

theorem not_within_iff {earlier : List Nat} {t : Nat} : within config earlier t = false ↔ 0 < config.requestsPerMinute ∧
    (config.requestsPerMinute ≤ inMinute earlier t ∨ 0 < config.burst ∧ config.burst ≤ inTen earlier t) := by
  rw [within,decide_eq_false_iff_not]
  omega

/-- A later answer depends on a rejected call only if it is the first in its minute to find it full, and was not too
    many for its ten seconds anyway. -/
theorem rejected_matters_iff {x t : Nat} (rejected : within config before x = false) :
    within config (before ++ mid) t ≠ within config (before ++ x :: mid) t ↔
      minuteOf x = minuteOf t ∧ (inMinute (before ++ x :: mid) t : Int) = config.requestsPerMinute ∧
        (inTen (before ++ x :: mid) t : Int) < config.burst := by
  obtain ⟨limited,full⟩ := not_within_iff.mp rejected
  have minutes := inMinute_le_append before mid x
  have tens := inTen_le_append before mid x
  rw [Ne,Bool.eq_iff_iff,within,within,decide_eq_true_eq,decide_eq_true_eq,inMinute_insert,inTen_insert]
  by_cases together : minuteOf x = minuteOf t
  · rw [if_pos together]
    rw [inMinute_congr (before ++ mid) together] at minutes
    by_cases close : tenOf x = tenOf t
    · rw [inTen_congr (before ++ mid) close] at tens
      omega
    · rw [if_neg close]
      omega
  · rw [if_neg together,if_neg fun close => together (minuteOf_of_tenOf close)]
    simp [together]

theorem exists_late_of_countP {p : Nat → Bool} {n : Nat} (more : n < all.countP p) :
    ∃ before x mid, all = before ++ x :: mid ∧ p x = true ∧ n ≤ before.countP p := by
  induction all using reverseRecOn with
  | nil => simp at more
  | append_singleton all t ih =>
    by_cases enough : n < all.countP p
    · obtain ⟨before,x,mid,rfl,has,after⟩ := ih enough
      exact ⟨before,x,mid ++ [t],by simp,has,after⟩
    · rw [countP_append,countP_singleton] at more
      split at more
      next has => exact ⟨all,t,[],rfl,has,by omega⟩
      next => exact absurd more enough

/-- The answer to one call, and what the other answers are without it. -/
theorem decisions_without (key : String) (config : RateLimitConfig) {before rest : List Nat} {x : Nat} (ordered : (before ++ x :: rest).Pairwise (· ≤ ·)) :
    ((decisions key config (before ++ x :: rest))[before.length]? = some false ↔ within config before x = false) ∧
    (decisions key config (before ++ rest) = (decisions key config (before ++ x :: rest)).eraseIdx before.length ↔
      verdicts config before rest = verdicts config (before ++ [x]) rest) := by
  have shorter : (before ++ rest).Pairwise (· ≤ ·) :=
    ordered.sublist (sublist_cons_self x rest |>.append_left before)
  have expand : decisions key config (before ++ x :: rest) =
      verdicts config [] before ++ within config before x :: verdicts config (before ++ [x]) rest := by
    rw [decisions_eq ordered,verdicts_append]
    rfl
  have place : (verdicts config [] before).length = before.length := verdicts_length [] before
  rw [expand,decisions_eq shorter,verdicts_append,← place]
  simp [eraseIdx_append_of_length_le]

theorem rejected_of_overfull {before : List Nat} {s : Nat} (limited : 0 < config.requestsPerMinute)
    (bursts : 0 < config.burst) (overfull : config.burst < inTen before s) :
    ∃ first x mid, before = first ++ x :: mid ∧ tenOf x = tenOf s ∧ within config first x = false := by
  have more : config.burst.toNat < before.countP fun u => decide (tenOf u = tenOf s) := by
    unfold inTen at overfull
    omega
  obtain ⟨first,x,mid,rfl,close,late⟩ := exists_late_of_countP more
  rw [decide_eq_true_eq] at close
  refine ⟨first,x,mid,rfl,close,not_within_iff.mpr ⟨limited,.inr ⟨bursts,?_⟩⟩⟩
  rw [inTen_congr _ close]
  unfold inTen
  omega

theorem overfull_of_matters {x t : Nat} (rejected : within config before x = false)
    (matters : within config (before ++ mid) t ≠ within config (before ++ x :: mid) t) :
    config.burst < inTen (before ++ x :: mid) x := by
  obtain ⟨together,full,_⟩ := (rejected_matters_iff rejected).mp matters
  have minutes := inMinute_le_append before mid x
  have tens := inTen_le_append before mid x
  have counted := inMinute_insert before mid x t
  rw [if_pos together,← inMinute_congr (before ++ mid) together] at counted
  have beyond := (not_within_iff.mp rejected).2
  rw [inTen_insert,if_pos rfl]
  omega

end

/-- Taking a rejected call out changes no other answer, exactly when every call that is the first too many of its clock
    minute finds its ten seconds used up, or no ten seconds of that minute overfull. -/
theorem rejected_costs_nothing_iff (key : String) (config : RateLimitConfig) (all : List Nat)
    (ordered : all.Pairwise (· ≤ ·)) :
    (∀ before x rest, all = before ++ x :: rest → (decisions key config all)[before.length]? = some false →
        decisions key config (before ++ rest) = (decisions key config all).eraseIdx before.length) ↔
      ∀ before t rest, all = before ++ t :: rest → (inMinute before t : Int) = config.requestsPerMinute →
        config.burst ≤ inTen before t ∨ ∀ s ∈ before, minuteOf s = minuteOf t → (inTen before s : Int) ≤ config.burst := by
  constructor
  · intro free before t rest same full
    by_contra costly
    simp only [not_or,not_forall,Int.not_le] at costly
    obtain ⟨room,s,listed,together,overfull⟩ := costly
    have present : 0 < inMinute before t := countP_pos_iff.mpr ⟨s,listed,decide_eq_true together⟩
    obtain ⟨first,x,mid,rfl,close,rejected⟩ := rejected_of_overfull (by omega) (by omega) overfull
    have whole : all = first ++ x :: (mid ++ t :: rest) := by rw [same]; simp
    obtain ⟨answer,unchanged⟩ := decisions_without key config (whole ▸ ordered)
    rw [← whole] at answer unchanged
    have alike := (verdicts_eq_iff _ _ _).mp (unchanged.mp (free first x _ whole (answer.mpr rejected))) mid t rest rfl
    rw [append_assoc,singleton_append] at alike
    exact (rejected_matters_iff rejected).mpr ⟨(minuteOf_of_tenOf close).trans together,full,room⟩ alike
  · rintro condition before x rest rfl rejected
    obtain ⟨answer,unchanged⟩ := decisions_without key config ordered
    have out := answer.mp rejected
    refine unchanged.mpr ((verdicts_eq_iff _ _ _).mpr fun mid t post split => ?_)
    rw [append_assoc,singleton_append]
    by_contra matters
    obtain ⟨together,full,room⟩ := (rejected_matters_iff out).mp matters
    have whole : before ++ x :: rest = before ++ x :: mid ++ t :: post := by rw [split]; simp
    have fits := (condition _ t post whole full).resolve_left (by omega) x (by simp) together
    exact absurd (overfull_of_matters out matters) (Int.not_lt.mpr fits)

theorem rejected_costs_nothing_unbursted :
    decisions "k" ⟨2,0⟩ [60000000000,61000000000,62000000000,120000000000] = [true,true,false,true] ∧
    ∀ before x rest, [60000000000,61000000000,62000000000,120000000000] = before ++ x :: rest →
      (decisions "k" ⟨2,0⟩ [60000000000,61000000000,62000000000,120000000000])[before.length]? = some false →
      decisions "k" ⟨2,0⟩ (before ++ rest) =
        (decisions "k" ⟨2,0⟩ [60000000000,61000000000,62000000000,120000000000]).eraseIdx before.length :=
  ⟨by decide,(rejected_costs_nothing_iff "k" ⟨2,0⟩ [60000000000,61000000000,62000000000,120000000000]
    (by decide)).mpr fun _ _ _ _ _ => .inl (by simp)⟩

/-- A call too early for the burst takes the minute's last place from the one after it. -/
theorem burst_rejection_costs : decisions "k" ⟨2,1⟩ [60000000000,61000000000,70000000000] = [true,false,false] ∧
    decisions "k" ⟨2,1⟩ [60000000000,70000000000] = [true,true] := by
  decide

end McpBridge.RedisLimiter
