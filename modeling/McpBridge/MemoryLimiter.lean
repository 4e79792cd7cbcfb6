import McpBridge.Admissions
import McpBridge.Auth

/-!
The in-memory rate limiter of the gateway (`ratelimit.InMemoryRateLimiter`). It keeps the times of each key's admitted
requests until they have left the minute that ends with a call.
-/
namespace McpBridge.MemoryLimiter
open Admissions Auth List Function

/-- A key without an entry has no requests. -/
structure InMemoryRateLimiter where
  requests : String → List Int := fun _ => []
  burstWindow : Int := 10 * second

/-- `InMemoryRateLimiter.Allow`; it never fails. -/
def InMemoryRateLimiter.allow (r : InMemoryRateLimiter) (key : String) (config : RateLimitConfig) (now : Int) :
    Bool × InMemoryRateLimiter :=
  if config.requestsPerMinute ≤ 0 then (true,r) else
  let windowStart := now - minute
  let validRequests := (r.requests key).filter fun t => decide (windowStart < t)
  let r := { r with requests := update r.requests key validRequests }
  if config.requestsPerMinute ≤ (r.requests key).length then (false,r) else
  if 0 < config.burst ∧ config.burst ≤ (r.requests key).countP fun t => decide (now - r.burstWindow < t) then (false,r) else
  (true,{ r with requests := update r.requests key (r.requests key ++ [now]) })

structure Call where
  key : String
  config : RateLimitConfig
  now : Int

def Call.serve (r : InMemoryRateLimiter) (call : Call) : Bool × InMemoryRateLimiter :=
  r.allow call.key call.config call.now

open Call

def admitted (r : InMemoryRateLimiter) (key : String) (calls : List Call) : List Int :=
  ((answers serve r calls).filter fun answered => decide (answered.1.key = key) && answered.2).map (·.1.now)

/-- Calls at times that do not decrease, those of the key with one configuration. -/
structure History (key : String) (config : RateLimitConfig) (calls : List Call) : Prop where
  ordered : calls.Pairwise (·.now ≤ ·.now)
  fixed : ∀ call ∈ calls, call.key = key → call.config = config

open InMemoryRateLimiter

section
variable {r : InMemoryRateLimiter} {key : String} {config : RateLimitConfig} {calls : List Call} {call : Call} {now : Int}

def InMemoryRateLimiter.valid (r : InMemoryRateLimiter) (key : String) (now : Int) : List Int :=
  (r.requests key).filter fun t => decide (now - minute < t)

/-- What keeps a request of the key out. -/
def InMemoryRateLimiter.Full (r : InMemoryRateLimiter) (key : String) (config : RateLimitConfig) (now : Int) : Prop :=
  config.requestsPerMinute ≤ (r.valid key now).length ∨
    0 < config.burst ∧ config.burst ≤ (r.valid key now).countP fun t => decide (now - r.burstWindow < t)

theorem allow_unlimited (unlimited : config.requestsPerMinute ≤ 0) : r.allow key config now = (true,r) := by
  unfold allow
  rw [if_pos unlimited]

section
variable (limited : 0 < config.requestsPerMinute)
include limited

theorem allow_full (full : r.Full key config now) :
    r.allow key config now = (false,{ r with requests := update r.requests key (r.valid key now) }) := by
  unfold allow
  rw [if_neg (by omega)]
  simp
  split
  next => rfl
  next under => exact if_pos (full.resolve_left under)

theorem allow_free (free : ¬ r.Full key config now) : r.allow key config now =
      (true,{ r with requests := update r.requests key (r.valid key now ++ [now]) }) := by
  unfold allow
  rw [if_neg (by omega)]
  simp only [update_self,update_idem]
  exact (if_neg fun full => free (.inl full)).trans (if_neg fun full => free (.inr full))

theorem allow_iff : (r.allow key config now).1 = true ↔ ¬ r.Full key config now := by
  by_cases full : r.Full key config now
  · simp [allow_full limited full,full]
  · simp [allow_free limited full,full]

end

@[simp] theorem allow_burstWindow : (r.allow key config now).2.burstWindow = r.burstWindow := by
  by_cases limited : 0 < config.requestsPerMinute
  · by_cases full : r.Full key config now
    · rw [allow_full limited full]
    · rw [allow_free limited full]
  · rw [allow_unlimited (by omega)]

theorem allow_other {other : String} (different : other ≠ key) :
    (r.allow key config now).2.requests other = r.requests other := by
  by_cases limited : 0 < config.requestsPerMinute
  · by_cases full : r.Full key config now
    · rw [allow_full limited full]
      exact update_of_ne different _ _
    · rw [allow_free limited full]
      exact update_of_ne different _ _
  · rw [allow_unlimited (by omega)]

theorem allow_own (limited : 0 < config.requestsPerMinute) : (r.allow key config now).2.requests key =
    r.valid key now ++ if (r.allow key config now).1 then [now] else [] := by
  by_cases full : r.Full key config now
  · simp [allow_full limited full]
  · simp [allow_free limited full]

@[simp] theorem after_burstWindow : (after serve r calls).burstWindow = r.burstWindow := by
  induction calls generalizing r with
  | nil => rfl
  | cons call rest ih => rw [after_cons,ih,serve,allow_burstWindow]

theorem serve_requests (own : call.key = key) (limited : 0 < call.config.requestsPerMinute) :
    (call.serve r).2.requests key = r.valid key call.now ++ if (call.serve r).1 then [call.now] else [] := by
  subst own
  exact allow_own limited

/-- The limiter as far as a key can see it. -/
theorem serve_own {r' : InMemoryRateLimiter} (own : call.key = key)
    (same : (r.requests key,r.burstWindow) = (r'.requests key,r'.burstWindow)) :
    (call.serve r).1 = (call.serve r').1 ∧ ((call.serve r).2.requests key,(call.serve r).2.burstWindow) =
      ((call.serve r').2.requests key,(call.serve r').2.burstWindow) := by
  obtain ⟨requests,burst⟩ := Prod.mk.inj same
  subst own
  have valid : r.valid call.key call.now = r'.valid call.key call.now := by
    unfold valid
    rw [requests]
  by_cases limited : 0 < call.config.requestsPerMinute
  · have answer : (call.serve r).1 = (call.serve r').1 := by
      rw [Bool.eq_iff_iff,serve,serve,allow_iff limited,allow_iff limited]
      unfold Full
      rw [valid,burst]
    refine ⟨answer,?_⟩
    rw [serve_requests rfl limited,serve_requests rfl limited,valid,answer]
    unfold serve
    rw [allow_burstWindow,allow_burstWindow,burst]
  · unfold serve
    rw [allow_unlimited (by omega),allow_unlimited (by omega)]
    exact ⟨rfl,same⟩

section
variable (history : History key config (calls ++ [call]))
include history

theorem History.init : History key config calls where
  ordered := (pairwise_append.mp history.ordered).1
  fixed earlier listed := history.fixed earlier (mem_append_left _ listed)

theorem History.last : ∀ earlier ∈ calls, earlier.now ≤ call.now :=
  fun earlier listed => (pairwise_append.mp history.ordered).2.2 earlier listed call (mem_singleton_self _)

theorem History.config_eq (own : call.key = key) : call.config = config :=
  history.fixed call (mem_append_right _ (mem_singleton_self _)) own

end

theorem admitted_concat : admitted r key (calls ++ [call]) = admitted r key calls ++
    if call.key = key ∧ (call.serve (after serve r calls)).1 = true then [call.now] else [] := by
  unfold admitted
  rw [answers_concat,filter_append,map_append]
  congr 1
  by_cases own : call.key = key
  · cases (call.serve (after serve r calls)).1 <;> simp [own]
  · simp [own]

theorem admitted_ordered (ordered : calls.Pairwise (·.now ≤ ·.now)) : (admitted r key calls).Pairwise (· ≤ ·) := by
  unfold admitted
  rw [pairwise_map]
  exact (answers_pairwise ordered).sublist filter_sublist

theorem admitted_le (bounded : ∀ call ∈ calls, call.now ≤ now) : ∀ t ∈ admitted r key calls, t ≤ now := by
  intro t listed
  obtain ⟨⟨call,answer⟩,passed,rfl⟩ := mem_map.mp listed
  exact bounded call (input_of_answered (mem_filter.mp passed).1)

end

def fresh (burstWindow : Int) : InMemoryRateLimiter := { burstWindow }

section
variable {burstWindow : Int} {key : String} {config : RateLimitConfig} {calls : List Call} {call : Call} {now : Int}

/-- For a time not past, the limiter has all admitted requests of the minute before it. -/
theorem remembers (limited : 0 < config.requestsPerMinute) (history : History key config calls)
    (current : ∀ call ∈ calls, call.now ≤ now) : (after serve (fresh burstWindow) calls).valid key now =
      (admitted (fresh burstWindow) key calls).filter fun t => decide (now - minute < t) := by
  refine after_keeps (fun calls (r : InMemoryRateLimiter) => ∀ now, (∀ call ∈ calls, call.now ≤ now) →
    r.valid key now = (admitted (fresh burstWindow) key calls).filter fun t => decide (now - minute < t))
    (fun _ _ => History.init) (fun _ _ => rfl) (fun calls call history kept now current => ?_) calls history now current
  have turn : call.now ≤ now := current call (by simp)
  rw [admitted_concat,filter_append]
  by_cases own : call.key = key
  · have configured : 0 < call.config.requestsPerMinute := history.config_eq own ▸ limited
    unfold valid
    rw [serve_requests own configured,kept call.now history.last,filter_append,filter_filter]
    congr 1
    · refine filter_congr fun t _ => ?_
      rw [← Bool.decide_and,decide_eq_decide]
      omega
    · simp [own]
  · have unchanged : (call.serve (after serve (fresh burstWindow) calls)).2.valid key now =
        (after serve (fresh burstWindow) calls).valid key now := by
      unfold valid serve
      rw [allow_other (Ne.symm own)]
    rw [unchanged,kept now fun earlier listed => current earlier (mem_append_left _ listed)]
    simp [own]

section
variable (limited : 0 < config.requestsPerMinute) (short : 0 < config.burst → burstWindow ≤ minute) (history : History key config calls)
include limited short history

/-- The two tests of a call, over the whole history. -/
theorem full_iff (current : ∀ call ∈ calls, call.now ≤ now) :
    (after serve (fresh burstWindow) calls).Full key config now ↔
      config.requestsPerMinute ≤ (admitted (fresh burstWindow) key calls).countP (fun t => decide (now - minute < t)) ∨
      0 < config.burst ∧
        config.burst ≤ (admitted (fresh burstWindow) key calls).countP (fun t => decide (now - burstWindow < t)) := by
  unfold Full
  rw [remembers limited history current,← countP_eq_length_filter,countP_filter,after_burstWindow]
  refine or_congr_right (and_congr_right fun bursts => ?_)
  have inside : (fun t => decide (now - (fresh burstWindow).burstWindow < t) && decide (now - minute < t)) =
      fun t => decide (now - burstWindow < t) := by
    funext t
    rw [← Bool.decide_and,decide_eq_decide]
    simp only [fresh]
    omega
  rw [inside]

theorem admitted_paced : Paced config.requestsPerMinute minute (admitted (fresh burstWindow) key calls) ∧
      (0 < config.burst → Paced config.burst burstWindow (admitted (fresh burstWindow) key calls)) := by
  induction calls using reverseRecOn with
  | nil => exact ⟨paced_nil,fun _ => paced_nil⟩
  | append_singleton calls call ih =>
    obtain ⟨minutes,bursts⟩ := ih history.init
    rw [admitted_concat]
    split
    next passed =>
      obtain ⟨own,allowed⟩ := passed
      have same := history.config_eq own
      rw [serve,own,same,allow_iff limited,full_iff limited short history.init history.last,not_or,not_and] at allowed
      exact ⟨paced_concat.mpr ⟨minutes,by omega⟩,
        fun bursting => paced_concat.mpr ⟨bursts bursting,by have := allowed.2 bursting; omega⟩⟩
    next => simpa using ⟨minutes,bursts⟩

end

theorem ending_window (current : ∀ call ∈ calls, call.now ≤ now) (width : Int) :
    (admitted (fresh burstWindow) key calls).countP (fun t => decide (now - width < t ∧ t ≤ now)) =
      (admitted (fresh burstWindow) key calls).countP (fun t => decide (now - width < t)) := by
  refine countP_congr fun t listed => ?_
  have past := admitted_le current t listed
  simp [past]

end

/-- No window has more admitted requests of a key than allowed, a request is rejected only when a window that ends with
    it is full, and other keys do not matter. -/
theorem allow_exact (burstWindow : Int) (key : String) (config : RateLimitConfig) (calls : List Call)
    (limited : 0 < config.requestsPerMinute) (short : 0 < config.burst → burstWindow ≤ minute)
    (ordered : calls.Pairwise (·.now ≤ ·.now)) (fixed : ∀ call ∈ calls, call.key = key → call.config = config) :
    (∀ a, ((admitted (fresh burstWindow) key calls).countP (fun t => decide (a ≤ t ∧ t < a + minute)) : Int) ≤
          config.requestsPerMinute ∧
        ((admitted (fresh burstWindow) key calls).countP (fun t => decide (a < t ∧ t ≤ a + minute)) : Int) ≤
          config.requestsPerMinute) ∧ (0 < config.burst → ∀ a,
        ((admitted (fresh burstWindow) key calls).countP (fun t => decide (a ≤ t ∧ t < a + burstWindow)) : Int) ≤
          config.burst ∧
        ((admitted (fresh burstWindow) key calls).countP (fun t => decide (a < t ∧ t ≤ a + burstWindow)) : Int) ≤
          config.burst) ∧ (∀ before call rest, calls = before ++ call :: rest → call.key = key →
        (call.serve (after serve (fresh burstWindow) before)).1 = false →
        config.requestsPerMinute ≤ (admitted (fresh burstWindow) key before).countP
            (fun t => decide (call.now - minute < t ∧ t ≤ call.now)) ∨
          0 < config.burst ∧ config.burst ≤ (admitted (fresh burstWindow) key before).countP
            (fun t => decide (call.now - burstWindow < t ∧ t ≤ call.now))) ∧
      (answers serve (fresh burstWindow) calls).filter (fun answered => decide (answered.1.key = key)) =
        answers serve (fresh burstWindow) (calls.filter fun call => decide (call.key = key)) := by
  have history : History key config calls := ⟨ordered,fixed⟩
  obtain ⟨minutes,bursts⟩ := admitted_paced limited short history
  have sorted : (admitted (fresh burstWindow) key calls).Pairwise (· ≤ ·) := admitted_ordered ordered
  refine ⟨minutes.windows sorted (by omega),fun bursting => (bursts bursting).windows sorted (by omega),?_,?_⟩
  · rintro before call rest rfl own rejected
    have earlier : History key config (before ++ [call]) := by
      have whole : before ++ call :: rest = before ++ [call] ++ rest := by simp
      rw [whole] at ordered fixed
      exact ⟨(pairwise_append.mp ordered).1,fun other listed => fixed other (mem_append_left _ listed)⟩
    rw [ending_window earlier.last,ending_window earlier.last,← full_iff limited short earlier.init earlier.last]
    rw [serve,own,earlier.config_eq own] at rejected
    by_contra free
    rw [(allow_iff limited).mpr free] at rejected
    cases rejected
  · exact answers_filter (fun call : Call => decide (call.key = key))
      (fun r : InMemoryRateLimiter => (r.requests key,r.burstWindow))
      (fun r r' call own same => serve_own (of_decide_eq_true own) same)
      (fun r call other => by rw [serve,allow_other (Ne.symm (of_decide_eq_false other)),allow_burstWindow]) rfl

/-- The first call of a burst passes, the next is too early, and the last finds its minute full. -/
def busy : List Call :=
  [⟨"k",⟨2,1⟩,0⟩,⟨"other",⟨1,0⟩,0⟩,⟨"k",⟨2,1⟩,second⟩,⟨"k",⟨2,1⟩,11 * second⟩,⟨"k",⟨2,1⟩,30 * second⟩]

theorem allow_exact_busy : admitted (fresh (10 * second)) "k" busy = [0,11 * second] ∧
    ∀ a, ((admitted (fresh (10 * second)) "k" busy).countP (fun t => decide (a ≤ t ∧ t < a + minute)) : Int) ≤ 2 ∧
      ((admitted (fresh (10 * second)) "k" busy).countP (fun t => decide (a < t ∧ t ≤ a + minute)) : Int) ≤ 2 :=
  ⟨by decide,(allow_exact (10 * second) "k" ⟨2,1⟩ busy (by decide) (by decide) (by decide) (by decide)).1⟩

end McpBridge.MemoryLimiter
