import McpBridge.Buckets
import McpBridge.Runs

/-!
The token bucket of the router (`ratelimit.TokenBucketLimiter`), with exact numbers for its floats. `Allow` and the loop
in `Wait` refill one bucket and draw from it, but only `Allow` gives a bucket without burst room for a token: `Wait`
keeps it empty and sleeps for ever.
-/
namespace McpBridge.TokenBuckets
open Runs Buckets

def maxDuration : Int := 2 ^ 63 - 1

def minDuration : Int := -2 ^ 63

def sub (now last : Int) : Int := max minDuration (min (now - last) maxDuration)

def seconds (d : Int) : Rat := d / 1000000000

/-- `time.Duration(x)` drops the fraction; out of range the platform decides. -/
def toDuration (beyond : Rat → Int) (x : Rat) : Int :=
  let whole := if 0 ≤ x then x.floor else x.ceil
  if minDuration ≤ whole ∧ whole ≤ maxDuration then whole else beyond x

inductive RateLimitError where
  | exceeded (rate : Rat) (burst : Int)
  | waitTime (waitTime maxWait : Int)
  deriving DecidableEq

structure TokenBucketLimiter where
  rate : Rat
  burst : Int
  maxWait : Int
  tokens : Rat
  lastTime : Int

def newTokenBucketLimiter (rate : Rat) (burst maxWait now : Int) : TokenBucketLimiter where
  rate := rate
  burst := burst
  maxWait := maxWait
  tokens := if burst ≤ 0 ∧ 0 < rate then 1 else if burst ≤ 0 then 0 else burst
  lastTime := now

/-- What both methods do first, each with its own cap. -/
def TokenBucketLimiter.refill (l : TokenBucketLimiter) (maxTokens : Rat) (now : Int) : TokenBucketLimiter :=
  let tokens := l.tokens + seconds (sub now l.lastTime) * l.rate
  { l with tokens := if maxTokens < tokens then maxTokens else tokens, lastTime := now }

def TokenBucketLimiter.take (l : TokenBucketLimiter) : TokenBucketLimiter := { l with tokens := l.tokens - 1 }

/-- For zero or negative burst, `Allow` caps the tokens at 1. -/
def TokenBucketLimiter.maxTokens (l : TokenBucketLimiter) : Rat := if l.burst ≤ 0 then 1 else l.burst

def TokenBucketLimiter.allow (l : TokenBucketLimiter) (now : Int) : Except RateLimitError Unit × TokenBucketLimiter :=
  if l.rate ≤ 0 then (.error (.exceeded l.rate l.burst),l) else
  let l := l.refill l.maxTokens now
  if 1 ≤ l.tokens then (.ok (),l.take) else (.error (.exceeded l.rate l.burst),l)

inductive Pass where
  | admitted
  | refused (err : RateLimitError)
  | sleeps (waitTime : Int)
  deriving DecidableEq

/-- `tokensNeeded / l.rate * float64(time.Second)`, as a duration. -/
def TokenBucketLimiter.waitTime (beyond : Rat → Int) (l : TokenBucketLimiter) : Int :=
  toDuration beyond ((1 - l.tokens) / l.rate * 1000000000)

/-- One pass of the loop, up to the timer. -/
def TokenBucketLimiter.pass (beyond : Rat → Int) (l : TokenBucketLimiter) (now : Int) : Pass × TokenBucketLimiter :=
  let l := l.refill l.burst now
  if 1 ≤ l.tokens then (.admitted,l.take)
  else if l.maxWait < l.waitTime beyond then (.refused (.waitTime (l.waitTime beyond) l.maxWait),l)
  else (.sleeps (l.waitTime beyond),l)

/-- `Wait` of a sole caller without cancellation, with the readings of the clock and a bound on the passes. -/
def TokenBucketLimiter.wait (beyond : Rat → Int) :
    Nat → (Nat → Int) → TokenBucketLimiter → Option (Except RateLimitError Unit × TokenBucketLimiter)
  | 0,_,_ => none
  | fuel + 1,clock,l =>
    match l.pass beyond (clock 0) with
    | (.admitted,l) => some (.ok (),l)
    | (.refused err,l) => some (.error err,l)
    | (.sleeps _,l) => wait beyond fuel (fun i => clock (i + 1)) l

/-! ### Any number of callers -/

/-- The limiter, those asleep and the times admitted. -/
structure State where
  limiter : TokenBucketLimiter
  now : Int
  sleeping : Nat → Option Int := fun _ => none
  admitted : List Int := []

inductive Label where
  | allow (now : Int)
  | wait (caller : Nat) (now : Int)
  | wake (caller : Nat) (now : Int)
  | cancel (caller : Nat)

def start (rate : Rat) (burst maxWait now : Int) : State := { limiter := newTokenBucketLimiter rate burst maxWait now,now }

def allowed (s : State) (now : Int) : State :=
  match s.limiter.allow now with
  | (.ok _,limiter) => { s with limiter,now,admitted := now :: s.admitted }
  | (.error _,limiter) => { s with limiter,now }

def passed (beyond : Rat → Int) (s : State) (caller : Nat) (now : Int) : State :=
  match s.limiter.pass beyond now with
  | (.admitted,limiter) =>
    { limiter,now,sleeping := Function.update s.sleeping caller none,admitted := now :: s.admitted }
  | (.refused _,limiter) => { s with limiter,now,sleeping := Function.update s.sleeping caller none }
  | (.sleeps waitTime,limiter) =>
    { s with limiter,now,sleeping := Function.update s.sleeping caller (some (now + waitTime)) }

/-- One call of the limiter, or a sleeper's next try. -/
def step (beyond : Rat → Int) (s : State) : Label → Option State
  | .allow now => if s.now ≤ now then some (allowed s now) else none
  | .wait caller now => if s.now ≤ now ∧ s.sleeping caller = none then some (passed beyond s caller now) else none
  | .wake caller now =>
    match s.sleeping caller with
    | some due => if s.now ≤ now ∧ due ≤ now then some (passed beyond s caller now) else none
    | none => none
  | .cancel caller =>
    if s.sleeping caller = none then none else some { s with sleeping := Function.update s.sleeping caller none }

/-! ### What a visit does to the bucket -/

open TokenBucketLimiter

section
variable {beyond : Rat → Int} {l : TokenBucketLimiter} {maxTokens : Rat} {now : Int}

@[simp] theorem refill_rate : (l.refill maxTokens now).rate = l.rate := rfl

@[simp] theorem refill_burst : (l.refill maxTokens now).burst = l.burst := rfl

@[simp] theorem refill_maxWait : (l.refill maxTokens now).maxWait = l.maxWait := rfl

@[simp] theorem refill_lastTime : (l.refill maxTokens now).lastTime = now := rfl

theorem refill_tokens :
    (l.refill maxTokens now).tokens = min maxTokens (l.tokens + seconds (sub now l.lastTime) * l.rate) := by
  unfold refill
  dsimp only
  split
  next above => exact (min_eq_left (le_of_lt above)).symm
  next below => exact (min_eq_right (not_lt.mp below)).symm

@[simp] theorem take_tokens : l.take.tokens = l.tokens - 1 := rfl

theorem seconds_mono {d e : Int} (order : d ≤ e) : seconds d ≤ seconds e := by
  unfold seconds
  have cast : (d : Rat) ≤ e := by exact_mod_cast order
  linarith

theorem seconds_add (d e : Int) : seconds (d + e) = seconds d + seconds e := by
  unfold seconds
  push_cast
  ring

theorem seconds_sub (d e : Int) : seconds (d - e) = seconds d - seconds e := by
  unfold seconds
  push_cast
  ring

variable {last : Int}

theorem sub_nonneg (order : last ≤ now) : 0 ≤ sub now last := by
  unfold sub minDuration maxDuration
  omega

theorem seconds_sub_le (order : last ≤ now) : seconds (sub now last) ≤ seconds now - seconds last := by
  rw [← seconds_sub]
  apply seconds_mono
  unfold sub minDuration
  omega

theorem elapsed_nonneg (order : last ≤ now) : 0 ≤ seconds (sub now last) := by
  have zero : seconds 0 = 0 := by simp [seconds]
  rw [← zero]
  exact seconds_mono (sub_nonneg order)

/-- With a positive burst both methods refill the limiter, and then take a token if they admit. -/
inductive Visit (l : TokenBucketLimiter) (maxTokens : Rat) (now : Int) : Bool → TokenBucketLimiter → Prop where
  | taken (enough : 1 ≤ (l.refill maxTokens now).tokens) : Visit l maxTokens now true (l.refill maxTokens now).take
  | left (short : (l.refill maxTokens now).tokens < 1) : Visit l maxTokens now false (l.refill maxTokens now)

theorem allow_visit (positive : 0 < l.rate) : Visit l l.maxTokens now (l.allow now).1.isOk (l.allow now).2 := by
  unfold allow
  rw [if_neg (not_le.mpr positive)]
  dsimp only
  split
  next enough => exact .taken enough
  next short => exact .left (not_le.mp short)

theorem pass_visit : Visit l l.burst now (decide ((l.pass beyond now).1 = .admitted)) (l.pass beyond now).2 := by
  unfold TokenBucketLimiter.pass
  dsimp only
  split
  next enough => exact .taken enough
  next short =>
    split
    next long => exact .left (not_le.mp short)
    next => exact .left (not_le.mp short)

end

structure Made (rate : Rat) (burst maxWait : Int) (s : State) : Prop where
  rate_eq : s.limiter.rate = rate
  burst_eq : s.limiter.burst = burst
  maxWait_eq : s.limiter.maxWait = maxWait
  past : s.limiter.lastTime ≤ s.now

/-- A step leaves the limiter alone or is a visit, and admits an event where the visit takes a token. -/
inductive Stepped (s : State) : State → Prop where
  | idle {t : State} (same : t.limiter = s.limiter) (time : t.now = s.now) (none : t.admitted = s.admitted) : Stepped s t
  | visit {t : State} {maxTokens : Rat} {took : Bool} (cap : maxTokens = s.limiter.maxTokens ∨ maxTokens = s.limiter.burst)
      (order : s.now ≤ t.now) (visit : Visit s.limiter maxTokens t.now took t.limiter)
      (counted : t.admitted = if took then t.now :: s.admitted else s.admitted) : Stepped s t

section
variable {beyond : Rat → Int} {rate : Rat} {burst maxWait : Int} {s t : State}

variable {now : Int}

theorem allowed_stepped (positive : 0 < s.limiter.rate) (order : s.now ≤ now) : Stepped s (allowed s now) := by
  have visit : Visit s.limiter s.limiter.maxTokens now _ _ := allow_visit positive
  unfold allowed
  cases answer : s.limiter.allow now with
  | mk result limiter =>
    rw [answer] at visit
    cases result with
    | ok | error => exact .visit (.inl rfl) order visit rfl

theorem passed_stepped (caller : Nat) (order : s.now ≤ now) : Stepped s (passed beyond s caller now) := by
  have visit : Visit s.limiter s.limiter.burst now _ _ := @pass_visit beyond _ _
  unfold passed
  cases answer : s.limiter.pass beyond now with
  | mk result limiter =>
    rw [answer] at visit
    cases result with
    | admitted | refused | sleeps => exact .visit (.inr rfl) order visit rfl

theorem step_stepped (positive : 0 < s.limiter.rate) {label : Label} (taken : step beyond s label = some t) :
    Stepped s t := by
  revert taken
  fun_cases step beyond s label <;> rintro ⟨⟩
  case case1 order => exact allowed_stepped positive order
  case case3 caller _ order => exact passed_stepped caller order.1
  case case5 caller _ _ _ order => exact passed_stepped caller order.1
  case case9 => exact .idle rfl rfl rfl

theorem Visit.made {l l' : TokenBucketLimiter} {maxTokens : Rat} {took : Bool} (visit : Visit l maxTokens now took l') :
    l'.rate = l.rate ∧ l'.burst = l.burst ∧ l'.maxWait = l.maxWait ∧ l'.lastTime = now := by
  cases visit with
  | taken | left => exact ⟨rfl,rfl,rfl,rfl⟩

theorem Made.kept (made : Made rate burst maxWait s) (stepped : Stepped s t) : Made rate burst maxWait t := by
  cases stepped with
  | idle same time =>
    refine ⟨?_,?_,?_,?_⟩
    · rw [same]
      exact made.rate_eq
    · rw [same]
      exact made.burst_eq
    · rw [same]
      exact made.maxWait_eq
    · rw [same,time]
      exact made.past
  | visit cap order visit =>
    obtain ⟨rates,bursts,waits,last⟩ := visit.made
    exact ⟨rates.trans made.rate_eq,bursts.trans made.burst_eq,waits.trans made.maxWait_eq,last.le⟩

theorem made_start (now : Int) : Made rate burst maxWait (start rate burst maxWait now) := ⟨rfl,rfl,rfl,Int.le_refl _⟩

/-- The events so far are paid for. -/
def Paid (rate : Rat) (burst : Int) (s : State) : Prop :=
  Funded (burst : Rat) rate (seconds s.limiter.lastTime) s.limiter.tokens (s.admitted.map seconds)

theorem paid_start (positive : 0 < rate) (room : 1 ≤ burst) (now : Int) :
    Paid rate burst (start rate burst maxWait now) := by
  have initial : (newTokenBucketLimiter rate burst maxWait now).tokens = burst := by
    simp only [newTokenBucketLimiter]
    rw [if_neg (by omega),if_neg (by omega)]
  have full : (0 : Rat) ≤ burst := by exact_mod_cast (by omega : 0 ≤ burst)
  show Funded _ _ _ (newTokenBucketLimiter rate burst maxWait now).tokens []
  rw [initial]
  exact funded_nil (le_of_lt positive) full (le_refl _)

theorem Visit.paid {l l' : TokenBucketLimiter} {took : Bool} {events : List Int}
    (visit : Visit l burst now took l') (positive : 0 < l.rate) (room : 1 ≤ burst) (order : l.lastTime ≤ now)
    (funded : Funded (burst : Rat) l.rate (seconds l.lastTime) l.tokens (events.map seconds)) :
    Funded (burst : Rat) l.rate (seconds now) l'.tokens ((if took then now :: events else events).map seconds) := by
  have passed := elapsed_nonneg order
  have inflow : seconds (sub now l.lastTime) * l.rate ≤ l.rate * (seconds now - seconds l.lastTime) := by
    rw [mul_comm]
    exact mul_le_mul_of_nonneg_left (seconds_sub_le order) (le_of_lt positive)
  have gain := mul_nonneg passed (le_of_lt positive)
  have refilled : Funded (burst : Rat) l.rate (seconds now) (l.refill burst now).tokens (events.map seconds) := by
    have lower := funded.lower
    have full : (1 : Rat) ≤ burst := by exact_mod_cast room
    apply funded.refill (seconds_mono order)
    · rw [refill_tokens]
      apply le_min <;> linarith
    · rw [refill_tokens]
      exact min_le_left ..
    · exact le_of_lt positive
    · rw [refill_tokens]
      exact (min_le_right ..).trans (by linarith)
  cases visit with
  | taken enough => exact refilled.draw (le_of_lt positive) enough
  | left => exact refilled

theorem Paid.kept (positive : 0 < rate) (room : 1 ≤ burst) (made : Made rate burst maxWait s) (paid : Paid rate burst s)
    (stepped : Stepped s t) : Paid rate burst t := by
  cases stepped with
  | idle same time none =>
    unfold Paid
    rw [same,none]
    exact paid
  | visit cap order visit counted =>
    have whole : s.limiter.maxTokens = burst := by
      rw [maxTokens,made.burst_eq,if_neg (by omega)]
    rw [whole,made.burst_eq,or_self] at cap
    subst cap
    have rates := made.rate_eq
    subst rates
    have last := visit.made.2.2.2
    unfold Paid
    rw [counted,last]
    exact visit.paid positive room (made.past.trans order) paid

/-- The level is from zero to the burst, and no interval has more events than burst and rate allow. -/
structure Bounded (rate : Rat) (burst : Int) (s : State) : Prop where
  lower : 0 ≤ s.limiter.tokens
  upper : s.limiter.tokens ≤ burst
  interval : ∀ a d : Rat, 0 ≤ d →
    (s.admitted.countP (fun t => decide (a ≤ seconds t ∧ seconds t ≤ a + d)) : Rat) ≤ burst + rate * d

theorem Paid.bounded (paid : Paid rate burst s) : Bounded rate burst s := by
  refine ⟨paid.lower,paid.upper,fun a d length => ?_⟩
  have within := paid.within a (a + d) (by linarith)
  rw [List.countP_map,add_sub_cancel_left] at within
  exact within

end

/-- In any mix of calls of `Allow` and `Wait`, by any number of callers, the bucket keeps to its level and rate. -/
theorem token_bucket_bounded (beyond : Rat → Int) (rate : Rat) (burst maxWait now : Int) (positive : 0 < rate)
    (room : 1 ≤ burst) (labels : List Label) (t : State)
    (executed : run (step beyond) (start rate burst maxWait now) labels = some t) :
    Bounded rate burst t := by
  have kept : ∀ s label next, Made rate burst maxWait s ∧ Paid rate burst s → step beyond s label = some next →
      Made rate burst maxWait next ∧ Paid rate burst next := by
    rintro s label next ⟨made,paid⟩ taken
    have stepped : Stepped s next := step_stepped (by rw [made.rate_eq]; exact positive) taken
    exact ⟨made.kept stepped,paid.kept positive room made stepped⟩
  obtain ⟨_,paid⟩ := reaches_keeps kept ⟨made_start now,paid_start positive room now⟩ ⟨labels,executed⟩
  exact paid.bounded

/-- Two events per second after a burst of two: the third, half a second later, has waited for its token. -/
theorem token_bucket_bounded_woken :
    ∃ t, run (step fun _ => 0) (start 2 2 1000000000 0) [.allow 0,.allow 0,.wait 7 0,.allow 1,.wake 7 500000000] = some t ∧
      t.admitted = [500000000,0,0] ∧ Bounded 2 2 t := by
  have admitted : (run (step fun _ => 0) (start 2 2 1000000000 0)
      [.allow 0,.allow 0,.wait 7 0,.allow 1,.wake 7 500000000]).map (·.admitted) = some [500000000,0,0] := by decide +kernel
  obtain ⟨t,executed,events⟩ := Option.map_eq_some_iff.mp admitted
  exact ⟨t,executed,events,token_bucket_bounded _ 2 2 1000000000 0 (by norm_num) (by norm_num) _ t executed⟩

/-! ### The loop of `Wait` -/

section
variable {beyond : Rat → Int} {rate : Rat} {burst maxWait : Int} {s t : State} {l : TokenBucketLimiter} {clock : Nat → Int}

def Level (s : State) : Prop := min (s.limiter.burst : Rat) 0 ≤ s.limiter.tokens

theorem level_start (now : Int) : Level (start rate burst maxWait now) := by
  show min (burst : Rat) 0 ≤ (newTokenBucketLimiter rate burst maxWait now).tokens
  simp only [newTokenBucketLimiter]
  split
  next => exact (min_le_right ..).trans zero_le_one
  next =>
    split
    next => exact min_le_right ..
    next => exact min_le_left ..

theorem burst_le_maxTokens (l : TokenBucketLimiter) : min (l.burst : Rat) 0 ≤ l.maxTokens := by
  unfold maxTokens
  split
  next => exact (min_le_right ..).trans zero_le_one
  next => exact min_le_left ..

variable {l' : TokenBucketLimiter} {now : Int} {n : Nat}

theorem Visit.level {maxTokens : Rat} {took : Bool} (visit : Visit l maxTokens now took l')
    (positive : 0 < l.rate) (order : l.lastTime ≤ now) (room : min (l.burst : Rat) 0 ≤ maxTokens)
    (level : min (l.burst : Rat) 0 ≤ l.tokens) : min (l.burst : Rat) 0 ≤ l'.tokens := by
  have gain := mul_nonneg (elapsed_nonneg order) (le_of_lt positive)
  cases visit with
  | taken enough =>
    rw [take_tokens]
    exact (min_le_right ..).trans (by linarith)
  | left short =>
    rw [refill_tokens]
    exact le_min room (by linarith)

theorem Level.kept (positive : 0 < s.limiter.rate) (past : s.limiter.lastTime ≤ s.now) (level : Level s)
    (stepped : Stepped s t) : Level t := by
  cases stepped with
  | idle same =>
    unfold Level
    rw [same]
    exact level
  | @visit maxTokens took cap order visit =>
    have room : min (s.limiter.burst : Rat) 0 ≤ maxTokens := by
      rcases cap with rfl | rfl
      · exact burst_le_maxTokens _
      · exact min_le_left ..
    unfold Level
    rw [visit.made.2.1]
    exact visit.level positive (past.trans order) room level

theorem refill_of_burst (positive : 0 < l.rate) (level : (l.burst : Rat) ≤ l.tokens)
    (order : l.lastTime ≤ now) : (l.refill l.burst now).tokens = l.burst := by
  have gain := mul_nonneg (elapsed_nonneg order) (le_of_lt positive)
  rw [refill_tokens]
  exact min_eq_left (by linarith)

/-- How long `Wait` has to wait when there are as many tokens as the burst says. -/
def emptyWait (beyond : Rat → Int) (rate : Rat) (burst : Int) : Int :=
  toDuration beyond ((1 - burst) / rate * 1000000000)

theorem pass_of_burst (positive : 0 < l.rate) (none : l.burst ≤ 0) (level : (l.burst : Rat) ≤ l.tokens)
    (order : l.lastTime ≤ now) : l.pass beyond now =
      ((if l.maxWait < emptyWait beyond l.rate l.burst then .refused (.waitTime (emptyWait beyond l.rate l.burst) l.maxWait)
        else .sleeps (emptyWait beyond l.rate l.burst)),l.refill l.burst now) := by
  have tokens := refill_of_burst positive level order
  have short : (l.burst : Rat) < 1 := by exact_mod_cast (by omega : l.burst < 1)
  have wait : (l.refill l.burst now).waitTime beyond = emptyWait beyond l.rate l.burst := by
    rw [waitTime,tokens]
    rfl
  unfold TokenBucketLimiter.pass
  dsimp only
  rw [tokens,if_neg (not_le.mpr short),wait,refill_maxWait]
  split <;> rfl

theorem wait_succ (fuel : Nat) : l.wait beyond (fuel + 1) clock = match l.pass beyond (clock 0) with
    | (.admitted,l) => some (.ok (),l)
    | (.refused err,l) => some (.error err,l)
    | (.sleeps _,l) => l.wait beyond fuel (fun i => clock (i + 1)) := by
  rfl

/-- Without burst, the loop ends in its first pass or never. -/
theorem wait_of_burst (positive : 0 < l.rate) (none : l.burst ≤ 0) (level : (l.burst : Rat) ≤ l.tokens)
    (forward : Monotone clock) (order : l.lastTime ≤ clock 0) :
    (∃ fuel result, l.wait beyond fuel clock = some result) ↔ l.maxWait < emptyWait beyond l.rate l.burst := by
  constructor
  · rintro ⟨fuel,result,returned⟩
    by_contra short
    induction fuel generalizing l clock with
    | zero => cases returned
    | succ fuel ih =>
      have passes : l.pass beyond (clock 0) = (.sleeps (emptyWait beyond l.rate l.burst),l.refill l.burst (clock 0)) := by
        rw [pass_of_burst positive none level order,if_neg short]
      rw [wait_succ,passes] at returned
      have again := refill_of_burst positive level order
      exact ih (l := l.refill l.burst (clock 0)) positive none (le_of_eq again.symm)
        (fun i j before => forward (Nat.succ_le_succ before)) (forward (Nat.zero_le 1)) returned short
  · intro long
    have passes : l.pass beyond (clock 0) =
        (.refused (.waitTime (emptyWait beyond l.rate l.burst) l.maxWait),l.refill l.burst (clock 0)) := by
      rw [pass_of_burst positive none level order,if_pos long]
    exact ⟨1,_,by rw [wait_succ,passes]⟩

theorem asleep_succ (asleep : l.wait beyond (n + 1) clock = none) : (l.refill l.burst (clock 0)).tokens < 1 ∧
      (l.refill l.burst (clock 0)).wait beyond n (fun i => clock (i + 1)) = none := by
  rw [wait_succ] at asleep
  unfold TokenBucketLimiter.pass at asleep
  by_cases enough : 1 ≤ (l.refill l.burst (clock 0)).tokens
  · rw [if_pos enough] at asleep
    cases asleep
  · rw [if_neg enough] at asleep
    refine ⟨not_le.mp enough,?_⟩
    by_cases long : (l.refill l.burst (clock 0)).maxWait < (l.refill l.burst (clock 0)).waitTime beyond
    · rw [if_pos long] at asleep
      cases asleep
    · rw [if_neg long] at asleep
      exact asleep

/-- While the loop sleeps, the level and the time counted since the first pass make less than a token. -/
theorem short_of_asleep (room : 1 ≤ l.burst) (forward : Monotone clock)
    (asleep : l.wait beyond (n + 1) clock = none) :
    (l.refill l.burst (clock 0)).tokens + seconds (gained maxDuration clock n) * l.rate < 1 := by
  induction n generalizing l clock with
  | zero =>
    have short := (asleep_succ asleep).1
    simpa [seconds] using short
  | succ n ih =>
    obtain ⟨_,later⟩ := asleep_succ asleep
    have full : (1 : Rat) ≤ l.burst := by exact_mod_cast room
    have forward' : Monotone fun i => clock (i + 1) := fun i j before => forward (Nat.succ_le_succ before)
    have short := ih (l := l.refill l.burst (clock 0)) room forward' later
    -- the second pass is below the cap, so all the time since the first has flowed in
    have second := (asleep_succ later).1
    have ahead : clock 0 ≤ clock 1 := forward (Nat.zero_le 1)
    have counted : sub (clock 1) (clock 0) = min (clock 1 - clock 0) maxDuration := by
      unfold sub minDuration maxDuration
      omega
    rw [refill_tokens] at second short
    simp only [refill_burst,refill_lastTime,refill_rate,counted] at second short
    rw [min_eq_right_iff.mpr] at short
    · rw [gained_succ_first,seconds_add]
      linarith
    · by_contra above
      rw [min_eq_left (le_of_lt (not_le.mp above))] at second
      linarith

theorem wait_returns (positive : 0 < l.rate) (room : 1 ≤ l.burst) (forward : Monotone clock)
    (unbounded : ∀ bound, ∃ n, bound ≤ clock n) : ∃ fuel result, l.wait beyond fuel clock = some result := by
  by_contra never
  push Not at never
  have asleep : ∀ n, l.wait beyond n clock = none := fun n => Option.eq_none_iff_forall_ne_some.mpr (never n)
  obtain ⟨amount,enough⟩ := exists_nat_ge ((1 - (l.refill l.burst (clock 0)).tokens) / l.rate * 1000000000)
  obtain ⟨n,passed⟩ := @exists_gained_ge maxDuration clock (by decide) forward unbounded amount
  have short := short_of_asleep room forward (asleep (n + 1))
  have passed : (amount : Rat) ≤ (gained maxDuration clock n : Rat) := by exact_mod_cast passed
  have time : (1 - (l.refill l.burst (clock 0)).tokens) / l.rate ≤ seconds (gained maxDuration clock n) := by
    unfold seconds
    linarith
  rw [div_le_iff₀ positive] at time
  linarith

end

/-- A call of `Wait`: it returns, and it admits at once whenever `Allow` would. -/
def Waits (beyond : Rat → Int) (l : TokenBucketLimiter) (clock : Nat → Int) : Prop :=
  (∃ fuel result, l.wait beyond fuel clock = some result) ∧
    ((l.allow (clock 0)).1 = .ok () → (l.pass beyond (clock 0)).1 = .admitted)

section
variable {beyond : Rat → Int} {l : TokenBucketLimiter} {clock : Nat → Int}

theorem allow_ok_iff (positive : 0 < l.rate) {now : Int} :
    (l.allow now).1 = .ok () ↔ 1 ≤ (l.refill l.maxTokens now).tokens := by
  unfold allow
  rw [if_neg (not_le.mpr positive)]
  by_cases enough : 1 ≤ (l.refill l.maxTokens now).tokens <;> simp [enough]

theorem pass_admitted_iff {now : Int} : (l.pass beyond now).1 = .admitted ↔ 1 ≤ (l.refill l.burst now).tokens := by
  unfold TokenBucketLimiter.pass
  by_cases enough : 1 ≤ (l.refill l.burst now).tokens
  · simp [enough]
  · simp only [enough,iff_false]
    by_cases long : (l.refill l.burst now).maxWait < (l.refill l.burst now).waitTime beyond
    · rw [if_pos long]
      simp
    · rw [if_neg long]
      simp

theorem waits_of_burst (positive : 0 < l.rate) (room : 1 ≤ l.burst) (forward : Monotone clock)
    (unbounded : ∀ bound, ∃ n, bound ≤ clock n) : Waits beyond l clock := by
  refine ⟨wait_returns positive room forward unbounded,?_⟩
  rw [allow_ok_iff positive,pass_admitted_iff,maxTokens,if_neg (by omega)]
  exact id

theorem waits_iff_of_no_burst (positive : 0 < l.rate) (none : l.burst ≤ 0) (level : (l.burst : Rat) ≤ l.tokens)
    (forward : Monotone clock) (order : l.lastTime ≤ clock 0) :
    Waits beyond l clock ↔ l.maxWait < emptyWait beyond l.rate l.burst ∧
      l.tokens + seconds (sub (clock 0) l.lastTime) * l.rate < 1 := by
  have short : ¬(1 : Rat) ≤ l.burst := by
    rw [not_le]
    exact_mod_cast (by omega : l.burst < 1)
  unfold Waits
  rw [wait_of_burst positive none level forward order,allow_ok_iff positive,pass_admitted_iff,refill_tokens,
    refill_of_burst positive level order,maxTokens,if_pos none,le_min_iff]
  simp [short]

end

/-- A call of `Wait` by a sole caller always returns, and admits at once whenever `Allow` would, exactly if there is
    burst, or else the wait for a token from an empty bucket is too long and there is no token for `Allow` either. -/
theorem wait_iff (beyond : Rat → Int) (rate : Rat) (burst maxWait now : Int) (positive : 0 < rate) (labels : List Label)
    (s : State) (executed : run (step beyond) (start rate burst maxWait now) labels = some s) (clock : Nat → Int)
    (forward : Monotone clock) (unbounded : ∀ bound, ∃ n, bound ≤ clock n) (order : s.now ≤ clock 0) :
    Waits beyond s.limiter clock ↔ 1 ≤ burst ∨ maxWait < emptyWait beyond rate burst ∧
        s.limiter.tokens + seconds (sub (clock 0) s.limiter.lastTime) * rate < 1 := by
  have kept : ∀ s label next, Made rate burst maxWait s ∧ Level s → step beyond s label = some next →
      Made rate burst maxWait next ∧ Level next := by
    rintro s label next ⟨made,level⟩ taken
    have positive : 0 < s.limiter.rate := by
      rw [made.rate_eq]
      exact positive
    have stepped : Stepped s next := step_stepped positive taken
    exact ⟨made.kept stepped,level.kept positive made.past stepped⟩
  obtain ⟨⟨rfl,rfl,rfl,past⟩,level⟩ := reaches_keeps kept ⟨made_start now,level_start now⟩ ⟨labels,executed⟩
  by_cases room : 1 ≤ s.limiter.burst
  · exact iff_of_true (waits_of_burst positive room forward unbounded) (.inl room)
  · have none : s.limiter.burst ≤ 0 := by omega
    have low : (s.limiter.burst : Rat) ≤ 0 := by exact_mod_cast none
    have level : (s.limiter.burst : Rat) ≤ s.limiter.tokens := by
      unfold Level at level
      rwa [min_eq_left low] at level
    rw [waits_iff_of_no_burst positive none level forward (past.trans order)]
    simp [room]

/-- One token per second and a burst of one, which the first call takes: the second waits. -/
theorem wait_iff_second : ∃ s, run (step fun _ => 0) (start 1 1 30000000000 0) [.wait 0 0] = some s ∧
    Waits (fun _ => 0) s.limiter (fun i => i * 1000000000) := by
  have some_ : (run (step fun _ => 0) (start 1 1 30000000000 0) [.wait 0 0]).isSome = true := by decide +kernel
  obtain ⟨s,executed⟩ := Option.isSome_iff_exists.mp some_
  have now : (run (step fun _ => 0) (start 1 1 30000000000 0) [.wait 0 0]).map (·.now) = some 0 := by decide +kernel
  rw [executed] at now
  refine ⟨s,executed,(wait_iff _ 1 1 30000000000 0 (by norm_num) _ s executed _ ?_ ?_ ?_).mpr (.inl (by norm_num))⟩
  · intro i j before
    dsimp only
    omega
  · intro bound
    exact ⟨bound.toNat,by omega⟩
  · have zero : s.now = 0 := Option.some.inj now
    rw [zero]
    decide

/-- One token per second without burst, and a clock that shows every second: `Wait` sleeps for ever. -/
theorem wait_never : ¬Waits (fun _ => 0) (newTokenBucketLimiter 1 0 30000000000 0) (fun i => i * 1000000000) ∧
    ((newTokenBucketLimiter 1 0 30000000000 0).allow 0).1 = .ok () ∧
      ¬∃ fuel result, (newTokenBucketLimiter 1 0 30000000000 0).wait (fun _ => 0) fuel (fun i => i * 1000000000) =
        some result := by
  have forward : Monotone fun i : Nat => (i : Int) * 1000000000 := by
    intro i j before
    dsimp only
    omega
  have never : ¬∃ fuel result, (newTokenBucketLimiter 1 0 30000000000 0).wait (fun _ => 0) fuel (fun i => i * 1000000000) =
      some result := by
    rw [wait_of_burst (by decide +kernel) (by decide) (by decide +kernel) forward (by decide)]
    decide +kernel
  exact ⟨fun waits => never waits.1,by decide +kernel,never⟩

end McpBridge.TokenBuckets
