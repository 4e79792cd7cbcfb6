import Mathlib.Tactic.Linarith
import McpBridge.Runs

/-!
`AdaptiveTimeout` of the direct clients and its `TimeoutAdapter`, with exact durations and ratios, in seconds.
-/
namespace McpBridge.AdaptiveTimeouts
open Runs List

/-- The settings of the timeout. -/
structure AdaptiveTimeoutConfig where
  baseTimeout : ℚ
  minTimeout : ℚ
  maxTimeout : ℚ
  successRatio : ℚ
  adaptationRate : ℚ
  windowSize : Nat

structure RequestMetrics where
  duration : ℚ
  success : Bool

/-- The manager; `recorded` are all requests that were recorded. -/
structure AdaptiveTimeout where
  config : AdaptiveTimeoutConfig
  requestHistory : List RequestMetrics := []
  currentTimeout : ℚ
  recorded : List RequestMetrics := []

structure TimeoutMetrics where
  successRatio : ℚ
  avgDuration : ℚ

def minSampleSize : Nat := 10

def safetyLearningFactor : ℚ := 5 / 2

def calculateMetrics (history : List RequestMetrics) : TimeoutMetrics where
  successRatio := history.countP (·.success) / history.length
  avgDuration := (history.map (·.duration)).sum / history.length

namespace AdaptiveTimeout

def recordRequest (at_ : AdaptiveTimeout) (metrics : RequestMetrics) : AdaptiveTimeout :=
  let history :=
    if at_.config.windowSize ≤ at_.requestHistory.length then at_.requestHistory.drop 1 else at_.requestHistory
  { at_ with requestHistory := history ++ [metrics], recorded := at_.recorded ++ [metrics] }

variable (config : AdaptiveTimeoutConfig)

def increaseTimeout (metrics : TimeoutMetrics) (current : ℚ) : ℚ :=
  let newTimeout := if current / 2 < metrics.avgDuration then metrics.avgDuration * safetyLearningFactor
    else current * (1 + config.adaptationRate)
  if config.maxTimeout < newTimeout then config.maxTimeout else newTimeout

def decreaseTimeout (metrics : TimeoutMetrics) (current : ℚ) : ℚ :=
  let newTimeout := current * (1 - config.adaptationRate)
  let reasonable := if newTimeout < metrics.avgDuration * 2 then metrics.avgDuration * 2 else newTimeout
  if reasonable < config.minTimeout then config.minTimeout else reasonable

def adjustTimeout (metrics : TimeoutMetrics) (current : ℚ) : ℚ :=
  if metrics.successRatio < config.successRatio then increaseTimeout config metrics current
  else if metrics.avgDuration < current / 3 then decreaseTimeout config metrics current
  else current

def adaptTimeout (at_ : AdaptiveTimeout) : AdaptiveTimeout :=
  if minSampleSize ≤ at_.requestHistory.length then
    { at_ with currentTimeout := adjustTimeout at_.config (calculateMetrics at_.requestHistory) at_.currentTimeout }
  else at_

end AdaptiveTimeout

inductive Label where
  | record (metrics : RequestMetrics)
  | adapt

def step (s : AdaptiveTimeout) : Label → Option AdaptiveTimeout
  | .record metrics => some (s.recordRequest metrics)
  | .adapt => some s.adaptTimeout

/-- The timeout is within its bounds, the next adaptation moves it the right way, and the history is what came last. -/
structure Lawful (config : AdaptiveTimeoutConfig) (s : AdaptiveTimeout) : Prop where
  least : config.minTimeout ≤ s.currentTimeout
  most : s.currentTimeout ≤ config.maxTimeout
  raises : (calculateMetrics s.requestHistory).successRatio < config.successRatio →
    s.currentTimeout ≤ s.adaptTimeout.currentTimeout
  lowers : config.successRatio ≤ (calculateMetrics s.requestHistory).successRatio →
    s.adaptTimeout.currentTimeout ≤ s.currentTimeout
  history : s.requestHistory = s.recorded.drop (s.recorded.length - config.windowSize)

/-- The base lies within the bounds, and is a duration unless the window is too small for any adaptation. -/
structure Fit (config : AdaptiveTimeoutConfig) : Prop where
  least : config.minTimeout ≤ config.baseTimeout
  most : config.baseTimeout ≤ config.maxTimeout
  positive : 0 ≤ config.baseTimeout ∨ config.windowSize < minSampleSize

variable {config : AdaptiveTimeoutConfig} {metrics : TimeoutMetrics} {current : ℚ}

open AdaptiveTimeout

section
variable (learns : 0 < config.adaptationRate) (positive : 0 ≤ current)
include learns positive

theorem increaseTimeout_bounds (most : current ≤ config.maxTimeout) :
    current ≤ increaseTimeout config metrics current ∧ increaseTimeout config metrics current ≤ config.maxTimeout := by
  have grows : 0 ≤ current * config.adaptationRate := mul_nonneg positive learns.le
  unfold increaseTimeout safetyLearningFactor
  dsimp only
  split_ifs <;> constructor <;> linarith

theorem decreaseTimeout_bounds (gently : config.adaptationRate < 1) (least : config.minTimeout ≤ current)
    (quick : metrics.avgDuration < current / 3) :
    0 ≤ decreaseTimeout config metrics current ∧ config.minTimeout ≤ decreaseTimeout config metrics current ∧
      decreaseTimeout config metrics current ≤ current := by
  have shrinks : 0 ≤ current * config.adaptationRate := mul_nonneg positive learns.le
  have remains : 0 ≤ current * (1 - config.adaptationRate) := mul_nonneg positive (by linarith)
  unfold decreaseTimeout
  dsimp only
  split_ifs <;> refine ⟨?_,?_,?_⟩ <;> linarith

end

/-- What every state keeps; without enough records for an adaptation the timeout may be negative. -/
structure Bounded (config : AdaptiveTimeoutConfig) (s : AdaptiveTimeout) : Prop where
  configured : s.config = config
  least : config.minTimeout ≤ s.currentTimeout
  most : s.currentTimeout ≤ config.maxTimeout
  positive : 0 ≤ s.currentTimeout ∨ config.windowSize < minSampleSize
  history : s.requestHistory = s.recorded.drop (s.recorded.length - config.windowSize)

variable {s : AdaptiveTimeout}

theorem Bounded.adapt (learns : 0 < config.adaptationRate) (gently : config.adaptationRate < 1) (bounded : Bounded config s) :
    Bounded config s.adaptTimeout ∧
      ((calculateMetrics s.requestHistory).successRatio < config.successRatio →
        s.currentTimeout ≤ s.adaptTimeout.currentTimeout) ∧
      (config.successRatio ≤ (calculateMetrics s.requestHistory).successRatio →
        s.adaptTimeout.currentTimeout ≤ s.currentTimeout) := by
  obtain ⟨rfl,least,most,positive,history⟩ := bounded
  unfold adaptTimeout adjustTimeout
  split_ifs with enough fails quick
  on_goal 4 => exact ⟨⟨rfl,least,most,positive,history⟩,fun _ => le_rfl,fun _ => le_rfl⟩
  all_goals
    have positive : 0 ≤ s.currentTimeout := by
      refine positive.resolve_right fun small => ?_
      rw [history,length_drop] at enough
      omega
  · obtain ⟨raised,most'⟩ := @increaseTimeout_bounds _ (calculateMetrics s.requestHistory) _ learns positive most
    exact ⟨⟨rfl,least.trans raised,most',.inl (positive.trans raised),history⟩,fun _ => raised,
      fun reached => absurd fails reached.not_gt⟩
  · obtain ⟨positive',least',lowered⟩ := decreaseTimeout_bounds learns positive gently least quick
    exact ⟨⟨rfl,least',lowered.trans most,.inl positive',history⟩,fun below => absurd below fails,fun _ => lowered⟩
  · exact ⟨⟨rfl,least,most,.inl positive,history⟩,fun _ => le_rfl,fun _ => le_rfl⟩

theorem Bounded.record (window : 1 ≤ config.windowSize) (metrics : RequestMetrics) (bounded : Bounded config s) :
    Bounded config (s.recordRequest metrics) := by
  obtain ⟨rfl,least,most,positive,history⟩ := bounded
  refine ⟨rfl,least,most,positive,?_⟩
  have held : s.requestHistory.length = min s.recorded.length s.config.windowSize := by
    rw [history,length_drop]
    omega
  unfold recordRequest
  rw [length_append,length_singleton,drop_append_of_le_length (by omega)]
  by_cases full : s.config.windowSize ≤ s.requestHistory.length
  · have shift : s.recorded.length + 1 - s.config.windowSize = s.recorded.length - s.config.windowSize + 1 := by omega
    rw [if_pos full,shift,history,drop_drop]
  · have whole : s.recorded.length + 1 - s.config.windowSize = 0 := by omega
    have before : s.recorded.length - s.config.windowSize = 0 := by omega
    rw [if_neg full,whole,history,before]

theorem Bounded.step (learns : 0 < config.adaptationRate) (gently : config.adaptationRate < 1) (window : 1 ≤ config.windowSize)
    {label : Label} {next : AdaptiveTimeout} (bounded : Bounded config s) (taken : step s label = some next) :
    Bounded config next := by
  cases label with
  | record metrics =>
    cases taken
    exact bounded.record window metrics
  | adapt =>
    cases taken
    exact (bounded.adapt learns gently).1

end McpBridge.AdaptiveTimeouts
