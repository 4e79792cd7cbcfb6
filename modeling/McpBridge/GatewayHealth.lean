import McpBridge.GatewayPools
import McpBridge.Tallies

/-!
The health of a gateway endpoint (`UpdateHealth` and `checkEndpointHealth` in `gateway/pool.go`). Health checks and
requests report with `UpdateHealth`, which sets the flag to the last result and looks at the thresholds afterwards.
-/
namespace McpBridge.GatewayHealth
open LoadBalancers GatewayPools Tallies List

/-- The thresholds of the health checks. -/
structure ServiceDiscoveryConfig where
  healthyThreshold : Int
  unhealthyThreshold : Int

def updateHealth (health : EndpointHealth) (healthy : Bool) : EndpointHealth :=
  if healthy then
    { isHealthy := true
      consecutiveFailures := 0
      consecutiveSuccesses := int64 (health.consecutiveSuccesses + 1) }
  else
    { isHealthy := false
      consecutiveFailures := int64 (health.consecutiveFailures + 1)
      consecutiveSuccesses := 0 }

def checkEndpointHealth (cfg : ServiceDiscoveryConfig) (health : EndpointHealth) (isHealthy : Bool) : EndpointHealth :=
  let health := updateHealth health isHealthy
  if isHealthy ∧ ¬health.isHealthy ∧ cfg.healthyThreshold ≤ health.consecutiveSuccesses then
    { health with isHealthy := true }
  else if ¬isHealthy ∧ health.isHealthy ∧ cfg.unhealthyThreshold ≤ health.consecutiveFailures then
    { health with isHealthy := false }
  else health

/-- A health check or a request. -/
inductive Event where
  | check (ok : Bool)
  | request (ok : Bool)

def Event.ok : Event → Bool
  | .check ok => ok
  | .request ok => ok

def apply (cfg : ServiceDiscoveryConfig) (health : EndpointHealth) : Event → EndpointHealth
  | .check ok => checkEndpointHealth cfg health ok
  | .request ok => updateHealth health ok

def after (cfg : ServiceDiscoveryConfig) (events : List Event) : EndpointHealth :=
  events.foldl (apply cfg) { isHealthy := true }

/-- The endpoint turns unhealthy only at a failure that completes as many in a row as the threshold says; healthy
    likewise. -/
structure Hysteresis (cfg : ServiceDiscoveryConfig) (events : List Event) : Prop where
  down : ∀ earlier event later, events = earlier ++ event :: later → (after cfg earlier).isHealthy = true →
    (after cfg (earlier ++ [event])).isHealthy = false →
      event.ok = false ∧ cfg.unhealthyThreshold ≤ streak (·.ok == false) (earlier ++ [event]).reverse
  up : ∀ earlier event later, events = earlier ++ event :: later → (after cfg earlier).isHealthy = false →
    (after cfg (earlier ++ [event])).isHealthy = true →
      event.ok = true ∧ cfg.healthyThreshold ≤ streak (·.ok == true) (earlier ++ [event]).reverse

/-- The thresholds ask for one result, or there was no failure, and none with a success right after it. -/
structure Plain (cfg : ServiceDiscoveryConfig) (events : List Event) : Prop where
  failures : cfg.unhealthyThreshold ≤ 1 ∨ ∀ event ∈ events, event.ok = true
  successes : cfg.healthyThreshold ≤ 1 ∨
    ∀ earlier event next later, events = earlier ++ event :: next :: later → event.ok = false → next.ok = false

section
variable {cfg : ServiceDiscoveryConfig} {events earlier : List Event} {event : Event} {result : Bool}

theorem apply_eq (cfg : ServiceDiscoveryConfig) (health : EndpointHealth) (event : Event) :
    apply cfg health event = updateHealth health event.ok := by
  cases event with
  | check ok => cases ok <;> simp [apply,checkEndpointHealth,updateHealth,Event.ok]
  | request ok => rfl

theorem after_concat : (after cfg (earlier ++ [event])).isHealthy = event.ok := by
  rw [after,foldl_append,foldl_cons,foldl_nil,apply_eq]
  cases ok : event.ok <;> rfl

theorem after_successes (all : ∀ event ∈ earlier, event.ok = true) : (after cfg earlier).isHealthy = true := by
  rcases eq_nil_or_concat earlier with rfl | ⟨before,last,rfl⟩
  · rfl
  · rw [concat_eq_append,after_concat]
    exact all last (by simp)

theorem streak_pos (same : event.ok = result) : 0 < streak (·.ok == result) (earlier ++ [event]).reverse := by
  simp [streak,same]

theorem streak_eq_one (same : event.ok = result) (changed : (after cfg earlier).isHealthy ≠ result) :
    streak (·.ok == result) (earlier ++ [event]).reverse = 1 := by
  rcases eq_nil_or_concat earlier with rfl | ⟨before,last,rfl⟩
  · simp [streak,same]
  · rw [concat_eq_append,after_concat] at changed
    simp [streak,same,changed]

theorem Hysteresis.failures (hysteresis : Hysteresis cfg events) (several : ¬cfg.unhealthyThreshold ≤ 1) :
    ∀ event ∈ events, event.ok = true := by
  intro event member
  by_contra failed
  have exists_ : (events.find? (·.ok == false)).isSome := find?_isSome.mpr ⟨event,member,by simpa using failed⟩
  obtain ⟨first,found⟩ := Option.isSome_iff_exists.mp exists_
  obtain ⟨failed',earlier,later,whole,before⟩ := find?_eq_some_iff_append.mp found
  have failed' : first.ok = false := by simpa using failed'
  have healthy : (after cfg earlier).isHealthy = true := after_successes fun e member => by simpa using before e member
  have completes := (hysteresis.down earlier first later whole healthy (by rw [after_concat,failed'])).2
  rw [streak_eq_one failed' (by simpa using healthy)] at completes
  omega

theorem Hysteresis.successes (hysteresis : Hysteresis cfg events) (several : ¬cfg.healthyThreshold ≤ 1) {next : Event}
    {later : List Event} (whole : events = earlier ++ event :: next :: later) (failed : event.ok = false) :
    next.ok = false := by
  by_contra succeeded
  have succeeded : next.ok = true := by simpa using succeeded
  have unhealthy : (after cfg (earlier ++ [event])).isHealthy = false := after_concat.trans failed
  have completes := (hysteresis.up (earlier ++ [event]) next later (by simp [whole]) unhealthy
    (by rw [after_concat,succeeded])).2
  rw [streak_eq_one succeeded (by simpa using unhealthy)] at completes
  omega

theorem Plain.hysteresis (plain : Plain cfg events) : Hysteresis cfg events := by
  refine ⟨fun earlier event later whole healthy turned => ?_,fun earlier event later whole unhealthy turned => ?_⟩
  · rw [after_concat] at turned
    refine ⟨turned,?_⟩
    have positive := @streak_pos earlier event _ turned
    rcases plain.failures with one | none
    · omega
    · rw [none event (by simp [whole])] at turned
      cases turned
  · rw [after_concat] at turned
    refine ⟨turned,?_⟩
    have positive := @streak_pos earlier event _ turned
    rcases plain.successes with one | none
    · omega
    · rcases eq_nil_or_concat earlier with rfl | ⟨before,last,rfl⟩
      · cases unhealthy
      · rw [concat_eq_append,after_concat] at unhealthy
        rw [none before last event later (by simp [whole]) unhealthy] at turned
        cases turned

end

/-- The flag follows the thresholds exactly over the plain histories. -/
theorem hysteresis_iff (cfg : ServiceDiscoveryConfig) (events : List Event) : Hysteresis cfg events ↔ Plain cfg events := by
  refine ⟨fun hysteresis => ⟨?_,?_⟩,Plain.hysteresis⟩
  · by_cases one : cfg.unhealthyThreshold ≤ 1
    · exact .inl one
    · exact .inr (hysteresis.failures one)
  · by_cases one : cfg.healthyThreshold ≤ 1
    · exact .inl one
    · exact .inr fun earlier event next later whole failed => hysteresis.successes one whole failed

/-- The first failure makes the endpoint unhealthy, although the threshold is three. -/
theorem unhealthy_at_once :
    (after { healthyThreshold := 2,unhealthyThreshold := 3 } [.check false]).isHealthy = false ∧
      ¬Hysteresis { healthyThreshold := 2,unhealthyThreshold := 3 } [.check false] := by
  refine ⟨by decide,fun hysteresis => ?_⟩
  have completes := (hysteresis.down [] (.check false) [] rfl rfl (by decide)).2
  revert completes
  decide

end McpBridge.GatewayHealth
