import McpBridge.Routing
import Mathlib.Data.List.AList

/-!
The router with its discovery, its health checks and its requests, as one system.
-/
namespace McpBridge.HealthChecks
open Runs LoadBalancers Routing Function

def identity (ep : Endpoint) : Endpoint := { ep with healthy := true }

def getEndpointKey (ep : Endpoint) : String := ep.address ++ ":" ++ toString ep.port

def buildHealthCheckURL (ep : Endpoint) : String :=
  let healthPath := if ep.path = "" then "/health" else ep.path
  let scheme := if ep.scheme = "" then "http" else ep.scheme
  scheme ++ "://" ++ ep.address ++ ":" ++ toString ep.port ++ healthPath

/-- `checkAndTransitionToHalfOpen`; without a failure the time is zero, which is long ago. -/
def checkAndTransitionToHalfOpen (b : Breaker) (now : Int) : Breaker :=
  if b.state = .opened ∧ ∀ failed ∈ b.lastFailureTime, b.timeout < now - failed then
    { b with state := .halfOpen, successes := 0 }
  else b

inductive RequestPc where
  | start
  | selected (ep : Endpoint)
  /-- The breaker let the call pass, and `forwardRequest` runs. -/
  | forwarding (ep : Endpoint)
  | returned

inductive CheckPc where
  | start
  | probing
  | failed
  | recording
  | done
  deriving DecidableEq

structure Check where
  endpoint : Endpoint
  pc : CheckPc := .start
  deriving DecidableEq

def Check.setHealthy (c : Check) (healthy : Bool) (pc : CheckPc) : Check :=
  ⟨{ c.endpoint with healthy := healthy },pc⟩

def Check.Unhealthy (c : Check) : Prop := c.pc ≠ .start ∧ c.pc ≠ .probing ∧ c.endpoint.healthy = false

inductive CleanupPc where
  | start
  | invalidated
  /-- The namespaces still to ask for, and the keys found so far. -/
  | collecting (namespaces keys : List String)
  | done

/-- What discovery lists under each namespace. -/
abbrev Registry := AList fun _ : String => List Endpoint

structure State where
  registry : Registry
  balancers : AList fun _ : String => LoadBalancer := ∅
  breakers : String → Option Breaker := fun _ => none
  clients : List String := []
  now : Int := 0
  requests : Nat → RequestPc := fun _ => .start
  begun : Nat := 0
  checks : List Check := []
  inRound : Bool := false
  cleanups : Nat → CleanupPc := fun _ => .start
  invalidations : Nat := 0
  /-- The endpoints that a round has found unhealthy and that no round has found healthy since, nor discovery reported. -/
  condemned : List Endpoint := []

def init (registry : Registry) : State := { registry := registry }

inductive Label where
  | discover (changes : List ((_ : String) × List Endpoint))
  | select (ns : String)
  | enter (i : Nat)
  | client (i : Nat)
  | record (i : Nat) (ok : Bool)
  | startRound
  | checkStart (k : Nat)
  | checkReply (k status : Nat)
  | checkFail (k : Nat)
  | checkEnter (k : Nat)
  | checkRecord (k : Nat)
  | endRound
  | invalidate (ns : String)
  | listNamespaces (j : Nat)
  | collect (j : Nat)
  | discard (j : Nat)
  | autoRecovery (address : String)
  | tick (duration : Nat)

namespace State

def listing (s : State) (ns : String) : List Endpoint := (s.registry.lookup ns).getD []

def getAllEndpoints (s : State) : List Endpoint := s.registry.entries.flatMap fun entry => entry.2

def router (config : RoutingConfig) (s : State) : Router :=
  { config := config, discovered := s.listing, balancers := fun ns => s.balancers.lookup ns, breakers := s.breakers }

def breaker (config : RoutingConfig) (s : State) (address : String) : Breaker :=
  (s.router config).getCircuitBreaker address

def setBreaker (s : State) (address : String) (b : Breaker) : State :=
  { s with breakers := update s.breakers address (some b) }

def autoRecovery (s : State) (address : String) : State :=
  match s.breakers address with
  | some b => s.setBreaker address (checkAndTransitionToHalfOpen b s.now)
  | none => s

def setRequest (s : State) (i : Nat) (pc : RequestPc) : State :=
  { s with requests := update s.requests i pc }

def setCheck (s : State) (k : Nat) (c : Check) : State := { s with checks := s.checks.set k c }

def setCleanup (s : State) (j : Nat) (pc : CleanupPc) : State :=
  { s with cleanups := update s.cleanups j pc }

def addClient (s : State) (ep : Endpoint) : State :=
  if getEndpointKey ep ∈ s.clients then s else { s with clients := getEndpointKey ep :: s.clients }

def find (s : State) (ep : Endpoint) (healthy : Bool) : State :=
  if healthy then { s with condemned := s.condemned.filter (· ≠ identity ep) }
  else { s with condemned := identity ep :: s.condemned }

def select (config : RoutingConfig) (s : State) (ns : String) : State :=
  let (result,r) := (s.router config).selectEndpoint ns
  { s with
    balancers := match r.balancers ns with
      | some lb => s.balancers.insert ns lb
      | none => s.balancers
    requests := update s.requests s.begun (match result with
      | .ok ep => .selected ep
      | .error _ => .returned)
    begun := s.begun + 1 }

/-- The endpoint is in what discovery lists anew. -/
def reported (registry : Registry) (changes : List ((_ : String) × List Endpoint)) (ep : Endpoint) : Bool :=
  changes.any fun change => (registry.lookup change.1).any fun listing => listing.any fun other => identity other = ep

def discover (s : State) (changes : List ((_ : String) × List Endpoint)) : State :=
  let registry := changes.foldl (fun registry change => registry.insert change.1 change.2) s.registry
  { s with registry := registry, condemned := s.condemned.filter fun ep => !reported registry changes ep }

end State

section
variable (config : RoutingConfig) (scheme? : String → Option String)

/-- The URL of the probe is one that `client.Do` takes: it parses, with the scheme `http` or `https`. -/
def probed (ep : Endpoint) : Bool :=
  scheme? (buildHealthCheckURL ep) = some "http" || scheme? (buildHealthCheckURL ep) = some "https"

/-- The steps of a request; `ok` is whether `forwardRequest` returns a response. -/
def stepRequest (s : State) (i : Nat) : RequestPc → Label → Option State
  | .selected ep,.enter _ =>
    let b := s.breaker config ep.address
    some ((s.setBreaker ep.address b).setRequest i (if b.state = .opened then .returned else .forwarding ep))
  | .forwarding ep,.client _ =>
    if ["http","https","sse"].contains ep.scheme then some (s.addClient ep) else none
  | .forwarding ep,.record _ ok =>
    if ok = true ∧ supportedScheme ep.scheme = false then none
    else
      let b := s.breaker config ep.address
      some ((s.setBreaker ep.address (if ok then b.recordSuccess else b.recordFailure s.now)).setRequest i .returned)
  | _,_ => none

def stepCheck (s : State) (k : Nat) (c : Check) : Label → Option State
  | .checkStart _ =>
    if c.pc = .start then
      match scheme? (buildHealthCheckURL c.endpoint) with
      | none => some ((s.setCheck k (c.setHealthy false .done)).find c.endpoint false)
      | some _ => some ((s.setCheck k { c with pc := .probing }).addClient c.endpoint)
    else none
  | .checkReply _ status =>
    if c.pc = .probing ∧ probed scheme? c.endpoint then
      some ((s.setCheck k (c.setHealthy (status = 200) .done)).find c.endpoint (status = 200))
    else none
  | .checkFail _ =>
    if c.pc = .probing then some ((s.setCheck k (c.setHealthy false .failed)).find c.endpoint false) else none
  | .checkEnter _ =>
    if c.pc = .failed then
      let b := s.breaker config c.endpoint.address
      some ((s.setBreaker c.endpoint.address b).setCheck k
        { c with pc := if b.state = .opened then .done else .recording })
    else none
  | .checkRecord _ =>
    if c.pc = .recording then
      let b := s.breaker config c.endpoint.address
      some ((s.setBreaker c.endpoint.address (b.recordFailure s.now)).setCheck k { c with pc := .done })
    else none
  | _ => none

/-- The steps of `closeEndpointClientsForNamespace`. -/
def stepCleanup (s : State) (j : Nat) : CleanupPc → Label → Option State
  | .invalidated,.listNamespaces _ => some (s.setCleanup j (.collecting s.balancers.keys []))
  | .collecting (ns :: rest) keys,.collect _ =>
    some (s.setCleanup j (.collecting rest (keys ++ (s.listing ns).map getEndpointKey)))
  | .collecting [] keys,.discard _ =>
    some { s.setCleanup j .done with clients := s.clients.filter (keys.contains ·) }
  | _,_ => none

def step (s : State) (label : Label) : Option State :=
  match label with
  | .discover changes => some (s.discover changes)
  | .select ns => some (s.select config ns)
  | .enter i | .client i | .record i _ => stepRequest config s i (s.requests i) label
  | .startRound =>
    if s.inRound then none
    else some { s with checks := s.getAllEndpoints.map fun ep => ⟨ep,.start⟩, inRound := true }
  | .checkStart k | .checkReply k _ | .checkFail k | .checkEnter k | .checkRecord k =>
    if s.inRound then (s.checks[k]?).bind fun c => stepCheck config scheme? s k c label else none
  | .endRound =>
    if s.inRound ∧ ∀ c ∈ s.checks, c.pc = .done then some { s with balancers := ∅, inRound := false } else none
  | .invalidate ns =>
    some { s.setCleanup s.invalidations .invalidated with
      balancers := s.balancers.erase ns, invalidations := s.invalidations + 1 }
  | .listNamespaces j | .collect j | .discard j => stepCleanup s j (s.cleanups j) label
  | .autoRecovery address => some (s.autoRecovery address)
  | .tick duration => some { s with now := s.now + duration }

inductive Effect (s : State) : Label → State → Prop where
  | discover {changes : List ((_ : String) × List Endpoint)} : Effect s (.discover changes) (s.discover changes)
  | select {ns : String} : Effect s (.select ns) (s.select config ns)
  | enter {i : Nat} {ep : Endpoint} (here : s.requests i = .selected ep) :
      Effect s (.enter i) ((s.setBreaker ep.address (s.breaker config ep.address)).setRequest i
        (if (s.breaker config ep.address).state = .opened then .returned else .forwarding ep))
  | client {i : Nat} {ep : Endpoint} (here : s.requests i = .forwarding ep) : Effect s (.client i) (s.addClient ep)
  | record {i : Nat} {ep : Endpoint} {ok : Bool} (here : s.requests i = .forwarding ep) :
      Effect s (.record i ok) ((s.setBreaker ep.address (if ok then (s.breaker config ep.address).recordSuccess
        else (s.breaker config ep.address).recordFailure s.now)).setRequest i .returned)
  | startRound (idle : s.inRound = false) :
      Effect s .startRound { s with checks := s.getAllEndpoints.map fun ep => ⟨ep,.start⟩, inRound := true }
  | refused {k : Nat} {c : Check} (found : s.checks[k]? = some c) (here : c.pc = .start)
      (invalid : scheme? (buildHealthCheckURL c.endpoint) = none) :
      Effect s (.checkStart k) ((s.setCheck k (c.setHealthy false .done)).find c.endpoint false)
  | probe {k : Nat} {c : Check} {scheme : String} (found : s.checks[k]? = some c) (here : c.pc = .start)
      (valid : scheme? (buildHealthCheckURL c.endpoint) = some scheme) :
      Effect s (.checkStart k) ((s.setCheck k { c with pc := .probing }).addClient c.endpoint)
  | reply {k status : Nat} {c : Check} (found : s.checks[k]? = some c) (here : c.pc = .probing)
      (sent : probed scheme? c.endpoint = true) :
      Effect s (.checkReply k status)
        ((s.setCheck k (c.setHealthy (status = 200) .done)).find c.endpoint (status = 200))
  | fail {k : Nat} {c : Check} (found : s.checks[k]? = some c) (here : c.pc = .probing) :
      Effect s (.checkFail k) ((s.setCheck k (c.setHealthy false .failed)).find c.endpoint false)
  | checkEnter {k : Nat} {c : Check} (found : s.checks[k]? = some c) (here : c.pc = .failed) :
      Effect s (.checkEnter k) ((s.setBreaker c.endpoint.address (s.breaker config c.endpoint.address)).setCheck k
        { c with pc := if (s.breaker config c.endpoint.address).state = .opened then .done else .recording })
  | checkRecord {k : Nat} {c : Check} (found : s.checks[k]? = some c) (here : c.pc = .recording) :
      Effect s (.checkRecord k) ((s.setBreaker c.endpoint.address
        ((s.breaker config c.endpoint.address).recordFailure s.now)).setCheck k { c with pc := .done })
  | endRound (finished : ∀ c ∈ s.checks, c.pc = .done) : Effect s .endRound { s with balancers := ∅, inRound := false }
  | invalidate {ns : String} : Effect s (.invalidate ns) { s.setCleanup s.invalidations .invalidated with
        balancers := s.balancers.erase ns, invalidations := s.invalidations + 1 }
  | listNamespaces {j : Nat} (here : s.cleanups j = .invalidated) :
      Effect s (.listNamespaces j) (s.setCleanup j (.collecting s.balancers.keys []))
  | collect {j : Nat} {ns : String} {rest keys : List String} (here : s.cleanups j = .collecting (ns :: rest) keys) :
      Effect s (.collect j)
        (s.setCleanup j (.collecting rest (keys ++ (s.listing ns).map getEndpointKey)))
  | discard {j : Nat} {keys : List String} (here : s.cleanups j = .collecting [] keys) :
      Effect s (.discard j) { s.setCleanup j .done with clients := s.clients.filter (keys.contains ·) }
  | autoRecovery {address : String} : Effect s (.autoRecovery address) (s.autoRecovery address)
  | tick {duration : Nat} : Effect s (.tick duration) { s with now := s.now + duration }

variable {config scheme?}

variable {s t : State} {label : Label}

theorem stepRequest_effect {i : Nat} (mine : label = .enter i ∨ label = .client i ∨ ∃ ok, label = .record i ok)
    (taken : stepRequest config s i (s.requests i) label = some t) : Effect config scheme? s label t := by
  generalize here : s.requests i = pc at taken
  revert taken
  fun_cases stepRequest config s i pc label <;> rintro ⟨⟩ <;> rcases mine with same | same | ⟨_,same⟩ <;> cases same
  case case1 => exact .enter here
  case case2 => exact .client here
  case case5 => exact .record here

theorem stepCheck_effect {k : Nat} {c : Check} (found : s.checks[k]? = some c)
    (mine : label = .checkStart k ∨ (∃ status, label = .checkReply k status) ∨ label = .checkFail k ∨
      label = .checkEnter k ∨ label = .checkRecord k)
    (taken : stepCheck config scheme? s k c label = some t) : Effect config scheme? s label t := by
  revert taken
  fun_cases stepCheck config scheme? s k c label <;> rintro ⟨⟩ <;>
    rcases mine with same | ⟨_,same⟩ | same | same | same <;> cases same
  case case1 here invalid => exact .refused found here invalid
  case case2 here _ valid => exact .probe found here valid
  case case4 here => exact .reply found here.1 here.2
  case case6 here => exact .fail found here
  case case8 here _ => exact .checkEnter found here
  case case10 here _ => exact .checkRecord found here

theorem stepCleanup_effect {j : Nat} (mine : label = .listNamespaces j ∨ label = .collect j ∨ label = .discard j)
    (taken : stepCleanup s j (s.cleanups j) label = some t) : Effect config scheme? s label t := by
  generalize here : s.cleanups j = pc at taken
  revert taken
  fun_cases stepCleanup s j pc label <;> rintro ⟨⟩ <;> rcases mine with same | same | same <;> cases same
  case case1 => exact .listNamespaces here
  case case2 => exact .collect here
  case case3 => exact .discard here

theorem step_effect (taken : step config scheme? s label = some t) : Effect config scheme? s label t := by
  cases label
  case discover => cases taken; exact .discover
  case select => cases taken; exact .select
  case enter | client | record => exact stepRequest_effect (by simp) taken
  case startRound =>
    obtain ⟨idle,⟨⟩⟩ := Option.ite_none_left_eq_some.mp taken
    exact .startRound (Bool.eq_false_iff.mpr idle)
  case checkStart | checkReply | checkFail | checkEnter | checkRecord =>
    obtain ⟨-,moved⟩ := Option.ite_none_right_eq_some.mp taken
    obtain ⟨c,found,moved⟩ := Option.bind_eq_some_iff.mp moved
    exact stepCheck_effect found (by simp) moved
  case endRound =>
    obtain ⟨finished,⟨⟩⟩ := Option.ite_none_right_eq_some.mp taken
    exact .endRound finished.2
  case invalidate => cases taken; exact .invalidate
  case listNamespaces | collect | discard => exact stepCleanup_effect (by simp) taken
  case autoRecovery => cases taken; exact .autoRecovery
  case tick => cases taken; exact .tick

end

namespace State
variable {config : RoutingConfig} (s : State) (address other : String)

theorem breaker_setBreaker (b : Breaker) :
    (s.setBreaker address b).breaker config other = if other = address then b else s.breaker config other := by
  simp only [breaker,router,Router.getCircuitBreaker,setBreaker,update_apply]
  by_cases same : other = address
  · rw [if_pos same,if_pos same]
  · rw [if_neg same,if_neg same]
    rfl

theorem breaker_setBreaker_self :
    (s.setBreaker address (s.breaker config address)).breaker config other = s.breaker config other := by
  rw [breaker_setBreaker]
  split
  next same => rw [same]
  next => rfl

variable (config) in
theorem breaker_autoRecovery : (s.autoRecovery address).breaker config other = s.breaker config other ∨
      other = address ∧
        (s.autoRecovery address).breaker config other = checkAndTransitionToHalfOpen (s.breaker config other) s.now := by
  unfold autoRecovery
  split
  next b stored =>
    rw [breaker_setBreaker]
    split
    next same =>
      have held : s.breaker config other = b := by
        rw [same]
        simp [breaker,router,Router.getCircuitBreaker,stored]
      rw [held]
      exact .inr ⟨same,rfl⟩
    next => exact .inl rfl
  next => exact .inl rfl

@[simp] theorem autoRecovery_checks : (s.autoRecovery address).checks = s.checks := by
  unfold autoRecovery
  split <;> rfl

variable (ep : Endpoint)

@[simp] theorem addClient_checks : (s.addClient ep).checks = s.checks := by
  unfold addClient
  split <;> rfl

@[simp] theorem addClient_breaker : (s.addClient ep).breaker config address = s.breaker config address := by
  unfold addClient
  split <;> rfl

@[simp] theorem find_checks (healthy : Bool) : (s.find ep healthy).checks = s.checks := by
  unfold find
  split <;> rfl

@[simp] theorem find_breaker (healthy : Bool) (address : String) :
    (s.find ep healthy).breaker config address = s.breaker config address := by
  unfold find
  split <;> rfl

end State

end McpBridge.HealthChecks
