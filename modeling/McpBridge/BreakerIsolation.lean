import McpBridge.HealthVerdicts

/-!
What the calls of one endpoint do to the circuit breakers of the others. The breakers are a function of what was
recorded: results of calls and health checks, ticks of the recovery, and time (`replay`).
-/
namespace McpBridge.HealthChecks
open Runs LoadBalancers Routing List Function

inductive Event where
  | result (ep : Endpoint) (ok : Bool)
  | recovery (address : String)
  | elapse (duration : Nat)
  deriving DecidableEq

def events (s : State) : Label → List Event
  | .record i ok =>
    match s.requests i with
    | .forwarding ep => [.result (identity ep) ok]
    | _ => []
  | .checkRecord k => (s.checks[k]?).toList.map fun c => .result (identity c.endpoint) false
  | .autoRecovery address => [.recovery address]
  | .tick duration => [.elapse duration]
  | _ => []

structure Board where
  breaker : String → Breaker
  now : Int

namespace Board

def change (board : Board) (address : String) (f : Breaker → Breaker) : Board :=
  { board with breaker := update board.breaker address (f (board.breaker address)) }

def replay : Event → Board → Board
  | .result ep ok,board => board.change ep.address fun b => if ok then b.recordSuccess else b.recordFailure board.now
  | .recovery address,board => board.change address (checkAndTransitionToHalfOpen · board.now)
  | .elapse duration,board => { board with now := board.now + duration }

end Board

def State.board (config : RoutingConfig) (s : State) : Board := ⟨s.breaker config,s.now⟩

section
variable {config : RoutingConfig} {scheme? : String → Option String} {s t : State}

open State

theorem board_setBreaker (s : State) (address : String) (f : Breaker → Breaker) :
    (s.setBreaker address (f (s.breaker config address))).board config = (s.board config).change address f := by
  unfold board Board.change
  congr 1
  funext other
  rw [State.breaker_setBreaker,update_apply]

theorem board_setBreaker_self (s : State) (address : String) :
    (s.setBreaker address (s.breaker config address)).board config = s.board config := by
  unfold board
  congr 1
  funext other
  exact State.breaker_setBreaker_self s address other

theorem board_autoRecovery (s : State) (address : String) :
    (s.autoRecovery address).board config = (s.board config).change address (checkAndTransitionToHalfOpen · s.now) := by
  unfold autoRecovery
  split
  next b stored =>
    have held : s.breaker config address = b := by
      simp only [breaker,router,Router.getCircuitBreaker,stored]
    rw [← held]
    exact board_setBreaker s address (checkAndTransitionToHalfOpen · s.now)
  next missing =>
    have closed : (s.breaker config address).state = .closed := by
      simp [breaker,router,Router.getCircuitBreaker,missing]
    unfold Board.change board
    dsimp only
    rw [halfOpen_closed closed,update_eq_self]

@[simp] theorem addClient_board (s : State) (ep : Endpoint) : (s.addClient ep).board config = s.board config := by
  unfold addClient
  split <;> rfl

@[simp] theorem find_board (s : State) (ep : Endpoint) (healthy : Bool) :
    (s.find ep healthy).board config = s.board config := by
  unfold find
  split <;> rfl

theorem step_board {label : Label} (taken : step config scheme? s label = some t) :
    t.board config = (events s label).foldr Board.replay (s.board config) := by
  cases step_effect taken with
  | @enter i ep here => exact board_setBreaker_self s ep.address
  | @record i ep ok here =>
    simp [events,here,Board.replay]
    exact board_setBreaker s ep.address fun b => if ok then b.recordSuccess else b.recordFailure s.now
  | @checkEnter k c found here => exact board_setBreaker_self s c.endpoint.address
  | @checkRecord k c found here =>
    simp [events,found,Board.replay]
    exact board_setBreaker s c.endpoint.address fun b => b.recordFailure s.now
  | autoRecovery => exact board_autoRecovery s _
  | client | probe => exact addClient_board _ _
  | refused | reply | fail => exact find_board _ _ _
  | _ => rfl

theorem run_board {registry : Registry} {labels : List Label}
    (executed : run (step config scheme?) (init registry) labels = some t) :
    t.board config = (emitted (step config scheme?) events (init registry) labels).foldr Board.replay
      ((init registry).board config) :=
  run_replays (fun _ _ _ taken => step_board taken) executed

end

/-- The endpoints have different URLs. -/
def Different (a b : Endpoint) : Prop := a.address ≠ b.address ∨ a.port ≠ b.port ∨ a.path ≠ b.path

def without (a : Endpoint) (told : List Event) : List Event :=
  told.filter fun
    | .result ep _ => ep ≠ identity a
    | _ => true

/-- `Call` does not refuse a call of the endpoint. -/
def Admitted (config : RoutingConfig) (s : State) (ep : Endpoint) : Prop :=
  (s.breaker config ep.address).state ≠ .opened

/-- Discovery lists endpoints of the set only, whatever their health. -/
def Within (discovered : Set Endpoint) (registry : Registry) (labels : List Label) : Prop :=
  (∀ entry ∈ registry.entries, ∀ ep ∈ entry.2, ∃ e ∈ discovered, identity ep = identity e) ∧
    ∀ changes, .discover changes ∈ labels →
      ∀ entry ∈ changes, ∀ ep ∈ entry.2, ∃ e ∈ discovered, identity ep = identity e

/-- Runs that differ in the results of one endpoint's calls admit the same calls of every other endpoint. -/
def Isolated (config : RoutingConfig) (scheme? : String → Option String) (discovered : Set Endpoint) : Prop :=
  ∀ a ∈ discovered, ∀ b ∈ discovered, Different a b →
    ∀ registry labels s registry' labels' s', Within discovered registry labels → Within discovered registry' labels' →
      run (step config scheme?) (init registry) labels = some s →
      run (step config scheme?) (init registry') labels' = some s' →
      without a (emitted (step config scheme?) events (init registry) labels) =
        without a (emitted (step config scheme?) events (init registry') labels') →
      (Admitted config s b ↔ Admitted config s' b)

def Board.Agree (address : String) (one other : Board) : Prop :=
  one.now = other.now ∧ one.breaker address = other.breaker address

variable {address : String}

theorem agree_replay {one other : Board} (agree : one.Agree address other) (event : Event) :
    (Board.replay event one).Agree address (Board.replay event other) := by
  obtain ⟨time,same⟩ := agree
  have changed : ∀ (place : String) (f : Breaker → Breaker),
      (one.change place f).Agree address (other.change place f) := by
    intro place f
    refine ⟨time,?_⟩
    simp only [Board.change,update_apply]
    split
    next here => rw [← here,same]
    next => exact same
  cases event with
  | result | recovery =>
    simp only [Board.replay,time]
    exact changed _ _
  | elapse duration => exact ⟨congrArg (· + (duration : Int)) time,same⟩

variable {a : Endpoint} {ep : Endpoint}

theorem agree_without (elsewhere : address ≠ a.address) (told : List Event)
    (board : Board) : (told.foldr Board.replay board).Agree address ((without a told).foldr Board.replay board) := by
  induction told with
  | nil => exact ⟨rfl,rfl⟩
  | cons event older ih =>
    by_cases mine : ∃ ok, event = .result (identity a) ok
    · obtain ⟨ok,rfl⟩ := mine
      have dropped : without a (.result (identity a) ok :: older) = without a older := by
        simp [without]
      rw [dropped]
      exact ⟨ih.1,(update_of_ne elsewhere _ _).trans ih.2⟩
    · have kept : without a (event :: older) = event :: without a older := by
        cases event with
        | result ep ok =>
          have other : ep ≠ identity a := fun same => mine ⟨ok,by rw [same]⟩
          simp [without,other]
        | recovery place => rfl
        | elapse duration => rfl
      rw [kept,foldr_cons]
      exact agree_replay ih event

def alone (a : Endpoint) : Registry := (∅ : Registry).insert a.ns [identity a]

theorem create_single (strategy : String) (healthy : ep.healthy = true) :
    (LoadBalancer.create strategy [ep]).next.1 = some ep := by
  unfold LoadBalancer.create
  split
  next => simp [LoadBalancer.next,LeastConnections.next,LeastConnections.consider,healthy,maxInt64]
  next =>
    have first : ∀ position, (pickPosition position 0 0 [ep]).or ([ep].findIdx? (·.healthy)) = some 0 := by
      intro position
      simp only [pickPosition,healthy,if_true,findIdx?_cons]
      split <;> rfl
    have nonzero : Weighted.total { endpoints := [ep] } ≠ 0 := by
      have positive := weightOf_pos ep
      simp only [Weighted.total,foldl_cons,foldl_nil,Int.zero_add,int64_of_lt (weightOf_lt ep)]
      omega
    simp only [LoadBalancer.next,Weighted.select]
    rw [if_neg (by simp [nonzero]),first]
    rfl
  next =>
    simp [LoadBalancer.next,RoundRobin.next,RoundRobin.candidate,healthy]
    rfl

def failingCall (ns : String) (i : Nat) : List Label := [.invalidate ns,.select ns,.enter i,.record i false]

variable {config : RoutingConfig} {s : State}

theorem select_requests {ns : String} (selected : ((s.router config).selectEndpoint ns).1 = .ok ep) :
    (s.select config ns).requests = update s.requests s.begun (.selected ep) := by
  unfold State.select
  cases made : (s.router config).selectEndpoint ns with
  | mk result after =>
    rw [made] at selected
    cases selected
    rfl

theorem select_alone (listed : s.registry = alone a) (missing : s.balancers.lookup a.ns = none) :
    (s.select config a.ns).requests s.begun = .selected (identity a) := by
  have only : s.listing a.ns = [identity a] := by
    unfold State.listing
    rw [listed,alone,AList.lookup_insert]
    rfl
  obtain ⟨lb,made,fresh⟩ := @balancerFor_of_listing config s a.ns missing (by rw [only]; exact cons_ne_nil _ _)
  have chosen : lb.next.1 = some (identity a) := by
    rw [fresh,only]
    exact create_single config.strategy rfl
  have selected : ((s.router config).selectEndpoint a.ns).1 = .ok (identity a) :=
    selectEndpoint_eq_ok_iff.mpr ⟨lb,made,chosen⟩
  rw [select_requests selected]
  exact update_self _ _ _

theorem run_failingCall (scheme? : String → Option String)
    (listed : s.registry = alone a) (admitted : Admitted config s a) :
    ∃ t, run (step config scheme?) s (failingCall a.ns s.begun) = some t ∧ t.registry = alone a ∧
      t.breaker config a.address = (s.breaker config a.address).recordFailure s.now ∧
      emitted (step config scheme?) events s (failingCall a.ns s.begun) = [.result (identity a) false] := by
  let dropped : State := { s.setCleanup s.invalidations .invalidated with
    balancers := s.balancers.erase a.ns, invalidations := s.invalidations + 1 }
  let given := dropped.select config a.ns
  let entered := (given.setBreaker a.address (s.breaker config a.address)).setRequest s.begun (.forwarding (identity a))
  let failed := (entered.setBreaker a.address ((s.breaker config a.address).recordFailure s.now)).setRequest s.begun .returned
  have dropping : step config scheme? s (.invalidate a.ns) = some dropped := rfl
  have giving : step config scheme? dropped (.select a.ns) = some given := rfl
  have here : given.requests s.begun = .selected (identity a) := select_alone listed (AList.lookup_erase _ _)
  have entering : step config scheme? given (.enter s.begun) = some entered := by
    simp only [step,here,stepRequest]
    rw [if_neg]
    · rfl
    · exact admitted
  have forwarded : entered.requests s.begun = .forwarding (identity a) := update_self _ _ _
  have known : entered.breaker config (identity a).address = s.breaker config a.address := by
    exact State.breaker_setBreaker_self given a.address a.address
  have failing : step config scheme? entered (.record s.begun false) = some failed := by
    simp only [step,forwarded,stepRequest]
    rw [if_neg (fun wrong => by cases wrong.1),known]
    rfl
  refine ⟨failed,?_,listed,?_,?_⟩
  · simp [failingCall,run,dropping,giving,entering,failing]
  · show (entered.setBreaker a.address _).breaker config a.address = _
    rw [State.breaker_setBreaker,if_pos rfl]
  · simp [failingCall,emitted,dropping,giving,entering,failing,events,forwarded,identity_identity]

theorem recordFailure_below {b : Breaker} (closed : b.state = .closed) (below : ¬ b.maxFailures ≤ b.failures + 1)
    (now : Int) : b.recordFailure now = { b with failures := b.failures + 1, lastFailureTime := some now } := by
  simp only [Breaker.recordFailure,closed,if_neg below]

/-- Enough failed calls open a closed breaker. -/
theorem failures_open {config : RoutingConfig} (scheme? : String → Option String) {a : Endpoint} (n : Nat) {s : State}
    (listed : s.registry = alone a) (closed : (s.breaker config a.address).state = .closed)
    (left : (s.breaker config a.address).maxFailures ≤ (s.breaker config a.address).failures + n) :
    ∃ labels t, run (step config scheme?) s labels = some t ∧ ¬ Admitted config t a ∧
      without a (emitted (step config scheme?) events s labels) = [] ∧ ∀ changes, .discover changes ∉ labels := by
  have admitted : Admitted config s a := by
    rw [Admitted,closed]
    exact nofun
  obtain ⟨t,called,still,recorded,told⟩ := run_failingCall scheme? listed admitted
  have dropped : without a [.result (identity a) false] = [] := by
    simp [without]
  have quiet : ∀ changes, Label.discover changes ∉ failingCall a.ns s.begun := by
    intro changes
    simp [failingCall]
  by_cases reached : (s.breaker config a.address).maxFailures ≤ (s.breaker config a.address).failures + 1
  · refine ⟨_,t,called,?_,?_,quiet⟩
    · rw [Admitted,recorded,recordFailure_closed closed,if_pos reached]
      exact fun apart => apart rfl
    · rw [told,dropped]
  · rw [recordFailure_below closed reached] at recorded
    obtain ⟨m,rfl⟩ : ∃ m, n = m + 1 := Nat.exists_eq_succ_of_ne_zero (by omega)
    obtain ⟨labels,u,ran,refused,others,calm⟩ := failures_open scheme? m still (by rw [recorded]; exact closed) (by
      rw [recorded]
      dsimp only
      omega)
    refine ⟨failingCall a.ns s.begun ++ labels,u,run_append.mpr ⟨t,called,ran⟩,refused,?_,?_⟩
    · rw [emitted_append called,told]
      unfold without at others dropped ⊢
      rw [filter_append,others,dropped]
      rfl
    · intro changes inside
      exact (mem_append.mp inside).elim (quiet changes) (calm changes)
termination_by n

/-- Endpoints of a set are isolated from each other exactly when they have different addresses. -/
theorem breakers_isolated_iff (config : RoutingConfig) (scheme? : String → Option String) (discovered : Set Endpoint) :
    Isolated config scheme? discovered ↔
      ∀ a ∈ discovered, ∀ b ∈ discovered, Different a b → a.address ≠ b.address := by
  constructor
  · intro isolated a listed b other different same
    have within : ∀ labels, (∀ changes, Label.discover changes ∉ labels) → Within discovered (alone a) labels := by
      intro labels quiet
      refine ⟨?_,fun changes inside => absurd inside (quiet changes)⟩
      intro entry inside ep member
      obtain rfl := mem_singleton.mp inside
      obtain rfl := mem_singleton.mp member
      exact ⟨a,listed,rfl⟩
    obtain ⟨labels,t,ran,refused,told,quiet⟩ := @failures_open config scheme? a config.failureThreshold.toNat
      (init (alone a)) rfl rfl (by
        show config.failureThreshold ≤ 0 + (config.failureThreshold.toNat : Int)
        omega)
    have alike := isolated a listed b other different (alone a) labels t (alone a) [] (init (alone a)) (within labels quiet)
      (within [] fun _ => not_mem_nil) ran rfl told
    rw [Admitted,Admitted,← same] at alike
    exact refused (alike.mpr nofun)
  · intro apart a listed b other different registry labels s registry' labels' s' _ _ ran ran' told
    have elsewhere : b.address ≠ a.address := (apart a listed b other different).symm
    have seen := agree_without elsewhere (emitted (step config scheme?) events (init registry) labels)
      ((init registry).board config)
    have seen' := agree_without elsewhere (emitted (step config scheme?) events (init registry') labels')
      ((init registry').board config)
    rw [← run_board ran] at seen
    rw [← run_board ran',← told] at seen'
    have same : s.breaker config b.address = s'.breaker config b.address := seen.2.trans seen'.2.symm
    rw [Admitted,Admitted,same]

def otherPort : Endpoint := { toolsEndpoint "http" with port := 8081 }

def sharedHost : Registry := (∅ : Registry).insert "tools" [toolsEndpoint "http",otherPort]

def fiveFailures : List Label :=
  [.select "tools",.enter 0,.record 0 false,.select "tools",.enter 1,.record 1 false,.select "tools",.enter 2,
    .record 2 false,.select "tools",.enter 3,.record 3 false,.select "tools",.enter 4,.record 4 false]

/-- The failures of one endpoint have the calls of the other one refused. -/
theorem shared_host_not_isolated : Different (toolsEndpoint "http") otherPort ∧
      ∃ t, run (step defaultRouting schemeOf) (init sharedHost) fiveFailures = some t ∧
        without (toolsEndpoint "http") (emitted (step defaultRouting schemeOf) events (init sharedHost) fiveFailures) =
          without (toolsEndpoint "http") (emitted (step defaultRouting schemeOf) events (init sharedHost) []) ∧
        Admitted defaultRouting (init sharedHost) otherPort ∧ ¬ Admitted defaultRouting t otherPort := by
  refine ⟨.inr (.inl (by decide)),_,rfl,rfl,nofun,?_⟩
  exact fun admitted => admitted rfl

end McpBridge.HealthChecks
