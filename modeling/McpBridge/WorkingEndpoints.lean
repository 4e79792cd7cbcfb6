import McpBridge.HealthChecks

/-!
Endpoints whose backends answer every request and every probe.
-/
namespace McpBridge.HealthChecks
open Runs LoadBalancers Routing State List

variable {b : Breaker}

theorem recordSuccess_closed (closed : b.state = .closed) : b.recordSuccess.state = .closed := by
  simp [Breaker.recordSuccess,closed]

theorem recordFailure_closed (closed : b.state = .closed) (now : Int) :
    (b.recordFailure now).state = if b.maxFailures ≤ b.failures + 1 then .opened else .closed := by
  simp only [Breaker.recordFailure,closed]
  split
  next => rfl
  next => rfl

theorem halfOpen_closed (closed : b.state = .closed) (now : Int) : checkAndTransitionToHalfOpen b now = b := by
  rw [checkAndTransitionToHalfOpen,if_neg]
  rintro ⟨opened,_⟩
  rw [closed] at opened
  cases opened

section
variable (config : RoutingConfig) (scheme? : String → Option String) (e : Endpoint)

/-- The endpoint's breaker is not open, and the checks have not marked the endpoint as unhealthy. -/
structure Working (s : State) : Prop where
  admits : (s.breaker config e.address).state ≠ .opened
  unmarked : ∀ c ∈ s.checks, identity c.endpoint = identity e → ¬ c.Unhealthy

/-- Requests succeed, and the endpoint's backend answers every probe sent to it. -/
def Answering (s : State) : Label → Prop
  | .record _ ok => ok = true
  | .checkReply k status => ∀ c, s.checks[k]? = some c → identity c.endpoint = identity e → status = 200
  | .checkFail k => ∀ c, s.checks[k]? = some c → identity c.endpoint = identity e → probed scheme? c.endpoint = false
  | _ => True

/-- The checks of the endpoint have a URL with the scheme `http` or `https`, and no failed one of its address opens the
    breaker. -/
def Spared (s : State) : Label → Prop
  | .checkStart k => ∀ c, s.checks[k]? = some c → identity c.endpoint = identity e →
      scheme? (buildHealthCheckURL c.endpoint) ≠ none
  | .checkFail k => ∀ c, s.checks[k]? = some c → identity c.endpoint = identity e → probed scheme? c.endpoint = true
  | .checkRecord k => ∀ c, s.checks[k]? = some c → c.endpoint.address = e.address →
      (s.breaker config e.address).failures + 1 < (s.breaker config e.address).maxFailures
  | _ => True

/-- The breaker was always closed, and a check that reports a failure has marked its copy. -/
structure Calm (s : State) : Prop where
  closed : (s.breaker config e.address).state = .closed
  marked : ∀ c ∈ s.checks, c.pc = .failed ∨ c.pc = .recording → c.endpoint.healthy = false

variable {config scheme? e} {s t : State} {label : Label}

theorem Calm.frame (calm : Calm config e s) (breaker : t.breaker config e.address = s.breaker config e.address)
    (checks : t.checks = s.checks) : Calm config e t := by
  refine ⟨?_,?_⟩
  · rw [breaker]
    exact calm.closed
  · rw [checks]
    exact calm.marked

theorem Working.frame (working : Working config e s) (breaker : t.breaker config e.address = s.breaker config e.address)
    (checks : t.checks = s.checks) : Working config e t := by
  refine ⟨?_,?_⟩
  · rw [breaker]
    exact working.admits
  · rw [checks]
    exact working.unmarked

variable {k : Nat} {c : Check}

theorem Working.setCheck (working : Working config e s)
    (breaker : t.breaker config e.address = s.breaker config e.address) (checks : t.checks = s.checks.set k c)
    (unmarked : identity c.endpoint = identity e → ¬ c.Unhealthy) : Working config e t := by
  refine ⟨?_,?_⟩
  · rw [breaker]
    exact working.admits
  · rw [checks]
    intro other member same
    obtain old | rfl := mem_or_eq_of_mem_set member
    · exact working.unmarked other old same
    · exact unmarked same

theorem not_working_of_marked {old : Check} (found : s.checks[k]? = some old)
    (checks : t.checks = s.checks.set k c) (same : identity c.endpoint = identity e) (marked : c.Unhealthy) :
    ¬ Working config e t := by
  intro working
  obtain ⟨inside,_⟩ := List.getElem?_eq_some_iff.mp found
  refine working.unmarked c ?_ same marked
  rw [checks]
  exact mem_set inside c

theorem Calm.setCheck (calm : Calm config e s)
    (closed : (t.breaker config e.address).state = .closed) (checks : t.checks = s.checks.set k c)
    (marked : c.pc = .failed ∨ c.pc = .recording → c.endpoint.healthy = false) : Calm config e t := by
  refine ⟨closed,?_⟩
  rw [checks]
  intro other member reports
  obtain old | rfl := mem_or_eq_of_mem_set member
  · exact calm.marked other old reports
  · exact marked reports

theorem Working.apart (working : Working config e s) (calm : Calm config e s)
    (found : s.checks[k]? = some c) (reports : c.pc = .failed ∨ c.pc = .recording) :
    identity c.endpoint ≠ identity e := by
  intro same
  have member := mem_of_getElem? found
  refine working.unmarked c member same ⟨?_,?_,calm.marked c member reports⟩
  all_goals obtain here | here := reports <;> rw [here] <;> decide

theorem recorded_admits_iff (calm : Calm config e s) (address : String) :
    ((s.setBreaker address ((s.breaker config address).recordFailure s.now)).breaker config e.address).state ≠ .opened ↔
      (address = e.address → (s.breaker config e.address).failures + 1 < (s.breaker config e.address).maxFailures) := by
  rw [breaker_setBreaker]
  by_cases same : e.address = address
  · subst same
    rw [if_pos rfl,recordFailure_closed calm.closed]
    simp only [forall_const]
    split
    next reached => exact iff_of_false (fun apart => apart rfl) (by omega)
    next below => exact iff_of_true nofun (by omega)
  · rw [if_neg same]
    refine iff_of_true ?_ fun other => absurd other.symm same
    rw [calm.closed]
    exact nofun

theorem closed_of_admits (calm : Calm config e s) (address : String)
    (admits : ((s.setBreaker address ((s.breaker config address).recordFailure s.now)).breaker config
      e.address).state ≠ .opened) :
    ((s.setBreaker address ((s.breaker config address).recordFailure s.now)).breaker config
      e.address).state = .closed := by
  have below := (recorded_admits_iff calm address).mp admits
  rw [breaker_setBreaker]
  by_cases same : e.address = address
  · subst same
    have reached : ¬ (s.breaker config e.address).maxFailures ≤ (s.breaker config e.address).failures + 1 := by
      have := below rfl
      omega
    rw [if_pos rfl,recordFailure_closed calm.closed,if_neg reached]
  · rw [if_neg same]
    exact calm.closed

theorem Calm.autoRecovery (calm : Calm config e s) (address : String) :
    (s.autoRecovery address).breaker config e.address = s.breaker config e.address := by
  obtain same | ⟨_,same⟩ := s.breaker_autoRecovery config address e.address
  · exact same
  · rw [same,halfOpen_closed calm.closed]

theorem apart_of_found {other : Check} (found : s.checks[k]? = some c)
    (apart : identity c.endpoint ≠ identity e) (found' : s.checks[k]? = some other) :
    identity other.endpoint ≠ identity e := by
  rw [found] at found'
  cases found'
  exact apart

theorem step_working_iff (s : State) (label : Label) (t : State) (calm : Calm config e s)
    (answering : Answering scheme? e s label) (working : Working config e s)
    (taken : step config scheme? s label = some t) : Working config e t ↔ Spared config scheme? e s label := by
  cases step_effect taken with
  | discover | select | tick | invalidate | listNamespaces | collect | discard | endRound =>
    exact iff_of_true (working.frame rfl rfl) trivial
  | client here => exact iff_of_true (working.frame (addClient_breaker ..) (addClient_checks ..)) trivial
  | enter here => exact iff_of_true (working.frame (breaker_setBreaker_self ..) rfl) trivial
  | @record i ep ok here =>
    refine iff_of_true ⟨?_,working.unmarked⟩ trivial
    obtain rfl : ok = true := answering
    show ((s.setBreaker ep.address (s.breaker config ep.address).recordSuccess).breaker config e.address).state ≠ .opened
    rw [breaker_setBreaker]
    split
    next same =>
      rw [← same,recordSuccess_closed calm.closed]
      exact nofun
    next => exact working.admits
  | startRound =>
    refine iff_of_true ⟨working.admits,?_⟩ trivial
    intro c member _ marked
    obtain ⟨ep,_,rfl⟩ := mem_map.mp member
    exact marked.1 rfl
  | @refused k c found here invalid =>
    by_cases same : identity c.endpoint = identity e
    · refine iff_of_false (not_working_of_marked found (find_checks ..) same ⟨nofun,nofun,rfl⟩) fun spared => ?_
      exact spared c found same invalid
    · refine iff_of_true (working.setCheck (find_breaker ..) (find_checks ..) fun same' => absurd same' same) ?_
      exact fun other found' same' => absurd same' (apart_of_found found same found')
  | @probe k c scheme found here valid =>
    refine iff_of_true (working.setCheck (addClient_breaker ..) (addClient_checks ..) ?_) ?_
    · rintro _ ⟨_,probing,_⟩
      exact probing rfl
    · intro other found' _
      rw [found] at found'
      cases found'
      rw [valid]
      exact nofun
  | @reply k status c found here sent =>
    refine iff_of_true (working.setCheck (find_breaker ..) (find_checks ..) ?_) trivial
    rintro same ⟨_,_,marked⟩
    have ok : status = 200 := answering c found same
    have healthy : decide (status = 200) = false := marked
    rw [ok] at healthy
    cases healthy
  | @fail k c found here =>
    by_cases same : identity c.endpoint = identity e
    · refine iff_of_false (not_working_of_marked found (find_checks ..) same ⟨nofun,nofun,rfl⟩) fun spared => ?_
      have unsent := answering c found same
      rw [spared c found same] at unsent
      cases unsent
    · refine iff_of_true (working.setCheck (find_breaker ..) (find_checks ..) fun same' => absurd same' same) ?_
      exact fun other found' same' => absurd same' (apart_of_found found same found')
  | @checkEnter k c found here =>
    have apart := working.apart calm found (.inl here)
    refine iff_of_true (working.setCheck (breaker_setBreaker_self ..) rfl fun same => absurd same apart) trivial
  | @checkRecord k c found here =>
    have apart := working.apart calm found (.inr here)
    have admits := recorded_admits_iff calm c.endpoint.address
    constructor
    · intro working' other found' same
      rw [found] at found'
      cases found'
      exact admits.mp working'.admits same
    · intro spared
      have unmarked := (working.setCheck rfl rfl fun same => absurd same apart :
        Working config e (s.setCheck k { c with pc := .done }))
      exact ⟨admits.mpr (spared c found),unmarked.unmarked⟩
  | @autoRecovery address =>
    refine iff_of_true (working.frame ?_ (autoRecovery_checks ..)) trivial
    exact calm.autoRecovery address

theorem step_calm (s : State) (label : Label) (t : State) (calm : Calm config e s)
    (answering : Answering scheme? e s label) (working : Working config e s) (spared : Spared config scheme? e s label)
    (taken : step config scheme? s label = some t) : Calm config e t := by
  have admits := ((step_working_iff s label t calm answering working taken).mpr spared).admits
  cases step_effect taken with
  | discover | select | tick | invalidate | listNamespaces | collect | discard | endRound => exact calm.frame rfl rfl
  | client here => exact calm.frame (addClient_breaker ..) (addClient_checks ..)
  | enter here => exact calm.frame (breaker_setBreaker_self ..) rfl
  | @record i ep ok here =>
    obtain rfl : ok = true := answering
    refine ⟨?_,calm.marked⟩
    show ((s.setBreaker ep.address (s.breaker config ep.address).recordSuccess).breaker config e.address).state = .closed
    rw [breaker_setBreaker]
    split
    next same =>
      rw [← same]
      exact recordSuccess_closed calm.closed
    next => exact calm.closed
  | startRound =>
    refine ⟨calm.closed,fun c member reports => ?_⟩
    obtain ⟨ep,_,rfl⟩ := mem_map.mp member
    obtain here | here := reports <;> cases here
  | refused | fail =>
    refine calm.setCheck ?_ (find_checks ..) fun _ => rfl
    exact calm.closed
  | probe found here valid =>
    refine calm.setCheck ?_ (addClient_checks ..) ?_
    · rw [addClient_breaker]
      exact calm.closed
    · rintro (here | here) <;> cases here
  | reply found here sent =>
    refine calm.setCheck ?_ (find_checks ..) ?_
    · rw [find_breaker]
      exact calm.closed
    · rintro (here | here) <;> cases here
  | @checkEnter k c found here =>
    refine calm.setCheck ?_ rfl fun _ => ?_
    · show ((s.setBreaker _ _).breaker config e.address).state = .closed
      rw [breaker_setBreaker_self]
      exact calm.closed
    · exact calm.marked c (mem_of_getElem? found) (.inl here)
  | @checkRecord k c found here =>
    refine calm.setCheck ?_ rfl ?_
    · have closes := closed_of_admits calm c.endpoint.address
      exact closes admits
    · rintro (here | here) <;> cases here
  | @autoRecovery address => exact calm.frame (calm.autoRecovery address) (autoRecovery_checks ..)

end

/-- For every endpoint whose requests succeed and whose backend answers every probe: its breaker is never open and the
    checks never mark it as unhealthy exactly when the URL of its every check has the scheme `http` or `https`, and no
    failed check of its address is the failure that reaches the threshold. -/
theorem working_endpoint_kept_iff (config : RoutingConfig) (scheme? : String → Option String) (e : Endpoint)
    (registry : Registry) (labels : List Label) (t : State)
    (executed : run (step config scheme?) (init registry) labels = some t)
    (answering : Meets (step config scheme?) (Answering scheme? e) (init registry) labels) :
    Always (step config scheme?) (Working config e) (init registry) labels ↔
      Meets (step config scheme?) (Spared config scheme? e) (init registry) labels := by
  have calm : Calm config e (init registry) := ⟨rfl,fun _ member => by cases member⟩
  have working : Working config e (init registry) := ⟨nofun,fun _ member => by cases member⟩
  exact always_iff_meets_of_meets step_calm step_working_iff calm working answering executed

def toolsEndpoint (scheme : String) : Endpoint := { ns := "tools", address := "10.0.0.1", port := 8080, scheme := scheme }

def toolsRegistry (scheme : String) : Registry := (∅ : Registry).insert "tools" [toolsEndpoint scheme]

def defaultRouting : RoutingConfig := ⟨"least_connections",5,2,30⟩

def schemeOf (url : String) : Option String := some (String.ofList (url.toList.takeWhile (· ≠ ':')))

def healthyRound : List Label :=
  [.startRound,.checkStart 0,.checkReply 0 200,.endRound,.select "tools",.enter 0,.client 0,.record 0 true]

theorem http_endpoint_works :
    ∃ t, run (step defaultRouting schemeOf) (init (toolsRegistry "http")) healthyRound = some t ∧
      Always (step defaultRouting schemeOf) (Working defaultRouting (toolsEndpoint "http"))
        (init (toolsRegistry "http")) healthyRound := by
  refine ⟨_,rfl,(working_endpoint_kept_iff defaultRouting schemeOf (toolsEndpoint "http") (toolsRegistry "http")
    healthyRound _ rfl ?_).mpr ?_⟩
  · apply meets_of_mem
    intro label member s
    simp only [healthyRound,mem_cons,not_mem_nil,or_false] at member
    rcases member with rfl | rfl | rfl | rfl | rfl | rfl | rfl | rfl
    all_goals first | trivial | exact fun _ _ _ => rfl
  · apply meets_of_mem
    intro label member s
    simp only [healthyRound,mem_cons,not_mem_nil,or_false] at member
    rcases member with rfl | rfl | rfl | rfl | rfl | rfl | rfl | rfl
    all_goals first | trivial | exact fun _ _ _ => nofun

def failingRound : List Label := [.startRound,.checkStart 0,.checkFail 0,.checkEnter 0,.checkRecord 0,.endRound]

/-- A WebSocket endpoint is marked as unhealthy in every round, and its breaker opens after five. -/
theorem webSocket_endpoint_disabled :
    ∃ t, run (step defaultRouting schemeOf) (init (toolsRegistry "ws")) (replicate 5 failingRound).flatten = some t ∧
      Meets (step defaultRouting schemeOf) (Answering schemeOf (toolsEndpoint "ws")) (init (toolsRegistry "ws"))
        (replicate 5 failingRound).flatten ∧
      supportedScheme (toolsEndpoint "ws").scheme = true ∧
      (t.breaker defaultRouting (toolsEndpoint "ws").address).state = .opened ∧
      t.checks = [⟨{ toolsEndpoint "ws" with healthy := false },.done⟩] := by
  refine ⟨_,rfl,?_,rfl,rfl,rfl⟩
  apply meets_of_mem
  intro label member s
  have mine : label ∈ failingRound := by
    obtain ⟨round,rounds,inside⟩ := mem_flatten.mp member
    rwa [eq_of_mem_replicate rounds] at inside
  simp only [failingRound,mem_cons,not_mem_nil,or_false] at mine
  rcases mine with rfl | rfl | rfl | rfl | rfl | rfl
  all_goals first | trivial | skip
  intro c _ same
  have unsent : probed schemeOf (identity c.endpoint) = false := by
    rw [same]
    rfl
  exact unsent

end McpBridge.HealthChecks
