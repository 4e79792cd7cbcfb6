import McpBridge.WorkingEndpoints

/-!
What the verdicts of the health checks do to the selection of endpoints. Discovery hands out copies: the rounds set the
flags of theirs, and the load balancers select by those that discovery had when they were made.
-/
namespace McpBridge.HealthChecks
open Runs LoadBalancers Routing List

def State.balancerFor (config : RoutingConfig) (s : State) (ns : String) : Option LoadBalancer :=
  ((s.router config).getLoadBalancer ns).1

open State

section
variable {config : RoutingConfig} {s : State} {ns : String}

theorem balancerFor_cases {lb : LoadBalancer} (made : s.balancerFor config ns = some lb) :
    s.balancers.lookup ns = some lb ∨
      s.balancers.lookup ns = none ∧ lb = LoadBalancer.create config.strategy (s.listing ns) := by
  unfold balancerFor Router.getLoadBalancer at made
  split at made
  next old held =>
    cases made
    exact .inl held
  next missing =>
    split at made <;> cases made
    exact .inr ⟨missing,rfl⟩

theorem balancerFor_of_listing (missing : s.balancers.lookup ns = none) (present : s.listing ns ≠ []) :
    ∃ lb, s.balancerFor config ns = some lb ∧ lb = LoadBalancer.create config.strategy (s.listing ns) := by
  have unknown : (s.router config).balancers ns = none := missing
  have listed : (s.router config).discovered ns ≠ [] := present
  unfold balancerFor Router.getLoadBalancer
  rw [unknown]
  rw [if_neg listed]
  exact ⟨_,rfl,rfl⟩

theorem getLoadBalancer_none {r after : Router} (made : r.getLoadBalancer ns = (none,after)) :
    after.balancers ns = none := by
  revert made
  fun_cases Router.getLoadBalancer r ns <;> rintro ⟨⟩
  case case2 missing _ => exact missing

theorem selectEndpoint_eq_ok_iff {ep : Endpoint} : ((s.router config).selectEndpoint ns).1 = .ok ep ↔
      ∃ lb, s.balancerFor config ns = some lb ∧ lb.next.1 = some ep := by
  unfold Router.selectEndpoint balancerFor
  cases made : (s.router config).getLoadBalancer ns with
  | mk first after =>
    cases first with
    | none => simp
    | some lb =>
      cases chosen : lb.next.1 with
      | none | some => simp [chosen]

theorem select_balancers : (s.select config ns).balancers = match s.balancerFor config ns with
    | some lb => s.balancers.insert ns lb.next.2
    | none => s.balancers := by
  unfold select Router.selectEndpoint balancerFor
  cases made : (s.router config).getLoadBalancer ns with
  | mk first after =>
    cases first with
    | none =>
      dsimp only
      rw [getLoadBalancer_none made]
    | some lb =>
      dsimp only
      cases chosen : lb.next.1 with
      | none | some => simp

end

section
variable (config : RoutingConfig) (scheme? : String → Option String)

/-- What a step finds out about an endpoint. -/
def verdict (s : State) : Label → Option (Endpoint × Bool)
  | .checkStart k =>
    (s.checks[k]?).bind fun c =>
      if scheme? (buildHealthCheckURL c.endpoint) = none then some (c.endpoint,false) else none
  | .checkReply k status => (s.checks[k]?).map fun c => (c.endpoint,decide (status = 200))
  | .checkFail k => (s.checks[k]?).map fun c => (c.endpoint,false)
  | _ => none

/-- Discovery lists the endpoint as healthy, or a balancer has a copy that is marked so. -/
def Offered (s : State) (e : Endpoint) : Prop :=
  ∃ ns ep, ep.healthy = true ∧ identity ep = identity e ∧
    (ep ∈ s.listing ns ∨ ∃ lb, s.balancers.lookup ns = some lb ∧ ep ∈ lb.endpoints)

/-- A request is not given an endpoint that a round has found unhealthy. -/
def Heeds (s : State) (label : Label) : Prop :=
  ∀ ns ep, label = .select ns → ((s.router config).selectEndpoint ns).1 = .ok ep → identity ep ∉ s.condemned

/-- An endpoint that the step finds unhealthy is marked so wherever it can be selected from. -/
def Withdrawn (s : State) (label : Label) : Prop := ∀ e, verdict scheme? s label = some (e,false) → ¬ Offered s e

def Banished (s : State) : Prop := ∀ e ∈ s.condemned, identity e = e ∧ ¬ Offered s e

end

/-! ### Who offers an endpoint -/

@[simp] theorem identity_identity (e : Endpoint) : identity (identity e) = identity e := rfl

section
variable {config : RoutingConfig} {scheme? : String → Option String} {s t : State}

variable {e : Endpoint}

theorem offered_identity : Offered s (identity e) ↔ Offered s e := Iff.rfl

theorem offered_congr (listings : t.registry = s.registry) (balancers : t.balancers = s.balancers) :
    Offered t e ↔ Offered s e := by
  unfold Offered listing
  rw [listings,balancers]

variable {ns : String} {ep : Endpoint} {healthy : Bool}

theorem offered_of_fewer (offered : Offered t e) (listings : t.registry = s.registry)
    (fewer : ∀ ns lb, t.balancers.lookup ns = some lb → s.balancers.lookup ns = some lb) : Offered s e := by
  obtain ⟨ns,ep,healthy,same,listed | ⟨lb,held,inside⟩⟩ := offered
  · unfold listing at listed
    rw [listings] at listed
    exact ⟨ns,ep,healthy,same,.inl listed⟩
  · exact ⟨ns,ep,healthy,same,.inr ⟨lb,fewer ns lb held,inside⟩⟩

/-- What a balancer selects from is on offer, since a new one is made of what discovery lists. -/
theorem offered_of_balancerFor {lb : LoadBalancer} (made : s.balancerFor config ns = some lb) (inside : ep ∈ lb.endpoints)
    (healthy : ep.healthy = true) (same : identity ep = identity e) : Offered s e := by
  rcases balancerFor_cases made with known | ⟨-,rfl⟩
  · exact ⟨ns,ep,healthy,same,.inr ⟨lb,known,inside⟩⟩
  · rw [create_endpoints] at inside
    exact ⟨ns,ep,healthy,same,.inl inside⟩

theorem offered_of_select (offered : Offered (s.select config ns) e) : Offered s e := by
  obtain ⟨other,ep,healthy,same,listed | ⟨lb,held,inside⟩⟩ := offered
  · exact ⟨other,ep,healthy,same,.inl listed⟩
  rw [select_balancers] at held
  cases made : s.balancerFor config ns with
  | none =>
    rw [made] at held
    exact ⟨other,ep,healthy,same,.inr ⟨lb,held,inside⟩⟩
  | some used =>
    rw [made] at held
    by_cases here : other = ns
    · subst here
      rw [AList.lookup_insert] at held
      cases held
      rw [next_endpoints] at inside
      exact offered_of_balancerFor made inside healthy same
    · rw [AList.lookup_insert_ne here] at held
      exact ⟨other,ep,healthy,same,.inr ⟨lb,held,inside⟩⟩

theorem lookup_foldl_insert (changes : List ((_ : String) × List Endpoint)) (registry : Registry)
    (others : ∀ change ∈ changes, change.1 ≠ ns) :
    (changes.foldl (fun registry change => registry.insert change.1 change.2) registry).lookup ns =
      registry.lookup ns := by
  induction changes generalizing registry with
  | nil => rfl
  | cons change rest ih =>
    rw [foldl_cons,ih _ fun other inside => others other (mem_cons_of_mem _ inside)]
    exact AList.lookup_insert_ne (others change mem_cons_self).symm

/-- What discovery comes to offer, it has reported. -/
theorem offered_of_discover {changes : List ((_ : String) × List Endpoint)} (offered : Offered (s.discover changes) e) :
    Offered s e ∨ reported (s.discover changes).registry changes (identity e) = true := by
  obtain ⟨ns,ep,healthy,same,listed | held⟩ := offered
  · by_cases changed : ∃ change ∈ changes, change.1 = ns
    · right
      obtain ⟨change,inside,rfl⟩ := changed
      refine any_eq_true.mpr ⟨change,inside,?_⟩
      unfold listing at listed
      cases found : (s.discover changes).registry.lookup change.1 with
      | none =>
        rw [found] at listed
        cases listed
      | some listing =>
        rw [found] at listed
        exact any_eq_true.mpr ⟨ep,listed,decide_eq_true same⟩
    · left
      have others : ∀ change ∈ changes, change.1 ≠ ns := fun change inside named => changed ⟨change,inside,named⟩
      have kept : (s.discover changes).listing ns = s.listing ns := by
        exact congrArg (Option.getD · _) (lookup_foldl_insert changes s.registry others)
      rw [kept] at listed
      exact ⟨ns,ep,healthy,same,.inl listed⟩
  · exact .inl ⟨ns,ep,healthy,same,.inr held⟩

/-! ### What a step does to the verdicts -/

@[simp] theorem find_registry (s : State) (ep : Endpoint) (healthy : Bool) :
    (s.find ep healthy).registry = s.registry := by
  unfold find
  split <;> rfl

@[simp] theorem find_balancers (s : State) (ep : Endpoint) (healthy : Bool) :
    (s.find ep healthy).balancers = s.balancers := by
  unfold find
  split <;> rfl

@[simp] theorem addClient_registry (s : State) (ep : Endpoint) : (s.addClient ep).registry = s.registry := by
  unfold addClient
  split <;> rfl

@[simp] theorem addClient_balancers (s : State) (ep : Endpoint) : (s.addClient ep).balancers = s.balancers := by
  unfold addClient
  split <;> rfl

theorem mem_find_condemned (inside : e ∈ (s.find ep healthy).condemned) :
    e ∈ s.condemned ∨ healthy = false ∧ e = identity ep := by
  unfold find at inside
  split at inside
  next => exact .inl (mem_of_mem_filter inside)
  next failed =>
    rcases mem_cons.mp inside with same | before
    · exact .inr ⟨Bool.eq_false_iff.mpr failed,same⟩
    · exact .inl before

variable {label : Label}

section
variable (taken : step config scheme? s label = some t)
include taken

/-- A step has discovery offer an endpoint only by reporting it. -/
theorem step_offered (offered : Offered t e) :
    Offered s e ∨ ∃ changes, label = .discover changes ∧ reported t.registry changes (identity e) = true := by
  cases step_effect taken with
  | discover =>
    rcases offered_of_discover offered with before | reported
    · exact .inl before
    · exact .inr ⟨_,rfl,reported⟩
  | select => exact .inl (offered_of_select offered)
  | endRound =>
    refine .inl (offered_of_fewer offered rfl ?_)
    intro ns lb held
    cases held
  | @invalidate ns =>
    refine .inl (offered_of_fewer offered rfl ?_)
    intro other lb held
    by_cases same : other = ns
    · subst same
      rw [AList.lookup_erase] at held
      cases held
    · rwa [AList.lookup_erase_ne same] at held
  | refused | reply | fail =>
    refine .inl ((offered_congr ?_ ?_).mp offered)
    · exact find_registry _ _ _
    · exact find_balancers _ _ _
  | probe | client =>
    refine .inl ((offered_congr ?_ ?_).mp offered)
    · exact addClient_registry _ _
    · exact addClient_balancers _ _
  | autoRecovery =>
    refine .inl ((offered_congr ?_ ?_).mp offered)
    all_goals
      unfold autoRecovery
      split <;> rfl
  | _ => exact .inl offered

/-- A step condemns only the endpoint of its verdict, and discovery takes back what it reports. -/
theorem step_condemned (inside : e ∈ t.condemned) :
    (∃ other, verdict scheme? s label = some (other,false) ∧ e = identity other) ∨
      e ∈ s.condemned ∧ ∀ changes, label = .discover changes → reported t.registry changes e = false := by
  cases step_effect taken with
  | discover =>
    obtain ⟨before,unreported⟩ := mem_filter.mp inside
    refine .inr ⟨before,?_⟩
    rintro changes ⟨⟩
    exact Bool.not_eq_true' _ |>.mp unreported
  | @refused k c found here invalid =>
    rcases mem_find_condemned inside with before | ⟨-,rfl⟩
    · exact .inr ⟨before,nofun⟩
    · exact .inl ⟨c.endpoint,by simp [verdict,found,invalid],rfl⟩
  | @reply k status c found here sent =>
    rcases mem_find_condemned inside with before | ⟨failed,rfl⟩
    · exact .inr ⟨before,nofun⟩
    · exact .inl ⟨c.endpoint,by simp only [verdict,found,Option.map_some,failed],rfl⟩
  | @fail k c found here =>
    rcases mem_find_condemned inside with before | ⟨-,rfl⟩
    · exact .inr ⟨before,nofun⟩
    · exact .inl ⟨c.endpoint,by simp only [verdict,found,Option.map_some],rfl⟩
  | probe | client =>
    refine .inr ⟨?_,nofun⟩
    unfold addClient at inside
    split at inside <;> exact inside
  | autoRecovery =>
    refine .inr ⟨?_,nofun⟩
    unfold autoRecovery at inside
    split at inside <;> exact inside
  | _ => exact .inr ⟨inside,nofun⟩

end

theorem step_banished (withdrawn : Withdrawn scheme? s label) (banished : Banished s)
    (taken : step config scheme? s label = some t) : Banished t := by
  intro e inside
  rcases step_condemned taken inside with ⟨other,found,rfl⟩ | ⟨before,unreported⟩
  · refine ⟨identity_identity other,fun offered => ?_⟩
    rcases step_offered taken offered with earlier | ⟨changes,rfl,-⟩
    · exact withdrawn other found (offered_identity.mp earlier)
    · cases found
  · obtain ⟨canonical,unoffered⟩ := banished e before
    refine ⟨canonical,fun offered => ?_⟩
    rcases step_offered taken offered with earlier | ⟨changes,same,reported⟩
    · exact unoffered earlier
    · rw [canonical,unreported changes same] at reported
      cases reported

theorem selectEndpoint_offered (selected : ((s.router config).selectEndpoint ns).1 = .ok ep) : Offered s ep := by
  obtain ⟨lb,made,chosen⟩ := selectEndpoint_eq_ok_iff.mp selected
  obtain ⟨inside,healthy⟩ := next_healthy chosen
  exact offered_of_balancerFor made inside healthy rfl

theorem heeds_of_banished (banished : Banished s) : Heeds config s label := by
  intro ns ep _ selected condemned
  exact (banished _ condemned).2 (offered_identity.mpr (selectEndpoint_offered selected))

end

/-- If an endpoint that is found unhealthy is marked so in what discovery lists and in the balancers, no request is
    given an endpoint that was found unhealthy. -/
theorem verdicts_heeded (config : RoutingConfig) (scheme? : String → Option String) (registry : Registry)
    (labels : List Label) (withdrawn : Meets (step config scheme?) (Withdrawn scheme?) (init registry) labels) :
    Meets (step config scheme?) (Heeds config) (init registry) labels := by
  have kept : ∀ s label t, Banished s → Withdrawn scheme? s label → step config scheme? s label = some t → Banished t :=
    fun _ _ _ banished fine taken => step_banished fine banished taken
  exact withdrawn.of_keeps kept (fun _ _ banished _ => heeds_of_banished banished) nofun

def spareEndpoint : Endpoint := { toolsEndpoint "http" with address := "10.0.0.2" }

/-- Discovery lists one endpoint as unhealthy and another one as healthy. -/
def unreadyRegistry : Registry :=
  (∅ : Registry).insert "tools" [{ toolsEndpoint "http" with healthy := false },spareEndpoint]

/-- A round whose first probe fails and whose second one is answered, and a request. -/
def mixedRound : List Label :=
  [.startRound,.checkStart 0,.checkFail 0,.checkEnter 0,.checkRecord 0,.checkStart 1,.checkReply 1 200,.endRound,
    .select "tools"]

theorem unready_not_offered {s : State} (listings : s.registry = unreadyRegistry) (none_made : s.balancers = ∅) :
    ¬ Offered s { toolsEndpoint "http" with healthy := false } := by
  rintro ⟨ns,ep,healthy,same,listed | ⟨lb,held,-⟩⟩
  · unfold listing at listed
    rw [listings] at listed
    by_cases here : ns = "tools"
    · subst here
      rcases mem_pair.mp (show ep ∈ [_,_] from listed) with rfl | rfl
      · cases healthy
      · revert same
        decide
    · rw [unreadyRegistry,AList.lookup_insert_ne here] at listed
      cases listed
  · rw [none_made] at held
    cases held

/-- Discovery has withdrawn the endpoint before the round finds it unhealthy: the request is given the other one. -/
theorem unready_endpoint_spared :
    Meets (step defaultRouting schemeOf) (Heeds defaultRouting) (init unreadyRegistry) mixedRound ∧
      ∃ s, run (step defaultRouting schemeOf) (init unreadyRegistry) (mixedRound.take 8) = some s ∧
        ((s.router defaultRouting).selectEndpoint "tools").1 = .ok spareEndpoint ∧ s.condemned ≠ [] := by
  refine ⟨verdicts_heeded defaultRouting schemeOf unreadyRegistry mixedRound ?_,_,rfl,rfl,nofun⟩
  iterate 9
    refine ⟨fun e found => ?_,fun _ moved => ?_⟩
    · cases found <;> exact unready_not_offered rfl rfl
    cases moved
  trivial

/-- A round finds an endpoint unhealthy, and the next request goes to it. -/
theorem unhealthy_endpoint_selected :
    ∃ t, run (step defaultRouting schemeOf) (init (toolsRegistry "http")) failingRound = some t ∧
      ¬ Heeds defaultRouting t (.select "tools") := by
  refine ⟨_,rfl,fun heeds => ?_⟩
  exact heeds "tools" (toolsEndpoint "http") rfl rfl mem_cons_self

end McpBridge.HealthChecks
