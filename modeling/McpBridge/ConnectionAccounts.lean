import McpBridge.HealthChecks

/-!
The counts of `LeastConnections` (`loadbalancer/loadbalancer.go`) against the selections not released yet.
-/
namespace McpBridge.LoadBalancers.LeastConnections

def updateEndpoints (lc : LeastConnections) (endpoints : List Endpoint) : LeastConnections where
  endpoints := endpoints
  connections address := if ∃ ep ∈ endpoints, ep.address = address then lc.connections address else 0

def releaseConnection (lc : LeastConnections) (address : String) : LeastConnections :=
  if 0 < lc.connections address then
    { lc with connections := Function.update lc.connections address (lc.connections address - 1) }
  else lc

end McpBridge.LoadBalancers.LeastConnections

namespace McpBridge.ConnectionAccounts
open LoadBalancers HealthChecks Runs List Function

/-- The balancer, the selections not released yet, and for each call of `Next` the balancer it found and its result. -/
structure State where
  lc : LeastConnections
  outstanding : List Endpoint := []
  answers : List (LeastConnections × Option Endpoint) := []

namespace State

def out (s : State) (ep : Endpoint) : Nat := s.outstanding.count (identity ep)

end State

inductive Label where
  | next
  | release (ep : Endpoint)
  | update (endpoints : List Endpoint)
  | health (endpoints : List Endpoint)

/-- One call of the balancer, noted. -/
def step (s : State) : Label → Option State
  | .next =>
    some { lc := s.lc.next.2
           outstanding := (s.lc.next.1.map identity).toList ++ s.outstanding
           answers := (s.lc,s.lc.next.1) :: s.answers }
  | .release ep =>
    if identity ep ∈ s.outstanding then
      some { s with lc := s.lc.releaseConnection ep.address,outstanding := s.outstanding.erase (identity ep) }
    else none
  | .update endpoints => some { s with lc := s.lc.updateEndpoints endpoints }
  | .health endpoints =>
    if endpoints.map identity = s.lc.endpoints.map identity then some { s with lc := { s.lc with endpoints } } else none

def start (endpoints : List Endpoint) : State where lc := { endpoints }

/-- `Next` returned a healthy endpoint with the least count, or none if there is none. -/
def Least (lc : LeastConnections) : Option Endpoint → Prop
  | none => ∀ ep ∈ lc.endpoints, ep.healthy = false
  | some ep => ep ∈ lc.endpoints ∧ ep.healthy = true ∧
      ∀ other ∈ lc.endpoints, other.healthy = true → lc.connections ep.address ≤ lc.connections other.address

/-- The first healthy endpoint with the least count, which is below the largest number. -/
def Foremost (lc : LeastConnections) (ep : Endpoint) : Prop :=
  ∃ before later, lc.endpoints = before ++ ep :: later ∧ ep.healthy = true ∧ lc.connections ep.address < maxInt64 ∧
    (∀ other ∈ before, other.healthy = true → lc.connections ep.address < lc.connections other.address) ∧
    ∀ other ∈ later, other.healthy = true → lc.connections ep.address ≤ lc.connections other.address

/-- The counts are right, and so were the answers. -/
structure Accounted (s : State) : Prop where
  counts : ∀ ep ∈ s.lc.endpoints, s.lc.connections ep.address = s.out ep
  answers : ∀ answer ∈ s.answers, Least answer.1 answer.2

/-- The steps that keep the account: the foremost endpoint shares its address with no other, and some healthy one, if
    any, has a count below the largest number; a released one shares its address with none that has a selection; and a
    new list names endpoints with the selections of the listed ones of their address. -/
def Fair (s : State) : Label → Prop
  | .next =>
    (∀ ep, Foremost s.lc ep → ∀ other ∈ s.lc.endpoints, other.address = ep.address → identity other = identity ep) ∧
      ((∃ ep ∈ s.lc.endpoints, ep.healthy = true) →
        ∃ ep ∈ s.lc.endpoints, ep.healthy = true ∧ s.lc.connections ep.address < maxInt64)
  | .release ep => ∀ other ∈ s.lc.endpoints, other.address = ep.address → identity other = identity ep ∨ s.out other = 0
  | .update endpoints => ∀ ep ∈ endpoints,
      (∀ other ∈ s.lc.endpoints, other.address = ep.address → s.out other = s.out ep) ∧
        ((∀ other ∈ s.lc.endpoints, other.address ≠ ep.address) → s.out ep = 0)
  | .health _ => True

section
variable {lc : LeastConnections}

/-- The scan ends with what it started with, if no healthy endpoint has less, or the first that has least. -/
theorem scan_cases (endpoints : List Endpoint) (best : Option Endpoint × Int) :
    (endpoints.foldl lc.consider best = best ∧
      ∀ ep ∈ endpoints, ep.healthy = true → best.2 ≤ lc.connections ep.address) ∨
    ∃ before ep later, endpoints = before ++ ep :: later ∧ ep.healthy = true ∧ lc.connections ep.address < best.2 ∧
      (∀ other ∈ before, other.healthy = true → lc.connections ep.address < lc.connections other.address) ∧
      (∀ other ∈ later, other.healthy = true → lc.connections ep.address ≤ lc.connections other.address) ∧
      endpoints.foldl lc.consider best = (some ep,lc.connections ep.address) := by
  induction endpoints generalizing best with
  | nil => exact .inl ⟨rfl,by simp⟩
  | cons first rest ih =>
    rw [foldl_cons]
    by_cases better : first.healthy = true ∧ lc.connections first.address < best.2
    · have taken : lc.consider best first = (some first,lc.connections first.address) := if_pos better
      rw [taken]
      obtain ⟨same,least⟩ | ⟨before,ep,later,rfl,healthy,below,more,least,found⟩ :=
        ih (some first,lc.connections first.address)
      · exact .inr ⟨[],first,rest,rfl,better.1,better.2,by simp,least,same⟩
      · refine .inr ⟨first :: before,ep,later,rfl,healthy,by omega,?_,least,found⟩
        exact forall_mem_cons.mpr ⟨fun _ => below,more⟩
    · have passed : lc.consider best first = best := if_neg better
      have large : first.healthy = true → best.2 ≤ lc.connections first.address := fun healthy =>
        Int.not_lt.mp (not_and.mp better healthy)
      rw [passed]
      obtain ⟨same,least⟩ | ⟨before,ep,later,rfl,healthy,below,more,least,found⟩ := ih best
      · exact .inl ⟨same,forall_mem_cons.mpr ⟨large,least⟩⟩
      · refine .inr ⟨first :: before,ep,later,rfl,healthy,below,forall_mem_cons.mpr ⟨fun here => ?_,more⟩,least,found⟩
        have := large here
        omega

theorem next_cases (lc : LeastConnections) :
    (lc.next = (none,lc) ∧ ∀ ep ∈ lc.endpoints, ep.healthy = true → maxInt64 ≤ lc.connections ep.address) ∨
      ∃ ep, lc.next = (some ep,{ lc with
          connections := update lc.connections ep.address (lc.connections ep.address + 1) }) ∧
        Foremost lc ep := by
  unfold LeastConnections.next
  obtain ⟨same,full⟩ | ⟨before,ep,later,whole,healthy,below,more,least,found⟩ := @scan_cases lc lc.endpoints (none,maxInt64)
  · rw [same]
    exact .inl ⟨rfl,full⟩
  · rw [found]
    exact .inr ⟨ep,rfl,before,later,whole,healthy,below,more,least⟩

theorem Foremost.least {ep : Endpoint} (foremost : Foremost lc ep) : Least lc (some ep) := by
  obtain ⟨before,later,whole,healthy,_,more,least⟩ := foremost
  refine ⟨by simp [whole],healthy,fun other listed healthy' => ?_⟩
  rw [whole,mem_append,mem_cons] at listed
  rcases listed with early | rfl | late
  · exact Int.le_of_lt (more other early healthy')
  · exact Int.le_refl _
  · exact least other late healthy'

theorem Foremost.unique {ep other : Endpoint} (foremost : Foremost lc ep) (foremost' : Foremost lc other) : ep = other := by
  obtain ⟨before,later,whole,healthy,_,more,least⟩ := foremost
  obtain ⟨before',later',whole',healthy',_,more',least'⟩ := foremost'
  rcases append_eq_append_iff.mp (whole.symm.trans whole') with ⟨middle,rfl,rest⟩ | ⟨middle,rfl,rest⟩
  · cases middle with
    | nil => exact (cons.inj rest).1
    | cons first middle =>
      obtain ⟨rfl,rfl⟩ := cons.inj rest
      have below := more' ep (by simp) healthy
      have above := least other (by simp) healthy'
      omega
  · cases middle with
    | nil => exact (cons.inj rest).1.symm
    | cons first middle =>
      obtain ⟨rfl,rfl⟩ := cons.inj rest
      have below := more other (by simp) healthy'
      have above := least' ep (by simp) healthy
      omega

theorem releaseConnection_endpoints (address : String) : (lc.releaseConnection address).endpoints = lc.endpoints := by
  unfold LeastConnections.releaseConnection
  split <;> rfl

theorem releaseConnection_connections (address other : String) : (lc.releaseConnection address).connections other =
      if other = address ∧ 0 < lc.connections address then lc.connections address - 1 else lc.connections other := by
  unfold LeastConnections.releaseConnection
  by_cases positive : 0 < lc.connections address
  · by_cases same : other = address
    · subst same
      simp [positive]
    · simp [positive,same]
  · simp [positive]

end

section
variable {s : State}

variable {ep : Endpoint} {other : Endpoint}

theorem address_of_identity (same : identity other = identity ep) : other.address = ep.address :=
  (congrArg Endpoint.address same : (identity other).address = (identity ep).address)

def Swept (s : State) : Prop :=
  ∀ address, (∀ ep ∈ s.lc.endpoints, ep.address ≠ address) → s.lc.connections address = 0

variable {endpoints : List Endpoint}

theorem listed_of_identities {others : List Endpoint} (same : endpoints.map identity = others.map identity)
    (listed : ep ∈ endpoints) : ∃ other ∈ others, identity other = identity ep := by
  have member := mem_map_of_mem (f := identity) listed
  rw [same] at member
  obtain ⟨other,listed',same⟩ := mem_map.mp member
  exact ⟨other,listed',same⟩

variable {next : State}

theorem Swept.kept {label : Label} (swept : Swept s) (taken : step s label = some next) : Swept next := by
  intro address unlisted
  cases label with
  | next =>
    cases taken
    rcases next_cases s.lc with ⟨none,_⟩ | ⟨ep,some_,foremost⟩
    · simp only [none] at unlisted ⊢
      exact swept address unlisted
    · simp only [some_] at unlisted ⊢
      rw [update_of_ne (unlisted ep foremost.least.1).symm]
      exact swept address unlisted
  | release ep =>
    obtain ⟨_,⟨⟩⟩ := Option.ite_none_right_eq_some.mp taken
    rw [releaseConnection_endpoints] at unlisted
    have zero := swept address unlisted
    have apart : ¬(address = ep.address ∧ 0 < s.lc.connections ep.address) := by
      rintro ⟨rfl,positive⟩
      omega
    rw [releaseConnection_connections,if_neg apart,zero]
  | update endpoints =>
    cases taken
    exact if_neg fun ⟨ep,listed,same⟩ => unlisted ep listed same
  | health endpoints =>
    obtain ⟨same,⟨⟩⟩ := Option.ite_none_right_eq_some.mp taken
    refine swept address fun ep listed => ?_
    obtain ⟨other,listed',alike⟩ := listed_of_identities same.symm listed
    rw [← address_of_identity alike]
    exact unlisted other listed'

theorem counts_next (count : s.lc.connections other.address = s.out other) :
    update s.lc.connections ep.address (s.lc.connections ep.address + 1) other.address =
        ((identity ep :: s.outstanding).count (identity other) : Nat) ↔
      (other.address = ep.address → identity other = identity ep) := by
  unfold State.out at count
  by_cases shared : other.address = ep.address
  · rw [shared,update_self,← shared,count,count_cons]
    by_cases same : identity other = identity ep
    · simp [same]
    · simp only [beq_iff_eq,Ne.symm same,if_false,Nat.add_zero]
      exact iff_of_false (by omega) fun alone => same (alone trivial)
  · have apart : identity ep ≠ identity other := fun same => shared (address_of_identity same.symm)
    simp [apart,count,shared]

theorem next_breaks (accounted : Accounted s) (taken : step s .next = some next) : Accounted next ↔ Fair s .next := by
  cases taken
  rcases next_cases s.lc with ⟨nobody,full⟩ | ⟨ep,some_,foremost⟩
  · have free : Least s.lc none ↔ ((∃ ep ∈ s.lc.endpoints, ep.healthy = true) →
        ∃ ep ∈ s.lc.endpoints, ep.healthy = true ∧ s.lc.connections ep.address < maxInt64) := by
      constructor
      · rintro unhealthy ⟨ep,listed,healthy⟩
        rw [unhealthy ep listed] at healthy
        cases healthy
      · intro free ep listed
        by_contra healthy
        obtain ⟨other,listed',healthy',below⟩ := free ⟨ep,listed,by simpa using healthy⟩
        have := full other listed' healthy'
        omega
    have nowhere : ∀ ep, ¬Foremost s.lc ep := by
      rintro ep ⟨before,later,whole,healthy,below,_⟩
      have := full ep (by simp [whole]) healthy
      omega
    rw [Fair,← free]
    simp only [nobody]
    constructor
    · intro after
      exact ⟨fun ep foremost => absurd foremost (nowhere ep),after.answers _ mem_cons_self⟩
    · rintro ⟨_,unhealthy⟩
      exact ⟨accounted.counts,forall_mem_cons.mpr ⟨unhealthy,accounted.answers⟩⟩
  · simp only [some_,Fair]
    have least := foremost.least
    constructor
    · intro after
      refine ⟨fun other foremost' => ?_,fun _ => ?_⟩
      · obtain rfl := foremost.unique foremost'
        exact fun other listed => (counts_next (accounted.counts other listed)).mp (after.counts other listed)
      · obtain ⟨_,_,_,_,below,_⟩ := foremost
        exact ⟨ep,least.1,least.2.1,below⟩
    · rintro ⟨alone,_⟩
      refine ⟨fun other listed => ?_,forall_mem_cons.mpr ⟨least,accounted.answers⟩⟩
      exact (counts_next (accounted.counts other listed)).mpr (alone ep foremost other listed)

theorem release_breaks (accounted : Accounted s) (taken : step s (.release ep) = some next) :
    Accounted next ↔ Fair s (.release ep) := by
  obtain ⟨held,⟨⟩⟩ := Option.ite_none_right_eq_some.mp taken
  have positive := count_pos_iff.mpr held
  have counts : ∀ other ∈ s.lc.endpoints, ((s.lc.releaseConnection ep.address).connections other.address =
      ((s.outstanding.erase (identity ep)).count (identity other) : Nat) ↔
        (other.address = ep.address → identity other = identity ep ∨ s.out other = 0)) := by
    intro other listed
    have count := accounted.counts other listed
    unfold State.out at count ⊢
    rw [releaseConnection_connections]
    by_cases shared : other.address = ep.address
    · rw [← shared,count]
      by_cases same : identity other = identity ep
      · rw [same,count_erase_self,if_pos ⟨rfl,by omega⟩]
        exact iff_of_true (by omega) fun _ => .inl rfl
      · rw [count_erase_of_ne same]
        by_cases unused : s.outstanding.count (identity other) = 0
        · rw [if_neg (by omega)]
          exact iff_of_true rfl fun _ => .inr unused
        · rw [if_pos ⟨rfl,by omega⟩]
          exact iff_of_false (by omega) fun fair => (fair rfl).elim same unused
    · have apart : identity other ≠ identity ep := fun same => shared (address_of_identity same)
      simp [shared,count_erase_of_ne apart,count]
  constructor
  · intro after other listed
    exact (counts other listed).mp (after.counts other (by rwa [releaseConnection_endpoints]))
  · intro fair
    refine ⟨fun other listed => ?_,accounted.answers⟩
    rw [releaseConnection_endpoints] at listed
    exact (counts other listed).mpr (fair other listed)

theorem update_breaks (swept : Swept s) (accounted : Accounted s)
    (taken : step s (.update endpoints) = some next) : Accounted next ↔ Fair s (.update endpoints) := by
  cases taken
  have counts : ∀ ep ∈ endpoints, ((s.lc.updateEndpoints endpoints).connections ep.address = s.out ep ↔
      (∀ other ∈ s.lc.endpoints, other.address = ep.address → s.out other = s.out ep) ∧
        ((∀ other ∈ s.lc.endpoints, other.address ≠ ep.address) → s.out ep = 0)) := by
    intro ep listed
    have kept : (s.lc.updateEndpoints endpoints).connections ep.address = s.lc.connections ep.address :=
      if_pos ⟨ep,listed,rfl⟩
    rw [kept]
    by_cases known : ∃ other ∈ s.lc.endpoints, other.address = ep.address
    · obtain ⟨other,listed',shared⟩ := known
      constructor
      · intro count
        refine ⟨fun another listed'' shared' => ?_,fun unlisted => absurd shared (unlisted other listed')⟩
        have := accounted.counts another listed''
        rw [shared',count] at this
        omega
      · rintro ⟨alike,_⟩
        rw [← shared,accounted.counts other listed',alike other listed' shared]
    · have unlisted : ∀ other ∈ s.lc.endpoints, other.address ≠ ep.address := fun other listed' shared =>
        known ⟨other,listed',shared⟩
      rw [swept ep.address unlisted]
      constructor
      · intro none
        exact ⟨fun other listed' shared => absurd shared (unlisted other listed'),fun _ => by omega⟩
      · rintro ⟨_,none⟩
        rw [none unlisted]
        rfl
  constructor
  · intro after ep listed
    exact (counts ep listed).mp (after.counts ep listed)
  · intro fair
    exact ⟨fun ep listed => (counts ep listed).mpr (fair ep listed),accounted.answers⟩

theorem health_breaks (accounted : Accounted s) (taken : step s (.health endpoints) = some next) : Accounted next := by
  obtain ⟨same,⟨⟩⟩ := Option.ite_none_right_eq_some.mp taken
  refine ⟨fun ep listed => ?_,accounted.answers⟩
  obtain ⟨other,listed',alike⟩ := listed_of_identities same listed
  have count := accounted.counts other listed'
  rw [address_of_identity alike] at count
  rw [count,State.out,alike]
  rfl

end

/-- The counts are those of the selections not released, and `Next` returns a healthy endpoint with the least, exactly
    if every step is fair. -/
theorem connection_accounts (endpoints : List Endpoint) (labels : List Label) (t : State)
    (executed : run step (start endpoints) labels = some t) :
    Always step Accounted (start endpoints) labels ↔ Meets step Fair (start endpoints) labels := by
  have swept : Swept (start endpoints) := fun _ _ => rfl
  have accounted : Accounted (start endpoints) := ⟨fun _ _ => rfl,fun _ none => nomatch none⟩
  refine always_iff_meets (fun s label next swept taken => Swept.kept swept taken) ?_ swept accounted executed
  intro s label next swept accounted taken
  cases label with
  | next => exact next_breaks accounted taken
  | release ep => exact release_breaks accounted taken
  | update endpoints => exact update_breaks swept accounted taken
  | health endpoints => exact iff_of_true (health_breaks accounted taken) trivial

def node (address : String) (port : Int) : Endpoint := { ns := "tools",address,port,scheme := "http" }

theorem connection_accounts_released :
    Always step Accounted (start [node "10.0.0.1" 80,node "10.0.0.2" 80])
      [.next,.next,.release (node "10.0.0.1" 80),.update [node "10.0.0.2" 80,node "10.0.0.3" 80]] := by
  refine (connection_accounts _ _ _ rfl).mpr ?_
  iterate 2
    refine ⟨⟨fun ep foremost => ?_,fun _ => ⟨_,mem_cons_self,rfl,by decide⟩⟩,fun _ taken => ?_⟩
    · have listed := foremost.least.1
      clear foremost
      revert ep
      decide
    cases taken
  iterate 2
    refine ⟨by unfold Fair; decide,fun _ taken => ?_⟩
    cases taken
  trivial

/-- A selected endpoint leaves the list and comes back with a count of zero. -/
theorem forgotten_selection :
    (run step (start [node "10.0.0.1" 80]) [.next,.update [],.update [node "10.0.0.1" 80]]).map
        (fun t => (t.lc.connections "10.0.0.1",t.out (node "10.0.0.1" 80))) = some (0,1) ∧
      ¬Always step Accounted (start [node "10.0.0.1" 80]) [.next,.update [],.update [node "10.0.0.1" 80]] := by
  refine ⟨rfl,fun always => ?_⟩
  have accounted := always.last (t := _) rfl
  have count := accounted.counts (node "10.0.0.1" 80) (by decide)
  revert count
  decide

end McpBridge.ConnectionAccounts
