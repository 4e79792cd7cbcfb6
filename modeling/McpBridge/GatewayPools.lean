import McpBridge.BalancerShares
import McpBridge.Outcomes

/-!
The pool of gateways of the router (`gateway/pool.go`, `gateway/endpoint_selector.go`). Two selectors have the same
strategies: one for the healthy endpoints, one for retries, which takes any if none is healthy.
-/
namespace McpBridge.GatewayPools
open LoadBalancers Shares Outcomes BalancerShares List

structure EndpointHealth where
  isHealthy : Bool
  consecutiveFailures : Int := 0
  consecutiveSuccesses : Int := 0
  deriving DecidableEq

/-- `GatewayEndpointWrapper`; the reference tells two wrappers apart that are alike. -/
structure GatewayEndpointWrapper where
  ref : Nat
  weight : Int := 0
  priority : Int := 0
  health : EndpointHealth := { isHealthy := true }
  activeConns : Int := 0
  deriving DecidableEq

def GatewayEndpointWrapper.isHealthy (g : GatewayEndpointWrapper) : Bool := g.health.isHealthy

inductive LoadBalancingStrategy where
  | roundRobin
  | leastConnections
  | weighted
  | priority
  | other
  deriving DecidableEq

/-- The endpoints, each once, and the strategy. -/
structure GatewayPool where
  endpoints : List GatewayEndpointWrapper
  strategy : LoadBalancingStrategy
  roundRobinIndex : Nat := 0
  distinct : (endpoints.map (·.ref)).Nodup
  ints : ∀ ep ∈ endpoints, ep.weight < 2 ^ 63

abbrev Selection := Outcome (GatewayEndpointWrapper × Nat)

section
variable (index : Nat) (target : Int) (endpoints : List GatewayEndpointWrapper)

/-- `endpoints[(atomic.AddUint64(&index, 1) - 1) % len]` -/
def inTurn : Selection := do
  let ep ← Outcome.deref endpoints[(increment index + (2 ^ 64 - 1)) % 2 ^ 64 % endpoints.length]?
  return (ep,increment index)

def lessActive (selected ep : GatewayEndpointWrapper) : GatewayEndpointWrapper :=
  if ep.activeConns < selected.activeConns then ep else selected

def leastActive : Selection :=
  match endpoints with
  | [] => .panic
  | first :: rest => .value (rest.foldl lessActive first,index)

def totalWeight : Int := endpoints.foldl (fun total ep => int64 (total + ep.weight)) 0

/-- The walk along the weights to the number that was drawn. -/
def walkWeights (target : Int) : Int → List GatewayEndpointWrapper → Option GatewayEndpointWrapper
  | _,[] => none
  | currentWeight,ep :: rest =>
    if target < int64 (currentWeight + ep.weight) then some ep else walkWeights target (int64 (currentWeight + ep.weight)) rest

/-- `rand.Intn` panics unless its argument is positive; otherwise it draws the target. -/
def atWeight (total : Int) : Selection := do
  if total ≤ 0 then .panic
  else
    let ep ← Outcome.deref ((walkWeights target 0 endpoints).or endpoints.getLast?)
    return (ep,index)

def mostUrgent (best : Int × List GatewayEndpointWrapper) (ep : GatewayEndpointWrapper) : Int × List GatewayEndpointWrapper :=
  if ep.priority < best.1 then (ep.priority,[ep])
  else if ep.priority = best.1 then (best.1,best.2 ++ [ep])
  else best

def highestPriority : Outcome (List GatewayEndpointWrapper) :=
  match endpoints with
  | [] => .panic
  | first :: _ => .value (endpoints.foldl mostUrgent (first.priority,[])).2

def selectRoundRobin : Selection := inTurn index endpoints

def selectLeastConnections : Selection := leastActive index endpoints

def selectWeighted : Selection :=
  if totalWeight endpoints = 0 then selectRoundRobin index endpoints else atWeight index target endpoints (totalWeight endpoints)

def selectPriority : Selection := do
  let highest ← highestPriority endpoints
  selectRoundRobin index highest

def selectFrom (strategy : LoadBalancingStrategy) : Selection :=
  match strategy with
  | .roundRobin => selectRoundRobin index endpoints
  | .leastConnections => selectLeastConnections index endpoints
  | .weighted => selectWeighted index target endpoints
  | .priority => selectPriority index endpoints
  | .other => selectRoundRobin index endpoints

def applyRoundRobin : Selection := inTurn index endpoints

def applyLeastConnections : Selection := leastActive index endpoints

def applyWeighted : Selection :=
  if totalWeight endpoints = 0 then applyRoundRobin index endpoints else atWeight index target endpoints (totalWeight endpoints)

def applyPriority : Selection := do
  let highest ← highestPriority endpoints
  if 1 < highest.length then applyRoundRobin index highest
  else
    let ep ← Outcome.deref highest[0]?
    return (ep,index)

def selectByStrategy (strategy : LoadBalancingStrategy) : Selection :=
  match strategy with
  | .roundRobin => applyRoundRobin index endpoints
  | .leastConnections => applyLeastConnections index endpoints
  | .weighted => applyWeighted index target endpoints
  | .priority => applyPriority index endpoints
  | .other => applyRoundRobin index endpoints

end

namespace GatewayPool

def collectHealthyEndpoints (p : GatewayPool) : List GatewayEndpointWrapper := p.endpoints.filter (·.isHealthy)

/-- `SelectEndpoint`, with the number that `rand.Intn` draws if it is called. -/
def selectEndpoint (p : GatewayPool) (target : Int) : Selection :=
  if p.collectHealthyEndpoints = [] then .error "no healthy gateway endpoints available"
  else selectFrom p.roundRobinIndex target p.collectHealthyEndpoints p.strategy

def selectEndpointForRetry (p : GatewayPool) (target : Int) : Selection :=
  if p.endpoints = [] then .error "no gateway endpoints configured"
  else if p.collectHealthyEndpoints = [] then selectByStrategy p.roundRobinIndex target p.endpoints p.strategy
  else selectByStrategy p.roundRobinIndex target p.collectHealthyEndpoints p.strategy

end GatewayPool

def chosen : Selection → Option GatewayEndpointWrapper
  | .value result => some result.1
  | _ => none

/-! ### What each strategy chooses -/

section
variable {index : Nat} {target : Int} {endpoints : List GatewayEndpointWrapper}

theorem inTurn_chosen (index : Nat) (present : endpoints ≠ []) :
    ∃ ep ∈ endpoints, chosen (inTurn index endpoints) = some ep := by
  have inside : (increment index + (2 ^ 64 - 1)) % 2 ^ 64 % endpoints.length < endpoints.length :=
    Nat.mod_lt _ (length_pos_iff.mpr present)
  refine ⟨_,getElem_mem inside,?_⟩
  unfold inTurn
  rw [getElem?_eq_getElem inside]
  rfl

variable (rest : List GatewayEndpointWrapper)

theorem lessActive_least (first : GatewayEndpointWrapper) :
    (rest.foldl lessActive first = first ∨ rest.foldl lessActive first ∈ rest) ∧
      (rest.foldl lessActive first).activeConns ≤ first.activeConns ∧
      ∀ ep ∈ rest, (rest.foldl lessActive first).activeConns ≤ ep.activeConns := by
  induction rest generalizing first with
  | nil => exact ⟨.inl rfl,Int.le_refl _,by simp⟩
  | cons ep rest ih =>
    obtain ⟨member,lower,least⟩ := ih (lessActive first ep)
    have step : (lessActive first ep = ep ∨ lessActive first ep = first) ∧
        (lessActive first ep).activeConns ≤ first.activeConns ∧ (lessActive first ep).activeConns ≤ ep.activeConns := by
      unfold lessActive
      split
      next less => exact ⟨.inl rfl,by omega,Int.le_refl _⟩
      next more => exact ⟨.inr rfl,Int.le_refl _,by omega⟩
    rw [foldl_cons]
    refine ⟨?_,by omega,forall_mem_cons.mpr ⟨by omega,least⟩⟩
    rcases member with same | later
    · rcases step.1 with taken | kept
      · exact .inr (by rw [same,taken]; exact mem_cons_self)
      · exact .inl (same.trans kept)
    · exact .inr (mem_cons_of_mem _ later)

theorem leastActive_chosen (index : Nat) (present : endpoints ≠ []) :
    ∃ ep ∈ endpoints, chosen (leastActive index endpoints) = some ep ∧
      ∀ other ∈ endpoints, ep.activeConns ≤ other.activeConns := by
  cases endpoints with
  | nil => exact absurd rfl present
  | cons first rest =>
    obtain ⟨member,lower,least⟩ := lessActive_least rest first
    refine ⟨_,?_,rfl,forall_mem_cons.mpr ⟨lower,least⟩⟩
    rcases member with same | later
    · rw [same]
      exact mem_cons_self
    · exact mem_cons_of_mem _ later

/-- The loop over the priorities: all that is collected has the least priority so far. -/
theorem mostUrgent_least (best : Int × List GatewayEndpointWrapper) (collected : ∀ ep ∈ best.2, ep.priority = best.1) :
    (rest.foldl mostUrgent best).1 ≤ best.1 ∧ (∀ ep ∈ rest, (rest.foldl mostUrgent best).1 ≤ ep.priority) ∧
      (∀ ep ∈ (rest.foldl mostUrgent best).2, ep.priority = (rest.foldl mostUrgent best).1 ∧ (ep ∈ best.2 ∨ ep ∈ rest)) ∧
      (best.2 ≠ [] → (rest.foldl mostUrgent best).2 ≠ []) := by
  induction rest generalizing best with
  | nil => exact ⟨Int.le_refl _,by simp,fun ep member => ⟨collected ep member,.inl member⟩,id⟩
  | cons ep rest ih =>
    have step : (∀ e ∈ (mostUrgent best ep).2, e.priority = (mostUrgent best ep).1) ∧
        (mostUrgent best ep).1 ≤ best.1 ∧ (mostUrgent best ep).1 ≤ ep.priority ∧
        (∀ e ∈ (mostUrgent best ep).2, e ∈ best.2 ∨ e = ep) ∧ (best.2 ≠ [] → (mostUrgent best ep).2 ≠ []) := by
      unfold mostUrgent
      split
      next less => exact ⟨by simp,by omega,Int.le_refl _,by simp,by simp⟩
      next more =>
        split
        next same =>
          refine ⟨fun e member => ?_,Int.le_refl _,by omega,fun e member => ?_,by simp⟩
          · rcases mem_append.mp member with before | now
            · exact collected e before
            · rw [mem_singleton.mp now]
              exact same
          · simpa using member
        next apart => exact ⟨collected,Int.le_refl _,by omega,fun e member => .inl member,id⟩
    obtain ⟨collected',lower,here,from_,kept⟩ := step
    obtain ⟨lower',least,all,kept'⟩ := ih (mostUrgent best ep) collected'
    rw [foldl_cons]
    refine ⟨by omega,forall_mem_cons.mpr ⟨by omega,least⟩,fun e member => ?_,fun some_ => kept' (kept some_)⟩
    obtain ⟨same,origin⟩ := all e member
    refine ⟨same,?_⟩
    rcases origin with early | later
    · rcases from_ e early with before | rfl
      · exact .inl before
      · exact .inr mem_cons_self
    · exact .inr (mem_cons_of_mem _ later)

theorem highestPriority_spec (present : endpoints ≠ []) :
    ∃ highest, highestPriority endpoints = .value highest ∧ highest ≠ [] ∧
      ∀ ep ∈ highest, ep ∈ endpoints ∧ ∀ other ∈ endpoints, ep.priority ≤ other.priority := by
  cases endpoints with
  | nil => exact absurd rfl present
  | cons first rest =>
    refine ⟨_,rfl,?_⟩
    have started : mostUrgent (first.priority,[]) first = (first.priority,[first]) := by simp [mostUrgent]
    rw [foldl_cons,started]
    obtain ⟨lower,least,all,kept⟩ := mostUrgent_least rest (first.priority,[first]) (by simp)
    refine ⟨kept (by simp),fun ep member => ?_⟩
    obtain ⟨same,origin⟩ := all ep member
    refine ⟨by simpa using origin,forall_mem_cons.mpr ⟨by simpa [same] using lower,fun other listed => ?_⟩⟩
    rw [same]
    exact least other listed

theorem selectPriority_chosen (index : Nat) (present : endpoints ≠ []) :
    ∃ ep ∈ endpoints, chosen (selectPriority index endpoints) = some ep ∧
      chosen (applyPriority index endpoints) = some ep ∧ ∀ other ∈ endpoints, ep.priority ≤ other.priority := by
  obtain ⟨highest,found,some_,urgent⟩ := highestPriority_spec present
  obtain ⟨ep,member,turn⟩ := inTurn_chosen index some_
  obtain ⟨listed,least⟩ := urgent ep member
  refine ⟨ep,listed,?_,?_,least⟩
  · simp only [selectPriority,found]
    exact turn
  · rw [applyPriority,found]
    change chosen (if 1 < highest.length then applyRoundRobin index highest else _) = some ep
    by_cases several : 1 < highest.length
    · rw [if_pos several]
      exact turn
    · have size := length_pos_iff.mpr some_
      obtain ⟨single,rfl⟩ := length_eq_one_iff.mp (show highest.length = 1 by omega)
      obtain rfl := mem_singleton.mp member
      rfl

def weightSum (endpoints : List GatewayEndpointWrapper) : Nat := (endpoints.map (·.weight.toNat)).sum

section
variable (natural : ∀ ep ∈ endpoints, 0 ≤ ep.weight)
include natural

theorem totalWeight_eq : totalWeight endpoints = int64 (weightSum endpoints) := by
  have sums : ∀ (endpoints : List GatewayEndpointWrapper) (acc : Int), (∀ ep ∈ endpoints, 0 ≤ ep.weight) →
      endpoints.foldl (fun total ep => int64 (total + ep.weight)) (int64 acc) = int64 (acc + weightSum endpoints) := by
    intro endpoints
    induction endpoints with
    | nil => simp [weightSum]
    | cons ep rest ih =>
      intro acc natural
      obtain ⟨here,later⟩ := forall_mem_cons.mp natural
      rw [foldl_cons,int64_add,ih _ later,weightSum,weightSum,map_cons,sum_cons,Int.natCast_add,
        Int.toNat_of_nonneg here,Int.add_assoc]
  have all := sums endpoints 0 natural
  rwa [Int.zero_add] at all

theorem totalWeight_natural : 0 ≤ totalWeight endpoints ↔ weightSum endpoints % 2 ^ 64 < 2 ^ 63 := by
  rw [totalWeight_eq natural,int64,Int.bmod_def]
  split <;> omega

/-- As long as no sum wraps around, the walk is the one along natural numbers. -/
theorem walkWeights_eq {target acc : Nat} (reached : acc ≤ target) (fits : acc + weightSum endpoints < 2 ^ 63) :
    walkWeights target acc endpoints = (walk (endpoints.map (·.weight.toNat)) (target - acc)).bind (endpoints[·]?) := by
  induction endpoints generalizing acc with
  | nil => rfl
  | cons ep rest ih =>
    obtain ⟨here,later⟩ := forall_mem_cons.mp natural
    have sum : weightSum (ep :: rest) = ep.weight.toNat + weightSum rest := by simp [weightSum]
    have next : int64 (acc + ep.weight) = (acc + ep.weight.toNat : Nat) := by
      rw [← int64_of_lt (show acc + ep.weight.toNat < 2 ^ 63 by omega)]
      congr 1
      omega
    rw [walkWeights,next,map_cons,walk]
    by_cases found : target < acc + ep.weight.toNat
    · rw [if_pos (by omega),if_pos (by omega)]
      rfl
    · rw [if_neg (by omega),if_neg (by omega),ih later (by omega) (by omega),Nat.sub_sub,Option.bind_map]
      rfl

end

variable {ep : GatewayEndpointWrapper}

theorem walkWeights_mem {currentWeight : Int}
    (found : walkWeights target currentWeight endpoints = some ep) : ep ∈ endpoints := by
  induction endpoints generalizing currentWeight with
  | nil => cases found
  | cons first rest ih =>
    rw [walkWeights] at found
    split at found
    · cases found
      exact mem_cons_self
    · exact mem_cons_of_mem _ (ih found)

/-- If the sum of the weights wraps around completely, the endpoint at which it turns negative is never reached. -/
theorem exists_unreached {acc : Nat} (nodup : endpoints.Nodup) (natural : ∀ ep ∈ endpoints, 0 ≤ ep.weight)
    (ints : ∀ ep ∈ endpoints, ep.weight < 2 ^ 63) (small : acc < 2 ^ 63) (wraps : 2 ^ 64 ≤ acc + weightSum endpoints) :
    ∃ ep ∈ endpoints, 0 < ep.weight ∧ endpoints.getLast? ≠ some ep ∧
      ∀ target : Nat, walkWeights target acc endpoints ≠ some ep := by
  induction endpoints generalizing acc with
  | nil =>
    simp [weightSum] at wraps
    omega
  | cons first rest ih =>
    obtain ⟨fresh,nodup'⟩ := nodup_cons.mp nodup
    obtain ⟨here,later⟩ := forall_mem_cons.mp natural
    obtain ⟨int,ints'⟩ := forall_mem_cons.mp ints
    have sum : weightSum (first :: rest) = first.weight.toNat + weightSum rest := by simp [weightSum]
    have more : rest ≠ [] := by
      rintro rfl
      simp [weightSum] at wraps
      omega
    have last : (first :: rest).getLast? = rest.getLast? := by
      obtain ⟨second,others,rfl⟩ := exists_cons_of_ne_nil more
      exact getLast?_cons_cons
    have sum' : (acc + first.weight : Int) = (acc + first.weight.toNat : Nat) := by omega
    rw [last]
    by_cases turns : acc + first.weight.toNat < 2 ^ 63
    · obtain ⟨ep,member,positive,apart,never⟩ := ih nodup' later ints' turns (by omega)
      refine ⟨ep,mem_cons_of_mem _ member,positive,apart,fun target found => ?_⟩
      rw [walkWeights,sum',int64_of_lt turns] at found
      split at found
      · cases found
        exact fresh member
      · exact never target found
    · refine ⟨first,mem_cons_self,by omega,fun same => ?_,fun target found => ?_⟩
      · exact fresh (mem_of_getLast? same)
      · rw [walkWeights,sum',int64_of_ge (by omega) (by omega),if_neg (by omega)] at found
        exact fresh (walkWeights_mem found)

theorem selectWeighted_chosen (index : Nat) (target : Int) (present : endpoints ≠ []) (natural : 0 ≤ totalWeight endpoints) :
    ∃ ep ∈ endpoints, chosen (selectWeighted index target endpoints) = some ep := by
  unfold selectWeighted
  split
  next => exact inTurn_chosen index present
  next some_ =>
    rw [atWeight,if_neg (by omega)]
    cases found : walkWeights target 0 endpoints with
    | none => exact ⟨endpoints.getLast present,getLast_mem present,by rw [getLast?_eq_some_getLast present]; rfl⟩
    | some ep => exact ⟨ep,walkWeights_mem found,rfl⟩

theorem selectWeighted_panics (negative : totalWeight endpoints < 0) : chosen (selectWeighted index target endpoints) = none := by
  rw [selectWeighted,if_neg (by omega),atWeight,if_pos (by omega)]
  rfl

/-- If the sum of the weights wraps around completely, some endpoint is drawn less often than it weighs. -/
theorem count_of_wraps (index : Nat) (nodup : endpoints.Nodup) (natural : ∀ ep ∈ endpoints, 0 ≤ ep.weight)
    (ints : ∀ ep ∈ endpoints, ep.weight < 2 ^ 63) (wraps : 2 ^ 64 ≤ weightSum endpoints) :
    ∃ ep ∈ endpoints, Nat.count (fun target => chosen (selectWeighted index target endpoints) = some ep)
      (weightSum endpoints) ≠ ep.weight.toNat := by
  rw [← Nat.zero_add (weightSum endpoints)] at wraps
  obtain ⟨ep,member,positive,apart,never⟩ := exists_unreached nodup natural ints (by omega) wraps
  have small := ints ep member
  refine ⟨ep,member,?_⟩
  by_cases zero : totalWeight endpoints = 0
  · -- then the draw plays no part: one endpoint has all of them
    simp only [selectWeighted,if_pos zero]
    by_cases turn : chosen (selectRoundRobin index endpoints) = some ep
    · rw [Nat.count_of_forall fun _ _ => turn]
      omega
    · rw [Nat.count_of_forall_not fun _ _ => turn]
      omega
  · have unreached : ∀ target < weightSum endpoints, ¬chosen (selectWeighted index target endpoints) = some ep := by
      intro target _ found
      by_cases negative : totalWeight endpoints ≤ 0
      · rw [selectWeighted_panics (by omega)] at found
        cases found
      · rw [selectWeighted,if_neg zero,atWeight,if_neg negative] at found
        have missed := never target
        rw [Nat.cast_zero] at missed
        cases walked : walkWeights target 0 endpoints with
        | none =>
          cases last : endpoints.getLast? with
          | none =>
            rw [walked,last] at found
            cases found
          | some other =>
            rw [walked,last] at found
            cases found
            exact apart last
        | some other =>
          rw [walked] at found missed
          cases found
          exact missed rfl
    rw [Nat.count_of_forall_not unreached]
    omega

/-- Each endpoint is drawn as often as it weighs. -/
theorem count_selectWeighted {index : Nat} (nodup : endpoints.Nodup) (natural : ∀ ep ∈ endpoints, 0 ≤ ep.weight)
    (positive : 0 < weightSum endpoints) (fits : weightSum endpoints < 2 ^ 63)
    (member : ep ∈ endpoints) :
    Nat.count (fun target => chosen (selectWeighted index target endpoints) = some ep) (weightSum endpoints) =
      ep.weight.toNat := by
  obtain ⟨i,inside,rfl⟩ := mem_iff_getElem.mp member
  have at_ : (endpoints.map (·.weight.toNat))[i]? = some endpoints[i].weight.toNat := by simp [inside]
  rw [← count_walk at_]
  refine count_congr fun target drawn => ?_
  have total : totalWeight endpoints = weightSum endpoints := by rw [totalWeight_eq natural,int64_of_lt fits]
  have walked := walkWeights_eq natural (Nat.zero_le target) (by rwa [Nat.zero_add])
  rw [Nat.cast_zero,Nat.sub_zero] at walked
  rw [selectWeighted,if_neg (by omega),atWeight,if_neg (by omega),walked]
  cases found : walk (endpoints.map (·.weight.toNat)) target with
  | none => exact absurd (walk_eq_none_iff.mp found) (by unfold weightSum at drawn; omega)
  | some j =>
    obtain ⟨w,weight,_⟩ := weight_of_walk found
    have inside' : j < endpoints.length := by simpa using (List.getElem?_eq_some_iff.mp weight).1
    simp only [Option.bind_some,getElem?_eq_getElem inside',Option.some_or]
    constructor
    · intro same
      have same : endpoints[j] = endpoints[i] := Option.some.inj same
      rw [(Nodup.getElem_inj_iff nodup).mp same]
    · intro same
      cases same
      rfl

/-- The two selectors choose the same endpoint, as its strategy says. -/
theorem selectors_agree (index : Nat) (target : Int) (strategy : LoadBalancingStrategy) (present : endpoints ≠ [])
    (natural : strategy = .weighted → 0 ≤ totalWeight endpoints) :
    ∃ ep ∈ endpoints, chosen (selectFrom index target endpoints strategy) = some ep ∧
      chosen (selectByStrategy index target endpoints strategy) = some ep ∧
      (strategy = .priority → ∀ other ∈ endpoints, ep.priority ≤ other.priority) ∧
      (strategy = .leastConnections → ∀ other ∈ endpoints, ep.activeConns ≤ other.activeConns) := by
  cases strategy with
  | roundRobin | other =>
    obtain ⟨ep,member,turn⟩ := inTurn_chosen index present
    exact ⟨ep,member,turn,turn,by simp,by simp⟩
  | leastConnections =>
    obtain ⟨ep,member,selected,least⟩ := leastActive_chosen index present
    exact ⟨ep,member,selected,selected,by simp,fun _ => least⟩
  | weighted =>
    obtain ⟨ep,member,selected⟩ := selectWeighted_chosen index target present (natural rfl)
    exact ⟨ep,member,selected,selected,by simp,by simp⟩
  | priority =>
    obtain ⟨ep,member,selected,applied,least⟩ := selectPriority_chosen index present
    exact ⟨ep,member,selected,applied,fun _ => least,by simp⟩

end

/-! ### What is claimed of a pool -/

/-- What the strategies promise. -/
structure Selects (p : GatewayPool) : Prop where
  agree : p.collectHealthyEndpoints ≠ [] → ∀ target : Nat, ∃ ep ∈ p.collectHealthyEndpoints,
    chosen (p.selectEndpoint target) = some ep ∧ chosen (p.selectEndpointForRetry target) = some ep ∧
    (p.strategy = .priority → ∀ other ∈ p.collectHealthyEndpoints, ep.priority ≤ other.priority) ∧
    (p.strategy = .leastConnections → ∀ other ∈ p.collectHealthyEndpoints, ep.activeConns ≤ other.activeConns)
  shares : p.strategy = .weighted → 0 < weightSum p.collectHealthyEndpoints → ∀ ep ∈ p.collectHealthyEndpoints,
    Nat.count (fun target => chosen (p.selectEndpoint target) = some ep) (weightSum p.collectHealthyEndpoints) =
      ep.weight.toNat
  retry : p.endpoints ≠ [] → ∀ target : Nat, ∃ ep ∈ p.endpoints, chosen (p.selectEndpointForRetry target) = some ep

/-- The weights of the healthy endpoints fit an `int`, or, if none is healthy, those of all do not wrap around. -/
def Fits (p : GatewayPool) : Prop :=
  p.strategy = .weighted →
    if p.collectHealthyEndpoints = [] then weightSum p.endpoints % 2 ^ 64 < 2 ^ 63 else weightSum p.collectHealthyEndpoints < 2 ^ 63

section
variable {p : GatewayPool}

section
variable (healthy : p.collectHealthyEndpoints ≠ [])
include healthy

theorem selectEndpoint_eq (target : Int) :
    p.selectEndpoint target = selectFrom p.roundRobinIndex target p.collectHealthyEndpoints p.strategy := if_neg healthy

theorem selectEndpointForRetry_eq (target : Int) :
    p.selectEndpointForRetry target = selectByStrategy p.roundRobinIndex target p.collectHealthyEndpoints p.strategy := by
  have present : p.endpoints ≠ [] := fun none => by simp [GatewayPool.collectHealthyEndpoints,none] at healthy
  rw [GatewayPool.selectEndpointForRetry,if_neg present,if_neg healthy]

end

theorem nodup_healthy (p : GatewayPool) : p.collectHealthyEndpoints.Nodup := (Nodup.of_map _ p.distinct).filter _

section
variable (natural : ∀ ep ∈ p.endpoints, 0 ≤ ep.weight)
include natural

theorem healthy_natural : ∀ ep ∈ p.collectHealthyEndpoints, 0 ≤ ep.weight :=
  fun ep member => natural ep (mem_of_mem_filter member)

theorem selects_of_fits (fits : Fits p) : Selects p := by
  have healthy_total : p.collectHealthyEndpoints ≠ [] → p.strategy = .weighted → 0 ≤ totalWeight p.collectHealthyEndpoints := by
    intro healthy weighted
    have small := fits weighted
    rw [if_neg healthy] at small
    rw [totalWeight_eq (healthy_natural natural),int64_of_lt small]
    omega
  refine ⟨fun healthy target => ?_,fun weighted positive ep member => ?_,fun present target => ?_⟩
  · rw [selectEndpoint_eq healthy,selectEndpointForRetry_eq healthy]
    exact selectors_agree _ _ _ healthy (healthy_total healthy)
  · have healthy : p.collectHealthyEndpoints ≠ [] := ne_nil_of_mem member
    have small := fits weighted
    rw [if_neg healthy] at small
    simp only [selectEndpoint_eq healthy,weighted]
    exact count_selectWeighted (nodup_healthy p) (healthy_natural natural) positive small member
  · by_cases healthy : p.collectHealthyEndpoints = []
    · rw [GatewayPool.selectEndpointForRetry,if_neg present,if_pos healthy]
      obtain ⟨ep,member,_,applied,_⟩ := selectors_agree p.roundRobinIndex target p.strategy present fun weighted => by
        have total := fits weighted
        rwa [if_pos healthy,← totalWeight_natural natural] at total
      exact ⟨ep,member,applied⟩
    · rw [selectEndpointForRetry_eq healthy]
      obtain ⟨ep,member,_,applied,_⟩ := selectors_agree p.roundRobinIndex target p.strategy healthy (healthy_total healthy)
      exact ⟨ep,mem_of_mem_filter member,applied⟩

theorem fits_of_selects (selects : Selects p) : Fits p := by
  intro weighted
  split
  next none =>
    rw [← totalWeight_natural natural]
    by_contra negative
    have present : p.endpoints ≠ [] := by
      intro empty
      rw [empty] at negative
      exact negative (Int.le_refl 0)
    obtain ⟨ep,_,found⟩ := selects.retry present 0
    rw [GatewayPool.selectEndpointForRetry,if_neg present,if_pos none,weighted] at found
    have panics : chosen (selectWeighted p.roundRobinIndex (0 : Nat) p.endpoints) = Option.none :=
      selectWeighted_panics (by omega)
    cases panics.symm.trans found
  next healthy =>
    by_contra large
    by_cases wraps : weightSum p.collectHealthyEndpoints < 2 ^ 64
    · have negative : totalWeight p.collectHealthyEndpoints < 0 := by
        rw [totalWeight_eq (healthy_natural natural),int64_of_ge (by omega) wraps]
        omega
      obtain ⟨ep,_,found,_⟩ := selects.agree healthy 0
      rw [selectEndpoint_eq healthy,weighted] at found
      cases (selectWeighted_panics negative).symm.trans found
    · have ints : ∀ ep ∈ p.collectHealthyEndpoints, ep.weight < 2 ^ 63 := fun ep member =>
        p.ints ep (mem_of_mem_filter member)
      obtain ⟨ep,member,differs⟩ :=
        count_of_wraps p.roundRobinIndex (nodup_healthy p) (healthy_natural natural) ints (by omega)
      have share := selects.shares weighted (by omega) ep member
      simp only [selectEndpoint_eq healthy,weighted] at share
      exact differs share

end

end

/-- The selectors of a pool do what is claimed of them exactly if the weights fit. -/
theorem pool_selects_iff (p : GatewayPool) (natural : ∀ ep ∈ p.endpoints, 0 ≤ ep.weight) : Selects p ↔ Fits p :=
  ⟨fits_of_selects natural,selects_of_fits natural⟩

theorem pool_selects_iff_three :
    Selects { endpoints := [{ ref := 0,weight := 2 },{ ref := 1,weight := 1 },{ ref := 2,health := { isHealthy := false } }],
              strategy := .weighted,distinct := by decide,ints := by decide } :=
  (pool_selects_iff _ (by decide)).mpr fun _ => by decide

def heavy : GatewayPool where
  endpoints := [{ ref := 0,weight := 2 ^ 62 },{ ref := 1,weight := 2 ^ 62 }]
  strategy := .weighted
  distinct := by decide
  ints := by decide

theorem heavy_panics : chosen (heavy.selectEndpoint 0) = none ∧ ¬Selects heavy := by
  have panics : chosen (heavy.selectEndpoint 0) = none := by decide
  refine ⟨panics,fun selects => ?_⟩
  obtain ⟨ep,_,found,_⟩ := selects.agree (by decide) 0
  cases panics.symm.trans found

end McpBridge.GatewayPools
