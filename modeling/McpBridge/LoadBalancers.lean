import Mathlib.Algebra.Ring.Int.Defs
import Mathlib.Algebra.Ring.Nat
import Mathlib.Tactic.Common

/-!
The load balancers that a router keeps for each namespace (`loadbalancer/loadbalancer.go`). Each selects a healthy
endpoint of its list, which it does not change.
-/
namespace McpBridge.LoadBalancers
open List

/-- `discovery.Endpoint`, with the fields that routing reads. -/
structure Endpoint where
  ns : String
  address : String
  port : Int
  scheme : String
  path : String := ""
  weight : Int := 0
  healthy : Bool := true
  deriving DecidableEq, Repr

/-- `uint64` counters wrap around. -/
def increment (counter : Nat) : Nat := (counter + 1) % 2 ^ 64

structure RoundRobin where
  endpoints : List Endpoint
  current : Nat := 0

/-- The endpoint at the `i`-th position that the loop of `Next` looks at. -/
def RoundRobin.candidate (rr : RoundRobin) (start i : Nat) : Option Endpoint :=
  rr.endpoints[(start + i) % 2 ^ 64 % rr.endpoints.length]?

def RoundRobin.next (rr : RoundRobin) : Option Endpoint × RoundRobin :=
  if rr.endpoints = [] then (none,rr)
  else
    let start := increment rr.current
    ((range rr.endpoints.length).findSome? fun i => (rr.candidate start i).filter (·.healthy),
      { rr with current := start })

structure LeastConnections where
  endpoints : List Endpoint
  connections : String → Int := fun _ => 0

def maxInt64 : Int := 2 ^ 63 - 1

/-- One round of the loop of `Next`: the endpoint and the least number of connections so far. -/
def LeastConnections.consider (lc : LeastConnections) (best : Option Endpoint × Int) (ep : Endpoint) :
    Option Endpoint × Int :=
  if ep.healthy ∧ lc.connections ep.address < best.2 then (some ep,lc.connections ep.address) else best

def LeastConnections.next (lc : LeastConnections) : Option Endpoint × LeastConnections :=
  match (lc.endpoints.foldl lc.consider (none,maxInt64)).1 with
  | none => (none,lc)
  | some ep =>
    (some ep,{ lc with connections := Function.update lc.connections ep.address (lc.connections ep.address + 1) })

/-- A value or a sum of Go's `int`. -/
def int64 (x : Int) : Int := x.bmod (2 ^ 64)

structure Weighted where
  endpoints : List Endpoint
  current : Nat := 0

/-- The weight that `Next` gives an endpoint: 1 unless the configured one is positive. -/
def weightOf (ep : Endpoint) : Nat := if int64 ep.weight ≤ 0 then 1 else (int64 ep.weight).toNat

/-- The loop of `Weighted.Next`, with the index of the endpoint that it looks at. -/
def pickPosition (position : Int) : Int → Nat → List Endpoint → Option Nat
  | _,_,[] => none
  | currentWeight,i,ep :: rest =>
    if ep.healthy then
      if position < int64 (currentWeight + weightOf ep) then some i
      else pickPosition position (int64 (currentWeight + weightOf ep)) (i + 1) rest
    else pickPosition position currentWeight (i + 1) rest

namespace Weighted

/-- `calculateWeights`, with the sums of Go. -/
def total (w : Weighted) : Int := w.endpoints.foldl (fun total ep => int64 (total + weightOf ep)) 0

/-- `uint64(w.totalWeight)`, which `Next` divides the counter by. -/
def period (w : Weighted) : Nat := (w.total % 2 ^ 64).toNat

/-- `Next`: the index of the endpoint that it returns. -/
def select (w : Weighted) : Option Nat × Weighted :=
  if w.endpoints = [] ∨ w.total = 0 then (none,w)
  else
    let counter := increment w.current
    ((pickPosition (int64 (counter % w.period : Nat)) 0 0 w.endpoints).or (w.endpoints.findIdx? (·.healthy)),
      { w with current := counter })

end Weighted

inductive LoadBalancer where
  | roundRobin (rr : RoundRobin)
  | leastConnections (lc : LeastConnections)
  | weighted (w : Weighted)

namespace LoadBalancer

def endpoints : LoadBalancer → List Endpoint
  | .roundRobin rr => rr.endpoints
  | .leastConnections lc => lc.endpoints
  | .weighted w => w.endpoints

/-- The switch over the configured strategy in `getLoadBalancer`. -/
def create (strategy : String) (endpoints : List Endpoint) : LoadBalancer :=
  match strategy with
  | "least_connections" => .leastConnections { endpoints }
  | "weighted" => .weighted { endpoints }
  | _ => .roundRobin { endpoints }

def next : LoadBalancer → Option Endpoint × LoadBalancer
  | .roundRobin rr => (rr.next.1,.roundRobin rr.next.2)
  | .leastConnections lc => (lc.next.1,.leastConnections lc.next.2)
  | .weighted w => (w.select.1.bind (w.endpoints[·]?),.weighted w.select.2)

end LoadBalancer

theorem int64_of_lt {x : Nat} (small : x < 2 ^ 63) : int64 x = x := by
  rw [int64,Int.bmod_def]
  split <;> omega

theorem weightOf_pos (ep : Endpoint) : 0 < weightOf ep := by
  unfold weightOf
  split <;> omega

theorem weightOf_lt (ep : Endpoint) : weightOf ep < 2 ^ 63 := by
  have bounded : int64 ep.weight < 2 ^ 63 := Int.bmod_lt (by decide)
  unfold weightOf
  split <;> omega

theorem create_endpoints (strategy : String) (endpoints : List Endpoint) :
    (LoadBalancer.create strategy endpoints).endpoints = endpoints := by
  unfold LoadBalancer.create
  split <;> rfl

theorem next_endpoints (lb : LoadBalancer) : lb.next.2.endpoints = lb.endpoints := by
  cases lb with
  | roundRobin rr =>
    simp only [LoadBalancer.next,RoundRobin.next,LoadBalancer.endpoints]
    split <;> rfl
  | leastConnections lc =>
    simp only [LoadBalancer.next,LeastConnections.next,LoadBalancer.endpoints]
    split <;> rfl
  | weighted w =>
    simp only [LoadBalancer.next,Weighted.select,LoadBalancer.endpoints]
    split <;> rfl

variable {ep : Endpoint} {lc : LeastConnections}

theorem roundRobin_next_healthy {rr : RoundRobin} (selected : rr.next.1 = some ep) :
    ep ∈ rr.endpoints ∧ ep.healthy = true := by
  unfold RoundRobin.next at selected
  split at selected
  · cases selected
  · obtain ⟨i,_,found⟩ := exists_of_findSome?_eq_some selected
    obtain ⟨listed,healthy⟩ := Option.filter_eq_some_iff.mp found
    exact ⟨mem_of_getElem? listed,healthy⟩

theorem consider_healthy (endpoints : List Endpoint)
    (best : Option Endpoint × Int) (selected : (endpoints.foldl lc.consider best).1 = some ep) :
    best.1 = some ep ∨ (ep ∈ endpoints ∧ ep.healthy = true) := by
  induction endpoints generalizing best with
  | nil => exact .inl selected
  | cons first rest ih =>
    rcases ih (lc.consider best first) selected with here | ⟨later,healthy⟩
    · unfold LeastConnections.consider at here
      split at here
      · next eligible =>
        cases here
        exact .inr ⟨mem_cons_self ..,eligible.1⟩
      · exact .inl here
    · exact .inr ⟨mem_cons_of_mem _ later,healthy⟩

theorem leastConnections_next_healthy (selected : lc.next.1 = some ep) :
    ep ∈ lc.endpoints ∧ ep.healthy = true := by
  unfold LeastConnections.next at selected
  split at selected <;> cases selected
  next other found => exact (consider_healthy lc.endpoints _ found).resolve_left (by simp)

theorem pickPosition_healthy {position : Int} {j : Nat} (endpoints : List Endpoint) (currentWeight : Int) (i : Nat)
    (picked : pickPosition position currentWeight i endpoints = some j) :
    ∃ k ep, j = i + k ∧ endpoints[k]? = some ep ∧ ep.healthy = true := by
  induction endpoints generalizing currentWeight i with
  | nil => cases picked
  | cons first rest ih =>
    have later : ∀ weight, pickPosition position weight (i + 1) rest = some j →
        ∃ k ep, j = i + k ∧ (first :: rest)[k]? = some ep ∧ ep.healthy = true := by
      intro weight found
      obtain ⟨k,ep,rfl,listed,healthy⟩ := ih weight (i + 1) found
      exact ⟨k + 1,ep,by omega,listed,healthy⟩
    unfold pickPosition at picked
    split at picked
    next healthy =>
      split at picked
      · cases picked
        exact ⟨0,first,rfl,rfl,healthy⟩
      · exact later _ picked
    next => exact later _ picked

theorem weighted_select_healthy {w : Weighted} {i : Nat} (selected : w.select.1 = some i) :
    ∃ ep, w.endpoints[i]? = some ep ∧ ep.healthy = true := by
  unfold Weighted.select at selected
  split at selected
  · cases selected
  · rcases Option.or_eq_some_iff.mp selected with picked | ⟨_,first⟩
    · obtain ⟨k,ep,rfl,listed,healthy⟩ := pickPosition_healthy w.endpoints 0 0 picked
      exact ⟨ep,by rwa [Nat.zero_add],healthy⟩
    · obtain ⟨inside,healthy,_⟩ := findIdx?_eq_some_iff_getElem.mp first
      exact ⟨w.endpoints[i],getElem?_eq_getElem inside,healthy⟩

theorem next_healthy {lb : LoadBalancer} (selected : lb.next.1 = some ep) : ep ∈ lb.endpoints ∧ ep.healthy = true := by
  cases lb with
  | roundRobin rr => exact roundRobin_next_healthy selected
  | leastConnections lc => exact leastConnections_next_healthy selected
  | weighted w =>
    obtain ⟨i,chosen,listed⟩ := Option.bind_eq_some_iff.mp selected
    obtain ⟨other,here,healthy⟩ := weighted_select_healthy chosen
    cases listed.symm.trans here
    exact ⟨mem_of_getElem? listed,healthy⟩

end McpBridge.LoadBalancers
