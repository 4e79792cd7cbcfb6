import McpBridge.GatewayHealth
import McpBridge.Runs

/-!
The pool client of the router (`gateway/pool_client.go`) and the active connections that it counts for every endpoint.
Calls come one after the other; what the endpoints' clients and the random numbers do is part of the operations.
-/
namespace McpBridge.PoolClients
open Runs GatewayPools Function
open LoadBalancers (int64)

/-- An open connection: its unanswered requests, and the responses that nobody has received. -/
structure Connection where
  asked : List Nat := []
  answered : List Nat := []

/-- `PoolClient`. Endpoints are known by their references; one that reports to be connected has a connection. -/
structure PoolClient where
  pool : GatewayPool
  tags : Nat → List String
  health : Nat → EndpointHealth := fun _ => { isHealthy := true }
  activeConns : Nat → Int := fun _ => 0
  connection : Nat → Option Connection := fun _ => none
  currentEndpoint : Option Nat := none

/-- How `Client.Connect` ends; after a failure of the handshake it may report to be connected. -/
inductive Dial
  | ok
  | failed (connected : Bool)

structure Attempt where
  draw : Int
  dial : Dial

namespace PoolClient
variable (pc : PoolClient) (e : Nat)

def isConnected : Bool := (pc.connection e).isSome

def updateHealth (ok : Bool) : PoolClient :=
  { pc with health := update pc.health e (GatewayHealth.updateHealth (pc.health e) ok) }

/-- `IncrementConnections` and `DecrementConnections`. -/
def addConnections (change : Int) : PoolClient :=
  { pc with activeConns := update pc.activeConns e (int64 (pc.activeConns e + change)) }

def setConnection (connection : Option Connection) : PoolClient :=
  { pc with connection := update pc.connection e connection }

def hasAllTags (endpointTags required : List String) : Bool := required.all endpointTags.contains

def getEndpointByTags (required : List String) : List Nat :=
  (pc.pool.endpoints.filter fun g => (pc.health g.ref).isHealthy && hasAllTags (pc.tags g.ref) required).map (·.ref)

/-- The pool as the selectors see it. -/
def selectable : GatewayPool :=
  { pc.pool with
    endpoints := pc.pool.endpoints.map fun g => { g with health := pc.health g.ref, activeConns := pc.activeConns g.ref }
    distinct := by simpa [comp_def] using pc.pool.distinct
    ints := by simpa using pc.pool.ints }

def settle : PoolClient := ({ pc with currentEndpoint := some e }.addConnections e 1).updateHealth e true

def connectTo : Dial → PoolClient × Bool
  | .ok => ((pc.setConnection e (some {})).settle e,true)
  | .failed connected => ((pc.setConnection e (if connected then some {} else none)).updateHealth e false,false)

def leave : PoolClient :=
  match pc.currentEndpoint with
  | some c => if c ≠ e ∧ pc.isConnected c then (pc.setConnection c none).addConnections c (-1) else pc
  | none => pc

def selectEndpointByTags (required : List String) (dial : Dial) : PoolClient × Bool :=
  match (pc.getEndpointByTags required).head? with
  | none => (pc,false)
  | some e => if (pc.leave e).isConnected e then ((pc.leave e).settle e,true) else (pc.leave e).connectTo e dial

/-- The attempt with a selected endpoint, if there is one; a selection may panic. -/
def connectSelected (selection : Selection) (dial : Dial) : Option (PoolClient × Option Bool) :=
  match selection with
  | .value (g,index) =>
    let after := ({ pc with pool := { pc.pool with roundRobinIndex := index } } : PoolClient).connectTo g.ref dial
    some (after.1,some after.2)
  | .error _ => some (pc,none)
  | .panic => none

def connectWithRetry (attempts : Nat → Attempt) : Nat → Nat → PoolClient → Option (PoolClient × Bool)
  | 0,_,pc => some (pc,false)
  | left + 1,k,pc =>
    match pc.connectSelected (pc.selectable.selectEndpointForRetry (attempts k).draw) (attempts k).dial with
    | none => none
    | some (after,some true) => some (after,true)
    | some (after,_) => connectWithRetry attempts left (k + 1) after

def connect (retryCount : Int) (attempts : Nat → Attempt) : Option (PoolClient × Bool) :=
  let selection := match pc.selectable.selectEndpoint (attempts 0).draw with
    | .error _ => pc.selectable.selectEndpointForRetry (attempts 0).draw
    | found => found
  match pc.connectSelected selection (attempts 0).dial with
  | none => none
  | some (after,none) => some (after,false)
  | some (after,some true) => some (after,true)
  | some (after,some false) => connectWithRetry attempts (if retryCount ≤ 0 then 3 else retryCount.toNat) 1 after

/-- The current endpoint is closed, as in `Close` and `ForceReconnect`. -/
def abandon : PoolClient :=
  match pc.currentEndpoint with
  | some c => { (pc.setConnection c none).addConnections c (-1) with currentEndpoint := none }
  | none => pc

def forceReconnect (retryCount : Int) (attempts : Nat → Attempt) : Option (PoolClient × Bool) :=
  match pc.currentEndpoint with
  | some c => (pc.abandon.updateHealth c false).connect retryCount attempts
  | none => pc.connect retryCount attempts

def close : PoolClient := { pc.abandon with connection := fun _ => none }

def handleNamespaceRouting (required : Option (List String)) (dial : Dial) : PoolClient :=
  match required with
  | some tags => (pc.selectEndpointByTags tags dial).1
  | none => pc

def sendRequest (required : Option (List String)) (dial : Dial) (sent : Bool) : PoolClient :=
  let routed := pc.handleNamespaceRouting required dial
  match routed.currentEndpoint with
  | some c => if sent then routed else routed.updateHealth c false
  | none => routed

end PoolClient

/-- The operations of the pool client. -/
inductive Op
  | connect (attempts : Nat → Attempt)
  | sendRequest (required : Option (List String)) (dial : Dial) (sent : Bool)
  | selectEndpointByTags (required : List String) (dial : Dial)
  | forceReconnect (attempts : Nat → Attempt)
  | close
  | report (e : Nat) (ok : Bool)
  | status (e : Nat) (connection : Option Connection)

def step (retryCount : Int) (pc : PoolClient) : Op → Option PoolClient
  | .connect attempts => (pc.connect retryCount attempts).map Prod.fst
  | .sendRequest required dial sent => some (pc.sendRequest required dial sent)
  | .selectEndpointByTags required dial => some (pc.selectEndpointByTags required dial).1
  | .forceReconnect attempts => (pc.forceReconnect retryCount attempts).map Prod.fst
  | .close => some pc.close
  | .report e ok => some (pc.updateHealth e ok)
  | .status e connection => some (pc.setConnection e connection)

/-- The current endpoint, if connected, has one active connection, and no other has any. -/
def Counted (pc : PoolClient) : Prop :=
  ∀ e, pc.activeConns e = if pc.currentEndpoint = some e ∧ pc.isConnected e then 1 else 0

def Idle (pc : PoolClient) : Prop := ∀ c, pc.currentEndpoint = some c → pc.isConnected c = false

/-- Every failed `Connect` leaves its client disconnected. -/
def Clean (attempts : Nat → Attempt) : Prop := ∀ k, (attempts k).dial ≠ .failed true

/-- The tags do not select the endpoint that is current and connected. -/
def Elsewhere (pc : PoolClient) (required : List String) : Prop :=
  ∀ e, (pc.getEndpointByTags required).head? = some e → pc.currentEndpoint = some e → pc.isConnected e = false

/-- Nothing connects or selects what is connected already, and nothing closes what is not. -/
def Fits (pc : PoolClient) : Op → Prop
  | .connect attempts => Idle pc ∧ Clean attempts
  | .sendRequest required dial _ => dial ≠ .failed true ∧ ∀ tags, required = some tags → Elsewhere pc tags
  | .selectEndpointByTags required dial => dial ≠ .failed true ∧ Elsewhere pc required
  | .forceReconnect attempts => (∀ c, pc.currentEndpoint = some c → pc.isConnected c) ∧ Clean attempts
  | .close => ∀ c, pc.currentEndpoint = some c → pc.isConnected c
  | .report _ _ => True
  | .status e _ => pc.currentEndpoint ≠ some e

section
variable {pc : PoolClient} {e : Nat}

theorem Counted.eq_zero (counted : Counted pc) (idle : Idle pc) (x : Nat) : pc.activeConns x = 0 := by
  rw [counted x,if_neg]
  rintro ⟨current,connected⟩
  simp [idle x current] at connected

theorem counted_of_zero (zero : ∀ x, pc.activeConns x = 0) (idle : Idle pc) : Counted pc := by
  intro x
  rw [zero x,if_neg]
  rintro ⟨current,connected⟩
  simp [idle x current] at connected

theorem counted_settle (zero : ∀ x, pc.activeConns x = 0) (connected : pc.isConnected e = true) :
    Counted (pc.settle e) := by
  intro x
  simp only [PoolClient.settle,PoolClient.updateHealth,PoolClient.addConnections,PoolClient.isConnected] at connected ⊢
  by_cases same : x = e
  · subst same
    simp [zero,connected]
    decide
  · simp [update_of_ne same,zero,Ne.symm same]

section
variable (counted : Counted pc)
include counted

/-- Closing the current endpoint takes its one connection away. -/
theorem Counted.close_current {c : Nat} (current : pc.currentEndpoint = some c)
    (connected : pc.isConnected c = true) (x : Nat) : ((pc.setConnection c none).addConnections c (-1)).activeConns x = 0 := by
  simp only [PoolClient.addConnections,PoolClient.setConnection]
  by_cases same : x = c
  · subst same
    rw [update_self,counted x,if_pos ⟨current,connected⟩]
    decide
  · rw [update_of_ne same,counted x,if_neg]
    rintro ⟨other,_⟩
    exact same (Option.some.inj (other.symm.trans current))

variable {dial : Dial}

theorem Counted.connectTo (idle : Idle pc) (clean : dial ≠ .failed true) :
    Counted (pc.connectTo e dial).1 ∧ ((pc.connectTo e dial).2 = false → Idle (pc.connectTo e dial).1) := by
  have zero := counted.eq_zero idle
  cases dial with
  | ok => exact ⟨counted_settle zero (by simp [PoolClient.isConnected,PoolClient.setConnection]),nofun⟩
  | failed connected =>
    cases connected with
    | true => exact absurd rfl clean
    | false =>
      have still : Idle (pc.connectTo e (.failed false)).1 := by
        intro c current
        have before : (pc.connection c).isSome = false := idle c current
        simp only [PoolClient.connectTo,PoolClient.updateHealth,PoolClient.setConnection,PoolClient.isConnected]
        by_cases same : c = e
        · simp [same]
        · simpa [update_of_ne same] using before
      exact ⟨counted_of_zero zero still,fun _ => still⟩

theorem Counted.leave (elsewhere : pc.currentEndpoint = some e → pc.isConnected e = false) :
    Counted (pc.leave e) ∧ Idle (pc.leave e) := by
  unfold PoolClient.leave
  split
  · next c current =>
    split
    · next other =>
      have idle : Idle ((pc.setConnection c none).addConnections c (-1)) := by
        intro d now
        have same : d = c := Option.some.inj (now.symm.trans current)
        simp [same,PoolClient.isConnected,PoolClient.setConnection,PoolClient.addConnections]
      exact ⟨counted_of_zero (counted.close_current current other.2) idle,idle⟩
    · next stays =>
      refine ⟨counted,fun d now => ?_⟩
      have same : d = c := Option.some.inj (now.symm.trans current)
      subst same
      by_cases selected : d = e
      · subst selected
        exact elsewhere current
      · simpa [selected] using stays
  · next absent => exact ⟨counted,fun c current => by simp [absent] at current⟩

theorem Counted.selectEndpointByTags {required : List String} (elsewhere : Elsewhere pc required)
    (clean : dial ≠ .failed true) : Counted (pc.selectEndpointByTags required dial).1 := by
  unfold PoolClient.selectEndpointByTags
  split
  · exact counted
  · next e found =>
    obtain ⟨left_,idle⟩ := counted.leave (elsewhere e found)
    split
    · next connected => exact counted_settle (left_.eq_zero idle) connected
    · exact (left_.connectTo idle clean).1

variable {after : PoolClient}

theorem Counted.connectSelected {selection : Selection} {result : Option Bool} (idle : Idle pc)
    (clean : dial ≠ .failed true) (done : pc.connectSelected selection dial = some (after,result)) :
    Counted after ∧ (result ≠ some true → Idle after) := by
  cases selection <;> cases done
  case value found =>
    have turned : Counted { pc with pool := { pc.pool with roundRobinIndex := found.2 } } := counted
    obtain ⟨counted',idle'⟩ := turned.connectTo idle clean
    exact ⟨counted',fun failed => idle' (by simpa using failed)⟩
  case error => exact ⟨counted,fun _ => idle⟩

variable {attempts : Nat → Attempt} {retryCount : Int} {result : Bool}

theorem Counted.connectWithRetry {left_ k : Nat} (idle : Idle pc) (clean : Clean attempts)
    (done : pc.connectWithRetry attempts left_ k = some (after,result)) : Counted after := by
  fun_induction PoolClient.connectWithRetry attempts left_ k pc with
  | case1 =>
    cases done
    exact counted
  | case2 => cases done
  | case3 _ _ _ _ tried =>
    cases done
    exact (counted.connectSelected idle (clean _) tried).1
  | case4 _ _ _ _ _ failed tried ih =>
    obtain ⟨counted',idle'⟩ := counted.connectSelected idle (clean _) tried
    exact ih counted' (idle' failed) done

theorem Counted.connect (idle : Idle pc) (clean : Clean attempts)
    (done : pc.connect retryCount attempts = some (after,result)) : Counted after := by
  revert done
  fun_cases PoolClient.connect pc retryCount attempts <;> intro done
  case case4 tried =>
    obtain ⟨counted',idle'⟩ := counted.connectSelected idle (clean 0) tried
    exact counted'.connectWithRetry (idle' nofun) clean done
  all_goals cases done
  all_goals exact (counted.connectSelected idle (clean 0) ‹_›).1

theorem Counted.abandon (connected : ∀ c, pc.currentEndpoint = some c → pc.isConnected c) :
    Counted pc.abandon ∧ pc.abandon.currentEndpoint = none := by
  unfold PoolClient.abandon
  split
  · next c current => exact ⟨counted_of_zero (counted.close_current current (connected c current)) nofun,rfl⟩
  · next absent => exact ⟨counted,absent⟩

theorem Counted.forceReconnect
    (connected : ∀ c, pc.currentEndpoint = some c → pc.isConnected c) (clean : Clean attempts)
    (done : pc.forceReconnect retryCount attempts = some (after,result)) : Counted after := by
  unfold PoolClient.forceReconnect at done
  split at done
  · next c current =>
    obtain ⟨counted',gone⟩ := counted.abandon connected
    have reported : Counted (pc.abandon.updateHealth c false) := counted'
    exact reported.connect (fun d now => nomatch gone.symm.trans now) clean done
  · next absent => exact counted.connect (fun d now => nomatch absent.symm.trans now) clean done

theorem Counted.sendRequest {required : Option (List String)} {sent : Bool}
    (elsewhere : ∀ tags, required = some tags → Elsewhere pc tags) (clean : dial ≠ .failed true) :
    Counted (pc.sendRequest required dial sent) := by
  have routed : Counted (pc.handleNamespaceRouting required dial) := by
    cases required with
    | none => exact counted
    | some tags => exact counted.selectEndpointByTags (elsewhere tags rfl) clean
  unfold PoolClient.sendRequest
  simp only
  split
  · cases sent <;> exact routed
  · exact routed

theorem Counted.step {op : Op} {next : PoolClient} (fits : Fits pc op)
    (taken : step retryCount pc op = some next) : Counted next := by
  cases op with
  | connect attempts =>
    obtain ⟨⟨after,result⟩,done,rfl⟩ := Option.map_eq_some_iff.mp taken
    exact counted.connect fits.1 fits.2 done
  | sendRequest required dial sent =>
    cases taken
    exact counted.sendRequest fits.2 fits.1
  | selectEndpointByTags required dial =>
    cases taken
    exact counted.selectEndpointByTags fits.2 fits.1
  | forceReconnect attempts =>
    obtain ⟨⟨after,result⟩,done,rfl⟩ := Option.map_eq_some_iff.mp taken
    exact counted.forceReconnect fits.1 fits.2 done
  | close =>
    cases taken
    obtain ⟨counted',gone⟩ := counted.abandon fits
    exact counted_of_zero (counted'.eq_zero fun c now => nomatch gone.symm.trans now) (fun _ _ => rfl)
  | report e ok =>
    cases taken
    exact counted
  | status e connection =>
    cases taken
    intro x
    by_cases same : x = e
    · have other : pc.currentEndpoint ≠ some x := same ▸ fits
      have zero : pc.activeConns x = 0 := (counted x).trans (if_neg fun both => other both.1)
      exact zero.trans (if_neg fun both => other both.1).symm
    · have stays : (pc.setConnection e connection).isConnected x = pc.isConnected x := by
        simp [PoolClient.isConnected,PoolClient.setConnection,update_of_ne same]
      rw [stays]
      exact counted x

end

end

/-- If a new pool client connects or selects nothing that is connected already and closes nothing that is not, the
    counts of active connections are right. -/
theorem active_connections_counted (pool : GatewayPool) (tags : Nat → List String) (retryCount : Int) (ops : List Op)
    (meets : Meets (step retryCount) Fits { pool, tags } ops) : Always (step retryCount) Counted { pool, tags } ops := by
  have initial : Counted { pool, tags } := counted_of_zero (fun _ => rfl) nofun
  exact always_of_keeps (fun _ _ _ counted fits taken => counted.step fits taken) initial meets

/-! Two endpoints that take turns, the second one with a tag. -/

def two : GatewayPool where
  endpoints := [{ ref := 0 },{ ref := 1 }]
  strategy := .roundRobin
  distinct := by decide
  ints := by decide

def tagged (e : Nat) : List String := if e = 1 then ["k8s"] else []

theorem active_connections_counted_switch :
    Always (step 3) Counted { pool := two, tags := tagged } [.connect fun _ => ⟨0,.ok⟩,.selectEndpointByTags ["k8s"] .ok,.close] := by
  refine active_connections_counted _ _ _ _ ⟨⟨nofun,nofun⟩,?_⟩
  rintro _ ⟨⟩
  refine ⟨⟨nofun,?_⟩,?_⟩
  · rintro e ⟨⟩ current
    cases current
  rintro _ ⟨⟩
  refine ⟨?_,?_⟩
  · rintro c ⟨⟩
    rfl
  · rintro _ ⟨⟩
    trivial

/-- A second request with the tag of the current, connected endpoint counts its connection again. -/
theorem counted_twice : ∃ pc, run (step 3) { pool := two, tags := tagged }
      [.connect fun _ => ⟨0,.ok⟩,.sendRequest (some ["k8s"]) .ok true,.sendRequest (some ["k8s"]) .ok true] = some pc ∧
    pc.currentEndpoint = some 1 ∧ pc.activeConns 1 = 2 ∧ ¬ Counted pc := by
  refine ⟨_,rfl,rfl,by decide,fun counted => ?_⟩
  exact absurd (counted 1) (by decide)

end McpBridge.PoolClients
