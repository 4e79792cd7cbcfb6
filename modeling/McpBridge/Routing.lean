import McpBridge.Frontends
import McpBridge.LoadBalancers

/-!
`Router.RouteRequest`: the target namespace of a request, the endpoint that its load balancer selects, and the circuit
breaker of the endpoint's address. `canAccessNamespace` is not asked on the way to a backend.
-/
namespace McpBridge.Routing
open Values Auth Sessions Frontends LoadBalancers

inductive BreakerState where
  | closed
  | opened
  | halfOpen
  deriving DecidableEq

/-- `circuit.CircuitBreaker`, without the time of the last change, which nothing reads. -/
structure Breaker where
  maxFailures : Int
  successThreshold : Int
  timeout : Int
  state : BreakerState := .closed
  failures : Int := 0
  successes : Int := 0
  lastFailureTime : Option Int := none

namespace Breaker

def recordFailure (b : Breaker) (now : Int) : Breaker :=
  let b := { b with failures := b.failures + 1, lastFailureTime := some now }
  match b.state with
  | .closed => if b.maxFailures ≤ b.failures then { b with state := .opened, failures := 0 } else b
  | .halfOpen => { b with state := .opened, failures := 0 }
  | .opened => b

def recordSuccess (b : Breaker) : Breaker :=
  let b := { b with failures := 0 }
  match b.state with
  | .halfOpen =>
    let b := { b with successes := b.successes + 1 }
    if b.successThreshold ≤ b.successes then { b with state := .closed, successes := 0 } else b
  | .closed => b
  | .opened => b

end Breaker

structure RoutingConfig where
  strategy : String
  failureThreshold : Int
  successThreshold : Int
  timeoutSeconds : Int

/-- `Router`. What discovery lists under a namespace may have endpoints of another. -/
structure Router where
  config : RoutingConfig
  discovered : String → List Endpoint
  balancers : String → Option LoadBalancer := fun _ => none
  breakers : String → Option Breaker := fun _ => none

def extractNamespace (request : Request) : String :=
  if request.method = "initialize" ∨ request.method = "shutdown" then "system"
  else if request.method = "tools/call" then
    match request.params with
    | .object members =>
      match Any.member? "name" members with
      | some (.string name) => (split name '.').headD "default"
      | _ => "default"
    | _ => "default"
  else if request.method = "tools/list" then
    match request.params with
    | .object members =>
      match Any.member? "namespace" members with
      | some (.string ns) => ns
      | _ => "system"
    | _ => "system"
  else "default"

namespace Router

/-- `getLoadBalancer`: a balancer is made at the first use of a namespace with endpoints. -/
def getLoadBalancer (r : Router) (ns : String) : Option LoadBalancer × Router :=
  match r.balancers ns with
  | some lb => (some lb,r)
  | none =>
    if r.discovered ns = [] then (none,r)
    else
      let lb := LoadBalancer.create r.config.strategy (r.discovered ns)
      (some lb,{ r with balancers := Function.update r.balancers ns (some lb) })

def selectEndpoint (r : Router) (ns : String) : Except String Endpoint × Router :=
  match r.getLoadBalancer ns with
  | (none,r) => (.error ("[router] UNAVAILABLE: no endpoints available for namespace: " ++ ns),r)
  | (some lb,r) =>
    let r := { r with balancers := Function.update r.balancers ns (some lb.next.2) }
    match lb.next.1 with
    | none => (.error ("[router] UNAVAILABLE: no healthy endpoints available for namespace: " ++ ns),r)
    | some ep => (.ok ep,r)

/-- `getCircuitBreaker`: breakers by address, with a timeout of at most ten seconds. -/
def getCircuitBreaker (r : Router) (address : String) : Breaker :=
  match r.breakers address with
  | some breaker => breaker
  | none =>
    let timeout := r.config.timeoutSeconds * second
    { maxFailures := r.config.failureThreshold, successThreshold := r.config.successThreshold,
      timeout := if timeout = 0 ∨ 10 * second < timeout then 10 * second else timeout }

end Router

/-- The schemes that `forwardRequest` can forward to. -/
def supportedScheme (scheme : String) : Bool := ["ws","wss","http","https","sse"].contains scheme

/-- An error of a forwarder: its type, `INTERNAL` if it is no `GatewayError`, and its text. -/
structure ForwardError where
  type : String := "INTERNAL"
  text : String

/-- The outcome of `RouteRequest`, the endpoint that got the request, and the router afterwards. -/
structure RouteResult where
  response : Except String Response
  dispatched : Option Endpoint
  router : Router

def wrapForwardingError (e : ForwardError) : String :=
  "[router] forward_request: " ++ e.type ++ ": failed to forward request: " ++ e.text

/-- `forwardRequest`, with what the backends answer. -/
def forwardRequest (backend : Endpoint → Request → Except ForwardError Response) (ep : Endpoint) (request : Request) :
    Except ForwardError Response × Option Endpoint :=
  if supportedScheme ep.scheme then (backend ep request,some ep)
  else (.error ⟨"VALIDATION","[router] VALIDATION: unsupported endpoint scheme: " ++ ep.scheme⟩,none)

def executeWithCircuitBreaker (r : Router) (backend : Endpoint → Request → Except ForwardError Response) (now : Int)
    (ep : Endpoint) (request : Request) : Except ForwardError Response × Option Endpoint × Router :=
  let breaker := r.getCircuitBreaker ep.address
  if breaker.state = .opened then
    (.error { text := "circuit breaker is open (failing fast)" },none,
      { r with breakers := Function.update r.breakers ep.address (some breaker) })
  else
    let (response,dispatched) := forwardRequest backend ep request
    let breaker := match response with
      | .ok _ => breaker.recordSuccess
      | .error _ => breaker.recordFailure now
    (response,dispatched,{ r with breakers := Function.update r.breakers ep.address (some breaker) })

def RouteCall.target (call : RouteCall) : String :=
  if call.targetNamespace = "" then extractNamespace call.request else call.targetNamespace

/-- `RouteRequest`. The context, and so the session, only reaches the logs and the backend. -/
def routeRequest (r : Router) (backend : Ctx → Endpoint → Request → Except ForwardError Response) (now : Int)
    (call : RouteCall) : RouteResult :=
  match r.selectEndpoint (RouteCall.target call) with
  | (.error text,r) => ⟨.error text,none,r⟩
  | (.ok ep,r) =>
    let (response,dispatched,r) := executeWithCircuitBreaker r (backend call.routedContext) now ep call.request
    ⟨response.mapError wrapForwardingError,dispatched,r⟩

variable (r : Router)

theorem getLoadBalancer_breaker (ns address : String) :
    (r.getLoadBalancer ns).2.getCircuitBreaker address = r.getCircuitBreaker address := by
  unfold Router.getLoadBalancer
  split
  · rfl
  · split <;> rfl

theorem selectEndpoint_breaker (ns address : String) :
    (r.selectEndpoint ns).2.getCircuitBreaker address = r.getCircuitBreaker address := by
  rw [← getLoadBalancer_breaker r ns address]
  unfold Router.selectEndpoint
  split
  · next made => rw [made]
  · next made =>
    rw [made]
    split <;> rfl

/-- A request for the namespace goes to the endpoint: the balancer selects it, its breaker is not open, and its scheme
    is supported. -/
def Serves (r : Router) (ns : String) (ep : Endpoint) : Prop :=
  (r.selectEndpoint ns).1 = .ok ep ∧ (r.getCircuitBreaker ep.address).state ≠ .opened ∧ supportedScheme ep.scheme

end McpBridge.Routing
