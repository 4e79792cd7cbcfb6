import McpBridge.KubernetesDiscovery

/-!
Service discovery in Consul (`discovery/consul.go`), and what a pass of either discovery does to endpoints it could not
ask for. A pass clears the registry before it asks. Only Consul lists the services before, so only a failure of that
drops nothing.
-/
namespace McpBridge.ConsulDiscovery
open Discovery Multimaps KubernetesDiscovery List Multimap

structure AgentService where
  id : String
  service : String
  tags : List String
  meta_ : String → Option String
  address : String
  port : Int

structure ServiceEntry where
  service : AgentService
  datacenter : String
  node : String
  checks : List String

/-- What Consul answers in one pass: the services with their tags, and the healthy instances of one. -/
structure Api where
  services : Except String (List (String × List String))
  health : String → Except String (List ServiceEntry)

/-- `strings.EqualFold`, `strings.ToLower`, `json.Unmarshal` into tools and `strconv.Atoi`. -/
structure Strings where
  equalFold : String → String → Bool
  toLower : String → String
  tools : String → Option (List ToolInfo)
  atoi : String → Option Int

def servicePrefix : String := "mcp/"

def trimServicePrefix (name : String) : Option String :=
  if servicePrefix.toList.isPrefixOf name.toList then some (String.ofList (name.toList.drop servicePrefix.length)) else none

section
variable (strings : Strings)

def hasTag (tags : List String) (tag : String) : Bool := tags.any (strings.equalFold · tag)

def extractNamespace (service : AgentService) : String :=
  match trimServicePrefix service.service with
  | some ns => ns
  | none => (service.meta_ "mcp_namespace").getD "default"

def determineScheme (service : AgentService) : String :=
  if hasTag strings service.tags "https" then "https"
  else if hasTag strings service.tags "websocket" || hasTag strings service.tags "ws" then
    if hasTag strings service.tags "tls" then "wss" else "ws"
  else "http"

def parseTools (service : AgentService) : List ToolInfo :=
  match service.meta_ "mcp_tools" with
  | none => []
  | some toolsJSON => (strings.tools toolsJSON).getD []

def parseWeight (service : AgentService) : Int :=
  match service.meta_ "mcp_weight" with
  | none => defaultWeight
  | some weight => (strings.atoi weight).getD defaultWeight

def parsePath (service : AgentService) : String := (service.meta_ "mcp_path").getD "/"

/-- The protocol that a tag names, in the switch of `inferProtocol`. -/
def protocolOf (tag : String) : Option String :=
  match tag with
  | "websocket" | "ws" => some "websocket"
  | "sse" | "server-sent-events" => some "sse"
  | "stdio" | "process" => some "stdio"
  | "http" | "rest" => some "http"
  | _ => none

def inferProtocol (service : AgentService) : String :=
  match service.meta_ "mcp_protocol" with
  | some protocol => protocol
  | none => (service.tags.findSome? fun tag => protocolOf (strings.toLower tag)).getD "http"

def isHealthy (entry : ServiceEntry) : Bool := entry.checks.all (· == "passing")

/-- `consulServiceToEndpoint`, whose error is always `nil`: the service's metadata comes over the entry's. -/
def consulServiceToEndpoint (entry : ServiceEntry) : Endpoint where
  service := entry.service.service
  ns := extractNamespace entry.service
  address := entry.service.address
  port := entry.service.port
  scheme := determineScheme strings entry.service
  path := parsePath entry.service
  weight := parseWeight strings entry.service
  metadata key := (entry.service.meta_ key).or
    (match key with
    | "consul_id" => some entry.service.id
    | "consul_datacenter" => some entry.datacenter
    | "consul_node" => some entry.node
    | "protocol" => some (inferProtocol strings entry.service)
    | _ => none)
  tools := parseTools strings entry.service
  healthy := isHealthy entry

def isMcp (service : String × List String) : Bool := (trimServicePrefix service.1).isSome && hasTag strings service.2 "mcp"

def instances (api : Api) (service : String × List String) : List Endpoint :=
  if isMcp strings service then
    match api.health service.1 with
    | .error _ => []
    | .ok entries => (entries.map (consulServiceToEndpoint strings)).filter (·.ns ≠ "")
  else []

/-- `discoverServices`: the registry, and the error that the pass returns. -/
def discoverServices (api : Api) (registry : Registry) : Registry × Option String :=
  match api.services with
  | .error cause => (registry,some ("[discovery_consul] INTERNAL: failed to list Consul services: " ++ cause))
  | .ok services => (services.foldl (fun registry service => pushAll (·.ns) registry (instances strings api service)) ∅,none)

end

theorem get_discoverServices {strings : Strings} {api : Api} {registry : Registry} {services : List (String × List String)}
    (listed : api.services = .ok services) (ns : String) :
    (discoverServices strings api registry).1.get ns = (services.flatMap (instances strings api)).filter (·.ns = ns) := by
  simp only [discoverServices,listed]
  rw [get_foldl_pushAll,get_empty,nil_append]

section
open KubernetesDiscovery
variable {parsers : Parsers} {ep : Endpoint}

/-- The answers of the first attempt at a namespace that lists its services. -/
def served (api : Nat → Nat → KubernetesDiscovery.Api) (k : Nat) (K : String) : Option KubernetesDiscovery.Api :=
  ((range kubernetesMaxRetries).find? fun i => (listNamespaceServices (api k i) K).toOption.isSome).map (api k)

/-- The pass has asked for the service, and got an error. -/
def Refused (parsers : Parsers) (api : KubernetesDiscovery.Api) (K service : String) : Prop :=
  (∃ services, listNamespaceServices api K = .ok services ∧ ∃ svc ∈ services, svc.name = service ∧
    isValidMCPService svc = true ∧ (extractMCPConfig parsers svc).isSome) ∧ ∃ e, api.endpoints K service = .error e

/-- Wherever the selector has the endpoint's Kubernetes namespace, no attempt could list it, or the service was not
    asked for. -/
def KubernetesUnqueried (parsers : Parsers) (selector : List String) (api : Nat → Nat → KubernetesDiscovery.Api)
    (ep : Endpoint) : Prop :=
  ∃ K ∈ selector, ep.metadata "k8s_namespace" = some K ∧ ∀ k, selector[k]? = some K →
    served api k K = none ∨ ∃ answers, served api k K = some answers ∧ Refused parsers answers K ep.service

theorem retry_served (api : Nat → Nat → KubernetesDiscovery.Api) (k : Nat) (K : String) :
    retry (fun i => discoverNamespaceServices parsers (api k i) K) kubernetesMaxRetries 0 =
      match served api k K with
      | none => []
      | some answers => listed parsers answers K := by
  have attempts : ∀ left i, retry (fun i => discoverNamespaceServices parsers (api k i) K) left i =
      match ((range' i left).find? fun i => (listNamespaceServices (api k i) K).toOption.isSome).map (api k) with
      | none => []
      | some answers => listed parsers answers K := by
    intro left
    induction left with
    | zero => intro i; rfl
    | succ left ih =>
      intro i
      rw [retry,range'_succ,find?_cons,discoverNamespaceServices_eq]
      cases services : listNamespaceServices (api k i) K with
      | error e => exact ih (i + 1)
      | ok services =>
        simp [Except.toOption,Except.map,listed,discoverNamespaceServices_eq,services]
  rw [attempts,served,range_eq_range']

theorem mem_listed {api : KubernetesDiscovery.Api} {K : String} (found : ep ∈ listed parsers api K) :
    ∃ svc, ep ∈ processService parsers api K svc := by
  rw [listed,discoverNamespaceServices_eq] at found
  cases services : listNamespaceServices api K with
  | error e =>
    rw [services] at found
    cases found
  | ok services =>
    simp only [services,Except.map,Except.toOption,Option.getD_some] at found
    obtain ⟨svc,_,found⟩ := mem_flatMap.mp found
    exact ⟨svc,found⟩

/-- What a pass cannot ask for it drops. -/
theorem kubernetes_drops {selector : List String} {api : Nat → Nat → KubernetesDiscovery.Api} (registry : Registry)
    (ns : String) (unqueried : KubernetesUnqueried parsers selector api ep) :
    ep ∉ (KubernetesDiscovery.discoverServices parsers selector api registry).get ns := by
  obtain ⟨K,_,label,places⟩ := unqueried
  intro found
  rw [KubernetesDiscovery.get_discoverServices] at found
  obtain ⟨⟨K',k⟩,place,found⟩ := mem_flatMap.mp (mem_of_mem_filter found)
  simp only [retry_served] at found
  cases first : served api k K' with
  | none =>
    rw [first] at found
    cases found
  | some answers =>
    rw [first] at found
    obtain ⟨svc,found⟩ := mem_listed found
    obtain ⟨label',subsets,answered⟩ := of_mem_processService found
    have same : K' = K := by
      simp only [labelled,label,beq_iff_eq,Option.some.injEq] at label'
      exact label'.symm
    subst same
    rcases places k (mk_mem_zipIdx_iff_getElem?.mp place) with none | ⟨answers',first',_,e,refused⟩
    · rw [first] at none
      cases none
    · rw [first,Option.some.injEq] at first'
      subst first'
      rw [answered] at refused
      cases refused

end

/-- The endpoint's service is asked for and Consul has no answer, or it has none for the catalog. -/
def ConsulUnqueried (strings : Strings) (api : Api) (ep : Endpoint) : Prop :=
  match api.services with
  | .error _ => True
  | .ok services => ∃ service ∈ services, isMcp strings service = true ∧ service.1 = ep.service ∧
      ∃ e, api.health service.1 = .error e

inductive Pass where
  | kubernetes (parsers : Parsers) (selector : List String) (api : Nat → Nat → KubernetesDiscovery.Api)
  | consul (strings : Strings) (api : Api)

namespace Pass

def run (registry : Registry) : Pass → Registry
  | .kubernetes parsers selector api => KubernetesDiscovery.discoverServices parsers selector api registry
  | .consul strings api => (discoverServices strings api registry).1

def Unqueried (ep : Endpoint) : Pass → Prop
  | .kubernetes parsers selector api => KubernetesUnqueried parsers selector api ep
  | .consul strings api => ConsulUnqueried strings api ep

end Pass

/-- Every endpoint that was known and could not be asked for is still there. -/
def Keeps (pass : Pass) (registry : Registry) : Prop :=
  ∀ ns, ∀ ep ∈ getEndpoints registry ns, pass.Unqueried ep → ep ∈ getEndpoints (pass.run registry) ns

/-- In Kubernetes, everything known could be asked for. In Consul, the catalog was not listed, or another service's
    instances have what could not be asked for. -/
def Harmless (registry : Registry) : Pass → Prop
  | .kubernetes parsers selector api => ∀ ns, ∀ ep ∈ getEndpoints registry ns, ¬KubernetesUnqueried parsers selector api ep
  | .consul strings api =>
    match api.services with
    | .error _ => True
    | .ok services => ∀ ns, ∀ ep ∈ getEndpoints registry ns, ConsulUnqueried strings api ep →
        ep.ns = ns ∧ ∃ service ∈ services, ep ∈ instances strings api service

/-- A pass keeps what it could not ask for exactly if it is harmless. -/
theorem failed_pass_keeps (pass : Pass) (registry : Registry) : Keeps pass registry ↔ Harmless registry pass := by
  cases pass with
  | kubernetes parsers selector api =>
    constructor
    · intro keeps ns ep known unqueried
      exact kubernetes_drops registry ns unqueried (keeps ns ep known unqueried)
    · intro harmless ns ep known unqueried
      exact absurd unqueried (harmless ns ep known)
  | consul strings api =>
    unfold Keeps Harmless
    simp [Pass.Unqueried,Pass.run,getEndpoints]
    cases listing : api.services with
    | error e =>
      have same : (discoverServices strings api registry).1 = registry := by simp [discoverServices,listing]
      simp only [same]
      exact iff_of_true (fun _ _ known _ => known) trivial
    | ok services =>
      simp [get_discoverServices listing]
      refine forall_congr' fun ns => forall_congr' fun ep => forall_congr' fun _ => forall_congr' fun _ => ?_
      exact and_comm

/-- No attempt at the namespace is answered: the endpoint that was known is gone. -/
theorem dropped_adder : getEndpoints (push ∅ "math" (adder "10.0.0.1")) "math" =
        [adder "10.0.0.1"] ∧ ¬Keeps (.kubernetes noParsers ["prod"] fun _ _ =>
        { services := fun _ => .error "timeout",endpoints := fun _ _ => .error "timeout" })
        (push ∅ "math" (adder "10.0.0.1")) := by
  have known : getEndpoints (push ∅ "math" (adder "10.0.0.1")) "math" = [adder "10.0.0.1"] := by
    rfl
  refine ⟨known,fun keeps => ?_⟩
  have kept := keeps "math" (adder "10.0.0.1") (by rw [known]; exact mem_singleton.mpr rfl)
    ⟨"prod",mem_singleton.mpr rfl,rfl,fun _ _ => .inl rfl⟩
  cases kept

end McpBridge.ConsulDiscovery
