import McpBridge.LoadBalancers
import McpBridge.Multimaps
import McpBridge.Runs

/-!
Service discovery in Kubernetes (`discovery/kubernetes.go`). The registry is kept per MCP namespace, which an annotation
of a service names; the API and its events are per Kubernetes namespace, a label of an endpoint.
-/
namespace McpBridge.Discovery
open Multimaps

structure ToolInfo where
  name : String
  description : String
  deriving DecidableEq

/-- An endpoint with what discovery knows of it. -/
structure Endpoint extends LoadBalancers.Endpoint where
  service : String
  metadata : String → Option String
  tools : List ToolInfo

/-- `d.endpoints`, from MCP namespaces to endpoints. -/
abbrev Registry := Multimap String Endpoint

def getEndpoints (registry : Registry) (ns : String) : List Endpoint := registry.get ns

def defaultWeight : Int := 100

end McpBridge.Discovery

namespace McpBridge.KubernetesDiscovery
open Discovery Multimaps Runs List Function

structure Service where
  name : String
  annotations : String → String

structure Port where
  name : String
  port : Int

structure Subset where
  addresses : List String
  ports : List Port

/-- What the API server answers in one attempt: the services of a namespace, and the `Endpoints` object of a service. -/
structure Api where
  services : String → Except String (List Service)
  endpoints : String → String → Except String (List Subset)

/-- `json.Unmarshal` into tools, with what it leaves when it fails, and `fmt.Sscanf` of a weight. -/
structure Parsers where
  tools : String → List ToolInfo
  weight : String → Option Int

structure McpServiceConfig where
  ns : String
  scheme : String
  path : String
  tools : List ToolInfo
  weight : Int

def isValidMCPService (svc : Service) : Bool := svc.annotations "mcp.bridge/enabled" == "true"

def parseTools (parsers : Parsers) (svc : Service) : List ToolInfo :=
  if svc.annotations "mcp.bridge/tools" = "" then [] else parsers.tools (svc.annotations "mcp.bridge/tools")

def extractMCPConfig (parsers : Parsers) (svc : Service) : Option McpServiceConfig :=
  if svc.annotations "mcp.bridge/namespace" = "" then none
  else some {
    ns := svc.annotations "mcp.bridge/namespace"
    scheme := if svc.annotations "mcp.bridge/protocol" = "" then "http" else svc.annotations "mcp.bridge/protocol"
    path := if svc.annotations "mcp.bridge/path" = "" then "/" else svc.annotations "mcp.bridge/path"
    tools := parseTools parsers svc
    weight :=
      if svc.annotations "mcp.bridge/weight" = "" then defaultWeight
      else (parsers.weight (svc.annotations "mcp.bridge/weight")).getD 1 }

def createEndpoint (ip : String) (port : Int) (serviceName ns : String) (config : McpServiceConfig) : Endpoint where
  service := serviceName
  ns := config.ns
  address := ip
  port := port
  scheme := config.scheme
  path := config.path
  weight := config.weight
  metadata key := if key = "k8s_namespace" then some ns else if key = "k8s_service" then some serviceName else none
  tools := config.tools
  healthy := true

def processSubset (subset : Subset) (svc : Service) (ns : String) (config : McpServiceConfig) : List Endpoint :=
  subset.addresses.flatMap fun ip =>
    (subset.ports.filter (·.name = "mcp")).map fun port => createEndpoint ip port.port svc.name ns config

def convertToMCPEndpoints (subsets : List Subset) (svc : Service) (ns : String) (config : McpServiceConfig) :
    List Endpoint :=
  subsets.flatMap fun subset => processSubset subset svc ns config

def getServiceEndpoints (api : Api) (ns : String) (svc : Service) (config : McpServiceConfig) : List Endpoint :=
  match api.endpoints ns svc.name with
  | .error _ => []
  | .ok subsets => convertToMCPEndpoints subsets svc ns config

def processService (parsers : Parsers) (api : Api) (ns : String) (svc : Service) : List Endpoint :=
  if isValidMCPService svc then
    match extractMCPConfig parsers svc with
    | none => []
    | some config => getServiceEndpoints api ns svc config
  else []

def listNamespaceServices (api : Api) (ns : String) : Except String (List Service) :=
  (api.services ns).mapError ("[discovery_k8s] INTERNAL: failed to list services: " ++ ·)

def discoverNamespaceServices (parsers : Parsers) (api : Api) (ns : String) : Except String (List Endpoint) := do
  let services ← listNamespaceServices api ns
  return services.flatMap (processService parsers api ns)

def kubernetesMaxRetries : Nat := 3

/-- The attempts at one namespace: what the first that succeeds has found. -/
def retry (attempt : Nat → Except String (List Endpoint)) : Nat → Nat → List Endpoint
  | 0,_ => []
  | left + 1,i =>
    match attempt i with
    | .ok endpoints => endpoints
    | .error _ => retry attempt left (i + 1)

/-- `discoverServices`: the registry is cleared, and filled from each namespace of the selector, with new answers each
    time. -/
def discoverServices (parsers : Parsers) (selector : List String) (api : Nat → Nat → Api) (_ : Registry) : Registry :=
  selector.zipIdx.foldl (fun registry (ns,k) => Multimap.pushAll (·.ns) registry
    (retry (fun i => discoverNamespaceServices parsers (api k i) ns) kubernetesMaxRetries 0)) ∅

/-- The types of watch events. -/
inductive EventType where
  | added
  | modified
  | deleted
  | bookmark
  | error
  deriving DecidableEq

def EventType.changes : EventType → Bool
  | .added | .modified | .deleted => true
  | .bookmark | .error => false

/-- One round of `handleServiceEvents`, with the listing of the namespace. -/
def handleServiceEvent (registry : Registry) (K : String) (kind : EventType) (listed : Except String (List Endpoint)) :
    Registry :=
  if kind.changes then
    match listed with
    | .error _ => registry
    | .ok endpoints => registry.put K endpoints
  else registry

def labelled (K : String) (ep : Endpoint) : Bool := ep.metadata "k8s_namespace" == some K

def trackAffectedMCPNamespaces (registry : Registry) (K : String) (fresh : List Endpoint) : List String :=
  ((registry.keys.filter fun ns => (registry.get ns).any (labelled K)) ++ fresh.map (·.ns)).dedup

/-- The registry, and the namespaces for which the callback is called. -/
def updateEndpointsAndNotify (callback : Bool) (registry : Registry) (K : String) (fresh : List Endpoint)
    (affected : List String) : Registry × List String :=
  (Multimap.pushAll (·.ns) (registry.sift fun ep => !labelled K ep) fresh,if callback then affected else [])

/-- One round of the loop of `handleEndpointEvents`. -/
def handleEndpointEvent (callback : Bool) (registry : Registry) (K : String) (kind : EventType)
    (listed : Except String (List Endpoint)) : Registry × List String :=
  if kind.changes then
    match listed with
    | .error _ => (registry,[])
    | .ok fresh => updateEndpointsAndNotify callback registry K fresh (trackAffectedMCPNamespaces registry K fresh)
  else (registry,[])

/-! ### What an endpoint event leaves -/

section
variable {registry : Registry} {K ns : String} {fresh : List Endpoint} {affected : List String} {callback : Bool}

theorem mem_trackAffectedMCPNamespaces : ns ∈ trackAffectedMCPNamespaces registry K fresh ↔
      (∃ ep ∈ registry.get ns, labelled K ep = true) ∨ ∃ ep ∈ fresh, ep.ns = ns := by
  unfold trackAffectedMCPNamespaces
  rw [mem_dedup,mem_append,mem_filter,any_eq_true,mem_map]
  refine or_congr_left ⟨fun found => found.2,fun found => ⟨?_,found⟩⟩
  by_contra absent
  obtain ⟨ep,listed,_⟩ := found
  rw [Multimap.get_of_not_mem absent] at listed
  cases listed

theorem get_updateEndpointsAndNotify :
    (updateEndpointsAndNotify callback registry K fresh affected).1.get ns =
      (registry.get ns).filter (fun ep => !labelled K ep) ++ fresh.filter (·.ns = ns) := by
  unfold updateEndpointsAndNotify
  rw [Multimap.get_pushAll,Multimap.get_sift]

theorem get_of_not_affected
    (spared : ns ∉ trackAffectedMCPNamespaces registry K fresh) :
    (updateEndpointsAndNotify callback registry K fresh affected).1.get ns = registry.get ns := by
  rw [mem_trackAffectedMCPNamespaces] at spared
  have kept : (registry.get ns).filter (fun ep => !labelled K ep) = registry.get ns := by
    refine filter_eq_self.mpr fun ep listed => ?_
    by_contra hit
    exact spared (.inl ⟨ep,listed,by simpa using hit⟩)
  have none : fresh.filter (·.ns = ns) = [] := by
    refine filter_eq_nil_iff.mpr fun ep listed here => ?_
    exact spared (.inr ⟨ep,listed,by simpa using here⟩)
  rw [get_updateEndpointsAndNotify,kept,none,append_nil]

end

/-- An endpoint event replaces the endpoints of its Kubernetes namespace, leaves no empty entry, and calls back once for
    each namespace that it changes. -/
theorem endpointEvent_frame (registry : Registry) (K : String) (kind : EventType) (fresh : List Endpoint)
    (changes : kind.changes = true) (own : ∀ ep ∈ fresh, labelled K ep = true) :
    (∀ ns, (handleEndpointEvent true registry K kind (.ok fresh)).1.get ns =
      (registry.get ns).filter (fun ep => !labelled K ep) ++ fresh.filter (·.ns = ns)) ∧
      (handleEndpointEvent true registry K kind (.ok fresh)).1.NoEmpty ∧
      (∀ ns, (handleEndpointEvent true registry K kind (.ok fresh)).1.get ns ≠ registry.get ns →
        (handleEndpointEvent true registry K kind (.ok fresh)).2.count ns = 1) ∧
      ∀ ns ∈ (handleEndpointEvent true registry K kind (.ok fresh)).2,
        ∃ ep, labelled K ep = true ∧ (ep ∈ registry.get ns ∨ ep ∈ fresh ∧ ep.ns = ns) := by
  have handled : handleEndpointEvent true registry K kind (.ok fresh) =
      updateEndpointsAndNotify true registry K fresh (trackAffectedMCPNamespaces registry K fresh) := if_pos changes
  rw [handled]
  refine ⟨fun ns => get_updateEndpointsAndNotify,Multimap.noEmpty_sift.pushAll,fun ns changed => ?_,fun ns called => ?_⟩
  · have affected : ns ∈ trackAffectedMCPNamespaces registry K fresh := by
      by_contra spared
      exact changed (get_of_not_affected spared)
    exact count_eq_one_of_mem (nodup_dedup _) affected
  · rcases mem_trackAffectedMCPNamespaces.mp called with ⟨ep,listed,hit⟩ | ⟨ep,listed,here⟩
    · exact ⟨ep,hit,.inl listed⟩
    · exact ⟨ep,own ep listed,.inr ⟨listed,here⟩⟩

def adder (ip : String) : Endpoint :=
  createEndpoint ip 8080 "adder" "prod" { ns := "math",scheme := "http",path := "/",tools := [],weight := defaultWeight }

theorem endpointEvent_frame_adder :
    ((handleEndpointEvent true (Multimap.push ∅ "math" (adder "10.0.0.1")) "prod" .modified (.ok [adder "10.0.0.2"])).1.get
      "math").map (·.address) = ["10.0.0.2"] ∧
      (handleEndpointEvent true (Multimap.push ∅ "math" (adder "10.0.0.1")) "prod" .modified (.ok [adder "10.0.0.2"])).2.count
        "math" = 1 := by
  have frame := endpointEvent_frame (Multimap.push ∅ "math" (adder "10.0.0.1")) "prod" .modified [adder "10.0.0.2"] rfl
    fun ep listed => by rw [mem_singleton.mp listed]; exact beq_self_eq_true _
  have after := frame.1 "math"
  constructor
  · rfl
  · refine frame.2.2.1 "math" fun same => ?_
    have addresses := congrArg (map fun ep => ep.address) same
    revert addresses
    decide

/-! ### What listings give -/

section
variable {parsers : Parsers} {api : Api} {K : String}

theorem of_mem_processService {svc : Service} {ep : Endpoint} (found : ep ∈ processService parsers api K svc) :
    labelled K ep = true ∧ ∃ subsets, api.endpoints K ep.service = .ok subsets := by
  revert found
  fun_cases processService parsers api K svc
  case case2 config _ =>
    fun_cases getServiceEndpoints api K svc config
    case case2 subsets answered =>
      intro found
      simp only [convertToMCPEndpoints,processSubset,mem_flatMap,mem_map] at found
      obtain ⟨_,_,_,_,_,_,rfl⟩ := found
      exact ⟨by simp [labelled,createEndpoint],subsets,answered⟩
    exact nofun
  all_goals exact nofun

theorem discoverNamespaceServices_eq : discoverNamespaceServices parsers api K =
      (listNamespaceServices api K).map fun services => services.flatMap (processService parsers api K) := by
  unfold discoverNamespaceServices
  cases listNamespaceServices api K <;> rfl

theorem discovered_labelled {fresh : List Endpoint} (listed : discoverNamespaceServices parsers api K = .ok fresh)
    {ep : Endpoint} (found : ep ∈ fresh) : labelled K ep = true := by
  rw [discoverNamespaceServices_eq] at listed
  cases services : listNamespaceServices api K with
  | error e =>
    rw [services] at listed
    cases listed
  | ok services =>
    simp only [services,Except.map,Except.ok.injEq] at listed
    subst listed
    obtain ⟨svc,_,found⟩ := mem_flatMap.mp found
    exact (of_mem_processService found).1

theorem get_discoverServices {selector : List String} {api : Nat → Nat → Api} {registry : Registry} (ns : String) :
    (discoverServices parsers selector api registry).get ns = (selector.zipIdx.flatMap fun (K,k) =>
        retry (fun i => discoverNamespaceServices parsers (api k i) K) kubernetesMaxRetries 0).filter (·.ns = ns) := by
  rw [discoverServices,Multimap.get_foldl_pushAll,Multimap.get_empty,nil_append]

end

/-- The registry, and what the latest listing of each Kubernetes namespace has given. -/
structure State where
  registry : Registry := ∅
  snapshot : String → List Endpoint := fun _ => []

/-- A resync, or a watch event. -/
inductive Label where
  | resync (api : Api)
  | serviceEvent (K : String) (kind : EventType) (api : Api)
  | endpointEvent (K : String) (kind : EventType) (api : Api)

section
variable (parsers : Parsers) (selector : List String)

def listed (api : Api) (K : String) : List Endpoint := ((discoverNamespaceServices parsers api K).toOption).getD []

/-- An event after which the namespace is listed, if it is one of a change. -/
def refresh (s : State) (K : String) (kind : EventType) (api : Api)
    (handle : Except String (List Endpoint) → Registry) : Option State :=
  match discoverNamespaceServices parsers api K with
  | .error _ => none
  | .ok fresh => some { registry := handle (.ok fresh)
                        snapshot := if kind.changes then update s.snapshot K fresh else s.snapshot }

/-- Every listing succeeds, and only the namespaces of the selector are watched. -/
def step (s : State) : Label → Option State
  | .resync api =>
    if ∀ K ∈ selector, (discoverNamespaceServices parsers api K).toOption.isSome then
      some { registry := discoverServices parsers selector (fun _ _ => api) s.registry
             snapshot := fun K => if K ∈ selector then listed parsers api K else s.snapshot K }
    else none
  | .serviceEvent K kind api =>
    if K ∈ selector then refresh parsers s K kind api (handleServiceEvent s.registry K kind) else none
  | .endpointEvent K kind api =>
    if K ∈ selector then refresh parsers s K kind api fun listed => (handleEndpointEvent false s.registry K kind listed).1
    else none

/-- Under each MCP namespace, the registry has the endpoints of the latest listings for it, each once, and no other. -/
structure Exact (s : State) : Prop where
  holds : ∀ ns, (getEndpoints s.registry ns).Perm ((selector.dedup.flatMap s.snapshot).filter (·.ns = ns))
  own : ∀ ns, ∀ ep ∈ getEndpoints s.registry ns, ep.ns = ns

/-- The steps that keep the registry exact: a namespace that the selector has twice has no endpoint in a resync; and at
    an event of a service, exactly the endpoints of the Kubernetes namespace, before and after, have the MCP namespace
    of that name. -/
def Fine (s : State) : Label → Prop
  | .resync api => ∀ K, 1 < selector.count K → listed parsers api K = []
  | .serviceEvent K kind api => kind.changes = true →
      (∀ ep ∈ s.snapshot K, ep.ns = K) ∧ (∀ ep ∈ listed parsers api K, ep.ns = K) ∧
        ∀ other ∈ selector, other ≠ K → ∀ ep ∈ s.snapshot other, ep.ns ≠ K
  | .endpointEvent _ _ _ => True

end

section
variable {parsers : Parsers} {selector : List String} {s : State}

theorem exact_iff : Exact selector s ↔
    ∀ ns, (s.registry.get ns).Perm ((selector.dedup.flatMap s.snapshot).filter (·.ns = ns)) := by
  constructor
  · intro exact_
    exact exact_.holds
  · intro holds
    refine ⟨holds,fun ns ep stored => ?_⟩
    simpa using of_mem_filter ((holds ns).subset stored)

theorem retry_of_ok {attempt : Nat → Except String (List Endpoint)} {left i : Nat} {found : List Endpoint}
    (first : attempt i = .ok found) : retry attempt (left + 1) i = found := by
  rw [retry,first]

variable {api : Api} {K : String}

theorem listed_eq {fresh : List Endpoint} (found : discoverNamespaceServices parsers api K = .ok fresh) : listed parsers api K = fresh := by
  rw [listed,found]
  rfl

theorem get_resync (answers : ∀ K ∈ selector, (discoverNamespaceServices parsers api K).toOption.isSome)
    (registry : Registry) (ns : String) : (discoverServices parsers selector (fun _ _ => api) registry).get ns =
      (selector.flatMap (listed parsers api)).filter (·.ns = ns) := by
  rw [get_discoverServices]
  congr 1
  have places : selector.flatMap (listed parsers api) = selector.zipIdx.flatMap fun place => listed parsers api place.1 := by
    have firsts := flatMap_map Prod.fst (listed parsers api) selector.zipIdx
    rwa [zipIdx_map_fst] at firsts
  rw [places]
  refine flatMap_congr fun place member => ?_
  have some_ := answers place.1 (fst_mem_of_mem_zipIdx member)
  cases found : discoverNamespaceServices parsers api place.1 with
  | error e =>
    rw [found] at some_
    cases some_
  | ok fresh => exact (retry_of_ok found).trans (listed_eq found).symm

theorem selector_split (selector : List String) : selector.Perm (selector.dedup ++ selector.diff selector.dedup) := by
  refine (subperm_append_diff_self_of_count_le fun K _ => ?_).symm
  exact (dedup_sublist selector).count_le K

theorem mem_repeated : K ∈ selector.diff selector.dedup ↔ 1 < selector.count K := by
  have parts := (selector_split selector).count_eq K
  rw [count_append,count_dedup] at parts
  rw [← count_pos_iff]
  split at parts
  next => omega
  next absent =>
    rw [count_eq_zero_of_not_mem absent] at parts ⊢
    omega

theorem perm_left_iff {α : Type} {whole left right : List α} (parts : whole.Perm (left ++ right)) :
    whole.Perm left ↔ right = [] := by
  constructor
  · intro same
    have sizes := parts.symm.trans same |>.length_eq
    rw [length_append] at sizes
    exact length_eq_zero_iff.mp (by omega)
  · intro none
    rwa [none,append_nil] at parts

variable {next : State}

theorem resync_breaks (taken : step parsers selector s (.resync api) = some next) :
    Exact selector next ↔ Fine parsers selector s (.resync api) := by
  obtain ⟨answers,⟨⟩⟩ := Option.ite_none_right_eq_some.mp taken
  rw [exact_iff]
  have snapshots : selector.dedup.flatMap (fun K => if K ∈ selector then listed parsers api K else s.snapshot K) =
      selector.dedup.flatMap (listed parsers api) :=
    flatMap_congr fun K member => if_pos (mem_dedup.mp member)
  have each : ∀ ns, ((selector.flatMap (listed parsers api)).filter (·.ns = ns)).Perm
      ((selector.dedup.flatMap (listed parsers api)).filter (·.ns = ns)) ↔
      ((selector.diff selector.dedup).flatMap (listed parsers api)).filter (·.ns = ns) = [] := by
    intro ns
    have split := ((selector_split selector).flatMap_right (listed parsers api)).filter (·.ns = ns)
    rw [flatMap_append,filter_append] at split
    exact perm_left_iff split
  simp only [get_resync answers,snapshots,each]
  constructor
  · intro none K twice
    refine eq_nil_iff_forall_not_mem.mpr fun ep found => ?_
    have stored : ep ∈ ((selector.diff selector.dedup).flatMap (listed parsers api)).filter (·.ns = ep.ns) :=
      mem_filter.mpr ⟨mem_flatMap.mpr ⟨K,mem_repeated.mpr twice,found⟩,by simp⟩
    rw [none ep.ns] at stored
    cases stored
  · intro fine ns
    refine filter_eq_nil_iff.mpr fun ep found => ?_
    obtain ⟨K,repeated,found⟩ := mem_flatMap.mp found
    rw [fine K (mem_repeated.mp repeated)] at found
    cases found

def others (selector : List String) (snapshot : String → List Endpoint) (K : String) : List Endpoint :=
  (selector.dedup.erase K).flatMap snapshot

theorem flatMap_split (watched : K ∈ selector) (snapshot : String → List Endpoint) :
    (selector.dedup.flatMap snapshot).Perm (snapshot K ++ others selector snapshot K) := by
  have first := perm_cons_erase (mem_dedup.mpr watched)
  exact first.flatMap_right snapshot

theorem others_update (K : String) (fresh : List Endpoint) (snapshot : String → List Endpoint) :
    others selector (update snapshot K fresh) K = others selector snapshot K := by
  refine flatMap_congr fun other member => update_of_ne ?_ _ _
  rintro rfl
  exact (nodup_dedup selector).not_mem_erase member

theorem mem_others {ep : Endpoint} :
    ep ∈ others selector s.snapshot K ↔ ∃ other ∈ selector, other ≠ K ∧ ep ∈ s.snapshot other := by
  simp [others,(nodup_dedup selector).mem_erase_iff]
  constructor
  · rintro ⟨other,⟨apart,watched⟩,found⟩
    exact ⟨other,watched,apart,found⟩
  · rintro ⟨other,watched,apart,found⟩
    exact ⟨other,⟨apart,watched⟩,found⟩

theorem exact_update_iff (watched : K ∈ selector) (registry : Registry) (fresh : List Endpoint) :
    Exact selector { registry,snapshot := update s.snapshot K fresh } ↔
      ∀ ns, (registry.get ns).Perm (fresh.filter (·.ns = ns) ++ (others selector s.snapshot K).filter (·.ns = ns)) := by
  rw [exact_iff]
  refine forall_congr' fun ns => ?_
  have split := (flatMap_split watched (update s.snapshot K fresh)).filter (·.ns = ns)
  rw [update_self,others_update,filter_append] at split
  exact ⟨fun same => same.trans split,fun same => same.trans split.symm⟩

theorem Exact.split (exact_ : Exact selector s) (watched : K ∈ selector) (ns : String) : (s.registry.get ns).Perm
      ((s.snapshot K).filter (·.ns = ns) ++ (others selector s.snapshot K).filter (·.ns = ns)) := by
  have split := (flatMap_split watched s.snapshot).filter (·.ns = ns)
  rw [filter_append] at split
  exact (exact_.holds ns).trans split

def Labelled (s : State) : Prop := ∀ K, ∀ ep ∈ s.snapshot K, labelled K ep = true

variable {kind : EventType}

theorem refresh_cases {handle : Except String (List Endpoint) → Registry}
    (taken : refresh parsers s K kind api handle = some next) :
    discoverNamespaceServices parsers api K = .ok (listed parsers api K) ∧
      next = { registry := handle (.ok (listed parsers api K))
               snapshot := if kind.changes then update s.snapshot K (listed parsers api K) else s.snapshot } := by
  unfold refresh at taken
  cases found : discoverNamespaceServices parsers api K with
  | error e =>
    rw [found] at taken
    cases taken
  | ok fresh =>
    rw [found] at taken
    rw [listed_eq found]
    exact ⟨rfl,(Option.some.inj taken).symm⟩

theorem Labelled.kept {label : Label} (labels : Labelled s)
    (taken : step parsers selector s label = some next) : Labelled next := by
  have refreshed : ∀ K kind api, discoverNamespaceServices parsers api K = .ok (listed parsers api K) →
      ∀ other, ∀ ep ∈ (if EventType.changes kind then update s.snapshot K (listed parsers api K) else s.snapshot) other,
        labelled other ep = true := by
    intro K kind api found other ep stored
    split at stored
    · by_cases same : other = K
      · subst same
        rw [update_self] at stored
        exact discovered_labelled found stored
      · rw [update_of_ne same] at stored
        exact labels other ep stored
    · exact labels other ep stored
  cases label with
  | resync api =>
    obtain ⟨answers,⟨⟩⟩ := Option.ite_none_right_eq_some.mp taken
    intro K ep stored
    simp only at stored
    split at stored
    next watched =>
      cases found : discoverNamespaceServices parsers api K with
      | error e =>
        have some_ := answers K watched
        rw [found] at some_
        cases some_
      | ok fresh =>
        rw [listed_eq found] at stored
        exact discovered_labelled found stored
    next => exact labels K ep stored
  | serviceEvent K kind api | endpointEvent K kind api =>
    simp only [step,Option.ite_none_right_eq_some] at taken
    obtain ⟨found,rfl⟩ := refresh_cases taken.2
    exact refreshed K kind api found

theorem filter_of_all {endpoints : List Endpoint} (all : ∀ ep ∈ endpoints, ep.ns = K) (ns : String) :
    endpoints.filter (·.ns = ns) = if ns = K then endpoints else [] := by
  split
  next here => exact filter_eq_self.mpr fun ep listed => by simp [all ep listed,here]
  next elsewhere =>
    refine filter_eq_nil_iff.mpr fun ep listed => ?_
    simpa [all ep listed] using Ne.symm elsewhere

/-- To store a listing under its Kubernetes namespace is right only if just what it replaces and has belongs there. -/
theorem belongs_of_put (watched : K ∈ selector) (exact_ : Exact selector s) {fresh : List Endpoint}
    (holds : ∀ ns, ((s.registry.put K fresh).get ns).Perm
      (fresh.filter (·.ns = ns) ++ (others selector s.snapshot K).filter (·.ns = ns))) :
    (∀ ep ∈ s.snapshot K, ep.ns = K) ∧ (∀ ep ∈ fresh, ep.ns = K) ∧
      ∀ other ∈ selector, other ≠ K → ∀ ep ∈ s.snapshot other, ep.ns ≠ K := by
  simp only [Multimap.get_put] at holds
  have here := holds K
  rw [if_pos rfl,← filter_append] at here
  have mine : ∀ ep ∈ fresh, ep.ns = K := fun ep listed => by simpa using of_mem_filter (here.subset listed)
  rw [filter_append,filter_of_all mine,if_pos rfl] at here
  have alone := (perm_left_iff here).mp (List.Perm.refl fresh)
  refine ⟨fun ep stored => ?_,mine,fun other watched' apart ep stored same => ?_⟩
  · by_contra elsewhere
    have there := holds ep.ns
    rw [if_neg elsewhere,filter_of_all mine,if_neg elsewhere,nil_append] at there
    have gone := (perm_left_iff ((exact_.split watched ep.ns).trans perm_append_comm)).mp there
    have kept : ep ∈ (s.snapshot K).filter (·.ns = ep.ns) := mem_filter.mpr ⟨stored,by simp⟩
    rw [gone] at kept
    cases kept
  · have found : ep ∈ (others selector s.snapshot K).filter (·.ns = K) :=
      mem_filter.mpr ⟨mem_others.mpr ⟨other,watched',apart,stored⟩,by simp [same]⟩
    rw [alone] at found
    cases found

theorem put_exact_iff (watched : K ∈ selector) (exact_ : Exact selector s) (fresh : List Endpoint) :
    (∀ ns, ((s.registry.put K fresh).get ns).Perm
      (fresh.filter (·.ns = ns) ++ (others selector s.snapshot K).filter (·.ns = ns))) ↔
      (∀ ep ∈ s.snapshot K, ep.ns = K) ∧ (∀ ep ∈ fresh, ep.ns = K) ∧
        ∀ other ∈ selector, other ≠ K → ∀ ep ∈ s.snapshot other, ep.ns ≠ K := by
  refine ⟨belongs_of_put watched exact_,?_⟩
  rintro ⟨before,mine,alone⟩ ns
  rw [Multimap.get_put,filter_of_all mine]
  by_cases here : ns = K
  · subst here
    have none : (others selector s.snapshot ns).filter (·.ns = ns) = [] := by
      refine filter_eq_nil_iff.mpr fun ep found => ?_
      obtain ⟨other,watched',apart,stored⟩ := mem_others.mp found
      simpa using alone other watched' apart ep stored
    rw [if_pos rfl,if_pos rfl,none,append_nil]
  · have old := exact_.split watched ns
    rw [filter_of_all before,if_neg here] at old
    rw [if_neg here,if_neg here]
    exact old

theorem serviceEvent_breaks (exact_ : Exact selector s)
    (taken : step parsers selector s (.serviceEvent K kind api) = some next) :
    Exact selector next ↔ Fine parsers selector s (.serviceEvent K kind api) := by
  obtain ⟨watched,taken⟩ := Option.ite_none_right_eq_some.mp taken
  obtain ⟨_,rfl⟩ := refresh_cases taken
  by_cases changes : kind.changes = true
  · simp [Fine,changes,handleServiceEvent]
    rw [exact_update_iff watched]
    exact put_exact_iff watched exact_ _
  · simp only [Fine,changes,handleServiceEvent]
    simpa using exact_

theorem endpointEvent_exact (labels : Labelled s) (exact_ : Exact selector s)
    (taken : step parsers selector s (.endpointEvent K kind api) = some next) : Exact selector next := by
  obtain ⟨watched,taken⟩ := Option.ite_none_right_eq_some.mp taken
  obtain ⟨_,rfl⟩ := refresh_cases taken
  by_cases changes : kind.changes = true
  · simp only [changes,if_true,handleEndpointEvent]
    rw [exact_update_iff watched]
    intro ns
    rw [get_updateEndpointsAndNotify]
    have gone : ((s.snapshot K).filter (·.ns = ns)).filter (fun ep => !labelled K ep) = [] := by
      refine filter_eq_nil_iff.mpr fun ep stored => ?_
      simp [labels K ep (mem_of_mem_filter stored)]
    have kept : ((others selector s.snapshot K).filter (·.ns = ns)).filter (fun ep => !labelled K ep) =
        (others selector s.snapshot K).filter (·.ns = ns) := by
      refine filter_eq_self.mpr fun ep stored => ?_
      obtain ⟨other,_,apart,found⟩ := mem_others.mp (mem_of_mem_filter stored)
      have label := labels other ep found
      simp only [labelled,beq_iff_eq] at label
      simp [labelled,label,apart]
    have left := (exact_.split watched ns).filter (fun ep => !labelled K ep)
    rw [filter_append,gone,kept,nil_append] at left
    exact (left.append_right _).trans perm_append_comm
  · simpa [changes,handleEndpointEvent] using exact_

end

/-- In any run of resyncs and events, the registry always has what the latest listings have, exactly if every step is
    fine. -/
theorem registry_exact (parsers : Parsers) (selector : List String) (labels : List Label) (t : State)
    (executed : run (step parsers selector) {} labels = some t) :
    Always (step parsers selector) (Exact selector) {} labels ↔
      Meets (step parsers selector) (Fine parsers selector) {} labels := by
  have start : Labelled {} := fun _ _ none => nomatch none
  have first : Exact selector {} := by
    rw [exact_iff]
    intro ns
    have empty : selector.dedup.flatMap (fun _ => ([] : List Endpoint)) = [] := by simp
    rw [empty]
    exact List.Perm.refl _
  refine always_iff_meets (fun s label next labels taken => Labelled.kept labels taken) ?_ start first executed
  intro s label next labels exact_ taken
  cases label with
  | resync api => exact resync_breaks taken
  | serviceEvent K kind api => exact serviceEvent_breaks exact_ taken
  | endpointEvent K kind api => exact iff_of_true (endpointEvent_exact labels exact_ taken) trivial

def cluster (ip : String) : Api where
  services _ := .ok [{
    name := "adder"
    annotations := fun key =>
      if key = "mcp.bridge/enabled" then "true" else if key = "mcp.bridge/namespace" then "math" else "" }]
  endpoints _ _ := .ok [{ addresses := [ip],ports := [{ name := "mcp",port := 8080 }] }]

def noParsers : Parsers := ⟨fun _ => [],fun _ => none⟩

theorem registry_exact_adder :
    Always (step noParsers ["prod"]) (Exact ["prod"]) {}
      [.resync (cluster "10.0.0.1"),.endpointEvent "prod" .modified (cluster "10.0.0.2")] := by
  refine (registry_exact noParsers ["prod"] _ _ rfl).mpr ⟨fun K twice => ?_,fun _ _ => ⟨trivial,fun _ _ => trivial⟩⟩
  rw [count_singleton] at twice
  split at twice <;> omega

/-- An event of the service stores its endpoint under `prod` and not under `math`. -/
theorem stored_under_prod :
    (run (step noParsers ["prod"]) {} [.serviceEvent "prod" .added (cluster "10.0.0.1")]).map (fun t =>
        ((t.registry.get "prod").map (·.ns),(t.registry.get "math").map (·.ns))) = some (["math"],[]) ∧
      ¬Always (step noParsers ["prod"]) (Exact ["prod"]) {} [.serviceEvent "prod" .added (cluster "10.0.0.1")] := by
  refine ⟨rfl,fun always => ?_⟩
  have own := (always.last (t := _) rfl).own "prod" (adder "10.0.0.1") (mem_singleton.mpr rfl)
  revert own
  decide

end McpBridge.KubernetesDiscovery
