import McpBridge.BreakerIsolation

/-!
Which HTTP clients the router discards. A clean-up lists the namespaces with a load balancer, asks discovery for their
endpoints, and discards the clients of all others.
-/
namespace McpBridge.HealthChecks
open Runs LoadBalancers Routing List Function

inductive Note where
  | cached (j : Nat) (namespaces : List String)
  | asked (j : Nat) (ns : String) (endpoints : List Endpoint)

/-- What a step tells a clean-up. -/
def notes (s : State) : Label → List Note
  | .listNamespaces j => [.cached j s.balancers.keys]
  | .collect j =>
    match s.cleanups j with
    | .collecting (ns :: _) _ => [.asked j ns (s.listing ns)]
    | _ => []
  | _ => []

/-- The clean-up was told of an endpoint with this key. -/
def Seen (history : List Note) (j : Nat) (key : String) : Prop :=
  ∃ namespaces ns endpoints ep, Note.cached j namespaces ∈ history ∧ ns ∈ namespaces ∧
    Note.asked j ns endpoints ∈ history ∧ ep ∈ endpoints ∧ getEndpointKey ep = key

/-- A step of the clean-up `j` is written down. -/
def About (j : Nat) : Note → Prop
  | .cached i _ => i = j
  | .asked i _ _ => i = j

def Informed (history : List Note) (j : Nat) : CleanupPc → Prop
  | .start => ∀ note ∈ history, ¬ About j note
  | .invalidated => ∀ note ∈ history, ¬ About j note
  | .collecting rest keys =>
    (∃ namespaces, Note.cached j namespaces ∈ history ∧ rest ⊆ namespaces) ∧ ∀ key, key ∈ keys ↔ Seen history j key
  | .done => True

structure Recorded (history : List Note) (s : State) : Prop where
  fresh : ∀ j, s.invalidations ≤ j → s.cleanups j = .start
  informed : ∀ j, Informed history j (s.cleanups j)

section
variable {history : List Note} {j : Nat} {key : String} {note : Note}

theorem seen_cons (note : Note) (seen : Seen history j key) : Seen (note :: history) j key := by
  obtain ⟨namespaces,ns,endpoints,ep,cached,inside,asked,listed,same⟩ := seen
  exact ⟨namespaces,ns,endpoints,ep,mem_cons_of_mem _ cached,inside,mem_cons_of_mem _ asked,listed,same⟩

theorem seen_cons_other (other : ¬ About j note) : Seen (note :: history) j key ↔ Seen history j key := by
  refine ⟨?_,seen_cons note⟩
  rintro ⟨namespaces,ns,endpoints,ep,cached,inside,asked,listed,same⟩
  rcases mem_cons.mp cached with rfl | earlier
  · exact absurd rfl other
  rcases mem_cons.mp asked with rfl | before
  · exact absurd rfl other
  exact ⟨namespaces,ns,endpoints,ep,earlier,inside,before,listed,same⟩

theorem seen_cons_asked {ns : String} {endpoints : List Endpoint} {namespaces : List String}
    (known : Note.cached j namespaces ∈ history) (inside : ns ∈ namespaces) :
    Seen (.asked j ns endpoints :: history) j key ↔ Seen history j key ∨ key ∈ endpoints.map getEndpointKey := by
  constructor
  · rintro ⟨others,place,answer,ep,cached,within,asked,listed,same⟩
    have earlier : Note.cached j others ∈ history := (mem_cons.mp cached).resolve_left nofun
    rcases mem_cons.mp asked with now | before
    · cases now
      exact .inr (mem_map.mpr ⟨ep,listed,same⟩)
    · exact .inl ⟨others,place,answer,ep,earlier,within,before,listed,same⟩
  · rintro (seen | told)
    · exact seen_cons _ seen
    · obtain ⟨ep,listed,same⟩ := mem_map.mp told
      exact ⟨namespaces,ns,endpoints,ep,mem_cons_of_mem _ known,inside,mem_cons_self,listed,same⟩

theorem informed_cons_other {pc : CleanupPc} (other : ¬ About j note) (informed : Informed history j pc) :
    Informed (note :: history) j pc := by
  cases pc with
  | start | invalidated => exact forall_mem_cons.mpr ⟨other,informed⟩
  | done => trivial
  | collecting rest keys =>
    obtain ⟨⟨namespaces,cached,waiting⟩,known⟩ := informed
    refine ⟨⟨namespaces,mem_cons_of_mem _ cached,waiting⟩,fun key => ?_⟩
    rw [known key,seen_cons_other other]

theorem informed_append_others {told : List Note} {pc : CleanupPc} (others : ∀ note ∈ told, ¬ About j note)
    (informed : Informed history j pc) : Informed (told ++ history) j pc := by
  induction told with
  | nil => exact informed
  | cons note rest ih =>
    obtain ⟨first,later⟩ := forall_mem_cons.mp others
    exact informed_cons_other first (ih later)

theorem about_unique {i : Nat} (mine : About j note) (other : i ≠ j) : ¬ About i note := by
  intro also
  cases note with
  | cached | asked => exact other (also.symm.trans mine)

end

section
variable {config : RoutingConfig} {scheme? : String → Option String} {history : List Note} {s t : State}

theorem Recorded.congr (recorded : Recorded history s) (places : t.cleanups = s.cleanups)
    (count : t.invalidations = s.invalidations) : Recorded history t :=
  ⟨fun j later => by rw [places]; exact recorded.fresh j (count ▸ later),fun j => by rw [places]; exact recorded.informed j⟩

theorem Recorded.move (recorded : Recorded history s) {told : List Note} {j : Nat} {pc : CleanupPc}
    (places : t.cleanups = update s.cleanups j pc) (count : t.invalidations = s.invalidations)
    (mine : ∀ note ∈ told, About j note) (begun : s.cleanups j ≠ .start) (informed : Informed (told ++ history) j pc) :
    Recorded (told ++ history) t := by
  refine ⟨fun i later => ?_,fun i => ?_⟩
  · rw [count] at later
    have apart : i ≠ j := by
      rintro rfl
      exact begun (recorded.fresh i later)
    rw [places,update_of_ne apart]
    exact recorded.fresh i later
  · rw [places]
    by_cases same : i = j
    · subst same
      rw [update_self]
      exact informed
    · rw [update_of_ne same]
      exact informed_append_others (fun note inside => about_unique (mine note inside) same) (recorded.informed i)

theorem step_recorded (history : List Note) (s : State) (label : Label) (t : State) (recorded : Recorded history s)
    (taken : step config scheme? s label = some t) : Recorded (notes s label ++ history) t := by
  cases step_effect taken with
  | @invalidate ns =>
    have idle := recorded.informed s.invalidations
    rw [recorded.fresh s.invalidations (Nat.le_refl _)] at idle
    refine ⟨fun i later => ?_,fun i => ?_⟩
    · have bound : s.invalidations + 1 ≤ i := later
      have apart : i ≠ s.invalidations := by omega
      exact (update_of_ne apart _ _).trans (recorded.fresh i (by omega))
    · show Informed history i (update s.cleanups s.invalidations .invalidated i)
      by_cases same : i = s.invalidations
      · subst same
        rw [update_self]
        exact idle
      · rw [update_of_ne same]
        exact recorded.informed i
  | @listNamespaces j here =>
    have idle := recorded.informed j
    rw [here] at idle
    refine recorded.move rfl rfl ?_ ?_ ⟨⟨s.balancers.keys,mem_cons_self,fun _ => id⟩,fun key => ?_⟩
    · intro note inside
      obtain rfl := mem_singleton.mp inside
      rfl
    · rw [here]
      nofun
    · refine iff_of_false not_mem_nil ?_
      rintro ⟨namespaces,ns,endpoints,ep,-,-,asked,-⟩
      exact idle _ ((mem_cons.mp asked).resolve_left nofun) rfl
  | @collect j ns rest keys here =>
    have known := recorded.informed j
    rw [here] at known
    obtain ⟨⟨namespaces,cached,waiting⟩,seen⟩ := known
    have told : notes s (.collect j) = [.asked j ns (s.listing ns)] := by
      simp only [notes,here]
    rw [told]
    refine recorded.move rfl rfl ?_ ?_ ⟨⟨namespaces,mem_cons_of_mem _ cached,?_⟩,fun key => ?_⟩
    · intro note inside
      obtain rfl := mem_singleton.mp inside
      rfl
    · rw [here]
      nofun
    · exact fun other inside => waiting (mem_cons_of_mem _ inside)
    · rw [mem_append,seen key]
      exact (seen_cons_asked cached (waiting mem_cons_self)).symm
  | @discard j keys here =>
    refine recorded.move rfl rfl nofun ?_ trivial
    rw [here]
    nofun
  | refused | reply | fail =>
    refine recorded.congr ?_ ?_
    all_goals
      unfold State.find
      split <;> rfl
  | probe | client =>
    refine recorded.congr ?_ ?_
    all_goals
      unfold State.addClient
      split <;> rfl
  | autoRecovery =>
    refine recorded.congr ?_ ?_
    all_goals
      unfold State.autoRecovery
      split <;> rfl
  | _ => exact recorded.congr rfl rfl

theorem collected_iff_seen {registry : Registry} {labels : List Label} {j : Nat}
    {rest keys : List String} (executed : run (step config scheme?) (init registry) labels = some s)
    (here : s.cleanups j = .collecting rest keys) (key : String) :
    key ∈ keys ↔ Seen (emitted (step config scheme?) notes (init registry) labels) j key := by
  have start : Recorded [] (init registry) := ⟨fun _ _ => rfl,fun _ => nofun⟩
  have recorded := run_keeps_log step_recorded start executed
  have informed := recorded.informed j
  rw [here,append_nil] at informed
  exact informed.2 key

theorem clients_addClient (s : State) (ep : Endpoint) : s.clients ⊆ (s.addClient ep).clients := by
  unfold State.addClient
  split
  · exact fun _ => id
  · exact fun _ => mem_cons_of_mem _

theorem step_clients {label : Label} (taken : step config scheme? s label = some t) :
    (∀ j, label ≠ .discard j) ∧ s.clients ⊆ t.clients ∨
      ∃ j keys, label = .discard j ∧ s.cleanups j = .collecting [] keys ∧
        t.clients = s.clients.filter (keys.contains ·) := by
  cases step_effect taken with
  | @discard j keys here => exact .inr ⟨j,keys,rfl,here,rfl⟩
  | @probe k c scheme =>
    exact .inl ⟨nofun,clients_addClient (s.setCheck k { c with pc := .probing }) c.endpoint⟩
  | client => exact .inl ⟨nofun,clients_addClient s _⟩
  | refused | reply | fail =>
    refine .inl ⟨nofun,?_⟩
    unfold State.find
    split <;> exact fun _ => id
  | autoRecovery =>
    refine .inl ⟨nofun,?_⟩
    unfold State.autoRecovery
    split <;> exact fun _ => id
  | _ => exact .inl ⟨nofun,fun _ => id⟩

end

/-- The endpoints whose clients a step discards are discovered under no namespace, exactly when a clean-up that the step
    ends was told of every discovered endpoint that has a client. -/
theorem discarded_clients_unlisted_iff (config : RoutingConfig) (scheme? : String → Option String)
    (registry : Registry) (labels : List Label) (s : State)
    (executed : run (step config scheme?) (init registry) labels = some s) (label : Label) (t : State)
    (taken : step config scheme? s label = some t) :
    (∀ ep, getEndpointKey ep ∈ s.clients → getEndpointKey ep ∉ t.clients → ep ∉ s.getAllEndpoints) ↔
      ∀ j, label = .discard j → ∀ ep ∈ s.getAllEndpoints, getEndpointKey ep ∈ s.clients →
        Seen (emitted (step config scheme?) notes (init registry) labels) j (getEndpointKey ep) := by
  rcases step_clients taken with ⟨other,kept⟩ | ⟨j,keys,rfl,here,left⟩
  · exact iff_of_true (fun ep had gone => absurd (kept had) gone) fun j same => absurd same (other j)
  · have seen := collected_iff_seen executed here
    have gone : ∀ key ∈ s.clients, key ∉ t.clients ↔ key ∉ keys := by
      intro key had
      rw [left,mem_filter,contains_iff_mem]
      exact not_congr (and_iff_right had)
    constructor
    · rintro spared i ⟨⟩ ep listed had
      rw [← seen]
      by_contra missing
      exact spared ep had ((gone _ had).mpr missing) listed
    · intro told ep had lost listed
      exact (gone _ had).mp lost ((seen _).mpr (told j rfl ep listed had))

/-- A request uses the client of the endpoint of `tools` while another namespace is cleaned up. -/
def foreignCleanup : List Label :=
  [.select "tools",.enter 0,.client 0,.invalidate "files",.listNamespaces 0,.collect 0]

theorem foreign_cleanup_spares :
    ∃ s t, run (step defaultRouting schemeOf) (init (toolsRegistry "http")) foreignCleanup = some s ∧
      step defaultRouting schemeOf s (.discard 0) = some t ∧
      ∀ ep, getEndpointKey ep ∈ s.clients → getEndpointKey ep ∉ t.clients → ep ∉ s.getAllEndpoints := by
  refine ⟨_,_,rfl,rfl,(discarded_clients_unlisted_iff defaultRouting schemeOf (toolsRegistry "http") foreignCleanup _ rfl
    (.discard 0) _ rfl).mpr ?_⟩
  rintro j ⟨⟩ ep listed -
  obtain rfl := mem_singleton.mp listed
  exact ⟨["tools"],"tools",[toolsEndpoint "http"],toolsEndpoint "http",mem_cons_of_mem _ mem_cons_self,
    mem_cons_self,mem_cons_self,mem_cons_self,rfl⟩

/-- The namespace of an endpoint in use gets a second endpoint, and the next clean-up discards the first one's client. -/
theorem changed_namespace_loses_client : ∃ s t, run (step defaultRouting schemeOf) (init (toolsRegistry "http"))
        [.select "tools",.enter 0,.client 0,.discover sharedHost.entries,.invalidate "tools",.listNamespaces 0] = some s ∧
      step defaultRouting schemeOf s (.discard 0) = some t ∧
      getEndpointKey (toolsEndpoint "http") ∈ s.clients ∧ getEndpointKey (toolsEndpoint "http") ∉ t.clients ∧
      toolsEndpoint "http" ∈ s.getAllEndpoints :=
  ⟨_,_,rfl,rfl,mem_cons_self,not_mem_nil,mem_cons_self⟩

end McpBridge.HealthChecks
