import McpBridge.BackendSessions

/-!
The frontends around the router's table of backend sessions. When the read loop of a WebSocket connection ends,
`removeConnection` takes it out of the registry and clears what the table has for its session.
-/
namespace McpBridge.SessionRecords
open Runs BackendSessions Function List
open SseStreams (Call Pc)
open BackendSessions (Forward)

structure Request where
  client : Nat
  call : Call
  scheme : String

/-- The clients and their requests. A client of the HTTP frontend is a single request. -/
structure Site where
  session : Nat → String
  http : Nat → Bool
  requests : Nat → Request
  distinct : Injective session

namespace Site

def client (site : Site) (c : Nat) : Nat := (site.requests c).client

def forwards (site : Site) (c : Nat) : Forward where
  call := (site.requests c).call
  scheme := (site.requests c).scheme
  session := site.session (site.client c)
  visible := true

end Site

inductive ClientPc where
  | absent
  | idle
  | routing (c : Nat)
  | leaving
  | removed
  | gone
  deriving DecidableEq

/-- The forwarders and the clients. -/
structure State where
  router : BackendSessions.State := BackendSessions.init
  client : Nat → ClientPc := fun _ => .absent

def init : State := {}

inductive Label where
  | connect (k : Nat)
  | request (c : Nat)
  | forward (label : BackendSessions.Label)
  | finish (c : Nat)
  | leave (k : Nat)
  | remove (k : Nat)
  | clear (k : Nat)

def State.setClient (s : State) (k : Nat) (pc : ClientPc) : State :=
  { s with client := update s.client k pc }

def outside : Pc → Bool
  | .start | .returned _ | .panicked => true
  | _ => false

section
variable (site : Site)

def permitted (s : State) : BackendSessions.Label → Bool
  | .httpSend c | .sse (.lookup c) => s.client (site.client c) = .routing c
  | .clear _ => false
  | _ => true

/-- One step of a client or a forwarder. -/
def step (s : State) : Label → Option State
  | .connect k => if s.client k = .absent then some (s.setClient k .idle) else none
  | .request c => if s.client (site.client c) = .idle then some (s.setClient (site.client c) (.routing c)) else none
  | .forward label =>
    if permitted site s label then
      (BackendSessions.step site.forwards s.router label).map fun router => { s with router := router }
    else none
  | .finish c =>
    if s.client (site.client c) = .routing c ∧ s.router.http c ≠ .sent ∧ outside (s.router.sse.caller c).pc then
      some (s.setClient (site.client c) (if site.http (site.client c) then .gone else .idle))
    else none
  | .leave k => if s.client k = .idle ∧ site.http k = false then some (s.setClient k .leaving) else none
  | .remove k => if s.client k = .leaving then some (s.setClient k .removed) else none
  | .clear k =>
    if s.client k = .removed then
      (BackendSessions.step site.forwards s.router (.clear (site.session k))).map fun router =>
        { s.setClient k .gone with router := router }
    else none

/-- No client is there. -/
def Quiescent (s : State) : Prop := ∀ k, s.client k = .absent ∨ s.client k = .gone

/-- No session is recorded. -/
def Empty (s : State) : Prop := ∀ session url, s.router.backendSessions session url = none

/-- A backend issues a session to an HTTP client. -/
def Issues : Label → Prop
  | .forward (.httpReply c session) => session ≠ "" ∧ site.http (site.client c) = true
  | _ => False

end

inductive Routed (forwards : Nat → Forward) (s : BackendSessions.State) :
    BackendSessions.Label → BackendSessions.State → Prop where
  | sse {label : SseStreams.Label} {next : BackendSessions.State} (calls : next.http = s.http)
      (table : next.backendSessions = s.backendSessions) : Routed forwards s (.sse label) next
  | send {c : Nat} {next : BackendSessions.State} (calls : next.http = update s.http c .sent)
      (table : next.backendSessions = s.backendSessions) : Routed forwards s (.httpSend c) next
  | reply {c : Nat} {session : String} (sent : s.http c = .sent) :
      Routed forwards s (.httpReply c session)
        { storeBackendSessionID forwards s c session with http := update s.http c .done }
  | fail {c : Nat} (sent : s.http c = .sent) :
      Routed forwards s (.httpFail c) { s with http := update s.http c .done }
  | clear {session : String} :
      Routed forwards s (.clear session) { s with backendSessions := fun frontend url =>
        if frontend = session then none else s.backendSessions frontend url }

variable {label : BackendSessions.Label}

theorem step_routed {forwards : Nat → Forward} {s next : BackendSessions.State}
    (taken : BackendSessions.step forwards s label = some next) : Routed forwards s label next := by
  revert taken
  fun_cases BackendSessions.step forwards s label <;> intro taken
  case case1 =>
    obtain ⟨sse,_,rfl⟩ := Option.map_eq_some_iff.mp taken
    exact .sse rfl rfl
  all_goals cases taken
  case case3 => exact .send rfl rfl
  case case5 sent => exact .reply sent
  case case7 sent => exact .fail sent
  case case9 => exact .clear

section
variable (site : Site)

inductive Effect (s : State) : Label → State → Prop where
  | connect {k : Nat} (here : s.client k = .absent) : Effect s (.connect k) (s.setClient k .idle)
  | request {c : Nat} (here : s.client (site.client c) = .idle) :
      Effect s (.request c) (s.setClient (site.client c) (.routing c))
  | forward {label : BackendSessions.Label} {router : BackendSessions.State} (allowed : permitted site s label = true)
      (routed : Routed site.forwards s.router label router) :
      Effect s (.forward label) { s with router := router }
  | finish {c : Nat} (here : s.client (site.client c) = .routing c) (unsent : s.router.http c ≠ .sent) :
      Effect s (.finish c) (s.setClient (site.client c) (if site.http (site.client c) then .gone else .idle))
  | leave {k : Nat} (here : s.client k = .idle) (socket : site.http k = false) :
      Effect s (.leave k) (s.setClient k .leaving)
  | remove {k : Nat} (here : s.client k = .leaving) : Effect s (.remove k) (s.setClient k .removed)
  | clear {k : Nat} (here : s.client k = .removed) : Effect s (.clear k) { s.setClient k .gone with
        router := { s.router with backendSessions := fun frontend url =>
          if frontend = site.session k then none else s.router.backendSessions frontend url } }

variable {site}

theorem step_effect {s t : State} {label : Label} (taken : step site s label = some t) : Effect site s label t := by
  cases label <;> obtain ⟨here,taken⟩ := Option.ite_none_right_eq_some.mp taken
  case forward =>
    obtain ⟨router,moved,rfl⟩ := Option.map_eq_some_iff.mp taken
    exact .forward here (step_routed moved)
  all_goals cases taken
  case connect => exact .connect here
  case request => exact .request here
  case finish => exact .finish here.1 here.2.1
  case leave => exact .leave here.1 here.2
  case remove => exact .remove here
  case clear => exact .clear here

/-! ### Sessions of connections -/

/-- The client is between its registration and the end of `removeConnection`. -/
def Present (s : State) (k : Nat) : Prop := s.client k ≠ .absent ∧ s.client k ≠ .gone

variable (site) in
/-- An HTTP call that waits is the one its client routes, and what the table holds belongs to connections still
    present. -/
structure Tidy (s : State) : Prop where
  routes : ∀ c, s.router.http c = .sent → s.client (site.client c) = .routing c
  owned : ∀ session url issued, s.router.backendSessions session url = some issued →
    ∃ k, session = site.session k ∧ site.http k = false ∧ Present s k

variable {s : State} {text session url : String} {pc : ClientPc} {c k : Nat}

theorem Tidy.quiet (tidy : Tidy site s) (unsent : ∀ c, s.client k = .routing c → s.router.http c ≠ .sent)
    (c : Nat) (mine : site.client c = k) : s.router.http c ≠ .sent := by
  intro sent
  have routing := tidy.routes c sent
  rw [mine] at routing
  exact unsent c routing sent

theorem present_setClient {k j : Nat} (stays : pc ≠ .absent ∧ pc ≠ .gone)
    (present : Present s j) : Present (s.setClient k pc) j := by
  unfold Present State.setClient
  dsimp only
  by_cases same : j = k
  · rw [same,update_self]
    exact stays
  · rw [update_of_ne same]
    exact present

theorem Tidy.setClient (tidy : Tidy site s)
    (unsent : ∀ c, s.client k = .routing c → s.router.http c ≠ .sent)
    (stays : site.http k = false → pc ≠ .absent ∧ pc ≠ .gone) : Tidy site (s.setClient k pc) := by
  refine ⟨fun c sent => ?_,fun session url issued found => ?_⟩
  · have apart : site.client c ≠ k := fun same => tidy.quiet unsent c same sent
    exact (update_of_ne apart _ _).trans (tidy.routes c sent)
  · obtain ⟨j,named,socket,present⟩ := tidy.owned session url issued found
    refine ⟨j,named,socket,?_⟩
    by_cases same : j = k
    · subst same
      exact present_setClient (stays socket) present
    · unfold Present State.setClient
      dsimp only
      rw [update_of_ne same]
      exact present

theorem store_owned {s : BackendSessions.State} {issued : Issued}
    (found : (storeBackendSessionID site.forwards s c text).backendSessions session url = some issued) :
    s.backendSessions session url = some issued ∨ text ≠ "" ∧ session = site.session (site.client c) := by
  unfold storeBackendSessionID at found
  split at found
  next stored =>
    dsimp only at found
    split at found
    next same => exact .inr ⟨stored.1,same.1⟩
    next => exact .inl found
  next => exact .inl found

theorem waits_still {calls : Nat → HttpPc} {c d : Nat} (waiting : update calls c .done d = .sent) :
    calls d = .sent := by
  by_cases same : d = c
  · rw [same,update_self] at waiting
    cases waiting
  · rwa [update_of_ne same] at waiting

theorem Tidy.routed (tidy : Tidy site s) {router : BackendSessions.State}
    (allowed : permitted site s label = true) (fine : ¬ Issues site (.forward label))
    (routed : Routed site.forwards s.router label router) : Tidy site { s with router := router } := by
  cases routed with
  | sse calls table => exact ⟨fun c sent => tidy.routes c (calls ▸ sent),fun session url issued found =>
      tidy.owned session url issued (table ▸ found)⟩
  | @send c next calls table =>
    refine ⟨fun d sent => ?_,fun session url issued found => tidy.owned session url issued (table ▸ found)⟩
    rw [calls] at sent
    by_cases same : d = c
    · subst same
      exact of_decide_eq_true allowed
    · rw [update_of_ne same] at sent
      exact tidy.routes d sent
  | @reply c text sent =>
    refine ⟨fun d waiting => tidy.routes d (waits_still waiting),fun session url issued found => ?_⟩
    rcases store_owned found with before | ⟨named,mine⟩
    · exact tidy.owned session url issued before
    · refine ⟨site.client c,mine,Bool.eq_false_iff.mpr fun http => fine ⟨named,http⟩,?_⟩
      unfold Present
      rw [tidy.routes c sent]
      exact ⟨nofun,nofun⟩
  | fail => exact ⟨fun d waiting => tidy.routes d (waits_still waiting),tidy.owned⟩
  | clear => cases allowed

/-- Without sessions for requests of the HTTP frontend every step keeps the table tidy. -/
theorem step_tidy (s : State) (label : Label) (t : State) (tidy : Tidy site s) (fine : ¬ Issues site label)
    (taken : step site s label = some t) : Tidy site t := by
  cases step_effect taken with
  | connect here | request here | leave here | remove here =>
    exact tidy.setClient (fun c routing => by rw [here] at routing; cases routing) fun _ => ⟨nofun,nofun⟩
  | forward allowed routed => exact tidy.routed allowed fine routed
  | @finish c here unsent =>
    refine tidy.setClient (fun d routing => ?_) fun socket => ?_
    · rw [here] at routing
      cases routing
      exact unsent
    · rw [socket]
      exact ⟨nofun,nofun⟩
  | @clear k here =>
    have unsent : ∀ c, s.client k = .routing c → s.router.http c ≠ .sent := fun c routing => by
      rw [here] at routing
      cases routing
    refine ⟨fun c sent => ?_,fun session url issued found => ?_⟩
    · have apart : site.client c ≠ k := fun same => tidy.quiet unsent c same sent
      exact (update_of_ne apart _ _).trans (tidy.routes c sent)
    · dsimp only at found
      split at found
      next => cases found
      next other =>
        obtain ⟨j,rfl,socket,present⟩ := tidy.owned session url issued found
        have apart : j ≠ k := fun same => other (congrArg site.session same)
        refine ⟨j,rfl,socket,?_⟩
        unfold Present State.setClient
        dsimp only
        rw [update_of_ne apart]
        exact present

/-! ### Sessions of requests -/

variable (site) in
def Leaks (s : State) : Prop := ∃ k url, site.http k = true ∧ s.router.backendSessions (site.session k) url ≠ none

variable (site) in
/-- Only connections go through `removeConnection`. -/
def Sorted (s : State) : Prop := ∀ k, s.client k = .leaving ∨ s.client k = .removed → site.http k = false

theorem step_sorted (s : State) (label : Label) (t : State) (sorted : Sorted site s)
    (taken : step site s label = some t) : Sorted site t := by
  -- a client that starts to leave is a connection, and the others only change where they stand
  have moved : ∀ k pc, ((pc = .leaving ∨ pc = .removed) → site.http k = false) → Sorted site (s.setClient k pc) := by
    intro k pc here j away
    unfold State.setClient at away
    dsimp only at away
    by_cases same : j = k
    · subst same
      rw [update_self] at away
      exact here away
    · rw [update_of_ne same] at away
      exact sorted j away
  cases step_effect taken with
  | connect | request | clear => exact moved _ _ (by simp)
  | forward => exact sorted
  | finish =>
    refine moved _ _ fun away => ?_
    split at away <;> simp at away
  | leave _ socket => exact moved _ _ fun _ => socket
  | remove here => exact moved _ _ fun _ => sorted _ (.inl here)

theorem store_keeps {s : BackendSessions.State}
    (held : s.backendSessions session url ≠ none) :
    (storeBackendSessionID site.forwards s c text).backendSessions session url ≠ none := by
  unfold storeBackendSessionID
  split
  next =>
    dsimp only
    split
    next => exact nofun
    next => exact held
  next => exact held

theorem step_leaks (s : State) (label : Label) (t : State) (sorted : Sorted site s) (leaks : Leaks site s)
    (taken : step site s label = some t) : Leaks site t := by
  obtain ⟨k,url,http,held⟩ := leaks
  refine ⟨k,url,http,?_⟩
  cases step_effect taken with
  | forward allowed routed =>
    cases routed with
    | sse _ table | send _ table => rwa [← table] at held
    | reply => exact store_keeps held
    | fail => exact held
    | clear => cases allowed
  | @clear j here =>
    have apart : site.session k ≠ site.session j := by
      intro same
      have socket := sorted j (.inr here)
      rw [← site.distinct same,http] at socket
      cases socket
    dsimp only
    rwa [if_neg apart]
  | _ => exact held

theorem leaks_of_issues {s t : State} {label : Label} (issues : Issues site label) (taken : step site s label = some t) :
    Leaks site t := by
  cases step_effect taken with
  | @forward label router allowed routed =>
    cases routed with
    | @reply c text sent =>
      refine ⟨site.client c,(site.requests c).call.url,issues.2,?_⟩
      unfold storeBackendSessionID
      rw [if_pos ⟨issues.1,rfl⟩]
      dsimp only
      rw [if_pos ⟨rfl,rfl⟩]
      exact nofun
    | _ => exact issues.elim
  | _ => exact issues.elim

end

/-- When all clients are gone and no request is in flight, the table is empty exactly when no backend has issued a
    session in reply to a request of the HTTP frontend. -/
theorem table_empty_iff (site : Site) (labels : List Label) (t : State) (executed : run (step site) init labels = some t)
    (quiescent : Quiescent t) : Empty t ↔ ∀ label ∈ labels, ¬ Issues site label := by
  constructor
  · intro empty label member issues
    obtain ⟨first,second,rfl⟩ := append_of_mem member
    obtain ⟨mid,ran,rest⟩ := run_append.mp executed
    obtain ⟨next,taken,tail⟩ := run_cons_eq_some.mp rest
    have start : Sorted site init := fun k away => by
      cases away <;> contradiction
    have sorted : Sorted site next := reaches_keeps step_sorted start ⟨first ++ [label],run_append.mpr
      ⟨mid,ran,run_cons_eq_some.mpr ⟨next,taken,rfl⟩⟩⟩
    have kept : ∀ s label next, Sorted site s ∧ Leaks site s → step site s label = some next →
        Sorted site next ∧ Leaks site next :=
      fun s label next both moved => ⟨step_sorted s label next both.1 moved,step_leaks s label next both.1 both.2 moved⟩
    obtain ⟨-,k,url,-,held⟩ := reaches_keeps kept ⟨sorted,leaks_of_issues issues taken⟩ ⟨second,tail⟩
    exact held (empty _ _)
  · intro fine
    have start : Tidy site init := ⟨nofun,nofun⟩
    have meets : Meets (step site) (fun _ label => ¬ Issues site label) init labels :=
      meets_of_mem fun label member _ => fine label member
    have tidy := run_keeps step_tidy start meets executed
    intro session url
    cases found : t.router.backendSessions session url with
    | none => rfl
    | some issued =>
      obtain ⟨k,-,-,present⟩ := tidy.owned session url issued found
      exact ((quiescent k).elim present.1 present.2).elim

theorem sessions_distinct : Injective fun k => String.ofList (replicate k 's') := by
  intro a b same
  have lists := congrArg String.toList same
  simp only [String.toList_ofList] at lists
  exact (replicate_inj.mp lists).1

def plainSite (http : Bool) : Site where
  session k := String.ofList (replicate k 's')
  http _ := http
  requests c := ⟨c,⟨"http://backend:8080/mcp",{ method := "tools/call", id := .number c }⟩,"http"⟩
  distinct := sessions_distinct

def answered : List Label := [.connect 0,.request 0,.forward (.httpSend 0),.forward (.httpReply 0 "backend-session"),.finish 0]

def disconnected : List Label := answered ++ [.leave 0,.remove 0,.clear 0]

theorem connection_leaves_nothing :
    ∃ t, run (step (plainSite false)) init disconnected = some t ∧ Quiescent t ∧ Empty t := by
  have quiescent : ∀ t, run (step (plainSite false)) init disconnected = some t → Quiescent t := by
    rintro t ⟨⟩ k
    cases k with
    | zero => exact .inr rfl
    | succ k => exact .inl rfl
  refine ⟨_,rfl,quiescent _ rfl,(table_empty_iff (plainSite false) disconnected _ rfl (quiescent _ rfl)).mpr ?_⟩
  intro label member
  simp only [disconnected,answered,cons_append,nil_append,mem_cons,not_mem_nil,or_false] at member
  rcases member with rfl | rfl | rfl | rfl | rfl | rfl | rfl | rfl <;> simp [Issues,plainSite]

/-- One HTTP request to a backend that issues sessions leaves an entry behind. -/
theorem http_request_leaks : ∃ t, run (step (plainSite true)) init answered = some t ∧ Quiescent t ∧ ¬ Empty t := by
  refine ⟨_,rfl,?_,fun empty => ?_⟩
  · intro k
    cases k with
    | zero => exact .inr rfl
    | succ k => exact .inl rfl
  · have held := empty "" "http://backend:8080/mcp"
    cases held

end McpBridge.SessionRecords
