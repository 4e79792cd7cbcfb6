import McpBridge.SseStreams

/-!
The backend session that a forwarded request carries in its `Mcp-Session-Id` header. For HTTP endpoints the router maps
the frontend session and the URL to it; for SSE endpoints it is that of the stream which all calls to the URL share.
-/
namespace McpBridge.BackendSessions
open Runs List
open SseStreams (Call Pc)

/-- One execution of `forwardRequestHTTP`: its endpoint and request, its frontend session, and whether its context has
    it. -/
structure Forward where
  call : Call
  scheme : String
  session : String
  visible : Bool

structure Issued where
  id : String
  call : Nat

/-- The `Mcp-Session-Id` header: a session of a backend, or a frontend session. -/
inductive Header where
  | frontend (session : String)
  | backend (issued : Issued)

structure Sent where
  call : Nat
  header : Option Header

inductive HttpPc where
  | start
  | sent
  | done
  deriving DecidableEq

/-- The forwarders, the table and the requests sent. -/
structure State where
  sse : SseStreams.State := SseStreams.init
  http : Nat → HttpPc := fun _ => .start
  backendSessions : String → String → Option Issued := fun _ _ => none
  sent : List Sent := []

def init : State := {}

inductive Label where
  | sse (label : SseStreams.Label)
  | httpSend (c : Nat)
  /-- A response with this `Mcp-Session-Id` header, empty when it is missing. -/
  | httpReply (c : Nat) (session : String)
  | httpFail (c : Nat)
  | clear (session : String)

section
variable (forwards : Nat → Forward)

/-- `enhanceHTTPRequest`: the backend session for the frontend session and the URL, or else the frontend session. -/
def enhanceHTTPRequest (s : State) (c : Nat) : Option Header :=
  if (forwards c).visible then
    match s.backendSessions (forwards c).session (forwards c).call.url with
    | some issued => some (.backend issued)
    | none => some (.frontend (forwards c).session)
  else none

/-- `storeBackendSessionID`, where the response and the context have their sessions. -/
def storeBackendSessionID (s : State) (c : Nat) (session : String) : State :=
  if session ≠ "" ∧ (forwards c).visible then
    { s with backendSessions := fun frontend url =>
        if frontend = (forwards c).session ∧ url = (forwards c).call.url then some ⟨session,c⟩
        else s.backendSessions frontend url }
  else s

/-- The requests that a step of the SSE path sends; the POST carries the session of the call that opened the stream. -/
def sseSends (next : SseStreams.State) : SseStreams.Label → List Sent
  | .lookup c | .initFail c =>
    match (next.caller c).pc with
    | .initializing | .establishing => [⟨c,none⟩]
    | _ => []
  | .register c =>
    match (next.caller c).pc with
    | .posting st => [⟨c,some (.backend ⟨(next.stream st).sessionID,st⟩)⟩]
    | _ => []
  | _ => []

/-- A call enters the SSE path when the scheme of its endpoint is `sse`. -/
def entersSse : SseStreams.Label → Bool
  | .lookup c => (forwards c).scheme = "sse"
  | _ => true

/-- One step of a forwarder, with what it sends. -/
def step (s : State) : Label → Option State
  | .sse label =>
    if entersSse forwards label then
      (SseStreams.step (fun c => (forwards c).call) s.sse label).map fun next =>
        { s with sse := next, sent := sseSends next label ++ s.sent }
    else none
  | .httpSend c =>
    if s.http c = .start ∧ (forwards c).scheme ≠ "sse" then
      some { s with http := Function.update s.http c .sent, sent := ⟨c,enhanceHTTPRequest forwards s c⟩ :: s.sent }
    else none
  | .httpReply c session =>
    if s.http c = .sent then
      some { storeBackendSessionID forwards s c session with http := Function.update s.http c .done }
    else none
  | .httpFail c =>
    if s.http c = .sent then some { s with http := Function.update s.http c .done } else none
  | .clear session =>
    some { s with backendSessions := fun frontend url =>
        if frontend = session then none else s.backendSessions frontend url }

/-- A request carries no backend session that was issued to a call of another frontend session. -/
def Sent.Own (sent : Sent) : Prop :=
  ∀ issued, sent.header = some (.backend issued) → (forwards issued.call).session = (forwards sent.call).session

/-- No request carries another frontend session's backend session. -/
def Isolated (s : State) : Prop := ∀ sent ∈ s.sent, sent.Own forwards

/-- A call posts on an SSE stream only if its own frontend session opened the stream. -/
def OwnStream (s : State) : Label → Prop
  | .sse (.register c) => ∀ st, (s.sse.caller c).pc = .ready st → (forwards c).call.key?.isSome →
      (forwards st).session = (forwards c).session
  | _ => True

/-- The sessions stored for a frontend session were issued to calls of that session. -/
def Stored (s : State) : Prop :=
  ∀ session url issued, s.backendSessions session url = some issued → (forwards issued.call).session = session

variable {forwards} {s : State}

theorem storeBackendSessionID_stored (stored : Stored forwards s) (c : Nat) (session : String) :
    Stored forwards (storeBackendSessionID forwards s c session) := by
  unfold storeBackendSessionID
  split
  · intro frontend url issued found
    dsimp only at found
    split at found
    · next same =>
      cases found
      exact same.1.symm
    · exact stored frontend url issued found
  · exact stored

theorem step_stored (s : State) (label : Label) (next : State) (stored : Stored forwards s)
    (taken : step forwards s label = some next) : Stored forwards next := by
  revert taken
  fun_cases step forwards s label <;> intro taken
  case case1 =>
    obtain ⟨sse,_,rfl⟩ := Option.map_eq_some_iff.mp taken
    exact stored
  all_goals cases taken
  case case3 | case7 => exact stored
  case case5 c session _ => exact storeBackendSessionID_stored stored c session
  case case9 session =>
    intro frontend url issued found
    dsimp only at found
    split at found
    · cases found
    · exact stored frontend url issued found

theorem enhanceHTTPRequest_own (stored : Stored forwards s) (c : Nat) :
    Sent.Own forwards ⟨c,enhanceHTTPRequest forwards s c⟩ := by
  intro issued found
  simp only [enhanceHTTPRequest] at found
  split at found
  · split at found <;> cases found
    next held => exact stored _ _ issued held
  · cases found

theorem sseSends_own_iff {label : SseStreams.Label} {next : SseStreams.State}
    (taken : SseStreams.step (fun c => (forwards c).call) s.sse label = some next) :
    (∀ sent ∈ sseSends next label, sent.Own forwards) ↔ OwnStream forwards s (.sse label) := by
  cases label with
  | register c =>
    obtain ⟨st,here,there⟩ := SseStreams.register_pc taken
    simp only [sseSends,OwnStream,there,here]
    by_cases hashable : (forwards c).call.key?.isSome = true
    · simp [hashable,Sent.Own]
    · simp [hashable]
  | lookup | initFail =>
    simp only [sseSends,OwnStream]
    split <;> simp [Sent.Own]
  | _ => simp [sseSends,OwnStream]

theorem step_isolated_iff (s : State) (label : Label) (next : State) (stored : Stored forwards s)
    (taken : step forwards s label = some next) :
    Isolated forwards next ↔ Isolated forwards s ∧ OwnStream forwards s label := by
  revert taken
  fun_cases step forwards s label <;> intro taken
  case case1 =>
    obtain ⟨sse,moved,rfl⟩ := Option.map_eq_some_iff.mp taken
    rw [← sseSends_own_iff moved]
    simp only [Isolated,mem_append]
    exact ⟨fun all => ⟨fun sent old => all sent (.inr old),fun sent new => all sent (.inl new)⟩,
      fun both sent member => member.elim (both.2 sent) (both.1 sent)⟩
  all_goals cases taken
  case case3 c _ =>
    have own := enhanceHTTPRequest_own stored c
    simp [Isolated,OwnStream,own]
  case case5 c session _ =>
    have kept : (storeBackendSessionID forwards s c session).sent = s.sent := by
      unfold storeBackendSessionID
      split <;> rfl
    simp [Isolated,OwnStream,kept]
  case case7 | case9 => simp [Isolated,OwnStream]

/-- No request ever carries a backend session of another frontend session exactly when every POST over an SSE stream is
    for the frontend session that opened it. -/
theorem backend_sessions_isolated_iff (forwards : Nat → Forward) (labels : List Label) (t : State)
    (executed : run (step forwards) init labels = some t) :
    Isolated forwards t ↔ Meets (step forwards) (OwnStream forwards) init labels := by
  have start : Stored forwards init := fun _ _ _ found => by cases found
  have clear : Isolated forwards init := by simp [Isolated,init]
  rw [run_safe_iff step_stored step_isolated_iff start executed]
  simp [clear]

def httpForwards (c : Nat) : Forward where
  call := ⟨"http://backend:8080/mcp",{ method := "tools/call", id := .number c }⟩
  scheme := "http"
  session := if c % 2 = 0 then "alice" else "bob"
  visible := true

def httpRun : List Label :=
  [.httpSend 0,.httpSend 1,.httpReply 1 "for-bob",.httpReply 0 "for-alice",.httpSend 2]

theorem http_sessions_isolated : ∃ t, run (step httpForwards) init httpRun = some t ∧
      ⟨2,some (.backend ⟨"for-alice",0⟩)⟩ ∈ t.sent ∧ Isolated httpForwards t := by
  refine ⟨_,rfl,mem_cons_self ..,(backend_sessions_isolated_iff httpForwards httpRun _ rfl).mpr ?_⟩
  apply meets_of_mem
  intro label member s
  simp only [httpRun,mem_cons,not_mem_nil,or_false] at member
  rcases member with rfl | rfl | rfl | rfl | rfl <;> trivial

def sharedForwards (c : Nat) : Forward where
  call := ⟨"http://backend:8080/mcp",{ method := "tools/call", id := .number c }⟩
  scheme := "sse"
  session := if c = 0 then "alice" else "bob"
  visible := true

def sharedRun : List Label :=
  [.sse (.lookup 0),.sse (.getOk 0 "backend-session"),.sse (.store 0),.sse (.register 0),.sse (.lookup 1),
    .sse (.register 1)]

theorem shared_stream_crosses_sessions : ∃ t, run (step sharedForwards) init sharedRun = some t ∧
      ⟨1,some (.backend ⟨"backend-session",0⟩)⟩ ∈ t.sent ∧ (sharedForwards 1).session = "bob" ∧
      (sharedForwards 0).session = "alice" ∧ ¬ Isolated sharedForwards t := by
  refine ⟨_,rfl,mem_cons_self ..,rfl,rfl,?_⟩
  intro isolated
  have own := isolated ⟨1,some (.backend ⟨"backend-session",0⟩)⟩ (mem_cons_self ..) _ rfl
  exact absurd own (by decide)

end
end McpBridge.BackendSessions
