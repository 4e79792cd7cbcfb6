import McpBridge.Runs
import McpBridge.Sessions
import McpBridge.Values

/-!
The frontends of the gateway, from a client's message to the call of `Router.RouteRequest`. A frontend decodes the
message and puts the client's session into the context; the router reads the session back under its own key.
-/
namespace McpBridge.Frontends
open Runs Values Outcomes Auth Sessions List

inductive KeyType where
  | common
  | sse
  | tcp
  | logging
  | errors
  | opentracing
  | netHttp
  deriving DecidableEq

/-- A context key: two keys are equal when their types and their values are. -/
structure CtxKey where
  type : KeyType
  name : String
  deriving DecidableEq

/-- A value in a context; only sessions are told apart. -/
inductive CtxValue where
  | session (session : Session)
  | other

/-- A Go context, as the values added to it, the last first; `ctx.Value` is `List.lookup`. -/
abbrev Ctx := List (CtxKey × CtxValue)

def sessionContextKey : CtxKey := ⟨.common,"session"⟩

def sessionOf (ctx : Ctx) : Option Session :=
  match ctx.lookup sessionContextKey with
  | some (.session session) => some session
  | _ => none

def contextWithTracing (ctx : Ctx) : Ctx :=
  (⟨.logging,"request_start_time"⟩,.other) :: (⟨.logging,"request_id"⟩,.other) :: (⟨.logging,"trace_id"⟩,.other) :: ctx

def contextWithUserInfo (ctx : Ctx) (userID sessionID : String) : Ctx :=
  let ctx := if userID = "" then ctx else (⟨.logging,"user_id"⟩,.other) :: ctx
  if sessionID = "" then ctx else (⟨.logging,"session_id"⟩,.other) :: ctx

/-- The context of a request in `net/http`. -/
def httpRequestContext : Ctx := [(⟨.netHttp,"local-addr"⟩,.other),(⟨.netHttp,"http-server"⟩,.other)]

def enrichContextWithRequest (ctx : Ctx) (req : Request) (ns : String) : Ctx :=
  let ctx := if req.method = "" then ctx else (⟨.errors,"method"⟩,.other) :: ctx
  let ctx := (⟨.errors,"protocol"⟩,.other) :: ctx
  let ctx := if ns = "" then ctx else (⟨.errors,"namespace"⟩,.other) :: ctx
  if req.id.key? = some (.string "") then ctx else (⟨.errors,"request_id"⟩,.other) :: ctx

def startSpanFromContext (ctx : Ctx) : Ctx := (⟨.opentracing,"activeSpan"⟩,.other) :: ctx

structure RouteCall where
  ctx : Ctx
  request : Request
  targetNamespace : String

namespace RouteCall

def routeSession (call : RouteCall) : Option Session :=
  sessionOf (enrichContextWithRequest call.ctx call.request call.targetNamespace)

/-- The context that `RouteRequest` hands on, with the session added again. -/
def routedContext (call : RouteCall) : Ctx :=
  let ctx := startSpanFromContext (enrichContextWithRequest call.ctx call.request call.targetNamespace)
  match call.routeSession with
  | some session => (sessionContextKey,.session session) :: ctx
  | none => ctx

/-- The session that the forwarders read, below the span of `forwardRequest`. -/
def forwardSession (call : RouteCall) : Option Session := sessionOf (startSpanFromContext call.routedContext)

end RouteCall

theorem sessionOf_cons {key : CtxKey} {value : CtxValue} (ctx : Ctx) (other : key.type ≠ .common) :
    sessionOf ((key,value) :: ctx) = sessionOf ctx := by
  have miss : (sessionContextKey == key) = false := by
    rw [beq_eq_false_iff_ne]
    rintro rfl
    exact other rfl
  simp only [sessionOf,lookup_cons,miss]

theorem sessionOf_enrich (ctx : Ctx) (req : Request) (ns : String) :
    sessionOf (enrichContextWithRequest ctx req ns) = sessionOf ctx := by
  have errors : ∀ (name : String) (ctx : Ctx), sessionOf ((⟨.errors,name⟩,.other) :: ctx) = sessionOf ctx :=
    fun name ctx => sessionOf_cons ctx (by simp)
  unfold enrichContextWithRequest
  split <;> split <;> split <;> simp [errors]

theorem routed_session (call : RouteCall) :
    call.routeSession = sessionOf call.ctx ∧ call.forwardSession = sessionOf call.ctx := by
  have route : call.routeSession = sessionOf call.ctx := sessionOf_enrich ..
  refine ⟨route,?_⟩
  unfold RouteCall.forwardSession RouteCall.routedContext startSpanFromContext
  rw [sessionOf_cons _ (by simp),route]
  cases found : sessionOf call.ctx with
  | some session => simp [sessionOf]
  | none =>
    rw [sessionOf_cons _ (by simp),sessionOf_enrich,found]

/-- What a client sends: bytes that are no JSON, or a JSON value. -/
inductive Data where
  | malformed (cause : String)
  | json (value : Any)

structure WireMessage where
  id : Any := .null
  timestamp : String := ""
  source : String := ""
  targetNamespace : String := ""
  mcpPayload : Any := .null
  authToken : String := ""

def wireMessageFields (reading : Reading) : List (StructField WireMessage) :=
  [interfaceField reading "id" fun m v => { m with id := v },
   stringField "WireMessage" "timestamp" fun m text => { m with timestamp := text },
   stringField "WireMessage" "source" fun m text => { m with source := text },
   stringField "WireMessage" "target_namespace" fun m text => { m with targetNamespace := text },
   interfaceField reading "mcp_payload" fun m v => { m with mcpPayload := v },
   stringField "WireMessage" "auth_token" fun m text => { m with authToken := text }]

def validationError {α : Type} (message : String) : Except String α := .error ("VALIDATION: " ++ message)

/-- The decoding of the WebSocket, HTTP and SSE frontends, each with its `WireMessage`: the request and its
    namespace. -/
def decodeMessage (reading : Reading) (package : String) : Data → Except String (Request × String)
  | .malformed cause => validationError ("invalid wire message: " ++ cause)
  | .json value =>
    match decodeStruct (package ++ ".WireMessage") (wireMessageFields reading) {} value with
    | .error cause => validationError ("invalid wire message: " ++ cause)
    | .ok wire =>
      match wire.mcpPayload with
      | .null => validationError "missing MCP payload"
      | payload =>
        match decodeRequest reading (reading.write payload) with
        | .error cause => validationError ("invalid MCP request: " ++ cause)
        | .ok request => .ok (request,wire.targetNamespace)

inductive Frontend where
  | webSocket
  | http
  | sse
  | tcp
  deriving DecidableEq

/-- The authentication of an `Authorization` header, and the session manager, which is given a new identifier. -/
structure Services where
  authenticate : String → Int → Outcome Claims
  createSession : String → Claims → Int → Outcome Session

/-- A WebSocket connection, an SSE stream or a TCP connection, with its authenticated user. -/
structure Connection where
  frontend : Frontend
  user : String
  session : Session

/-- Who sent a message and when: the authenticated user, and the session of the connection or the call. -/
structure Client where
  frontend : Frontend
  user : String
  session : Session
  time : Int

/-- A call of the router, and the client that it serves. -/
structure Routed where
  client : Client
  call : RouteCall

/-- The frontends' clients, and what reached the router. -/
structure State where
  connection : Nat → Option Connection := fun _ => none
  log : List Routed := []
  crashed : Bool := false

def init : State := {}

/-- What comes to the frontends. -/
inductive Label where
  | connect (frontend : Frontend) (c : Nat) (header id : String) (now : Int)
  | accept (c : Nat) (id : String) (now : Int)
  | wsMessage (c : Nat) (text : Bool) (data : Data) (now : Int)
  | httpRequest (method header id : String) (data : Data) (now : Int)
  /-- A POST to the SSE frontend, which takes a stream of the user. -/
  | ssePost (c : Nat) (header : String) (data : Data) (now : Int)
  | tcpRequest (c : Nat) (request : Request) (now : Int)
  | close (c : Nat)

/-- `processClientMessage` of the WebSocket frontend: the connection's context holds nothing else. -/
def processClientMessage (client : Connection) (data : Data) : Except String RouteCall := do
  let (request,ns) ← decodeMessage .plain "websocket" data
  pure ⟨[(sessionContextKey,.session client.session)],request,ns⟩

def processSSERequest (claims : Claims) (stream : Connection) (data : Data) : Except String RouteCall := do
  let (request,ns) ← decodeMessage .plain "sse" data
  let ctx := contextWithUserInfo (contextWithTracing httpRequestContext) claims.subject ""
  pure ⟨(⟨.sse,"session"⟩,.session stream.session) :: ctx,request,ns⟩

def processTCPRequest (client : Connection) (request : Request) : RouteCall :=
  ⟨(⟨.tcp,"session"⟩,.session client.session) :: contextWithTracing [],request,""⟩

section
variable (services : Services)

def login (header id : String) (now : Int) : Outcome (Claims × Session) := do
  let claims ← services.authenticate header now
  let session ← services.createSession id claims now
  pure (claims,session)

/-- `processRequest` of the HTTP frontend, which creates a session for every call. -/
def processHTTPRequest (claims : Claims) (id : String) (data : Data) (now : Int) : Outcome (Session × RouteCall) := do
  let (request,ns) ← Outcome.ofExcept (decodeMessage .plain "http" data)
  let session ← services.createSession id claims now
  let ctx := contextWithUserInfo (contextWithTracing httpRequestContext) claims.subject ""
  pure (session,⟨(sessionContextKey,.session session) :: ctx,request,ns⟩)

/-- The call of the router that a message leads to; a refused one, and a handler that panics, lead to none. -/
def routed (s : State) : Label → Option Routed
  | .wsMessage c text data now =>
    match s.connection c with
    | some client =>
      if client.frontend = .webSocket ∧ text then
        match processClientMessage client data with
        | .ok call => some ⟨⟨.webSocket,client.user,client.session,now⟩,call⟩
        | .error _ => none
      else none
    | none => none
  | .httpRequest method header id data now =>
    if method = "POST" then
      match services.authenticate header now with
      | .value claims =>
        match processHTTPRequest services claims id data now with
        | .value (session,call) => some ⟨⟨.http,claims.subject,session,now⟩,call⟩
        | _ => none
      | _ => none
    else none
  | .ssePost c header data now =>
    match services.authenticate header now with
    | .value claims =>
      match s.connection c with
      | some stream =>
        -- `findStreamByUser` takes any stream whose session has the user
        if stream.frontend = .sse ∧ stream.session.user = claims.subject then
          match processSSERequest claims stream data with
          | .ok call => some ⟨⟨.sse,claims.subject,stream.session,now⟩,call⟩
          | .error _ => none
        else none
      | none => none
    | _ => none
  | .tcpRequest c request now =>
    match s.connection c with
    | some client =>
      if client.frontend = .tcp then
        some ⟨⟨.tcp,client.user,client.session,now⟩,processTCPRequest client request⟩
      else none
    | none => none
  | _ => none

/-- One event at a frontend. -/
def step (s : State) (label : Label) : Option State :=
  if s.crashed then none
  else match label with
    | .connect frontend c header id now =>
      if (frontend = .webSocket ∨ frontend = .sse) ∧ (s.connection c).isNone then
        match login services header id now with
        | .value (claims,session) =>
          some { s with connection := Function.update s.connection c (some ⟨frontend,claims.subject,session⟩) }
        | _ => some s
      else none
    | .accept c id now =>
      if (s.connection c).isNone then
        match services.createSession id {} now with
        | .value session =>
          some { s with connection := Function.update s.connection c (some ⟨.tcp,session.user,session⟩) }
        | .error _ => some s
        | .panic => some { s with crashed := true }
      else none
    | .close c => some { s with connection := Function.update s.connection c none }
    | label => some { s with log := (routed services s label).toList ++ s.log }

variable (s : State) (label : Label) (next : State)

theorem step_log (taken : step services s label = some next) :
    next.log = (routed services s label).toList ++ s.log := by
  revert taken
  fun_cases step services s label <;> rintro ⟨⟩ <;> rfl

/-! ### The session of a call -/

/-- `RouteRequest` and the forwarders read the session of the client. -/
def Routed.Propagated (routed : Routed) : Prop :=
  routed.call.routeSession = some routed.client.session ∧ routed.call.forwardSession = some routed.client.session

theorem propagated_iff (routed : Routed) : routed.Propagated ↔ sessionOf routed.call.ctx = some routed.client.session := by
  obtain ⟨route,forward⟩ := routed_session routed.call
  rw [Routed.Propagated,route,forward,and_self]

theorem sessionOf_base (user : String) :
    sessionOf (contextWithUserInfo (contextWithTracing httpRequestContext) user "") = none ∧
      sessionOf (contextWithTracing []) = none := by
  constructor
  · unfold contextWithUserInfo
    by_cases empty : user = "" <;> simp only [empty,↓reduceIte] <;> rfl
  · rfl

/-- A call carries its client's session exactly when its frontend shares the key of the router. -/
def SharedKey (entry : Routed) : Prop :=
  entry.Propagated ↔ entry.client.frontend = .webSocket ∨ entry.client.frontend = .http

/-- The SSE and the TCP frontend store the session under a key of their own. -/
theorem routed_sharedKey {s : State} {label : Label} {entry : Routed} (found : routed services s label = some entry) :
    SharedKey entry := by
  rw [SharedKey,propagated_iff]
  revert found
  fun_cases routed services s label <;> rintro ⟨⟩
  case case1 data _ client _ _ call made =>
    unfold processClientMessage at made
    cases decoded : decodeMessage .plain "websocket" data <;> rw [decoded] at made <;> cases made
    simp [sessionOf]
  case case5 claims _ session call made =>
    simp only [processHTTPRequest,Outcome.bind_eq_value] at made
    obtain ⟨pair,decoded,_,created,returned⟩ := made
    cases returned
    simp [sessionOf]
  case case9 data _ claims _ stream _ _ call made =>
    unfold processSSERequest at made
    cases decoded : decodeMessage .plain "sse" data <;> rw [decoded] at made <;> cases made
    rw [sessionOf_cons _ (by simp),(sessionOf_base _).1]
    simp
  case case14 client _ _ =>
    rw [processTCPRequest,sessionOf_cons _ (by simp),(sessionOf_base "").2]
    simp

/-- The session that the router and the forwarders read is the client's exactly for WebSocket and HTTP clients. -/
theorem session_propagates_iff (services : Services) (labels : List Label) (t : State)
    (executed : run (step services) init labels = some t) (entry : Routed) (logged : entry ∈ t.log) :
    entry.Propagated ↔ entry.client.frontend = .webSocket ∨ entry.client.frontend = .http := by
  have kept : ∀ s label next, (∀ entry ∈ s.log, SharedKey entry) → step services s label = some next →
      ∀ entry ∈ next.log, SharedKey entry := by
    intro s label next before taken entry member
    rw [step_log services s label next taken,mem_append,Option.mem_toList] at member
    rcases member with new | old
    · exact routed_sharedKey services new
    · exact before entry old
  exact reaches_keeps kept (fun _ none => by cases none) ⟨labels,executed⟩ entry logged

/-- An authentication that takes the header for the user, with claims that expire after a minute, and sessions in
    memory. -/
def smallGateway : Services where
  authenticate header _ :=
    if header = "" then .error "missing Authorization header"
    else .value { subject := header, expiresAt := some (60 * second), rateLimit := ⟨1,1⟩ }
  createSession := (Manager.memory fun _ => none).createSession

def listTools : Data :=
  .json (.object [("mcp_payload",.object [("jsonrpc",.string "2.0"),("method",.string "tools/list"),("id",.number 1)])])

def sharedKeyRun : List Label :=
  [.connect .webSocket 0 "alice" "first" 0,.wsMessage 0 true listTools 1,.httpRequest "POST" "bob" "second" listTools 2]

theorem webSocket_and_http_sessions_propagate :
    ∃ t second first, run (step smallGateway) init sharedKeyRun = some t ∧ t.log = [second,first] ∧
      second.client.session.id = "second" ∧ second.Propagated ∧ first.client.session.id = "first" ∧ first.Propagated := by
  refine ⟨_,_,_,rfl,rfl,rfl,?_,rfl,?_⟩
  · exact (session_propagates_iff smallGateway sharedKeyRun _ rfl _ (mem_cons_self ..)).mpr (.inr rfl)
  · exact (session_propagates_iff smallGateway sharedKeyRun _ rfl _
      (mem_cons_of_mem _ (mem_cons_self ..))).mpr (.inl rfl)

def ownKeyRun : List Label := [.connect .sse 0 "alice" "stream" 0,.ssePost 0 "alice" listTools 1]

theorem sse_session_lost : ∃ t entry, run (step smallGateway) init ownKeyRun = some t ∧ entry ∈ t.log ∧
      entry.client.session.id = "stream" ∧ entry.call.routeSession = none ∧ entry.call.forwardSession = none ∧
      ¬ entry.Propagated := by
  refine ⟨_,_,rfl,mem_cons_self ..,rfl,rfl,rfl,?_⟩
  rintro ⟨read,_⟩
  cases read

/-- The client of a message that is authenticated and decodes. -/
def admitted (s : State) : Label → Option Client
  | .wsMessage c text data now =>
    match s.connection c,decodeMessage .plain "websocket" data with
    | some client,.ok _ =>
      if client.frontend = .webSocket ∧ text then some ⟨.webSocket,client.user,client.session,now⟩ else none
    | _,_ => none
  | .httpRequest method header id data now =>
    match services.authenticate header now,decodeMessage .plain "http" data with
    | .value claims,.ok _ =>
      match services.createSession id claims now with
      | .value session => if method = "POST" then some ⟨.http,claims.subject,session,now⟩ else none
      | _ => none
    | _,_ => none
  | .ssePost c header data now =>
    match services.authenticate header now,s.connection c,decodeMessage .plain "sse" data with
    | .value claims,some stream,.ok _ =>
      if stream.frontend = .sse ∧ stream.session.user = claims.subject then
        some ⟨.sse,claims.subject,stream.session,now⟩
      else none
    | _,_,_ => none
  | .tcpRequest c _ now =>
    match s.connection c with
    | some client => if client.frontend = .tcp then some ⟨.tcp,client.user,client.session,now⟩ else none
    | none => none
  | _ => none

/-- Nothing stands between an admitted message and the router. -/
theorem routed_client : (routed services s label).map Routed.client = admitted services s label := by
  cases label with
  | wsMessage c text data now =>
    simp [routed,admitted,processClientMessage]
    cases s.connection c with
    | none => rfl
    | some client =>
      cases decodeMessage .plain "websocket" data with
      | error cause => dsimp only [bind,Except.bind]; split <;> rfl
      | ok pair => dsimp only [bind,Except.bind,pure,Except.pure]; split <;> rfl
  | httpRequest method header id data now =>
    simp [routed,admitted,processHTTPRequest]
    cases services.authenticate header now with
    | error | panic => dsimp only; split <;> rfl
    | value claims =>
      cases decodeMessage .plain "http" data with
      | error cause => dsimp only; split <;> rfl
      | ok pair =>
        cases made : services.createSession id claims now with
        | error | panic => simp only [Outcome.ofExcept,bind,made]; split <;> rfl
        | value session => simp only [Outcome.ofExcept,bind,made,pure]; split <;> rfl
  | ssePost c header data now =>
    simp only [routed,admitted,processSSERequest]
    cases services.authenticate header now with
    | error cause => rfl
    | panic => rfl
    | value claims =>
      cases s.connection c with
      | none => rfl
      | some stream =>
        cases decodeMessage .plain "sse" data with
        | error cause => dsimp only [bind,Except.bind]; split <;> rfl
        | ok pair => dsimp only [bind,Except.bind,pure,Except.pure]; split <;> rfl
  | tcpRequest c request now =>
    simp [routed,admitted]
    cases s.connection c with
    | none => rfl
    | some client => dsimp only; split <;> rfl
  | connect _ _ _ _ _ => rfl
  | accept _ _ _ => rfl
  | close _ => rfl

theorem step_clients (taken : step services s label = some next) :
    next.log.map Routed.client = (admitted services s label).toList ++ s.log.map Routed.client := by
  rw [step_log services s label next taken,map_append,← routed_client]
  cases routed services s label <;> rfl

/-! ### The rate limit -/

def Client.limited (client : Client) : Bool := client.frontend ≠ .tcp

/-- At most `limit` of the requests are of the user and fall into any one minute. -/
def WithinLimit (limit : Nat) (user : String) (requests : List Client) : Prop :=
  ∀ start : Int, requests.countP (fun r => r.user = user ∧ start ≤ r.time ∧ r.time < start + minute) ≤ limit

def State.reached (s : State) : List Client := (s.log.map Routed.client).filter Client.limited

def sent (labels : List Label) : List Client :=
  (emitted (step services) (fun s label => (admitted services s label).toList) init labels).filter Client.limited

/-- A user's requests that reach the router keep to a limit exactly when the user's requests do: no frontend holds one
    back. -/
theorem rate_limit_kept_iff (services : Services) (labels : List Label) (t : State)
    (executed : run (step services) init labels = some t) (limit : Nat) (user : String) :
    WithinLimit limit user t.reached ↔ WithinLimit limit user (sent services labels) := by
  have log := run_emits (step_clients services) executed
  rw [State.reached,log,show init.log.map Routed.client = [] from rfl,append_nil]
  rfl

def patientRun : List Label :=
  [.connect .webSocket 0 "alice" "first" 0,.wsMessage 0 true listTools 1,.wsMessage 0 true listTools (1 + minute)]

theorem patient_client_within_limit :
    ∃ t, run (step smallGateway) init patientRun = some t ∧ t.reached.length = 2 ∧ WithinLimit 1 "alice" t.reached := by
  refine ⟨_,rfl,rfl,(rate_limit_kept_iff smallGateway patientRun _ rfl 1 "alice").mpr ?_⟩
  obtain ⟨late,early,two,lateTime,earlyTime⟩ : ∃ late early, sent smallGateway patientRun = [late,early] ∧
      late.time = 1 + minute ∧ early.time = 1 := ⟨_,_,rfl,rfl,rfl⟩
  intro start
  rw [two]
  simp only [countP_cons,countP_nil,lateTime,earlyTime,decide_eq_true_eq]
  split <;> split <;> omega

def burstRun : List Label :=
  [.connect .webSocket 0 "alice" "first" 0,.wsMessage 0 true listTools 1,.wsMessage 0 true listTools 2]

theorem burst_exceeds_limit :
    ∃ t second first, run (step smallGateway) init burstRun = some t ∧ t.reached = [second,first] ∧
      second.session.rateLimit.requestsPerMinute = 1 ∧ first.session.rateLimit.requestsPerMinute = 1 ∧
      ¬ WithinLimit 1 "alice" t.reached := by
  refine ⟨_,_,_,rfl,rfl,rfl,rfl,?_⟩
  intro kept
  have both := kept 0
  revert both
  decide

/-! ### The expiry of a session -/

def Client.LongLived (client : Client) : Prop := client.frontend = .webSocket ∨ client.frontend = .sse

/-- No long-lived client's request is routed after its session's expiry. -/
def Unexpired (s : State) : Prop :=
  ∀ entry ∈ s.log, entry.client.LongLived → entry.client.time ≤ entry.client.session.expiresAt

/-- A message that is admitted on a long-lived connection comes before the session expires. -/
def InTime (s : State) (label : Label) : Prop :=
  ∀ client, admitted services s label = some client → client.LongLived → client.time ≤ client.session.expiresAt

theorem step_unexpired_iff (taken : step services s label = some next) :
    Unexpired next ↔ Unexpired s ∧ InTime services s label := by
  have clients : ∀ s : State, Unexpired s ↔
      ∀ client ∈ s.log.map Routed.client, client.LongLived → client.time ≤ client.session.expiresAt := by
    intro s
    simp [Unexpired]
  rw [clients,clients,step_clients services s label next taken]
  simp only [mem_append,Option.mem_toList,InTime]
  constructor
  · intro all
    exact ⟨fun client old => all client (.inr old),fun client new => all client (.inl new)⟩
  · rintro ⟨old,new⟩ client (here | before)
    · exact new client here
    · exact old client before

/-- No request is routed for an expired session exactly when no client of a WebSocket connection or an SSE stream sends
    one after the expiry, which the frontends do not look at. -/
theorem sessions_unexpired_iff (services : Services) (labels : List Label) (t : State)
    (executed : run (step services) init labels = some t) :
    Unexpired t ↔ Meets (step services) (InTime services) init labels := by
  have clear : Unexpired init := fun _ none => by cases none
  have always : ∀ (s : State) (label : Label) (next : State), True → step services s label = some next → True :=
    fun _ _ _ _ _ => trivial
  rw [run_safe_iff always (fun s label next _ taken => step_unexpired_iff services s label next taken) trivial executed]
  simp [clear]

theorem burst_is_in_time : ∃ t, run (step smallGateway) init burstRun = some t ∧ t.log.length = 2 ∧ Unexpired t ∧
      Meets (step smallGateway) (InTime smallGateway) init burstRun := by
  obtain ⟨t,second,first,executed,two,secondTime,firstTime⟩ : ∃ t second first,
      run (step smallGateway) init burstRun = some t ∧ t.log = [second,first] ∧
      second.client.time ≤ second.client.session.expiresAt ∧ first.client.time ≤ first.client.session.expiresAt :=
    ⟨_,_,_,rfl,rfl,by decide,by decide⟩
  have unexpired : Unexpired t := by
    intro entry logged _
    rw [two,mem_cons,mem_singleton] at logged
    rcases logged with rfl | rfl
    · exact secondTime
    · exact firstTime
  exact ⟨t,executed,by rw [two]; rfl,unexpired,(sessions_unexpired_iff smallGateway burstRun t executed).mp unexpired⟩

/-- A WebSocket connection and an SSE stream that are used after their sessions have expired. -/
def lateRun : List Label :=
  [.connect .webSocket 0 "alice" "first" 0,.connect .sse 1 "bob" "second" 0,.wsMessage 0 true listTools (61 * second),
    .ssePost 1 "bob" listTools (62 * second)]

theorem expired_sessions_are_routed :
    ∃ t post message, run (step smallGateway) init lateRun = some t ∧ t.log = [post,message] ∧
      message.client.frontend = .webSocket ∧ message.client.session.expiresAt < message.client.time ∧
      post.client.frontend = .sse ∧ post.client.session.expiresAt < post.client.time ∧ ¬ Unexpired t := by
  refine ⟨_,_,_,rfl,rfl,rfl,by decide,rfl,by decide,?_⟩
  intro unexpired
  have late := unexpired _ (mem_cons_self ..) (.inr rfl)
  revert late
  decide

end
end McpBridge.Frontends
