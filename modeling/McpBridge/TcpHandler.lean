import McpBridge.TcpHandshake

/-!
The connections of the gateway's `TCPHandler` (`server/tcp_handler.go`). One loop reads the frames of a connection and
decides after each whether to go on; a request that it lets through is handed to the router by its own goroutine.
-/
namespace McpBridge.TcpHandler
open Runs Values Transparency Outcomes WireTransport MessageType
open Auth (Claims RateLimitConfig)
open Sessions (Session)
open TcpHandshake (VersionRange negotiateVersion negotiateVersion_eq_ok_iff)

def validationError (message : String) : String := "[validation] VALIDATION: " ++ message

/-- The checks that a field begins with. Decoded strings are valid UTF-8, so the third never fails. -/
def validateText (field : String) (maxLength : Nat) (text : String) : Except String Unit :=
  if text = "" then .error (validationError (field ++ " cannot be empty"))
  else if maxLength < text.utf8ByteSize then
    .error (validationError (field ++ " too long: " ++ toString text.utf8ByteSize ++ " > " ++ toString maxLength))
  else .ok ()

def validateCharacters (field : String) (allowed : Char → Bool) (text : String) : Except String Unit :=
  if text.toList.all allowed then .ok ()
  else .error (validationError (field ++ " contains invalid characters: " ++ text))

/-- `ValidateNamespace` and `ValidateMethod`, which differ in the field's name and the characters. -/
def validateName (field : String) (allowed : Char → Bool) (text : String) : Except String Unit := do
  validateText field 255 text
  validateCharacters field allowed text
  if ['.','.'] <:+: text.toList then .error (validationError (field ++ " contains directory traversal")) else .ok ()

def isIdChar (c : Char) : Bool := c.isAlphanum || c = '_' || c = '-'

def validateNamespace : String → Except String Unit := validateName "namespace" fun c => isIdChar c || c = '.'

def validateMethod : String → Except String Unit := validateName "method" fun c => isIdChar c || c = '.' || c = '/'

/-- `%T` of a decoded value. -/
def typeName : Any → String
  | .null => "<nil>"
  | .bool _ => "bool"
  | .number _ => "float64"
  | .string _ => "string"
  | .array _ => "[]interface {}"
  | .object _ => "map[string]interface {}"

/-- The text of a `float64` is neither empty nor too long. -/
def validateRequestID : Any → Except String Unit
  | .string text => do
    validateText "ID" 255 text
    validateCharacters "ID" isIdChar text
  | .number _ => .ok ()
  | v => .error (validationError ("invalid ID type: " ++ typeName v))

def validateToken (token : String) : Except String Unit := do
  validateText "token" 4096 token
  if token.toList.any fun c => c = '\x00' || c = '\r' || c = '\n' then
    .error (validationError "token contains invalid characters")
  else .ok ()

structure ConnectionState where
  session : Option Session := none
  authenticated : Bool := false
  versionNegotiated : Bool := false
  agreedVersion : UInt16 := 0

inductive Sent where
  | protocolError (message : String)
  | versionAck (agreedVersion : UInt16)
  | error (id : Any) (message : String)
  | initialized (id : Any) (sessionID : String) (expiresAt : Int)
  deriving Repr

/-- What the collaborators answer for one message; the last two are the write of an answer, and the attempts to send a
    health check. -/
structure Turn where
  validateToken : String → Outcome Claims
  createSession : Claims → Outcome (Option Session)
  validateMessageToken : String → String → Outcome Unit
  allow : String → RateLimitConfig → Outcome Bool
  write : Except String Unit
  ping : Nat → Except String Unit

/-- The state, what is sent, the version assigned, the request that a goroutine gets, and whether the loop goes on. -/
structure Handled where
  conn : ConnectionState
  sent : List Sent := []
  agreed : Option UInt16 := none
  spawned : Option Request := none
  fate : Outcome Unit := .value ()

/-- `wire.MinVersion` and `wire.MaxVersion` -/
def serverVersions : VersionRange := ⟨1,1⟩

def healthCheckMaxRetries : Nat := 3

section
variable (messageAuth : Bool) (turn : Turn) (c : ConnectionState)

def answer (req : Request) (message : String) : Handled := { conn := c, sent := [.error req.id message] }

def refuse (req : Request) (message err : String) : Handled :=
  { conn := c, sent := [.error req.id message], fate := .error err }

def protest (message : String) : Handled := { conn := c, sent := [.protocolError message] }

def handleVersionNegotiation : Message → Handled
  | .negotiation p =>
    if c.versionNegotiated then protest c "Version already negotiated"
    else
      match negotiateVersion ⟨p.minVersion,p.maxVersion⟩ serverVersions with
      | .error err => { protest c ("Version negotiation failed: " ++ err) with fate := .error err }
      | .ok agreed =>
        { conn := { c with agreedVersion := agreed, versionNegotiated := true }
          sent := [.versionAck agreed]
          agreed := some agreed
          fate := .ofExcept turn.write }
  | _ => protest c (if c.versionNegotiated then "Version already negotiated" else "Invalid version negotiation payload")

def extractRequestFromMessage : Message → Option (Request × String)
  | .auth msg =>
    match msg.extractRequest with
    | .ok req => some (req,msg.authToken)
    | .error _ => none
  | .request req => some (req,"")
  | _ => none

/-- The error that is sent, and the one that is returned. -/
def validateRequestFormat (req : Request) : Except (String × String) Unit := do
  (validateRequestID req.id).mapError fun err => ("Invalid request ID: " ++ err,err)
  (validateMethod req.method).mapError fun err => ("Invalid method: " ++ err,err)

def extractInitToken (req : Request) : Except String String :=
  match req.params with
  | .object members =>
    match memberOf "token" (.object members) with
    | some (.string token) =>
      match validateToken token with
      | .error err => .error ("[tcp_handler] validate_token: VALIDATION: invalid token format: " ++ err)
      | .ok _ => .ok token
    | _ => .error "[tcp_handler] initialize: UNAUTHORIZED: missing authentication token"
  | _ => .error "[tcp_handler] initialize: VALIDATION: invalid initialize params"

/-- `authenticateInitToken` and `sendInitializeSuccess`, which reads the session by its pointer. -/
def authenticateInitToken (req : Request) (token : String) : Handled :=
  match turn.validateToken token with
  | .panic => { conn := c, fate := .panic }
  | .error err => refuse c req "Authentication failed" err
  | .value claims =>
    match turn.createSession claims with
    | .panic => { conn := c, fate := .panic }
    | .error err => refuse { c with session := none } req "Failed to create session" err
    | .value none => { conn := { c with session := none, authenticated := true }, fate := .panic }
    | .value (some session) =>
      { conn := { c with session := some session, authenticated := true }
        sent := [.initialized req.id session.id session.expiresAt]
        fate := .ofExcept turn.write }

def handleInitialization (req : Request) : Handled :=
  if req.method ≠ "initialize" then answer c req "Unauthorized: must initialize first"
  else
    match extractInitToken req with
    | .error err => answer c req err
    | .ok token => authenticateInitToken turn c req token

def validatePerMessageAuth (session : Session) (authToken : String) : Outcome Unit :=
  if !messageAuth || authToken = "" then .value () else turn.validateMessageToken authToken session.id

def checkRateLimit (session : Session) (req : Request) : Handled :=
  match turn.allow session.user session.rateLimit with
  | .panic => { conn := c, fate := .panic }
  | .error err => refuse c req "Internal error" err
  | .value false => refuse c req "Rate limit exceeded" "[server] RATE_LIMIT: rate limit exceeded"
  | .value true => { conn := c, spawned := some req }

/-- The ID of a request that could not be extracted is read through a `nil` pointer, and so is a missing session. -/
def handleRequest (msg : Message) : Handled :=
  match extractRequestFromMessage msg with
  | none => { conn := c, fate := .panic }
  | some (req,authToken) =>
    match validateRequestFormat req with
    | .error (message,err) => refuse c req message err
    | .ok _ =>
      if !c.authenticated then handleInitialization turn c req
      else
        match c.session with
        | none => { conn := c, fate := .panic }
        | some session =>
          match validatePerMessageAuth messageAuth turn session authToken with
          | .panic => { conn := c, fate := .panic }
          | .error err => refuse c req "Per-message authentication failed" err
          | .value _ => checkRateLimit turn c session req

/-- The loop of `handleHealthCheck` and `sendHealthCheckWithRetry`, with the error at its end. -/
def pingWithRetry (exhausted : String) : Nat → Nat → Outcome Unit
  | 0,_ => .error exhausted
  | left + 1,attempt =>
    match turn.ping attempt with
    | .ok _ => .value ()
    | .error err => if attempt < healthCheckMaxRetries - 1 then pingWithRetry exhausted left (attempt + 1) else .error err

def handleHealthCheck : Handled :=
  { conn := c
    fate := pingWithRetry turn "[tcp_handler] send_health_check: INTERNAL: failed to send health check after retries"
      healthCheckMaxRetries 0 }

def sendHealthCheckWithRetry : Handled :=
  { conn := c
    fate := pingWithRetry turn "[tcp_handler] health_check: INTERNAL: health check failed after retries"
      healthCheckMaxRetries 0 }

def handleMessage (msgType : UInt16) (msg : Message) : Handled :=
  if msgType = versionNegotiation then handleVersionNegotiation turn c msg
  else if msgType = MessageType.request then handleRequest messageAuth turn c msg
  else if msgType = healthCheck then handleHealthCheck turn c
  else if msgType = response then protest c "Unexpected response message from client"
  else if msgType = error then { conn := c }
  else if msgType = versionAck then protest c "Unexpected version ack from client"
  else if msgType = control then { conn := c }
  else protest c "Unknown message type"

inductive Arrival where
  | frame (frame : Frame)
  | timeout
  | failed (err : String)
  | canceled

def processNextMessage : Arrival → Handled
  | .canceled => { conn := c, fate := .error "context canceled" }
  | .timeout => sendHealthCheckWithRetry turn c
  | .failed err => { conn := c, fate := .error err }
  | .frame frame =>
    match handleReceivedFrame frame with
    | .error err => { conn := c, fate := .error err }
    | .ok msg =>
      if !c.versionNegotiated && frame.messageType ≠ versionNegotiation then
        { protest c "Version negotiation required" with
          fate := .error "[server] VALIDATION: protocol error: version negotiation required" }
      else handleMessage messageAuth turn c frame.messageType msg

end

/-- The namespace that `processRequestAsync` finds in the parameters. -/
def targetNamespace (req : Request) : String :=
  match memberOf "namespace" req.params with
  | some (.string ns) =>
    match validateNamespace ns with
    | .ok _ => ns
    | .error _ => ""
  | _ => ""

structure RouteCall where
  session : Option Session
  request : Request
  targetNamespace : String

/-- The connection with what it has led to. -/
structure State where
  conn : ConnectionState := {}
  running : Bool := true
  spawned : List Request := []
  routed : List RouteCall := []
  sent : List Sent := []
  assigned : List UInt16 := []

/-- A message arrives, or is routed. -/
inductive Label where
  | next (arrival : Arrival) (turn : Turn)
  | route (i : Nat)

/-- `messageLoop` returns with an error, and a panic ends it too. -/
def goesOn : Outcome Unit → Bool
  | .value _ => true
  | _ => false

def State.take (s : State) (handled : Handled) : State :=
  { s with
    conn := handled.conn
    running := goesOn handled.fate
    spawned := s.spawned ++ handled.spawned.toList
    sent := s.sent ++ handled.sent
    assigned := handled.agreed.toList ++ s.assigned }

/-- The next message, or a routed one. -/
def step (messageAuth : Bool) (s : State) : Label → Option State
  | .next arrival turn =>
    if s.running then some (s.take (processNextMessage messageAuth turn s.conn arrival)) else none
  | .route i =>
    match s.spawned[i]? with
    | some req => some { s with
        spawned := s.spawned.eraseIdx i
        routed := ⟨s.conn.session,req,targetNamespace req⟩ :: s.routed }
    | none => none

/-! ### The frames that count -/

/-- A version negotiation that succeeds: what the client offers, and what comes of it. -/
def Negotiates (client : VersionRange) (agreed : UInt16) : Label → Prop
  | .next (.frame frame) _ => frame.messageType = versionNegotiation ∧
      ∃ p, handleReceivedFrame frame = .ok (.negotiation p) ∧ client = ⟨p.minVersion,p.maxVersion⟩ ∧
        negotiateVersion client serverVersions = .ok agreed
  | _ => False

theorem Negotiates.agrees {client : VersionRange} {agreed : UInt16} {label : Label}
    (negotiates : Negotiates client agreed label) : negotiateVersion client serverVersions = .ok agreed := by
  unfold Negotiates at negotiates
  split at negotiates
  · exact negotiates.2.choose_spec.2.2
  · exact negotiates.elim

/-- The request that a frame carries. -/
def Carries (frame : Frame) (req : Request) : Prop :=
  frame.messageType = MessageType.request ∧
    ∃ msg authToken, handleReceivedFrame frame = .ok msg ∧ extractRequestFromMessage msg = some (req,authToken)

/-- An `initialize` request with an accepted token, for which there is a session. -/
def Initializes (session : Session) : Label → Prop
  | .next (.frame frame) turn => ∃ req token claims, Carries frame req ∧ req.method = "initialize" ∧
      extractInitToken req = .ok token ∧ turn.validateToken token = .value claims ∧
      turn.createSession claims = .value (some session)
  | _ => False

def Admits (session : Session) (req : Request) : Label → Prop
  | .next (.frame frame) turn => Carries frame req ∧ turn.allow session.user session.rateLimit = .value true
  | _ => False

def Negotiated : List Label → Prop := Once (fun _ => True) fun label => ∃ client agreed, Negotiates client agreed label

def Initialized (session : Session) : List Label → Prop := Once Negotiated (Initializes session)

/-- The request is admitted, after an initialization. -/
def Admitted (session : Session) (req : Request) : List Label → Prop := Once (Initialized session) (Admits session req)

/-! ### What a message can do -/

inductive Effect (turn : Turn) (c : ConnectionState) (arrival : Arrival) : Handled → Prop where
  | quiet (sent : List Sent) (fate : Outcome Unit) : Effect turn c arrival { conn := c, sent, fate }
  | negotiated {client : VersionRange} {agreed : UInt16} (sent : List Sent) (fate : Outcome Unit)
      (fresh : c.versionNegotiated = false) (negotiates : Negotiates client agreed (.next arrival turn)) :
      Effect turn c arrival
        { conn := { c with agreedVersion := agreed, versionNegotiated := true }, sent, agreed := some agreed, fate }
  | initialized {session : Session} (sent : List Sent) (fate : Outcome Unit) (ready : c.versionNegotiated = true)
      (fresh : c.authenticated = false) (initializes : Initializes session (.next arrival turn)) :
      Effect turn c arrival { conn := { c with session := some session, authenticated := true }, sent, fate }
  | ended (sent : List Sent) (fate : Outcome Unit) (authenticated : Bool) (fresh : c.authenticated = false)
      (stops : goesOn fate = false) :
      Effect turn c arrival { conn := { c with session := none, authenticated }, sent, fate }
  | admitted {session : Session} {req : Request} (known : c.authenticated = true) (held : c.session = some session)
      (admits : Admits session req (.next arrival turn)) : Effect turn c arrival { conn := c, spawned := some req }

section
variable {messageAuth : Bool} {turn : Turn} {c : ConnectionState} {frame : Frame} {msg : Message}

theorem handleVersionNegotiation_effect
    (here : frame.messageType = versionNegotiation) (read : handleReceivedFrame frame = .ok msg) :
    Effect turn c (.frame frame) (handleVersionNegotiation turn c msg) := by
  unfold handleVersionNegotiation
  split
  next p =>
    split
    · exact .quiet _ _
    next fresh =>
      split
      · exact .quiet _ _
      next agreed negotiated =>
        exact .negotiated _ _ (Bool.eq_false_iff.mpr fresh) ⟨here,p,read,rfl,negotiated⟩
  · exact .quiet _ _

theorem authenticateInitToken_effect {req : Request} {token : String} (ready : c.versionNegotiated = true)
    (fresh : c.authenticated = false) (carries : Carries frame req) (method : req.method = "initialize")
    (found : extractInitToken req = .ok token) :
    Effect turn c (.frame frame) (authenticateInitToken turn c req token) := by
  unfold authenticateInitToken
  split
  · exact .quiet _ _
  · exact .quiet _ _
  next claims accepted =>
    split
    · exact .quiet _ _
    · rw [show ({ c with session := none } : ConnectionState) = { c with session := none, authenticated := false } by
        rw [← fresh]]
      exact .ended _ _ false fresh rfl
    · exact .ended _ _ true fresh rfl
    next session created =>
      exact .initialized _ _ ready fresh ⟨req,token,claims,carries,method,found,accepted,created⟩

theorem handleRequest_effect (here : frame.messageType = MessageType.request)
    (read : handleReceivedFrame frame = .ok msg) (ready : c.versionNegotiated = true) :
    Effect turn c (.frame frame) (handleRequest messageAuth turn c msg) := by
  unfold handleRequest
  split
  · exact .quiet _ _
  next req authToken extracted =>
    have carries : Carries frame req := ⟨here,msg,authToken,read,extracted⟩
    split
    · exact .quiet _ _
    · split
      next fresh =>
        have fresh : c.authenticated = false := by simpa using fresh
        unfold handleInitialization
        split
        · exact .quiet _ _
        next method =>
          split
          · exact .quiet _ _
          next token found => exact authenticateInitToken_effect ready fresh carries (not_not.mp method) found
      next known =>
        have known : c.authenticated = true := by simpa using known
        split
        · exact .quiet _ _
        next session held =>
          split
          · exact .quiet _ _
          · exact .quiet _ _
          · unfold checkRateLimit
            split
            · exact .quiet _ _
            · exact .quiet _ _
            · exact .quiet _ _
            next allowed => exact .admitted known held ⟨carries,allowed⟩

theorem processNextMessage_effect (arrival : Arrival) :
    Effect turn c arrival (processNextMessage messageAuth turn c arrival) := by
  cases arrival with
  | canceled | timeout | failed => exact .quiet _ _
  | frame frame =>
    simp only [processNextMessage]
    split
    · exact .quiet _ _
    next msg read =>
      split
      · exact .quiet _ _
      next negotiated =>
        unfold handleMessage
        by_cases offer : frame.messageType = versionNegotiation
        · rw [if_pos offer]
          exact handleVersionNegotiation_effect offer read
        · have ready : c.versionNegotiated = true := by simpa [offer] using negotiated
          rw [if_neg offer]
          by_cases request : frame.messageType = MessageType.request
          · rw [if_pos request]
            exact handleRequest_effect request read ready
          · rw [if_neg request]
            repeat' split
            all_goals exact .quiet _ _

end

/-! ### Whole connections -/

/-- The flags of the connection, and the requests under way, are traces of the frames that count. -/
structure Orderly (past : List Label) (s : State) : Prop where
  negotiated : s.conn.versionNegotiated = true → Negotiated past
  initialized : s.running = true → s.conn.authenticated = true →
    ∃ session, s.conn.session = some session ∧ Initialized session past
  spawned : ∀ req ∈ s.spawned, s.conn.authenticated = true ∧
    ∃ session, s.conn.session = some session ∧ Admitted session req past
  routed : ∀ call ∈ s.routed, ∃ session, call.session = some session ∧ Admitted session call.request past
  unassigned : s.conn.versionNegotiated = false → s.assigned = []
  assigned : s.assigned = [] ∨ s.assigned = [s.conn.agreedVersion] ∧
    ∃ client, Once (fun _ => True) (Negotiates client s.conn.agreedVersion) past

variable {past : List Label} {s : State}

theorem Orderly.more (orderly : Orderly past s) (label : Label) :
    Orderly (past ++ [label]) s where
  negotiated on := (orderly.negotiated on).append _
  initialized up known := by
    obtain ⟨session,held,since⟩ := orderly.initialized up known
    exact ⟨session,held,since.append _⟩
  spawned req member := by
    obtain ⟨known,session,held,since⟩ := orderly.spawned req member
    exact ⟨known,session,held,since.append _⟩
  routed call member := by
    obtain ⟨session,held,since⟩ := orderly.routed call member
    exact ⟨session,held,since.append _⟩
  unassigned := orderly.unassigned
  assigned := orderly.assigned.imp id fun ⟨only,client,since⟩ => ⟨only,client,since.append _⟩

theorem Orderly.take {arrival : Arrival} {turn : Turn} {handled : Handled}
    (orderly : Orderly past s) (running : s.running = true) (effect : Effect turn s.conn arrival handled) :
    Orderly (past ++ [.next arrival turn]) (s.take handled) := by
  have later := orderly.more (.next arrival turn)
  cases effect with
  | quiet sent fate =>
    refine { later with initialized := fun _ => later.initialized running, spawned := ?_ }
    simpa [State.take] using later.spawned
  | @negotiated client agreed sent fate fresh negotiates =>
    constructor
    · exact fun _ => once_last trivial ⟨client,agreed,negotiates⟩
    · exact fun _ => later.initialized running
    · simpa [State.take] using later.spawned
    · exact later.routed
    · exact nofun
    · exact .inr ⟨by simp [State.take,orderly.unassigned fresh],client,once_last trivial negotiates⟩
  | @initialized session sent fate ready fresh initializes =>
    refine { later with initialized := fun _ _ => ?_, spawned := ?_ }
    · exact ⟨session,rfl,once_last (orderly.negotiated ready) initializes⟩
    · intro req member
      have before : req ∈ s.spawned := by simpa [State.take] using member
      exact absurd ((orderly.spawned req before).1.symm.trans fresh) nofun
  | ended sent fate authenticated fresh stops =>
    refine { later with initialized := fun up => absurd (up.symm.trans stops) nofun, spawned := ?_ }
    intro req member
    have before : req ∈ s.spawned := by simpa [State.take] using member
    exact absurd ((orderly.spawned req before).1.symm.trans fresh) nofun
  | @admitted session req known held admits =>
    refine { later with initialized := fun _ => later.initialized running, spawned := ?_ }
    intro other member
    rcases List.mem_append.mp member with before | this
    · exact later.spawned other before
    · obtain rfl : other = req := by simpa using this
      obtain ⟨session',held',since⟩ := orderly.initialized running known
      obtain rfl : session' = session := Option.some.inj (held'.symm.trans held)
      exact ⟨known,session',held,once_last since admits⟩

theorem step_orderly {messageAuth : Bool} {s next : State} {label : Label} (orderly : Orderly past s)
    (taken : step messageAuth s label = some next) : Orderly (past ++ [label]) next := by
  cases label with
  | next arrival turn =>
    obtain ⟨running,⟨⟩⟩ := Option.ite_none_right_eq_some.mp taken
    exact orderly.take running (processNextMessage_effect arrival)
  | route i =>
    have later := orderly.more (.route i)
    simp only [step] at taken
    split at taken <;> cases taken
    next req found =>
      refine { later with spawned := ?_, routed := ?_ }
      · intro other member
        exact later.spawned other (List.mem_of_mem_eraseIdx member)
      · intro call member
        rcases List.mem_cons.mp member with rfl | before
        · exact (later.spawned req (List.mem_of_getElem? found)).2
        · exact later.routed call before

theorem orderly_init : Orderly [] {} := by
  constructor <;> simp

/-- A request comes to the router only after a negotiation, an initialization and an admission, in this order, and the
    version is assigned at most once, to the greatest that the client and the server have in common. -/
theorem tcp_handler_orderly {messageAuth : Bool} {labels : List Label} {s : State}
    (executed : run (step messageAuth) {} labels = some s) :
    (∀ call ∈ s.routed, ∃ session, call.session = some session ∧ Admitted session call.request labels) ∧
    s.assigned.length ≤ 1 ∧ ∀ version ∈ s.assigned, version = s.conn.agreedVersion ∧ ∃ client,
      Once (fun _ => True) (Negotiates client version) labels ∧ client.Has version ∧ serverVersions.Has version ∧
      ∀ other, client.Has other → serverVersions.Has other → other ≤ version := by
  have orderly : Orderly labels s := run_keeps_past (fun _ _ _ _ orderly taken => step_orderly orderly taken)
    orderly_init executed
  refine ⟨orderly.routed,?_,?_⟩
  · rcases orderly.assigned with none | ⟨only,_⟩
    · simp [none]
    · simp [only]
  · intro version member
    rcases orderly.assigned with none | ⟨only,client,since⟩
    · simp [none] at member
    · obtain rfl : version = s.conn.agreedVersion := by simpa [only] using member
      obtain ⟨_,label,_,_,_,negotiates⟩ := id since
      obtain ⟨⟨offered,served⟩,greatest⟩ := negotiateVersion_eq_ok_iff.mp (negotiates.agrees)
      refine ⟨rfl,client,since,offered,served,fun other had had' => ?_⟩
      rcases greatest with same | same
      · exact same ▸ had.2
      · exact same ▸ had'.2

/-- Collaborators that say yes to everything. -/
def obliging : Turn where
  validateToken _ := .value { subject := "alice" }
  createSession claims := .value (some ⟨"s1",claims.subject,0,0,1,[],claims.rateLimit⟩)
  validateMessageToken _ _ := .value ()
  allow _ _ := .value true
  write := .ok ()
  ping _ := .ok ()

def request (id : Rat) (method : String) (params : List (String × Any)) : Label :=
  .next (.frame ⟨MessageType.request,.json (.object
    [("jsonrpc",.string "2.0"),("method",.string method),("params",.object params),("id",.number id)])⟩) obliging

/-- A client with the versions 1 and 2 negotiates, initializes and asks for the tools. -/
def listing : List Label :=
  [.next (.frame ⟨versionNegotiation,.json (.object [("min_version",.number 1),("max_version",.number 2)])⟩)
    obliging,request 1 "initialize" [("token",.string "t")],request 2 "tools/list" [],.route 0]

theorem tcp_handler_orderly_listing :
    ∃ s, run (step false) {} listing = some s ∧ s.routed.map (·.request.method) = ["tools/list"] ∧ s.assigned = [1] ∧
      ∀ call ∈ s.routed, ∃ session, call.session = some session ∧ Admitted session call.request listing := by
  have ran : (run (step false) {} listing).map (fun s => (s.routed.map (·.request.method),s.assigned)) =
      some (["tools/list"],[1]) := by decide +kernel
  obtain ⟨s,executed,seen⟩ := Option.map_eq_some_iff.mp ran
  exact ⟨s,executed,congrArg Prod.fst seen,congrArg Prod.snd seen,(tcp_handler_orderly executed).1⟩

end McpBridge.TcpHandler
