import McpBridge.TcpHandler

/-!
The request frames of a `TCPHandler` connection. An envelope without a request gives `extractRequestFromMessage` a `nil`
request and no error, and the checks that follow read it through its pointer.
-/
namespace McpBridge.TcpHandler
open Runs Values Transparency Outcomes WireTransport List

/-- The collaborators do not panic, and a session created without an error exists. -/
structure Turn.Calm (turn : Turn) : Prop where
  validates : ∀ token, (turn.validateToken token).Returns
  creates : ∀ claims, (turn.createSession claims).Returns ∧ turn.createSession claims ≠ .value none
  authenticates : ∀ token id, (turn.validateMessageToken token id).Returns
  limits : ∀ user limit, (turn.allow user limit).Returns

/-- The message is rejected with an error, answered, or handed to the router. -/
def Handled.Settled (h : Handled) : Prop :=
  h.fate.Returns ∧ ((∃ err, h.fate = .error err) ∨ h.sent ≠ [] ∨ h.spawned ≠ none)

/-- Nothing panics for want of a request, and a request frame is settled if the collaborators let it be. -/
def Served (messageAuth : Bool) (s : State) : Label → Prop
  | .next arrival turn =>
    ((processNextMessage messageAuth turn s.conn arrival).fate.Returns ∨
      ∃ frame req, arrival = .frame frame ∧ Carries frame req) ∧
    ∀ frame, arrival = .frame frame → frame.messageType = MessageType.request → turn.Calm →
      (processNextMessage messageAuth turn s.conn arrival).Settled
  | .route _ => True

/-- The message in an envelope can be decoded as a request. -/
def Decodable (s : State) : Label → Prop
  | .next (.frame frame) _ => s.conn.versionNegotiated = true → frame.messageType = MessageType.request →
      ∀ msg, frame.payload.unmarshal unmarshalAuthMessage = .ok msg → isNil msg.message = false →
        ∃ req, unmarshalRequest (encodeInterface msg.message) = .ok req
  | _ => True

section
variable {messageAuth : Bool} {turn : Turn} {c : ConnectionState} {frame : Frame} {msg : Message} {label : Label}
  {s : State}

theorem refuse_settled (req : Request) (message err : String) : (refuse c req message err).Settled :=
  ⟨trivial,.inl ⟨err,rfl⟩⟩

theorem answer_settled (req : Request) (message : String) : (answer c req message).Settled :=
  ⟨trivial,.inr (.inl (cons_ne_nil _ _))⟩

theorem authenticateInitToken_settled (calm : turn.Calm) (req : Request) (token : String) :
    (authenticateInitToken turn c req token).Settled := by
  unfold authenticateInitToken
  split
  next panics => exact absurd (calm.validates token) (by rw [panics]; exact id)
  · exact refuse_settled req _ _
  next claims _ =>
    obtain ⟨returns,exists_⟩ := calm.creates claims
    split
    next panics => exact absurd returns (by rw [panics]; exact id)
    · exact refuse_settled req _ _
    next missing => exact absurd missing exists_
    · exact ⟨Outcome.returns_ofExcept _,.inr (.inl (cons_ne_nil _ _))⟩

theorem handleRequest_settled {req : Request} {authToken : String} (calm : turn.Calm)
    (held : c.authenticated = true → c.session ≠ none) (found : extractRequestFromMessage msg = some (req,authToken)) :
    (handleRequest messageAuth turn c msg).Settled := by
  simp only [handleRequest,found]
  split
  · exact refuse_settled req _ _
  · split
    · unfold handleInitialization
      split
      · exact answer_settled req _
      · split
        · exact answer_settled req _
        next token _ => exact authenticateInitToken_settled calm req token
    next known =>
      split
      next missing => exact absurd missing (held (by simpa using known))
      next session _ =>
        have returns : (validatePerMessageAuth messageAuth turn session authToken).Returns := by
          unfold validatePerMessageAuth
          split
          · trivial
          · exact calm.authenticates _ _
        split
        next panics => exact absurd returns (by rw [panics]; exact id)
        · exact refuse_settled req _ _
        · unfold checkRateLimit
          split
          next panics => exact absurd (calm.limits session.user session.rateLimit) (by rw [panics]; exact id)
          · exact refuse_settled req _ _
          · exact refuse_settled req _ _
          · exact ⟨trivial,.inr (.inr nofun)⟩

theorem pingWithRetry_returns (exhausted : String) (left attempt : Nat) :
    (pingWithRetry turn exhausted left attempt).Returns := by
  induction left generalizing attempt with
  | zero => trivial
  | succ left ih =>
    unfold pingWithRetry
    split
    · trivial
    · split
      · exact ih _
      · trivial

theorem handleVersionNegotiation_returns : (handleVersionNegotiation turn c msg).fate.Returns := by
  unfold handleVersionNegotiation
  split
  · split
    · trivial
    · split
      · trivial
      · exact Outcome.returns_ofExcept _
  · trivial

/-- Of all messages only requests can be fatal, and they are read first. -/
theorem processNextMessage_cases (arrival : Arrival) : (processNextMessage messageAuth turn c arrival).fate.Returns ∧
      (∀ frame, arrival = .frame frame → frame.messageType = MessageType.request →
        (processNextMessage messageAuth turn c arrival).Settled) ∨
    ∃ frame msg, arrival = .frame frame ∧ frame.messageType = MessageType.request ∧ c.versionNegotiated = true ∧
      handleReceivedFrame frame = .ok msg ∧
      processNextMessage messageAuth turn c arrival = handleRequest messageAuth turn c msg := by
  cases arrival with
  | canceled | failed => exact .inl ⟨trivial,nofun⟩
  | timeout => exact .inl ⟨pingWithRetry_returns _ _ _,nofun⟩
  | frame frame =>
    simp [processNextMessage,Arrival.frame.injEq]
    split
    next err _ => exact .inl ⟨trivial,fun _ => ⟨trivial,.inl ⟨err,rfl⟩⟩⟩
    next msg read =>
      split
      · exact .inl ⟨trivial,fun _ => ⟨trivial,.inl ⟨_,rfl⟩⟩⟩
      next ready =>
        unfold handleMessage
        split
        next offer => exact .inl ⟨handleVersionNegotiation_returns,fun request => absurd (offer.symm.trans request) (by decide)⟩
        next other =>
          split
          next request => exact .inr ⟨request,by simpa [other] using ready,msg,read,rfl⟩
          next unasked =>
            refine .inl ⟨?_,fun request => absurd request unasked⟩
            split
            · exact pingWithRetry_returns _ _ _
            · repeat' split
              all_goals trivial

theorem handleReceivedFrame_request (request : frame.messageType = MessageType.request) :
    handleReceivedFrame frame = WireTransport.handleRequest frame.payload := by
  rw [handleReceivedFrame,request]
  rfl

theorem processNextMessage_request (request : frame.messageType = MessageType.request) (ready : c.versionNegotiated = true)
    (read : handleReceivedFrame frame = .ok msg) :
    processNextMessage messageAuth turn c (.frame frame) = handleRequest messageAuth turn c msg := by
  simp [processNextMessage,read,ready,request]
  rfl

theorem extracted_of_decodable (decodable : Decodable s (.next (.frame frame) turn))
    (request : frame.messageType = MessageType.request) (ready : s.conn.versionNegotiated = true)
    (read : handleReceivedFrame frame = .ok msg) : ∃ req authToken, extractRequestFromMessage msg = some (req,authToken) := by
  rw [handleReceivedFrame_request request,WireTransport.handleRequest] at read
  split at read
  next m envelope =>
    cases read
    unfold authMessage? at envelope
    split at envelope
    next m' decoded =>
      split at envelope <;> cases envelope
      next present =>
        obtain ⟨req,decodes⟩ := decodable ready request m decoded (Bool.eq_false_iff.mpr present)
        exact ⟨req,m.authToken,by simp [extractRequestFromMessage,AuthMessage.extractRequest,decodes]⟩
    · cases envelope
  · unfold readAs at read
    split at read <;> cases read
    next req _ => exact ⟨req,"",rfl⟩

theorem step_served_iff (held : s.conn.authenticated = true → s.conn.session ≠ none) :
    Served messageAuth s label ↔ Decodable s label := by
  cases label with
  | route i => exact Iff.rfl
  | next arrival turn =>
    constructor
    · intro served
      cases arrival with
      | canceled | timeout | failed => trivial
      | frame frame =>
        intro ready request m decoded present
        have read : handleReceivedFrame frame = .ok (.auth m) := by
          simp [handleReceivedFrame_request request,WireTransport.handleRequest,authMessage?,decoded,present]
        cases decodes : unmarshalRequest (encodeInterface m.message) with
        | ok req => exact ⟨req,rfl⟩
        | error err =>
          have missing : extractRequestFromMessage (.auth m) = none := by
            simp [extractRequestFromMessage,AuthMessage.extractRequest,decodes]
          rcases served.1 with returns | ⟨_,req,⟨⟩,_,msg,authToken,read',found⟩
          · rw [processNextMessage_request request ready read,handleRequest,missing] at returns
            exact returns.elim
          · cases read.symm.trans read'
            cases missing.symm.trans found
    · intro decodable
      obtain ⟨returns,settled⟩ | ⟨frame,msg,rfl,request,ready,read,same⟩ :
          (processNextMessage messageAuth turn s.conn arrival).fate.Returns ∧ _ ∨ _ := processNextMessage_cases arrival
      · exact ⟨.inl returns,fun frame here request _ => settled frame here request⟩
      · obtain ⟨req,authToken,found⟩ := extracted_of_decodable decodable request ready read
        refine ⟨.inr ⟨frame,req,rfl,request,msg,authToken,read,found⟩,fun _ _ _ calm => ?_⟩
        rw [same]
        exact handleRequest_settled calm held found

/-- While the loop runs, whoever is authenticated has a session. -/
def Attended (s : State) : Prop := s.running = true → s.conn.authenticated = true → s.conn.session ≠ none

theorem step_attended {s next : State} (attended : Attended s)
    (taken : step messageAuth s label = some next) : Attended next := by
  cases label with
  | next arrival turn =>
    obtain ⟨running,⟨⟩⟩ := Option.ite_none_right_eq_some.mp taken
    intro goes known
    have effect : Effect turn s.conn arrival (processNextMessage messageAuth turn s.conn arrival) :=
      processNextMessage_effect arrival
    generalize processNextMessage messageAuth turn s.conn arrival = handled at effect goes known ⊢
    cases effect with
    | quiet | negotiated | admitted => exact attended running known
    | initialized => exact Option.some_ne_none _
    | ended _ _ _ _ stops => exact absurd (goes.symm.trans stops) nofun
  | route i =>
    simp only [step] at taken
    split at taken <;> cases taken
    exact attended

/-- No message is fatal for want of a request, and every request frame is rejected, answered or routed, exactly if every
    envelope after the negotiation has a request in it. -/
theorem requests_served_iff (messageAuth : Bool) {labels : List Label} {s : State}
    (executed : run (step messageAuth) {} labels = some s) :
    Meets (step messageAuth) (Served messageAuth) {} labels ↔ Meets (step messageAuth) Decodable {} labels := by
  have kept (s : State) (label : Label) (next : State) (attended : Attended s) (_ : Served messageAuth s label)
      (taken : step messageAuth s label = some next) : Attended next := step_attended attended taken
  refine meets_congr (fun s label next attended taken => ?_) kept nofun executed
  cases label with
  | route i => exact Iff.rfl
  | next arrival turn =>
    simp only [step,Option.ite_none_right_eq_some] at taken
    exact step_served_iff (attended taken.1)

end

/-- A frame with a request in an envelope. -/
def enclosed : Frame := ⟨MessageType.request,.json (.object [("message",.object [("method",.string "tools/list")])])⟩

theorem requests_served_iff_listing :
    (run (step false) {} (listing ++ [.next (.frame enclosed) obliging])).isSome = true ∧
      Meets (step false) (Served false) {} (listing ++ [.next (.frame enclosed) obliging]) := by
  have ran : (run (step false) {} (listing ++ [.next (.frame enclosed) obliging])).isSome = true := by decide +kernel
  obtain ⟨s,executed⟩ := Option.isSome_iff_exists.mp ran
  refine ⟨ran,(requests_served_iff false executed).mpr (meets_of_mem fun label listed s => ?_)⟩
  simp only [listing,cons_append,nil_append,mem_cons,not_mem_nil,or_false] at listed
  rcases listed with rfl | rfl | rfl | rfl | rfl
  · exact fun _ other => by cases other
  · exact fun _ _ msg read present => by cases read; cases present
  · exact fun _ _ msg read present => by cases read; cases present
  · trivial
  · exact fun _ _ msg read present => by cases read; exact ⟨_,rfl⟩

def wrapped : List Label :=
  [.next (.frame ⟨MessageType.versionNegotiation,.json (.object [("min_version",.number 1),("max_version",.number 2)])⟩)
    obliging,.next (.frame ⟨MessageType.request,.json (.object [("message",.number 5)])⟩) obliging]

theorem wrapped_unserved :
    (run (step false) {} wrapped).isSome = true ∧ ¬ Meets (step false) (Served false) {} wrapped := by
  refine ⟨by decide +kernel,fun meets => ?_⟩
  have served := (meets.2 _ rfl).1
  have decodable := (step_served_iff (fun known => by cases known)).mp served
  have decoded := (@unmarshalAuthMessage_eq_ok_iff "" (.number 5) _).mpr ⟨by decide +kernel,rfl⟩
  obtain ⟨req,decodes⟩ := decodable rfl rfl _ decoded rfl
  cases decodes

end McpBridge.TcpHandler
