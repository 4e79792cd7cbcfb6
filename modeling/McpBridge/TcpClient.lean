import McpBridge.TcpFrontend

/-!
The router's TCP client against the gateway. The client wraps a request under `mcp_payload`, where the gateway looks for
`message`; the gateway sends the bare response, where the client looks for `mcp_payload`.
-/
namespace McpBridge.TcpClient
open Values Transparency WireTransport TcpFrontend MessageType

structure TCPClient extends Client where
  oauth2Client : Option (Except String String) := none

namespace TCPClient

def token (c : TCPClient) : Except String String :=
  if c.authType = "bearer" then .ok c.authToken
  else if c.authType = "oauth2" then
    match c.oauth2Client with
    | none => .ok ""
    | some (.ok token) => .ok token
    | some (.error err) => .error ("failed to get OAuth2 token: " ++ err)
  else .ok ""

/-- The text of the authenticated message. -/
def authMsg (c : TCPClient) (timestamp authToken : String) (req : Request) : Any :=
  .object ([("id",encodeInterface req.id),("timestamp",.string timestamp),("source",.string "local-router")] ++
    omitEmpty "target_namespace" (c.extractNamespace req.method) ++ omitEmpty "auth_token" authToken ++
    [("mcp_payload",marshalRequest req)])

/-- The frame that `SendRequest` writes. -/
def sendRequest (c : TCPClient) (timestamp : String) (req : Request) : Except String Frame :=
  match c.token with
  | .error err => .error err
  | .ok authToken => .ok ⟨request,.json (c.authMsg timestamp authToken req)⟩

end TCPClient

/-- A field of type `json.RawMessage`. -/
def wireMsgFields : List (StructField (Option Any)) := [⟨"mcp_payload",fun _ v => .ok (some v)⟩]

def unmarshalWireMsg : Any → Except String (Option Any) :=
  decodeStruct "struct \x7b MCPPayload json.RawMessage \"json:\\\"mcp_payload\\\"\" \x7d" wireMsgFields none

/-- What `ReceiveResponse` makes of a frame. -/
def receiveResponse (frame : Frame) : Except String Response :=
  if frame.messageType ≠ response then
    .error ("unexpected message type: " ++ toString frame.messageType.toNat)
  else
    match frame.payload.unmarshal unmarshalWireMsg with
    | .error err => .error ("failed to unmarshal wire message: " ++ err)
    | .ok none => .error "failed to unmarshal MCP response: unexpected end of JSON input"
    | .ok (some text) =>
      match unmarshalResponse text with
      | .error err => .error ("failed to unmarshal MCP response: " ++ err)
      | .ok resp => .ok resp

/-- `TCPHandler.extractRequestFromMessage`, with `none` for `nil`. -/
def extractRequestFromMessage : Message → Option Request × String
  | .auth msg =>
    match msg.extractRequest with
    | .ok req => (some req,msg.authToken)
    | .error _ => (none,"")
  | .request req => (some req,"")
  | _ => (none,"")

/-- An extracted request and token are those that were sent. -/
def Preserved (req : Request) (token : String) (extracted : Option Request × String) : Prop :=
  ∃ got, extracted.1 = some got ∧ got.id = req.id ∧ got.method = req.method ∧ got.params = req.params ∧
    extracted.2 = token

section envelope
variable (c : TCPClient) (timestamp token : String) (req : Request)

theorem unmarshalAuthMessage_authMsg : unmarshalAuthMessage (c.authMsg timestamp token req) = .ok ⟨token,.null⟩ := by
  unfold TCPClient.authMsg unmarshalAuthMessage decodeStruct omitEmpty
  by_cases noSpace : c.extractNamespace req.method = "" <;> by_cases noToken : token = "" <;>
    simp +decide [noSpace,noToken,authFields,assignMember_cons,stringField,bind_eq_ok_iff]

theorem unmarshalRequest_authMsg (id : Settled req.id) :
    unmarshalRequest (c.authMsg timestamp token req) = .ok { id := req.id } := by
  unfold TCPClient.authMsg unmarshalRequest decodeRequest decodeStruct omitEmpty
  by_cases noSpace : c.extractNamespace req.method = "" <;> by_cases noToken : token = "" <;>
    simp +decide [noSpace,noToken,requestFields,assignMember_cons,bind_eq_ok_iff,interfaceField_eq_ok_iff,id.1,id.2]

theorem handleReceivedFrame_authMsg (id : Settled req.id) :
    handleReceivedFrame ⟨request,.json (c.authMsg timestamp token req)⟩ = .ok (.request { id := req.id }) := by
  have dispatched (payload : Payload) : handleReceivedFrame ⟨request,payload⟩ = handleRequest payload := rfl
  have unwrapped : authMessage? (.json (c.authMsg timestamp token req)) = none := by
    rw [authMessage?_json,unmarshalAuthMessage_authMsg]
    rfl
  rw [dispatched,handleRequest,unwrapped]
  rw [readAs,Payload.unmarshal_json,unmarshalRequest_authMsg c timestamp token req id]

end envelope

theorem receiveResponse_marshal (r : BackendResponse) : receiveResponse (responseFrame r.marshal) =
      .error "failed to unmarshal MCP response: unexpected end of JSON input" := by
  have absent : unmarshalWireMsg r.marshal = .ok none := by
    unfold unmarshalWireMsg BackendResponse.marshal decodeStruct
    cases r.result <;> cases r.error <;>
      simp +decide [wireMsgFields,assignMember_cons,bind_eq_ok_iff]
  unfold receiveResponse responseFrame
  rw [if_neg (not_not.mpr rfl),Payload.unmarshal_json,absent]

/-- A request arrives as it was sent exactly when it has no method, parameters and token; no response arrives. -/
theorem envelopes_carried_iff (c : TCPClient) (timestamp token : String) (req : Request) (obtained : c.token = .ok token)
    (id : Settled req.id) (r : BackendResponse) :
    ((∃ frame msg, c.sendRequest timestamp req = .ok frame ∧ handleReceivedFrame frame = .ok msg ∧
        Preserved req token (asRequest msg,"") ∧ Preserved req token (extractRequestFromMessage msg)) ↔
      req.method = "" ∧ req.params = .null ∧ token = "") ∧
    ¬ ∃ resp, receiveResponse (responseFrame r.marshal) = .ok resp := by
  have sent : c.sendRequest timestamp req = .ok ⟨request,.json (c.authMsg timestamp token req)⟩ := by
    rw [TCPClient.sendRequest,obtained]
  have received := handleReceivedFrame_authMsg c timestamp token req id
  constructor
  · constructor
    · rintro ⟨frame,msg,written,read,⟨got,extracted,_,method,params,tokens⟩,_⟩
      rw [sent] at written
      cases written
      rw [received] at read
      cases read
      cases extracted
      exact ⟨method.symm,params.symm,tokens.symm⟩
    · rintro ⟨method,params,rfl⟩
      refine ⟨_,_,sent,received,?_,?_⟩ <;> exact ⟨_,rfl,rfl,method.symm,params.symm,rfl⟩
  · rintro ⟨resp,returned⟩
    rw [receiveResponse_marshal] at returned
    cases returned

theorem settled_text (text : String) : Settled (.string text) := ⟨inRange_string text,rfl⟩

/-- A request with nothing but an identifier is carried. -/
theorem bare_request_carried :
    ∃ frame msg, TCPClient.sendRequest {} "" { id := .string "a" } = .ok frame ∧ handleReceivedFrame frame = .ok msg ∧
      Preserved { id := .string "a" } "" (asRequest msg,"") ∧
      Preserved { id := .string "a" } "" (extractRequestFromMessage msg) :=
  (envelopes_carried_iff {} "" "" { id := .string "a" } rfl (settled_text "a") ⟨"2.0",none,none,.null⟩).1.mpr ⟨rfl,rfl,rfl⟩

/-- A ping of a client with a token reaches routing without its method and token; its response is refused. -/
theorem ping_emptied : (∃ frame, TCPClient.sendRequest { authType := "bearer", authToken := "secret" } "now"
        { jsonrpc := "2.0", method := "ping", id := .string "a" } = .ok frame ∧
      handleReceivedFrame frame = .ok (.request { id := .string "a" }) ∧
      extractRequestFromMessage (.request { id := .string "a" }) = (some { id := .string "a" },"")) ∧
    receiveResponse (responseFrame (BackendResponse.marshal ⟨"2.0",some (.object []),none,.string "a"⟩)) =
      .error "failed to unmarshal MCP response: unexpected end of JSON input" :=
  ⟨⟨_,rfl,handleReceivedFrame_authMsg _ _ _ _ (settled_text "a"),rfl⟩,receiveResponse_marshal _⟩

end McpBridge.TcpClient
