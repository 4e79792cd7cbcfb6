import McpBridge.Transparency
import McpBridge.WireCodec

/-!
`wire.Transport` of the gateway: what becomes of a frame's payload. It is read as JSON where the message type asks for
it; a request or a response may be wrapped in an `AuthMessage`, which is tried first.
-/
namespace McpBridge.WireTransport
open Values Floats Frames FrameInterop Transparency

namespace MessageType

def request : UInt16 := 0x0001

def response : UInt16 := 0x0002

def control : UInt16 := 0x0003

def healthCheck : UInt16 := 0x0004

def error : UInt16 := 0x0005

def versionNegotiation : UInt16 := 0x0006

def versionAck : UInt16 := 0x0007

end MessageType

/-- A payload, as `encoding/json` takes it: empty, no JSON text, or a JSON text. -/
inductive Payload where
  | empty
  | malformed (bytes : List UInt8) (cause : String)
  | json (text : Any)

/-- `json.Unmarshal` of the payload. -/
def Payload.unmarshal {α : Type} (decode : Any → Except String α) : Payload → Except String α
  | .empty => .error "unexpected end of JSON input"
  | .malformed _ cause => .error cause
  | .json text => decode text

@[simp] theorem Payload.unmarshal_json {α : Type} (decode : Any → Except String α) (text : Any) :
    (Payload.json text).unmarshal decode = decode text := rfl

structure Frame where
  messageType : UInt16
  payload : Payload

/-- The frame that `SendResponse` writes for the text of a response. -/
def responseFrame (text : Any) : Frame := ⟨MessageType.response,.json text⟩

/-- A number as the Go type `uint16` takes it. -/
def uint16Of (where_ : String) : Any → Except String (Option UInt16)
  | .null => .ok none
  | .number q =>
    if q.den = 1 ∧ 0 ≤ q.num ∧ q.num < 2 ^ 16 then .ok (some (.ofNat q.num.toNat))
    else .error ("json: cannot unmarshal number into Go " ++ where_ ++ " of type uint16")
  | v => .error ("json: cannot unmarshal " ++ v.kind ++ " into Go " ++ where_ ++ " of type uint16")

/-- A field of type `uint16`; `null` leaves it as it is. -/
def uint16Field {σ : Type} (struct name : String) (set : σ → UInt16 → σ) : StructField σ where
  name := name
  assign s v := (uint16Of ("struct field " ++ struct ++ "." ++ name) v).map fun n => (n.map (set s)).getD s

/-- A field of type `[]uint16`; an element `null` is read as zero. -/
def uint16sField {σ : Type} (struct name : String) (set : σ → List UInt16 → σ) : StructField σ where
  name := name
  assign s
    | .null => .ok (set s [])
    | .array items => (items.mapM fun v => (uint16Of ("struct field " ++ struct ++ "." ++ name) v).map (·.getD 0)).map (set s)
    | v => .error ("json: cannot unmarshal " ++ v.kind ++ " into Go struct field " ++ struct ++ "." ++ name ++
        " of type []uint16")

structure VersionNegotiationPayload where
  minVersion : UInt16 := 0
  maxVersion : UInt16 := 0
  preferred : UInt16 := 0
  supported : List UInt16 := []

def negotiationFields : List (StructField VersionNegotiationPayload) :=
  [uint16Field "VersionNegotiationPayload" "min_version" fun p n => { p with minVersion := n },
   uint16Field "VersionNegotiationPayload" "max_version" fun p n => { p with maxVersion := n },
   uint16Field "VersionNegotiationPayload" "preferred_version" fun p n => { p with preferred := n },
   uint16sField "VersionNegotiationPayload" "supported_versions" fun p ns => { p with supported := ns }]

structure VersionAckPayload where
  agreedVersion : UInt16 := 0

def ackFields : List (StructField VersionAckPayload) :=
  [uint16Field "VersionAckPayload" "agreed_version" fun p n => { p with agreedVersion := n }]

structure AuthMessage where
  authToken : String := ""
  message : Any := .null

def authFields : List (StructField AuthMessage) :=
  [stringField "AuthMessage" "auth_token" fun m text => { m with authToken := text },
   interfaceField .text "message" fun m v => { m with message := v }]

def unmarshalAuthMessage : Any → Except String AuthMessage := decodeStruct "wire.AuthMessage" authFields {}

/-- `json.Unmarshal` into a `map[string]interface{}`; the map stays `nil` for `null`. -/
def unmarshalMap : Any → Except String (Option Any)
  | .null => .ok none
  | .object members => (decodeInterface (.object members)).map some
  | v => .error ("json: cannot unmarshal " ++ v.kind ++ " into Go value of type map[string]interface {}")

def AuthMessage.extractRequest (m : AuthMessage) : Except String Request := unmarshalRequest (encodeInterface m.message)

inductive Message where
  | negotiation (payload : VersionNegotiationPayload)
  | ack (payload : VersionAckPayload)
  | request (req : Request)
  | response (resp : Response)
  | auth (msg : AuthMessage)
  | map (value : Option Any)
  | none
  | text (payload : Payload)

def authMessage? (payload : Payload) : Option AuthMessage :=
  match payload.unmarshal unmarshalAuthMessage with
  | .ok msg => if isNil msg.message then .none else some msg
  | .error _ => .none

/-- A payload read as one type of value, with the error wrapped. -/
def readAs {α : Type} (decode : Any → Except String α) (message : α → Message) (what : String) (payload : Payload) :
    Except String Message :=
  match payload.unmarshal decode with
  | .ok x => .ok (message x)
  | .error err => .error ("failed to unmarshal " ++ what ++ ": " ++ err)

def handleVersionNegotiation : Payload → Except String Message :=
  readAs (decodeStruct "wire.VersionNegotiationPayload" negotiationFields {}) .negotiation "version negotiation"

def handleVersionAck : Payload → Except String Message :=
  readAs (decodeStruct "wire.VersionAckPayload" ackFields {}) .ack "version ack"

def handleRequest (payload : Payload) : Except String Message :=
  match authMessage? payload with
  | some msg => .ok (.auth msg)
  | .none => readAs unmarshalRequest .request "request" payload

def handleResponse (payload : Payload) : Except String Message :=
  match authMessage? payload with
  | some msg => .ok (.auth msg)
  | .none => readAs unmarshalResponse .response "response" payload

def handleHealthCheck : Payload → Except String Message
  | .empty => .ok .none
  | payload => readAs unmarshalMap .map "health check" payload

def handleError (payload : Payload) : Except String Message := .ok (.text payload)

def handleControl : Payload → Except String Message
  | .empty => .ok (.map .none)
  | payload => readAs unmarshalMap .map "control message" payload

def handleReceivedFrame (frame : Frame) : Except String Message :=
  if frame.messageType = MessageType.versionNegotiation then handleVersionNegotiation frame.payload
  else if frame.messageType = MessageType.versionAck then handleVersionAck frame.payload
  else if frame.messageType = MessageType.request then handleRequest frame.payload
  else if frame.messageType = MessageType.response then handleResponse frame.payload
  else if frame.messageType = MessageType.healthCheck then handleHealthCheck frame.payload
  else if frame.messageType = MessageType.error then handleError frame.payload
  else if frame.messageType = MessageType.control then handleControl frame.payload
  else .error ("unknown message type: 0x" ++ hex 4 frame.messageType.toNat)

theorem authMessage?_json (text : Any) : authMessage? (.json text) = match unmarshalAuthMessage text with
      | .ok msg => if isNil msg.message then .none else some msg
      | .error _ => .none := rfl

theorem assign_authFields (m : AuthMessage) :
    (∀ text next, assignMember authFields m ("auth_token",.string text) = .ok next ↔
      next = { m with authToken := text }) ∧ ∀ v next, assignMember authFields m ("message",v) = .ok next ↔
      InRange v ∧ next = { m with message := valueOf v } := by
  simp +decide [authFields,assignMember_cons,interfaceField_eq_ok_iff,stringField_eq_ok_iff]

theorem unmarshalAuthMessage_eq_ok_iff {token : String} {v : Any} {msg : AuthMessage} :
    unmarshalAuthMessage (.object (omitEmpty "auth_token" token ++ [("message",v)])) = .ok msg ↔
      InRange v ∧ msg = ⟨token,valueOf v⟩ := by
  unfold unmarshalAuthMessage decodeStruct omitEmpty
  by_cases noToken : token = "" <;> simp [noToken,bind_eq_ok_iff,assign_authFields]

end McpBridge.WireTransport
