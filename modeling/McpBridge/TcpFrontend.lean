import McpBridge.WireTransport

/-!
The message loop of the gateway's TCP frontend. A request frame taken for an authenticated message is skipped without an
answer (`handleMessage_request`), so requests get their responses one by one exactly when none is wrapped
(`requests_answered_iff`).
-/
namespace McpBridge.TcpFrontend
open Values Transparency WireTransport List Option

/-- `RouteRequest` returns a response, one that `json.Marshal` refuses, or an error. -/
inductive Routed where
  | response (r : BackendResponse)
  | unencodable (cause : String)
  | failed (err : String)

def processRequest : Routed → Except String Any
  | .response r => .ok r.marshal
  | .unencodable cause => .error ("failed to send response: failed to marshal response: " ++ cause)
  | .failed err => .error err

def respond (req : Request) (routed : Routed) : Any :=
  match processRequest routed with
  | .ok text => text
  | .error err => marshalResponse (errorResponse req.id err)

/-- One turn of the loop: it returns, goes on, or writes a response first. -/
inductive Turn where
  | stop
  | next
  | write (text : Any)

/-- The type assertion `payload.(*mcp.Request)`. -/
def asRequest : Message → Option Request
  | .request req => some req
  | _ => none

def handleMessage (route : Request → Routed) (frame : Frame) : Turn :=
  match handleReceivedFrame frame with
  | .error _ => .stop
  | .ok msg =>
    if frame.messageType = MessageType.request then
      match asRequest msg with
      | some req => .write (respond req (route req))
      | none => .next
    else .next

/-- `handleClientMessages`: the frames written for those read. The number counts the requests routed. -/
def handleClientMessages (route : Nat → Request → Routed) : Nat → List Frame → List Frame
  | _,[] => []
  | n,frame :: rest =>
    match handleMessage (route n) frame with
    | .stop => []
    | .next => handleClientMessages route n rest
    | .write text => responseFrame text :: handleClientMessages route (n + 1) rest

theorem handleMessage_request (route : Request → Routed) (payload : Payload) :
    handleMessage route ⟨MessageType.request,payload⟩ =
      match authMessage? payload with
      | some _ => .next
      | none =>
        match payload.unmarshal unmarshalRequest with
        | .ok req => .write (respond req (route req))
        | .error _ => .stop := by
  have dispatched : handleReceivedFrame ⟨MessageType.request,payload⟩ = handleRequest payload := rfl
  rw [handleMessage,dispatched,handleRequest]
  cases authMessage? payload with
  | some msg => rfl
  | none =>
    rw [readAs]
    cases payload.unmarshal unmarshalRequest <;> rfl

theorem handleMessage_other (route : Request → Routed) {frame : Frame} (other : frame.messageType ≠ MessageType.request)
    (text : Any) : handleMessage route frame ≠ .write text := by
  intro written
  rw [handleMessage] at written
  split at written
  next => cases written
  next =>
    rw [if_neg other] at written
    cases written

theorem length_handleClientMessages (route : Nat → Request → Routed) (n : Nat) (frames : List Frame) :
    (handleClientMessages route n frames).length ≤ frames.length := by
  induction frames generalizing n with
  | nil => exact Nat.le_refl 0
  | cons frame rest ih =>
    rw [handleClientMessages]
    cases handleMessage (route n) frame with
    | stop => exact Nat.zero_le _
    | next => exact Nat.le_succ_of_le (ih n)
    | write text => exact Nat.succ_le_succ (ih (n + 1))

/-- A JSON-RPC request, or an `AuthMessage` that wraps one, as `json.Marshal` writes it. -/
inductive Form where
  | plain (t : RequestText)
  | wrapped (token : String) (t : RequestText)

namespace Form

def request : Form → RequestText
  | .plain t => t
  | .wrapped _ t => t

def text : Form → Any
  | .plain t => t.data
  | .wrapped token t => .object (omitEmpty "auth_token" token ++ [("message",t.data)])

def frame (form : Form) : Frame := ⟨MessageType.request,.json form.text⟩

end Form

/-- A response frame with the identifier of the request. -/
def Answers (form : Form) (frame : Frame) : Prop :=
  frame.messageType = MessageType.response ∧ ∃ text, frame.payload = .json text ∧ SameMember "id" text form.request.data

/-- Responses carry their request's identifier. -/
def Echoes (route : Nat → Request → Routed) : Prop :=
  ∀ n req r, route n req = .response r → r.id = encodeInterface req.id

/-- The first request of a sequence is answered first; a skipped one leaves one answer too few. -/
theorem answered_cons_iff {route : Nat → Request → Routed} {n : Nat} {form : Form} {rest : List Form} :
    List.Forall₂ Answers (form :: rest) (handleClientMessages route n ((form :: rest).map Form.frame)) ↔
      (∃ text, handleMessage (route n) form.frame = .write text ∧ SameMember "id" text form.request.data) ∧
        List.Forall₂ Answers rest (handleClientMessages route (n + 1) (rest.map Form.frame)) := by
  rw [map_cons,handleClientMessages]
  cases turn : handleMessage (route n) form.frame with
  | stop =>
    constructor
    · intro answered
      cases answered
    · rintro ⟨⟨text,written,_⟩,_⟩
      cases written
  | next =>
    constructor
    · intro answered
      have full : rest.length + 1 = _ := answered.length_eq
      have short := length_handleClientMessages route n (rest.map Form.frame)
      rw [length_map (Form.frame)] at short
      dsimp only at full
      omega
    · rintro ⟨⟨text,written,_⟩,_⟩
      cases written
  | write text =>
    rw [forall₂_cons]
    constructor
    · rintro ⟨⟨_,_,same,id⟩,later⟩
      cases same
      exact ⟨⟨text,rfl,id⟩,later⟩
    · rintro ⟨⟨_,written,id⟩,later⟩
      cases written
      exact ⟨⟨rfl,text,rfl,id⟩,later⟩

theorem memberOf_respond {route : Nat → Request → Routed} (echoes : Echoes route) (n : Nat) (req : Request) :
    memberOf "id" (respond req (route n req)) = some (encodeInterface req.id) := by
  unfold respond processRequest
  cases routed : route n req with
  | response r =>
    rw [(memberOf_marshal r).1,echoes n req r routed]
  | unencodable | failed => exact (memberOf_marshalResponse _).1

/-- A request that gets its answer: it is not taken for an authenticated message, its numbers are in range, and its
    identifier survives as a float64. -/
def Form.Answerable : Form → Prop
  | .plain t => authMessage? (.json t.data) = none ∧
      (∀ member ∈ t.members, member.1 = "params" ∨ member.1 = "id" → InRange member.2) ∧ Intact t.id
  | .wrapped _ _ => False

section forms
variable {route : Nat → Request → Routed} (echoes : Echoes route) (n : Nat) (t : RequestText)
include echoes

theorem plain_answered_iff :
    (∃ text, handleMessage (route n) (Form.plain t).frame = .write text ∧ SameMember "id" text t.data) ↔
      (Form.plain t).Answerable := by
  rw [Form.frame,handleMessage_request,Form.Answerable,Form.text]
  cases authMessage? (.json t.data) with
  | some msg =>
    constructor
    · rintro ⟨text,written,_⟩
      cases written
    · rintro ⟨taken,_⟩
      cases taken
  | none =>
    have decoded {req : Request} := @unmarshalRequest_eq_ok_iff t.members t.plain t.textual req
    rw [Payload.unmarshal_json]
    cases read : unmarshalRequest t.data with
    | error err =>
      constructor
      · rintro ⟨text,written,_⟩
        cases written
      · rintro ⟨_,fits,_⟩
        rw [RequestText.data,decoded.mpr ⟨fits,rfl⟩] at read
        cases read
    | ok req =>
      obtain ⟨fits,rfl⟩ := decoded.mp read
      have id : memberOf "id" (respond (decodedRequest t.members) (route n (decodedRequest t.members))) =
          some (encodeInterface (valueOf t.id)) := by
        rw [memberOf_respond echoes,decodedRequest,t.id_eq]
        rfl
      have same : SameMember "id" (respond (decodedRequest t.members) (route n (decodedRequest t.members))) t.data ↔
          Intact t.id := by
        rw [SameMember,id,RequestText.data,memberOf,t.id_eq,map_some,map_some,some.injEq]
        exact encode_same_iff (member_inRange (.inr rfl) fits t.id_eq)
      constructor
      · rintro ⟨text,written,answer⟩
        cases written
        exact ⟨rfl,fits,same.mp answer⟩
      · rintro ⟨_,_,intact⟩
        exact ⟨_,rfl,same.mpr intact⟩

/-- A wrapped request is skipped; when its numbers are too large, an empty request is answered instead. -/
theorem wrapped_unanswered (token : String) (nonNull : t.id ≠ .null) :
    ¬ ∃ text, handleMessage (route n) (Form.wrapped token t).frame = .write text ∧ SameMember "id" text t.data := by
  rintro ⟨text,written,answer⟩
  rw [Form.frame,handleMessage_request,Form.text,authMessage?_json] at written
  cases read : unmarshalAuthMessage (.object (omitEmpty "auth_token" token ++ [("message",t.data)])) with
  | ok msg =>
    obtain ⟨_,rfl⟩ := unmarshalAuthMessage_eq_ok_iff.mp read
    rw [read] at written
    cases written
  | error err =>
    rw [read,Payload.unmarshal_json] at written
    have empty : unmarshalRequest (.object (omitEmpty "auth_token" token ++ [("message",t.data)])) = .ok {} := by
      unfold omitEmpty
      by_cases noToken : token = ""
      · simp +decide [unmarshalRequest,decodeRequest,decodeStruct,noToken,requestFields,assignMember_cons]
      · simp +decide [unmarshalRequest,decodeRequest,decodeStruct,noToken,requestFields,assignMember_cons]
        rfl
    rw [empty] at written
    cases written
    rw [SameMember,memberOf_respond echoes,RequestText.data,memberOf,t.id_eq,map_some,map_some,
      some.injEq] at answer
    cases found : t.id with
    | null => exact nonNull found
    | bool b | number q | string s => rw [found] at answer; cases answer
    | array items => rw [found,Any.canonical_array] at answer; cases answer
    | object members => rw [found,Any.canonical_object] at answer; cases answer

end forms

/-- Every request gets its response, in order, exactly when each of them is answerable. -/
theorem requests_answered_iff (route : Nat → Request → Routed) (echoes : Echoes route) (forms : List Form)
    (nonNull : ∀ form ∈ forms, form.request.id ≠ .null) (n : Nat) :
    List.Forall₂ Answers forms (handleClientMessages route n (forms.map Form.frame)) ↔
      ∀ form ∈ forms, form.Answerable := by
  induction forms generalizing n with
  | nil =>
    exact ⟨fun _ form listed => absurd listed not_mem_nil,fun _ => .nil⟩
  | cons form rest ih =>
    have later := ih (fun other listed => nonNull other (mem_cons_of_mem form listed)) (n + 1)
    rw [answered_cons_iff,later,forall_mem_cons]
    apply and_congr_left'
    cases form with
    | plain t => exact plain_answered_iff echoes n t
    | wrapped token t =>
      exact iff_of_false (wrapped_unanswered echoes n t token (nonNull _ mem_cons_self)) id

def ping : RequestText where
  members := [("jsonrpc",.string "2.0"),("method",.string "ping"),("id",.string "a")]
  plain := by simp +decide [Plain,requestNames]
  textual := by simp [Textual]
  method := "ping"
  method_eq := rfl
  id := .string "a"
  id_eq := rfl

def echo (_ : Nat) (req : Request) : Routed := .response ⟨"2.0",some (.object []),none,encodeInterface req.id⟩

/-- Routing fails for the second request. -/
def faltering (n : Nat) (req : Request) : Routed := if n = 1 then .failed "no route" else echo n req

theorem ping_answered : List.Forall₂ Answers (replicate 3 (.plain ping))
    (handleClientMessages faltering 0 ((replicate 3 (Form.plain ping)).map Form.frame)) := by
  refine (requests_answered_iff faltering ?_ (replicate 3 (.plain ping)) ?_ 0).mpr ?_
  · intro n req r routed
    unfold faltering at routed
    split at routed <;> cases routed
    rfl
  · intro form listed
    obtain rfl := eq_of_mem_replicate listed
    exact fun null => by cases null
  · intro form listed
    obtain rfl := eq_of_mem_replicate listed
    refine ⟨rfl,?_,by decide,?_⟩
    · intro member found named
      simp only [ping,mem_cons,not_mem_nil,or_false] at found
      rcases found with rfl | rfl | rfl <;> exact inRange_string _
    · intro q found
      cases found

/-- The same request, wrapped with a token, is not answered. -/
theorem wrapped_ping_ignored : handleClientMessages echo 0 [(Form.wrapped "token" ping).frame] = [] ∧
      ¬ List.Forall₂ Answers [.wrapped "token" ping]
        (handleClientMessages echo 0 [(Form.wrapped "token" ping).frame]) := by
  have silent : handleClientMessages echo 0 [(Form.wrapped "token" ping).frame] = [] := rfl
  refine ⟨silent,?_⟩
  intro answered
  cases answered

end McpBridge.TcpFrontend
