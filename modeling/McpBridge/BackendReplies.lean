import McpBridge.Routing
import McpBridge.WireTransport
import Mathlib.Data.List.DropRight

/-!
Which messages of a backend `RouteRequest` returns. The WebSocket exchange, the reader of an event-stream body and the
reader of the answer to `initialize` take the first message they come to; none looks at its identifier.
-/
namespace McpBridge.BackendReplies
open Values Auth LoadBalancers Transparency List Option
open WireTransport (Payload)
open Frontends Routing

def trimSpace (text : List Char) : List Char := (text.dropWhile isSpace).rdropWhile isSpace

def dataMark : List Char := "data: ".toList

/-- What the HTTP server of a backend sends back to a request. -/
structure HttpReply where
  status : Nat
  sessionID : String := ""
  contentType : String
  body : List Char

def HttpReply.isEventStream (reply : HttpReply) : Bool :=
  "text/event-stream".toList <:+: reply.contentType.toList

section
variable (parse : List Char → Payload)

def readJSON : Payload → Except String Response
  | .empty => .error "unexpected EOF"
  | payload => payload.unmarshal unmarshalResponse

def exchangeWebSocketMessages (incoming : List Payload) (ended : String) : Except ForwardError Response :=
  let read : Except String Response := match incoming with
    | [] => .error ended
    | payload :: _ => readJSON payload
  read.mapError fun cause => { text := "[router] websocket_read: INTERNAL: WebSocket read failed: " ++ cause }

def parseSSELines : List (List Char) → Except String Response
  | [] => .error "no data line found in SSE response"
  | line :: rest =>
    let line := trimSpace line
    if dataMark.isPrefixOf line then
      ((parse (line.drop dataMark.length)).unmarshal unmarshalResponse).mapError
        ("failed to parse SSE data as JSON: " ++ ·)
    else parseSSELines rest

def parseSSEResponse (body : List Char) : Except String Response := parseSSELines parse (body.splitOn '\n')

def processHTTPResponse (reply : HttpReply) : Except String Response :=
  if reply.status ≠ 200 then
    .error ("backend returned status " ++ toString reply.status ++ ": " ++ String.ofList reply.body)
  else if reply.isEventStream then parseSSEResponse parse reply.body
  else ((parse reply.body).unmarshal unmarshalResponse).mapError ("failed to parse response: " ++ ·)

def sendInitializeRequest (reply : HttpReply) : Except String String :=
  if reply.status ≠ 200 then
    .error ("initialize request returned " ++ toString reply.status ++ ": " ++ String.ofList reply.body)
  else if reply.sessionID = "" then
    .error "no session ID received from initialize response (missing Mcp-Session-Id header)"
  else if !reply.isEventStream then
    .error ("initialize response is not SSE format (Content-Type: " ++ reply.contentType ++ ")")
  else .ok reply.sessionID

/-- `readInitializeResponseFromSSE`, over the lines that are ended by a newline; those behind the response stay unread. -/
def readInitializeResponseFromSSE : List (List Char) → Except String (Response × List (List Char))
  | [] => .error "failed to read initialize response from SSE stream: EOF"
  | line :: rest =>
    let line := trimSpace line
    if line = [] ∨ [':'].isPrefixOf line then readInitializeResponseFromSSE rest
    else if dataMark.isPrefixOf line then
      match (parse (line.drop dataMark.length)).unmarshal unmarshalResponse with
      | .ok response => .ok (response,rest)
      | .error cause => .error ("failed to parse initialize response: " ++ cause)
    else readInitializeResponseFromSSE rest

/-- `establishSSESessionViaInitialize`: the session, its first response and the rest of the stream. -/
def establishSSESessionViaInitialize (reply : HttpReply) : Except String (String × Response × List (List Char)) :=
  match sendInitializeRequest reply with
  | .error cause => .error cause
  | .ok session => (readInitializeResponseFromSSE parse (reply.body.splitOn '\n').dropLast).map fun read => (session,read)

end

/-- What comes back from the backend of an endpoint, by the way in which it is asked. -/
structure Backend where
  /-- The messages of the WebSocket connection, and the error of a read after the last. -/
  incoming : List Payload := []
  ended : String := ""
  reply : HttpReply := { status := 200, contentType := "", body := [] }
  hasStream : Bool := false
  /-- The outcome of the call on a stream, one that is open or one that a `GET` opens. -/
  viaStream : Except ForwardError Response := .error { text := "" }

def forwardRequestViaSSE (parse : List Char → Payload) (b : Backend) (request : Request) : Except ForwardError Response :=
  if b.hasStream = false ∧ request.method = "initialize" then
    match establishSSESessionViaInitialize parse b.reply with
    | .ok (_,response,_) => .ok response
    | .error _ => b.viaStream
  else b.viaStream

/-- `forwardRequestWebSocket` and `forwardRequestHTTP`, by the scheme of the endpoint. -/
def forward (parse : List Char → Payload) (b : Backend) (_ : Ctx) (ep : Endpoint) (request : Request) :
    Except ForwardError Response :=
  if ep.scheme = "ws" ∨ ep.scheme = "wss" then exchangeWebSocketMessages b.incoming b.ended
  else if ep.scheme = "sse" then forwardRequestViaSSE parse b request
  else (processHTTPResponse parse b.reply).mapError fun cause => { text := cause }

/-! ### Messages on the exchange -/

/-- A message of the backend, and whether a reader takes it for one: of an event only data after `data: ` is read. -/
structure Message where
  doc : Any
  marked : Bool := true

/-- The fields of an event besides its data; a comment is a field without a name. -/
inductive FieldName where
  | comment
  | event
  | id
  | retry

def FieldName.text : FieldName → List Char
  | .comment => []
  | .event => "event".toList
  | .id => "id".toList
  | .retry => "retry".toList

structure Field where
  name : FieldName
  value : List Char
  oneLine : '\n' ∉ value

def Field.line (field : Field) : List Char := field.name.text ++ ':' :: field.value

/-- An event with a message in its data. -/
structure Event (parse : List Char → Payload) where
  before : List Field := []
  spaced : Bool := true
  text : List Char
  doc : Any
  after : List Field := []
  present : text ≠ []
  oneLine : '\n' ∉ text
  begins : ∀ c ∈ text.head?, isSpace c = false
  ends : ∀ c ∈ text.getLast?, isSpace c = false
  parsed : parse text = .json doc

section
variable {parse : List Char → Payload}

namespace Event

def message (event : Event parse) : Message := ⟨event.doc,event.spaced⟩

def dataLine (event : Event parse) : List Char :=
  if event.spaced then dataMark ++ event.text else "data:".toList ++ event.text

def lines (event : Event parse) : List (List Char) :=
  event.before.map Field.line ++ event.dataLine :: (event.after.map Field.line ++ [[]])

end Event

def eventBody (events : List (Event parse)) : List Char :=
  ['\n'].intercalate (events.flatMap Event.lines ++ [[]])

variable (parse) in
/-- The backend sends the messages on the exchange of `forward`; with a session, `initialize` has only its answer. -/
inductive Carries (b : Backend) (ep : Endpoint) (request : Request) : List Message → Prop where
  | webSocket {messages : List Message} (scheme : ep.scheme = "ws" ∨ ep.scheme = "wss")
      (incoming : b.incoming = messages.map fun m => .json m.doc) (marked : ∀ m ∈ messages, m.marked = true) :
      Carries b ep request messages
  | json {doc : Any} (scheme : ep.scheme = "http" ∨ ep.scheme = "https") (status : b.reply.status = 200)
      (plain : b.reply.isEventStream = false) (body : parse b.reply.body = .json doc) : Carries b ep request [⟨doc,true⟩]
  | events {events : List (Event parse)} (scheme : ep.scheme = "http" ∨ ep.scheme = "https")
      (status : b.reply.status = 200) (stream : b.reply.isEventStream = true) (body : b.reply.body = eventBody events) :
      Carries b ep request (events.map Event.message)
  | opening {events : List (Event parse)} (scheme : ep.scheme = "sse") (fresh : b.hasStream = false)
      (method : request.method = "initialize") (status : b.reply.status = 200) (session : b.reply.sessionID ≠ "")
      (stream : b.reply.isEventStream = true) (body : b.reply.body = eventBody events)
      (only : ∀ response, b.viaStream ≠ .ok response) : Carries b ep request (events.map Event.message)

theorem trimSpace_cons {c : Char} (kept : isSpace c = false) (rest : List Char) :
    ∃ rest', trimSpace (c :: rest) = c :: rest' := by
  unfold trimSpace
  rw [dropWhile_cons_of_neg (by simp [kept])]
  induction rest using reverseRecOn with
  | nil => exact ⟨[],by simp [rdropWhile_singleton,kept]⟩
  | append_singleton rest last ih =>
    by_cases space : isSpace last = true
    · rw [← cons_append,rdropWhile_concat_pos _ _ _ space]
      exact ih
    · rw [← cons_append,rdropWhile_concat_neg _ _ _ space]
      exact ⟨rest ++ [last],rfl⟩

theorem trimSpace_eq_self {line : List Char} (begins : ∀ c ∈ line.head?, isSpace c = false)
    (ends : ∀ c ∈ line.getLast?, isSpace c = false) : trimSpace line = line := by
  unfold trimSpace
  cases line with
  | nil => rfl
  | cons c rest =>
    have kept : isSpace c = false := begins c rfl
    rw [dropWhile_cons_of_neg (by simp [kept]),rdropWhile_eq_self_iff]
    intro nonempty
    have last := ends _ (getLast?_eq_some_getLast nonempty)
    simp [last]

variable (field : Field)

theorem Field.line_head : ∃ c rest, field.line = c :: rest ∧ isSpace c = false ∧ c ≠ 'd' := by
  obtain ⟨name,value,_⟩ := field
  cases name with
  | comment => exact ⟨':',_,rfl,by decide,by decide⟩
  | event => exact ⟨'e',_,rfl,by decide,by decide⟩
  | id => exact ⟨'i',_,rfl,by decide,by decide⟩
  | retry => exact ⟨'r',_,rfl,by decide,by decide⟩

theorem Field.line_oneLine : '\n' ∉ field.line := by
  have name : '\n' ∉ field.name.text := by cases field.name <;> decide
  rw [Field.line,mem_append,mem_cons,not_or,not_or]
  exact ⟨name,by decide,field.oneLine⟩

def IsData (line : List Char) : Prop := dataMark.isPrefixOf (trimSpace line) = true

theorem Field.not_data : ¬ IsData field.line := by
  obtain ⟨c,rest,line,visible,other⟩ := field.line_head
  obtain ⟨rest',trimmed⟩ := trimSpace_cons visible rest
  rw [IsData,line,trimmed]
  intro data
  have first : 'd' = c := beq_iff_eq.mp (Bool.and_eq_true_iff.mp data).1
  exact other first.symm

theorem empty_not_data : ¬ IsData [] := fun data => by cases data

namespace Event

variable (event : Event parse)

theorem dataLine_trimmed : trimSpace event.dataLine = event.dataLine := by
  have last : ∀ start : List Char, (start ++ event.text).getLast? = event.text.getLast? := by
    intro start
    rw [getLast?_append_of_ne_nil _ event.present]
  have begins : ∀ rest, ∀ c ∈ ('d' :: rest : List Char).head?, isSpace c = false := by
    rintro rest c ⟨⟩
    decide
  unfold dataLine
  split
  all_goals
    refine trimSpace_eq_self (begins _) ?_
    rw [last]
    exact event.ends

theorem dataLine_isData_iff : IsData event.dataLine ↔ event.spaced = true := by
  rw [IsData,dataLine_trimmed]
  unfold dataLine
  split
  next spaced => exact iff_of_true ( isPrefixOf_iff_prefix.mpr (prefix_append ..)) spaced
  next unspaced =>
    refine iff_of_false ?_ unspaced
    have begins := event.begins
    cases shape : event.text with
    | nil => exact absurd shape event.present
    | cons c rest =>
      rw [shape] at begins
      intro data
      have blank : (' ' == c && [].isPrefixOf rest) = true := data
      have same : ' ' = c := beq_iff_eq.mp (Bool.and_eq_true_iff.mp blank).1
      have visible : isSpace c = false := begins c rfl
      rw [← same] at visible
      cases visible

theorem drop_dataLine (spaced : event.spaced = true) :
    (trimSpace event.dataLine).drop dataMark.length = event.text := by
  rw [dataLine_trimmed,dataLine,if_pos spaced,drop_left]

theorem lines_oneLine : ∀ line ∈ event.lines, '\n' ∉ line := by
  have fields : ∀ fields : List Field, ∀ line ∈ fields.map Field.line, '\n' ∉ line := by
    intro fields line member
    obtain ⟨field,_,rfl⟩ := mem_map.mp member
    exact field.line_oneLine
  intro line member
  rw [lines,mem_append,mem_cons,mem_append,mem_singleton] at member
  obtain before | rfl | after | rfl := member
  · exact fields _ line before
  · have marked : '\n' ∉ dataMark ∧ '\n' ∉ "data:".toList := by decide
    unfold dataLine
    split <;> rw [mem_append,not_or]
    · exact ⟨marked.1,event.oneLine⟩
    · exact ⟨marked.2,event.oneLine⟩
  · exact fields _ line after
  · exact not_mem_nil

end Event

/-- The text of the first line with data, and the lines behind it. -/
def firstData : List (List Char) → Option (List Char × List (List Char))
  | [] => none
  | line :: rest =>
    if dataMark.isPrefixOf (trimSpace line) then some ((trimSpace line).drop dataMark.length,rest) else firstData rest

variable (lines : List (List Char))

theorem parseSSELines_eq : parseSSELines parse lines = match firstData lines with
    | none => .error "no data line found in SSE response"
    | some (text,_) => ((parse text).unmarshal unmarshalResponse).mapError ("failed to parse SSE data as JSON: " ++ ·) := by
  induction lines with
  | nil => rfl
  | cons line rest ih =>
    by_cases data : dataMark.isPrefixOf (trimSpace line) = true
    · simp only [parseSSELines,firstData,if_pos data]
    · simp only [parseSSELines,firstData,if_neg data]
      exact ih

theorem readInitializeResponseFromSSE_eq : readInitializeResponseFromSSE parse lines = match firstData lines with
    | none => .error "failed to read initialize response from SSE stream: EOF"
    | some (text,rest) =>
      match (parse text).unmarshal unmarshalResponse with
      | .ok response => .ok (response,rest)
      | .error cause => .error ("failed to parse initialize response: " ++ cause) := by
  induction lines with
  | nil => rfl
  | cons line rest ih =>
    by_cases data : dataMark.isPrefixOf (trimSpace line) = true
    · have visible : ¬ (trimSpace line = [] ∨ [':'].isPrefixOf (trimSpace line) = true) := by
        cases shape : trimSpace line with
        | nil =>
          rw [shape] at data
          cases data
        | cons c rest =>
          rw [shape] at data
          have first : 'd' = c := beq_iff_eq.mp (Bool.and_eq_true_iff.mp data).1
          rw [← first]
          rintro (none_left | comment)
          · cases none_left
          · cases comment
      simp only [readInitializeResponseFromSSE,firstData,if_pos data,if_neg visible]
    · simp only [readInitializeResponseFromSSE,firstData,if_neg data]
      rw [ite_self]
      exact ih

theorem firstData_append {lines : List (List Char)} (none_data : ∀ line ∈ lines, ¬ IsData line)
    (rest : List (List Char)) : firstData (lines ++ rest) = firstData rest := by
  induction lines with
  | nil => rfl
  | cons line lines ih =>
    have here : ¬ dataMark.isPrefixOf (trimSpace line) = true := none_data line (mem_cons_self ..)
    rw [cons_append,firstData,if_neg here]
    exact ih fun other member => none_data other (mem_cons_of_mem _ member)

theorem fields_not_data (fields : List Field) : ∀ line ∈ fields.map Field.line, ¬ IsData line := by
  intro line member
  obtain ⟨field,_,rfl⟩ := mem_map.mp member
  exact field.not_data

variable (events : List (Event parse)) {tail : List (List Char)}

/-- Of the events of a body the readers come to the first with data that is marked as they expect. -/
theorem firstData_events (none_data : ∀ line ∈ tail, ¬ IsData line) :
    (firstData (events.flatMap Event.lines ++ tail)).map (fun found => parse found.1) =
      ((events.map Event.message).find? (·.marked)).map fun m => .json m.doc := by
  induction events with
  | nil =>
    have skipped := firstData_append none_data []
    rw [append_nil] at skipped
    rw [flatMap_nil,nil_append,skipped]
    rfl
  | cons event events ih =>
    rw [flatMap_cons,append_assoc,Event.lines,append_assoc,firstData_append (fields_not_data _),cons_append,map_cons]
    by_cases spaced : event.spaced = true
    · have data : dataMark.isPrefixOf (trimSpace event.dataLine) = true := event.dataLine_isData_iff.mpr spaced
      rw [firstData,if_pos data,event.drop_dataLine spaced,find?_cons_of_pos (by exact spaced)]
      simp only [map_some,event.parsed]
      rfl
    · have skipped : ∀ line ∈ event.dataLine :: (event.after.map Field.line ++ [[]]), ¬ IsData line := by
        intro line member
        rw [mem_cons,mem_append,mem_singleton] at member
        obtain rfl | field | rfl := member
        · exact fun data => spaced (event.dataLine_isData_iff.mp data)
        · exact fields_not_data _ line field
        · exact empty_not_data
      rw [← cons_append,firstData_append skipped,find?_cons_of_neg (by exact spaced),ih]

theorem splitOn_eventBody : (eventBody events).splitOn '\n' = events.flatMap Event.lines ++ [[]] := by
  refine splitOn_intercalate '\n' ?_ (by simp)
  intro line member
  rw [mem_append,mem_flatMap,mem_singleton] at member
  obtain ⟨event,_,inside⟩ | rfl := member
  · exact event.lines_oneLine line inside
  · exact not_mem_nil

theorem mapError_eq_ok_iff {ε ε' α : Type} {outcome : Except ε α} {f : ε → ε'} {a : α} :
    outcome.mapError f = .ok a ↔ outcome = .ok a := by
  cases outcome with
  | ok | error => simp [Except.mapError]

/-- The first message that a reader takes for one reads as the response. -/
def Found (messages : List Message) (response : Response) : Prop :=
  ∃ m, messages.find? (·.marked) = some m ∧ unmarshalResponse m.doc = .ok response

theorem found_iff (none_data : ∀ line ∈ tail, ¬ IsData line) (response : Response) : Found (events.map Event.message) response ↔
      ∃ text rest, firstData (events.flatMap Event.lines ++ tail) = some (text,rest) ∧
        (parse text).unmarshal unmarshalResponse = .ok response := by
  have same := firstData_events events none_data
  constructor
  · rintro ⟨m,first,read⟩
    rw [first,map_some,map_eq_some_iff] at same
    obtain ⟨⟨text,rest⟩,found,parsed⟩ := same
    refine ⟨text,rest,found,?_⟩
    rw [parsed]
    exact read
  · rintro ⟨text,rest,found,read⟩
    rw [found,map_some,eq_comm,map_eq_some_iff] at same
    obtain ⟨m,first,parsed⟩ := same
    refine ⟨m,first,?_⟩
    rw [← parsed] at read
    exact read

theorem parseSSEResponse_eq_ok_iff (response : Response) :
    parseSSEResponse parse (eventBody events) = .ok response ↔ Found (events.map Event.message) response := by
  have tail : ∀ line ∈ [([] : List Char)], ¬ IsData line := by
    intro line member
    rw [mem_singleton.mp member]
    exact empty_not_data
  rw [parseSSEResponse,splitOn_eventBody,parseSSELines_eq,found_iff events tail]
  cases firstData (events.flatMap Event.lines ++ [[]]) with
  | none => simp
  | some found =>
    obtain ⟨text,rest⟩ := found
    simp [mapError_eq_ok_iff]

theorem readInitializeResponseFromSSE_eq_ok_iff (response : Response) :
    (∃ rest, readInitializeResponseFromSSE parse ((eventBody events).splitOn '\n').dropLast = .ok (response,rest)) ↔
      Found (events.map Event.message) response := by
  have tail : ∀ line ∈ ([] : List (List Char)), ¬ IsData line := fun line member => by cases member
  rw [splitOn_eventBody,dropLast_concat,readInitializeResponseFromSSE_eq,found_iff events tail,append_nil]
  cases firstData (events.flatMap Event.lines) with
  | none => simp
  | some found =>
    obtain ⟨text,rest⟩ := found
    cases read : (parse text).unmarshal unmarshalResponse with
    | ok other => simp [read]
    | error cause => simp [read]

theorem establish_eq_ok_iff {reply : HttpReply} (status : reply.status = 200) (session : reply.sessionID ≠ "")
    (stream : reply.isEventStream = true) (response : Response) :
    (∃ id rest, establishSSESessionViaInitialize parse reply = .ok (id,response,rest)) ↔
      ∃ rest, readInitializeResponseFromSSE parse (reply.body.splitOn '\n').dropLast = .ok (response,rest) := by
  have sent : sendInitializeRequest reply = .ok reply.sessionID := by
    simp [sendInitializeRequest,status,session,stream]
  unfold establishSSESessionViaInitialize
  rw [sent]
  cases readInitializeResponseFromSSE parse (reply.body.splitOn '\n').dropLast with
  | ok read => simp [Except.map,eq_comm]
  | error cause => simp [Except.map]

/-- Every reader returns the first message it takes for one. -/
theorem forward_eq_ok_iff {b : Backend} {ep : Endpoint} {request : Request} {messages : List Message}
    (carried : Carries parse b ep request messages) (ctx : Ctx) (response : Response) :
    forward parse b ctx ep request = .ok response ↔ Found messages response := by
  cases carried with
  | webSocket scheme incoming marked =>
    rw [forward,if_pos scheme]
    unfold exchangeWebSocketMessages
    rw [incoming,mapError_eq_ok_iff]
    cases messages with
    | nil => simp [Found]
    | cons first rest =>
      have taken : first.marked = true := marked first (mem_cons_self ..)
      simp [Found,find?_cons_of_pos,taken,readJSON]
  | json scheme status plain body =>
    have other : ¬ (ep.scheme = "ws" ∨ ep.scheme = "wss") ∧ ep.scheme ≠ "sse" := by
      obtain same | same := scheme <;> rw [same] <;> decide
    rw [forward,if_neg other.1,if_neg other.2,mapError_eq_ok_iff]
    simp [processHTTPResponse,status,plain,body,mapError_eq_ok_iff,Found]
  | events scheme status stream body =>
    have other : ¬ (ep.scheme = "ws" ∨ ep.scheme = "wss") ∧ ep.scheme ≠ "sse" := by
      obtain same | same := scheme <;> rw [same] <;> decide
    rw [forward,if_neg other.1,if_neg other.2,mapError_eq_ok_iff,← parseSSEResponse_eq_ok_iff,← body]
    simp [processHTTPResponse,status,stream]
  | @opening events scheme fresh method status session stream body only =>
    have other : ¬ (ep.scheme = "ws" ∨ ep.scheme = "wss") := by
      rw [scheme]
      decide
    rw [forward,if_neg other,if_pos scheme,forwardRequestViaSSE,if_pos ⟨fresh,method⟩,
      ← readInitializeResponseFromSSE_eq_ok_iff events,← body,← establish_eq_ok_iff status session stream]
    cases establishSSESessionViaInitialize parse b.reply with
    | ok established =>
      obtain ⟨id,first,rest⟩ := established
      simp
    | error cause => simp [only response]

end

theorem routeRequest_response {r : Router} {backend : Ctx → Endpoint → Request → Except ForwardError Response}
    {now : Int} {call : RouteCall} {ep : Endpoint} (served : Serves r (RouteCall.target call) ep) :
    (routeRequest r backend now call).response =
      (backend call.routedContext ep call.request).mapError wrapForwardingError := by
  obtain ⟨selected,closed,supported⟩ := served
  have breakers := selectEndpoint_breaker r (RouteCall.target call) ep.address
  unfold routeRequest
  split
  next text after failed =>
    rw [failed] at selected
    cases selected
  next chosen after chose =>
    rw [chose] at selected breakers
    cases selected
    rw [← breakers] at closed
    simp only [executeWithCircuitBreaker,if_neg closed,forwardRequest,if_pos supported]

/-- A message that is not the response: it has no identifier, or not that of the request. -/
def Other (request : Request) (m : Message) : Prop :=
  ∀ read, unmarshalResponse m.doc = .ok read → read.id = .null ∨ read.id ≠ request.id

/-- Messages of others that come first are taken for the response, or the response is not taken for one. -/
theorem found_answer_iff {request : Request} {others : List Message} {answer : Message} {response : Response}
    (read : unmarshalResponse answer.doc = .ok response) (own : response.id = request.id)
    (foreign : ∀ m ∈ others, Other request m) :
    Found (others ++ [answer]) response ↔ ((∀ m ∈ others, m.marked = false) ∧ answer.marked = true) ∨
      (request.id = .null ∧ Found others response) := by
  constructor
  · rintro ⟨m,first,reads⟩
    rw [find?_append] at first
    cases early : others.find? (·.marked) with
    | none =>
      rw [early,none_or] at first
      have answered := find?_some first
      have same : m = answer := mem_singleton.mp (mem_of_find?_eq_some first)
      rw [same] at answered
      refine .inl ⟨fun other member => ?_,answered⟩
      simpa using find?_eq_none.mp early other member
    | some other =>
      rw [early,some_or] at first
      cases first
      obtain null | differs := foreign m (mem_of_find?_eq_some early) response reads
      · exact .inr ⟨own.symm.trans null,m,early,reads⟩
      · exact absurd own differs
  · rintro (⟨unmarked,marked⟩ | ⟨_,m,early,reads⟩)
    · have none_early : others.find? (·.marked) = none := by
        rw [find?_eq_none]
        intro m member
        simp [unmarked m member]
      refine ⟨answer,?_,read⟩
      rw [find?_append,none_early,none_or,find?_cons_of_pos marked]
    · refine ⟨m,?_,reads⟩
      rw [find?_append,early,some_or]

/-- `RouteRequest` returns the response to the request exactly when the readers take it for one and no message before
    it; or when the request has no identifier, and neither has a message before it that reads as the same. -/
theorem answer_returned_iff (parse : List Char → Payload) (r : Router) (b : Backend) (now : Int) (call : RouteCall)
    (ep : Endpoint) (served : Serves r (RouteCall.target call) ep) (others : List Message) (answer : Message)
    (response : Response) (carried : Carries parse b ep call.request (others ++ [answer]))
    (read : unmarshalResponse answer.doc = .ok response) (own : response.id = call.request.id)
    (foreign : ∀ m ∈ others, Other call.request m) :
    (routeRequest r (forward parse b) now call).response = .ok response ↔
      ((∀ m ∈ others, m.marked = false) ∧ answer.marked = true) ∨
        (call.request.id = .null ∧ Found others response) := by
  rw [routeRequest_response served,mapError_eq_ok_iff,forward_eq_ok_iff carried]
  exact found_answer_iff read own foreign

def systemEndpoint (scheme : String) : Endpoint := { ns := "system", address := "10.0.0.2", port := 8080, scheme := scheme }

def systemRouter (scheme : String) : Router where
  config := ⟨"round_robin",5,2,30⟩
  discovered ns := if ns = "system" then [systemEndpoint scheme] else []

def initializeCall : RouteCall := ⟨[],{ method := "initialize", id := .string "a" },""⟩

variable {scheme : String}

theorem system_served (supported : supportedScheme scheme = true) :
    Serves (systemRouter scheme) (RouteCall.target initializeCall) (systemEndpoint scheme) := by
  refine ⟨?_,?_,supported⟩
  · simp only [supportedScheme,contains_iff_mem,mem_cons,not_mem_nil,or_false] at supported
    obtain rfl | rfl | rfl | rfl | rfl := supported <;> rfl
  · simp [Router.getCircuitBreaker,systemRouter]

def progress : Any := .object [("jsonrpc",.string "2.0"),("method",.string "notifications/progress")]

def progressText : List Char := "\x7b\"jsonrpc\":\"2.0\",\"method\":\"notifications/progress\"\x7d".toList

def initialized : Any := .object [("jsonrpc",.string "2.0"),("id",.string "a"),("result",.string "ready")]

def initializedText : List Char := "\x7b\"jsonrpc\":\"2.0\",\"id\":\"a\",\"result\":\"ready\"\x7d".toList

def parseSample (text : List Char) : Payload :=
  if text = progressText then .json progress else if text = initializedText then .json initialized
  else .malformed [] "invalid character"

theorem parse_initializedText : parseSample initializedText = .json initialized := by
  unfold parseSample
  rw [if_neg (by decide),if_pos rfl]

def progressEvent : Event parseSample where
  before := [⟨.event,"message".toList,by decide⟩]
  text := progressText
  doc := progress
  present := by decide
  oneLine := by decide
  begins := by
    rintro c ⟨⟩
    decide
  ends := by
    rintro c ⟨⟩
    decide
  parsed := if_pos rfl

def initializedEvent : Event parseSample where
  text := initializedText
  doc := initialized
  present := by decide
  oneLine := by decide
  begins := by
    rintro c ⟨⟩
    decide
  ends := by
    rintro c ⟨⟩
    decide
  parsed := parse_initializedText

theorem answer_alone_returned : (routeRequest (systemRouter "http")
      (forward parseSample { reply := { status := 200, contentType := "application/json", body := initializedText } }) 0
      initializeCall).response = .ok { jsonrpc := "2.0", id := .string "a", result := .string "ready" } := by
  refine (answer_returned_iff parseSample _ _ 0 initializeCall _ (system_served (by decide)) [] ⟨initialized,true⟩ _
    (.json (.inl rfl) rfl (by decide) parse_initializedText) rfl rfl ?_).mpr (.inl ⟨?_,rfl⟩)
  all_goals
    intro m none
    cases none

def progressReply : HttpReply where
  status := 200
  sessionID := "s"
  contentType := "text/event-stream"
  body := eventBody [progressEvent,initializedEvent]

def progressFirst : Backend where
  incoming := [.json progress,.json initialized]
  reply := progressReply

/-- A notification that comes before the response is returned in its place, with neither identifier nor result. -/
def Misled (scheme : String) : Prop :=
  Carries parseSample progressFirst (systemEndpoint scheme) initializeCall.request [⟨progress,true⟩,⟨initialized,true⟩] ∧
    unmarshalResponse initialized = .ok { jsonrpc := "2.0", id := .string "a", result := .string "ready" } ∧
    (routeRequest (systemRouter scheme) (forward parseSample progressFirst) 0 initializeCall).response =
      .ok { jsonrpc := "2.0" }

theorem misled (supported : supportedScheme scheme = true)
    (carried : Carries parseSample progressFirst (systemEndpoint scheme) initializeCall.request
      [⟨progress,true⟩,⟨initialized,true⟩]) : Misled scheme := by
  refine ⟨carried,rfl,?_⟩
  rw [routeRequest_response (system_served supported),mapError_eq_ok_iff,forward_eq_ok_iff carried]
  exact ⟨_,rfl,rfl⟩

theorem notification_returned : Misled "ws" ∧ Misled "http" ∧ Misled "sse" := by
  refine ⟨misled (by decide) ?_,misled (by decide) ?_,misled (by decide) ?_⟩
  · exact .webSocket (.inl rfl) rfl (by simp)
  · exact @Carries.events _ _ _ _ [progressEvent,initializedEvent] (.inl rfl) rfl (by decide) rfl
  · exact @Carries.opening _ _ _ _ [progressEvent,initializedEvent] rfl rfl rfl rfl (by decide) (by decide) rfl nofun

end McpBridge.BackendReplies
