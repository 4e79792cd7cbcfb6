import McpBridge.Transparency

/-!
The identifiers of the error responses of the HTTP and the WebSocket frontend.
-/
namespace McpBridge.ErrorIds
open Values Transparency

/-- `raw["id"]` of the message, decoded into a map. -/
def extractRequestID (data : Any) : Any :=
  match data,decodeInterface data with
  | .object members,.ok _ => heldOf (Any.member? "id" members)
  | _,_ => .null

/-- What follows the decoding of a request: for HTTP its session is made first. -/
structure Gateway where
  route : Request → String → Except String Response
  send : Response → Except String Unit

variable (g : Gateway)

def processRequest (package : String) (data : Any) : Except String Response := do
  let (req,target) ← processClientMessage package data
  g.route req target

/-- The error response of the HTTP frontend, if the message is not processed. -/
def handleRequest (data : Any) : Option Response :=
  match processRequest g "http" data with
  | .ok _ => none
  | .error err => some (errorResponse .null err)

/-- The error response of the WebSocket frontend. -/
def handleClientRead (data : Any) : Option Response :=
  match processRequest g "websocket" data >>= g.send with
  | .ok _ => none
  | .error err => some (errorResponse (extractRequestID data) err)

/-- A wire message with a JSON-RPC request in it. -/
structure Message where
  members : List (String × Any)
  request : RequestText
  payload : Any.member? "mcp_payload" members = some request.data

def Message.data (m : Message) : Any := .object m.members

/-- The identifier on the wire, with the float64s nearest to its numbers, is that of the request, or `null` where a
    number is out of range. -/
def Message.Echoes (m : Message) : Prop :=
  if InRange m.data then
    ((Any.member? "id" m.members).getD .null).canonical.mapNumbers (writeNumber ∘ readNumber) = m.request.id.canonical
  else m.request.id = .null

/-- The response's `id` on the wire is the message's. -/
def Carries (resp : Response) (m : Message) : Prop :=
  SameMember "id" (marshalResponse resp) m.request.data

variable {g} {m : Message} {resp : Response}

theorem carries_iff : Carries resp m ↔ (encodeInterface resp.id).canonical = m.request.id.canonical := by
  rw [Carries,SameMember,(memberOf_marshalResponse resp).1,RequestText.data,memberOf,m.request.id_eq,Option.map_some,
    Option.map_some,Option.some.injEq]

theorem canonical_eq_null {v : Any} : .null = v.canonical ↔ v = .null := by
  cases v with
  | array items => simp [Any.canonical_array]
  | object members => simp [Any.canonical_object]
  | null => exact iff_of_true rfl rfl
  | bool | number | string => exact ⟨nofun,nofun⟩

theorem canonical_heldOf (v : Option Any) : (encodeInterface (heldOf v)).canonical =
    (v.getD .null).canonical.mapNumbers (writeNumber ∘ readNumber) := by
  cases v with
  | none => rfl
  | some v =>
    rw [heldOf,encodeInterface,valueOf,Any.canonical_mapNumbers,Any.canonical_mapNumbers,Any.canonical_canonical,
      Any.mapNumbers_mapNumbers]
    rfl

theorem extractRequestID_echoes :
    (encodeInterface (extractRequestID m.data)).canonical = m.request.id.canonical ↔ m.Echoes := by
  unfold Message.Echoes
  split
  next fits =>
    have decoded := decodeInterface_eq_ok_iff.mpr ⟨fits,rfl⟩
    rw [Message.data] at decoded ⊢
    simp only [extractRequestID,decoded,canonical_heldOf]
  next large =>
    have refused : extractRequestID m.data = .null := by
      rw [Message.data] at large ⊢
      simp [extractRequestID,decodeInterface,large]
    rw [refused]
    exact canonical_eq_null

/-- The HTTP frontend's error response carries the request's identifier exactly when that is `null`, the WebSocket
    frontend's when the wire message has the same one. -/
theorem error_ids_iff (g : Gateway) (m : Message) :
    (∀ resp, handleRequest g m.data = some resp → (Carries resp m ↔ m.request.id = .null)) ∧
      ∀ resp, handleClientRead g m.data = some resp → (Carries resp m ↔ m.Echoes) := by
  constructor
  · intro resp sent
    unfold handleRequest at sent
    split at sent <;> cases sent
    exact carries_iff.trans canonical_eq_null
  · intro resp sent
    unfold handleClientRead at sent
    split at sent <;> cases sent
    exact carries_iff.trans extractRequestID_echoes

/-- A request in a wire message, with their identifiers. -/
def identified (wire id : Any) : Message where
  members := [("id",wire),("mcp_payload",.object [("method",.string "x.y"),("id",id)])]
  request :=
    { members := [("method",.string "x.y"),("id",id)]
      plain := by simp +decide [Plain,requestNames]
      textual := by simp [Textual]
      method := "x.y"
      method_eq := rfl
      id := id
      id_eq := rfl }
  payload := rfl

def unrouted : Message := identified (.string "b") (.string "a")

def routeless : Gateway := ⟨fun _ _ => .error "no route",fun _ => .ok ()⟩

theorem routeless_error (package : String) (data : Any) : ∃ err, processRequest routeless package data = .error err := by
  unfold processRequest
  cases processClientMessage package data <;> exact ⟨_,rfl⟩

theorem handleRequest_routeless (data : Any) : ∃ err, handleRequest routeless data = some (errorResponse .null err) := by
  obtain ⟨err,failed⟩ := routeless_error "http" data
  exact ⟨err,by rw [handleRequest,failed]⟩

theorem handleClientRead_routeless (data : Any) :
    ∃ err, handleClientRead routeless data = some (errorResponse (extractRequestID data) err) := by
  obtain ⟨err,failed⟩ := routeless_error "websocket" data
  exact ⟨err,by rw [handleClientRead,failed]; rfl⟩

/-- A request without an identifier over HTTP, and one with that of its wire message over a WebSocket. -/
theorem error_ids_replied :
    (∃ resp, handleRequest routeless (identified (.string "b") .null).data = some resp ∧
      Carries resp (identified (.string "b") .null)) ∧
    ∃ resp, handleClientRead routeless (identified (.string "a") (.string "a")).data = some resp ∧
      Carries resp (identified (.string "a") (.string "a")) := by
  obtain ⟨_,sent⟩ := handleRequest_routeless (identified (.string "b") .null).data
  obtain ⟨_,sent'⟩ := handleClientRead_routeless (identified (.string "a") (.string "a")).data
  have fits : InRange (identified (.string "a") (.string "a")).data := by decide
  refine ⟨⟨_,sent,((error_ids_iff routeless _).1 _ sent).mpr rfl⟩,_,sent',((error_ids_iff routeless _).2 _ sent').mpr ?_⟩
  rw [Message.Echoes,if_pos fits]
  rfl

/-- The HTTP frontend answers without an identifier, the WebSocket frontend with the wire message's. -/
theorem error_ids_lost : (∃ resp, handleRequest routeless unrouted.data = some resp ∧ ¬ Carries resp unrouted) ∧
    ∃ resp, handleClientRead routeless unrouted.data = some resp ∧ resp.id = .string "b" ∧ ¬ Carries resp unrouted := by
  obtain ⟨_,sent⟩ := handleRequest_routeless unrouted.data
  obtain ⟨_,sent'⟩ := handleClientRead_routeless unrouted.data
  refine ⟨⟨_,sent,?_⟩,_,sent',rfl,?_⟩
  · rw [carries_iff]
    nofun
  · rw [carries_iff]
    intro same
    have same : Any.string "b" = .string "a" := same
    simp at same

end McpBridge.ErrorIds
