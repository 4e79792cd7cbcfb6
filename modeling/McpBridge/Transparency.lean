import McpBridge.Frontends
import McpBridge.JsonText

/-!
Requests, responses and wire messages as JSON text, which the parties decode and write.
-/
namespace McpBridge.Transparency
open Values List Any Floats
open Frontends (WireMessage wireMessageFields decodeMessage)

/-- A value of the Go type `int`. -/
def IsInt (n : Int) : Prop := -2 ^ 63 ≤ n ∧ n < 2 ^ 63

instance (n : Int) : Decidable (IsInt n) := inferInstanceAs (Decidable (_ ∧ _))

/-- A field of type `int` takes a number without a fraction in its range. -/
def intField {σ : Type} (struct name : String) (set : σ → Int → σ) : StructField σ where
  name := name
  assign s
    | .null => .ok s
    | .number q =>
      if q.den = 1 ∧ IsInt q.num then .ok (set s q.num)
      else .error ("json: cannot unmarshal number into Go struct field " ++ struct ++ "." ++ name ++ " of type int")
    | v => .error ("json: cannot unmarshal " ++ v.kind ++ " into Go struct field " ++ struct ++ "." ++ name ++
        " of type int")

def unmarshalRequest : Any → Except String Request := decodeRequest .text

def errorTextFields : List (StructField Error) :=
  [intField "Error.error" "code" fun e n => { e with code := n },
   stringField "Error.error" "message" fun e text => { e with message := text },
   interfaceField .text "data" fun e v => { e with data := v }]

/-- A field of type `*mcp.Error`. -/
def errorField : StructField Response where
  name := "error"
  assign r
    | .null => .ok { r with error := none }
    | v => (decodeStruct "mcp.Error" errorTextFields (r.error.getD ⟨0,"",.null⟩) v).map fun e => { r with error := some e }

def responseTextFields : List (StructField Response) :=
  [stringField "Response" "jsonrpc" fun r text => { r with jsonrpc := text },
   interfaceField .text "result" fun r v => { r with result := v }, errorField,
   interfaceField .text "id" fun r v => { r with id := v }]

def unmarshalResponse : Any → Except String Response := decodeStruct "mcp.Response" responseTextFields { jsonrpc := "" }

/-! ### Structs written as text -/

def isNil : Any → Bool
  | .null => true
  | _ => false

/-- A member with `omitempty` of type `interface{}`. -/
def omitNil (name : String) (v : Any) : List (String × Any) := if isNil v then [] else [(name,encodeInterface v)]

/-- A member with `omitempty` of type `string`. -/
def omitEmpty (name text : String) : List (String × Any) := if text = "" then [] else [(name,.string text)]

def marshalRequest (req : Request) : Any :=
  .object ([("jsonrpc",.string req.jsonrpc),("method",.string req.method)] ++ omitNil "params" req.params ++
    [("id",encodeInterface req.id)])

def marshalError (e : Error) : Any :=
  .object ([("code",.number e.code),("message",.string e.message)] ++ omitNil "data" e.data)

/-- `json.Marshal` of an `mcp.Response`: the line that `sendResponse` writes. -/
def marshalResponse (resp : Response) : Any :=
  .object ([("jsonrpc",.string resp.jsonrpc)] ++ omitNil "result" resp.result ++
    (resp.error.map fun e => ("error",marshalError e)).toList ++ [("id",encodeInterface resp.id)])

/-- `json.Unmarshal` into the `WireMessage` of a package. -/
def unmarshalWire (package : String) : Any → Except String WireMessage :=
  decodeStruct (package ++ ".WireMessage") (wireMessageFields .text) {}

/-- What the client's `SendRequest` reads of its configuration. -/
structure Client where
  defaultNamespace : String := ""
  authType : String := ""
  authToken : String := ""

namespace Client

def extractNamespace (c : Client) (method : String) : String :=
  if method ∈ ["initialize","tools/list","tools/call","ping"] then "system"
  else if '.' ∈ method.toList then String.ofList (method.toList.takeWhile (· ≠ '.'))
  else c.defaultNamespace

end Client

/-- The request and the namespace that a frontend of the package hands to `RouteRequest`. -/
def processClientMessage (package : String) (data : Any) : Except String (Request × String) :=
  decodeMessage .text package (.json data)

structure BackendError where
  code : Int
  message : String
  data : Option Any
  isInt : IsInt code

/-- The `mcp.Response` of a backend. Its `interface{}` values may have any Go type and are given by the text that
    `json.Marshal` writes, `none` where they are `nil`; a `nil` pointer is written as `null`. -/
structure BackendResponse where
  jsonrpc : String
  result : Option Any
  error : Option BackendError
  id : Any

def BackendError.marshal (e : BackendError) : Any :=
  .object ([("code",.number e.code),("message",.string e.message)] ++ (e.data.map fun v => ("data",v)).toList)

def BackendResponse.marshal (r : BackendResponse) : Any :=
  .object ([("jsonrpc",.string r.jsonrpc)] ++ (r.result.map fun v => ("result",v)).toList ++
    (r.error.map fun e => ("error",e.marshal)).toList ++ [("id",r.id)])

def validateResponseStructure (resp : Response) : Bool := !(isNil resp.id && resp.error.isNone && isNil resp.result)

/-- What the router's receiver makes of a message: `ReadJSON` and `processResponseMessage`. -/
def receiveResponse (data : Any) : Except String Response :=
  match unmarshalWire "gateway" data with
  | .error err => .error ("read error: " ++ err)
  | .ok msg =>
    if isNil msg.mcpPayload then .error "received message without MCP payload"
    else match unmarshalResponse (encodeInterface msg.mcpPayload) with
      | .error err => .error ("failed to unmarshal MCP response: " ++ err)
      | .ok resp => if validateResponseStructure resp then .ok resp else .error "invalid response structure"

/-! ### What the steps make of each other -/

variable {name : String} {v : Any} {σ : Type} {s next : σ} {α β : Type} {first : Except String α} {b : β}

theorem interfaceField_eq_ok_iff {set : σ → Any → σ} :
    (interfaceField .text name set).assign s v = .ok next ↔ InRange v ∧ next = set s (valueOf v) := by
  simp only [interfaceField,Reading.text]
  by_cases fits : InRange v
  · rw [decodeInterface_eq_ok_iff.mpr ⟨fits,rfl⟩]
    simp [fits,Except.map,eq_comm]
  · simp [decodeInterface,fits,Except.map]

theorem bind_eq_ok_iff {rest : α → Except String β} :
    first >>= rest = .ok b ↔ ∃ a, first = .ok a ∧ rest a = .ok b := by
  cases first with
  | error err => exact ⟨nofun,nofun⟩
  | ok a => simp [bind,Except.bind]

theorem assignMember_cons (field : StructField σ) (fields : List (StructField σ)) (s : σ) (name : String) (v : Any) :
    assignMember (field :: fields) s (name,v) =
      if field.takes name then field.assign s v else assignMember fields s (name,v) := by
  simp only [assignMember,find?_cons]
  cases field.takes name <;> rfl

@[simp] theorem assignMember_nil (s : σ) (member : String × Any) : assignMember [] s member = .ok s := rfl

@[simp] theorem interfaceField_takes (field name : String) (set : σ → Any → σ) :
    (interfaceField .text field set).takes name = decide (name.toList.map foldChar = field.toList) := rfl

theorem stringField_eq_ok_iff {struct text : String} {set : σ → String → σ} :
    (stringField struct name set).assign s (.string text) = .ok next ↔ next = set s text := by
  simp [stringField,eq_comm]

theorem assign_requestFields (req : Request) :
    (∀ text next, assignMember (requestFields .text) req ("jsonrpc",.string text) = .ok next ↔
      next = { req with jsonrpc := text }) ∧
    (∀ text next, assignMember (requestFields .text) req ("method",.string text) = .ok next ↔
      next = { req with method := text }) ∧ (∀ v next, assignMember (requestFields .text) req ("params",v) = .ok next ↔
      InRange v ∧ next = { req with params := valueOf v }) ∧
    ∀ v next, assignMember (requestFields .text) req ("id",v) = .ok next ↔
      InRange v ∧ next = { req with id := valueOf v } := by
  simp +decide [requestFields,assignMember_cons,interfaceField_eq_ok_iff,stringField_eq_ok_iff]

def Settled (w : Any) : Prop := InRange (encodeInterface w) ∧ valueOf (encodeInterface w) = w

variable (text : String)

theorem inRange_string : InRange (.string text) := by
  intro q listed
  cases listed

@[simp] theorem valueOf_string : valueOf (.string text) = .string text := rfl

/-! ### Requests -/

def requestNames : List String := ["jsonrpc","method","params","id"]

/-- No member has the name of a request's member in other letters, which `encoding/json` would take for it. -/
def Plain (member : String × Any) : Prop :=
  ∀ name ∈ requestNames, member.1.toList.map foldChar = name.toList → member.1 = name

def Textual (member : String × Any) : Prop :=
  member.1 = "jsonrpc" ∨ member.1 = "method" → ∃ text, member.2 = .string text

/-- The text of a JSON-RPC request, with its members in any order and perhaps others. -/
structure RequestText where
  members : List (String × Any)
  plain : ∀ member ∈ members, Plain member
  textual : ∀ member ∈ members, Textual member
  method : String
  method_eq : member? "method" members = some (.string method)
  id : Any
  id_eq : member? "id" members = some id

def RequestText.data (t : RequestText) : Any := .object t.members

theorem member?_concat (name : String) (members : List (String × Any)) (member : String × Any) :
    member? name (members ++ [member]) = if member.1 = name then some member.2 else member? name members := by
  unfold member?
  by_cases hit : member.1 = name <;> simp [hit]

def textOf : Option Any → String
  | some (.string text) => text
  | _ => ""

def heldOf : Option Any → Any
  | some v => valueOf v
  | none => .null

/-- What the members are decoded into when none is refused. -/
def decodedRequest (members : List (String × Any)) : Request where
  jsonrpc := textOf (member? "jsonrpc" members)
  method := textOf (member? "method" members)
  params := heldOf (member? "params" members)
  id := heldOf (member? "id" members)

theorem assignMember_plain {member : String × Any} (plain : Plain member) (textual : Textual member)
    (before : List (String × Any)) {next : Request} :
    assignMember (requestFields .text) (decodedRequest before) member = .ok next ↔
      (member.1 = "params" ∨ member.1 = "id" → InRange member.2) ∧ next = decodedRequest (before ++ [member]) := by
  obtain ⟨name,v⟩ := member
  simp only [decodedRequest,member?_concat]
  by_cases known : name ∈ requestNames
  · simp only [requestNames,mem_cons,not_mem_nil,or_false] at known
    rcases known with rfl | rfl | rfl | rfl
    · obtain ⟨text,rfl⟩ := textual (.inl rfl)
      simp [assign_requestFields,textOf]
    · obtain ⟨text,rfl⟩ := textual (.inr rfl)
      simp [assign_requestFields,textOf]
    all_goals simp [assign_requestFields,heldOf]
  · have skipped : (requestFields .text).find? (·.takes name) = none := by
      refine find?_eq_none.mpr fun field listed takes => ?_
      have named : field.name ∈ requestNames := mem_map_of_mem (f := StructField.name) listed
      obtain rfl : name = field.name := plain field.name named (of_decide_eq_true takes)
      exact known named
    have differs (other : String) (listed : other ∈ requestNames) : name ≠ other := fun same => known (same ▸ listed)
    simp [assignMember,skipped,differs "jsonrpc" (by decide),differs "method" (by decide),
      differs "params" (by decide),differs "id" (by decide),eq_comm]

theorem unmarshalRequest_eq_ok_iff {members : List (String × Any)} (plain : ∀ member ∈ members, Plain member)
    (textual : ∀ member ∈ members, Textual member) {req : Request} : unmarshalRequest (.object members) = .ok req ↔
      (∀ member ∈ members, member.1 = "params" ∨ member.1 = "id" → InRange member.2) ∧ req = decodedRequest members := by
  show members.foldlM (assignMember (requestFields .text)) {} = .ok req ↔ _
  induction members using reverseRecOn generalizing req with
  | nil => simp [pure,Except.pure,eq_comm,decodedRequest,member?,textOf,heldOf]
  | append_singleton before member ih =>
    have last := mem_append_right before (mem_singleton_self member)
    have step := @assignMember_plain member (plain member last) (textual member last) before req
    have ih {next : Request} := @ih (fun other listed => plain other (mem_append_left _ listed))
      (fun other listed => textual other (mem_append_left _ listed)) next
    rw [foldlM_append,bind_eq_ok_iff]
    simp only [foldlM_cons,foldlM_nil,bind_pure,ih]
    constructor
    · rintro ⟨next,⟨early,rfl⟩,second⟩
      obtain ⟨fits,rfl⟩ := step.mp second
      refine ⟨fun other listed => ?_,rfl⟩
      obtain earlier | here := mem_append.mp listed
      · exact early other earlier
      · rwa [mem_singleton.mp here]
    · rintro ⟨fits,same⟩
      exact ⟨_,⟨fun other listed => fits other (mem_append_left _ listed),rfl⟩,step.mpr ⟨fits member last,same⟩⟩

/-! ### Texts compared -/

def memberOf (name : String) : Any → Option Any
  | .object members => member? name members
  | _ => none

def SameMember (name : String) (a b : Any) : Prop :=
  (memberOf name a).map canonical = (memberOf name b).map canonical

/-- A value that is left out when it is `nil`, in the text. -/
def shown (v : Any) : Option Any := if isNil v then none else some (encodeInterface v)

theorem member_inRange {t : RequestText} (named : name = "params" ∨ name = "id")
    (fits : ∀ member ∈ t.members, member.1 = "params" ∨ member.1 = "id" → InRange member.2)
    (found : member? name t.members = some v) : InRange v := by
  obtain ⟨member,kept,rfl⟩ := Option.map_eq_some_iff.mp found
  have hit : member.1 = name := by simpa using find?_some kept
  have listed : member ∈ t.members := mem_reverse.mp (mem_of_find?_eq_some kept)
  exact fits member listed (hit ▸ named)

theorem memberOf_marshalResponse (resp : Response) :
    memberOf "id" (marshalResponse resp) = some (encodeInterface resp.id) ∧
      memberOf "result" (marshalResponse resp) = shown resp.result ∧
      memberOf "error" (marshalResponse resp) = resp.error.map marshalError := by
  unfold marshalResponse memberOf omitNil shown member?
  by_cases absent : isNil resp.result <;> cases resp.error <;> simp [absent]

theorem memberOf_marshal (r : BackendResponse) :
    memberOf "id" r.marshal = some r.id ∧ memberOf "result" r.marshal = r.result ∧
      memberOf "error" r.marshal = r.error.map BackendError.marshal := by
  unfold BackendResponse.marshal memberOf member?
  cases r.result <;> cases r.error <;> simp

end McpBridge.Transparency
