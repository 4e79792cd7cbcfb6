import Mathlib.Data.Rat.Defs

/-!
The values that travel through the bridge. `encoding/json` decodes a JSON value into an `interface{}` (`Any`); a struct
such as `mcp.Request` is filled from an object's members, with names compared under case folding.
-/
namespace McpBridge.Values
open List

/-- What `encoding/json` decodes a JSON value into. A number is the rational value of its float64: no JSON text decodes
    to NaN or an infinity, and Go takes `0` and `-0` to be equal. An object keeps its members in their order. -/
inductive Any where
  | null
  | bool (value : Bool)
  | number (value : Rat)
  | string (value : String)
  | array (items : List Any)
  | object (members : List (String × Any))
  deriving Repr, Inhabited

/-- What an `interface{}` key of a Go map or a `sync.Map` can be. -/
inductive Key where
  | null
  | bool (value : Bool)
  | number (value : Rat)
  | string (value : String)
  deriving DecidableEq, Repr

namespace Any

/-- The map key that a value is; `none` where Go panics. -/
def key? : Any → Option Key
  | .null => some .null
  | .bool b => some (.bool b)
  | .number q => some (.number q)
  | .string s => some (.string s)
  | .array _ => none
  | .object _ => none

/-- The name that `json.UnmarshalTypeError` has for the kind of a value. -/
def kind : Any → String
  | .null => "null"
  | .bool _ => "bool"
  | .number _ => "number"
  | .string _ => "string"
  | .array _ => "array"
  | .object _ => "object"

def Hashable (v : Any) : Prop := v.key?.isSome

instance (v : Any) : Decidable v.Hashable := inferInstanceAs (Decidable (v.key?.isSome = true))

theorem eq_of_key? {v other : Any} {k : Key} (key : v.key? = some k) (same : other.key? = some k) : v = other := by
  cases v <;> cases key <;> cases other <;> cases same <;> rfl

/-- The members of an object as Go's map of them: the last of a name wins, and `json.Marshal` writes the names in order. -/
def insertMember (name : String) (value : Any) : List (String × Any) → List (String × Any)
  | [] => [(name,value)]
  | (other,old) :: rest =>
    if name = other then (name,value) :: rest
    else if name < other then (name,value) :: (other,old) :: rest
    else (other,old) :: insertMember name value rest

/-- The value after `json.Marshal` of the decoded value and `json.Unmarshal` of that. -/
def remarshal : Any → Any
  | .object members => .object (members.foldl (fun map member => insertMember member.1 member.2 map) [])
  | v => v

/-- `m[name]` of an object that was decoded into a map. -/
def member? (name : String) (members : List (String × Any)) : Option Any :=
  (members.reverse.find? (fun member => member.1 = name)).map Prod.snd

end Any

/-! ### Decoding an object into a struct -/

/-- A letter as `encoding/json` folds it; two letters outside ASCII fold into it. -/
def foldChar (c : Char) : Char :=
  if c = Char.ofNat 0x17f then 's' else if c = Char.ofNat 0x212a then 'k' else c.toLower

structure StructField (σ : Type) where
  name : String
  assign : σ → Any → Except String σ

def StructField.takes {σ : Type} (field : StructField σ) (name : String) : Bool :=
  name.toList.map foldChar = field.name.toList

/-- How `encoding/json` gets values into an `interface{}`, and how it writes them. -/
structure Reading where
  read : Any → Except String Any
  write : Any → Any

/-- Values are taken as they are. -/
def Reading.plain : Reading := ⟨.ok,Any.remarshal⟩

/-- A field of type `interface{}`. -/
def interfaceField {σ : Type} (reading : Reading) (name : String) (set : σ → Any → σ) : StructField σ :=
  ⟨name,fun s v => (reading.read v).map (set s)⟩

/-- A field of type `string`: `null` leaves it, anything but a string is refused. -/
def stringField {σ : Type} (struct name : String) (set : σ → String → σ) : StructField σ where
  name := name
  assign s
    | .null => .ok s
    | .string text => .ok (set s text)
    | v => .error ("json: cannot unmarshal " ++ v.kind ++ " into Go struct field " ++ struct ++ "." ++ name ++
        " of type string")

/-- One member of the object; a member that no field takes is skipped. -/
def assignMember {σ : Type} (fields : List (StructField σ)) (s : σ) (member : String × Any) : Except String σ :=
  match fields.find? (·.takes member.1) with
  | none => .ok s
  | some field => field.assign s member.2

/-- `json.Unmarshal` into a struct: `null` leaves it, an object is taken member by member, any other value is refused. -/
def decodeStruct {σ : Type} (goType : String) (fields : List (StructField σ)) (zero : σ) : Any → Except String σ
  | .null => .ok zero
  | .object members => members.foldlM (assignMember fields) zero
  | v => .error ("json: cannot unmarshal " ++ v.kind ++ " into Go value of type " ++ goType)

/-! ### Requests and responses -/

structure Request where
  jsonrpc : String := ""
  method : String := ""
  params : Any := .null
  id : Any := .null
  deriving Repr, Inhabited

structure Error where
  code : Int
  message : String
  data : Any := .null
  deriving Repr

structure Response where
  jsonrpc : String := "2.0"
  result : Any := .null
  error : Option Error := none
  id : Any := .null
  deriving Repr

/-- `mcp.ErrorCodeInternalError` and the router's `MCPInternalErrorCode`. -/
def internalError : Int := -32603

def errorResponse (id : Any) (message : String) : Response :=
  { error := some { code := internalError, message := message }, id := id }

def requestFields (reading : Reading) : List (StructField Request) :=
  [stringField "Request" "jsonrpc" fun r text => { r with jsonrpc := text },
   stringField "Request" "method" fun r text => { r with method := text },
   interfaceField reading "params" fun r v => { r with params := v },
   interfaceField reading "id" fun r v => { r with id := v }]

/-- `json.Unmarshal` into an `mcp.Request`. -/
def decodeRequest (reading : Reading) : Any → Except String Request :=
  decodeStruct "mcp.Request" (requestFields reading) {}

/-- A struct with the field `ID` alone, as `extractRequestID` reads it. -/
def idFields : List (StructField Any) := [interfaceField .plain "id" fun _ v => v]

/-- `MessageRouter.extractRequestID`: `nil` for data that is no object. -/
def extractRequestID (v : Any) : Any :=
  match decodeStruct "struct" idFields .null v with
  | .ok id => id
  | .error _ => .null

private theorem assignMember_idFields (id : Any) (member : String × Any) : assignMember idFields id member =
      .ok (if member.1.toList.map foldChar = "id".toList then member.2 else id) := by
  simp only [assignMember,idFields,find?_singleton,StructField.takes,interfaceField,Reading.plain,decide_eq_true_eq]
  by_cases named : member.1.toList.map foldChar = "id".toList
  · rw [if_pos named,if_pos named]
    rfl
  · rw [if_neg named,if_neg named]

/-- A member sets the identifier of the request as it sets the identifier alone. -/
private theorem assignMember_id {r next : Request} {member : String × Any}
    (taken : assignMember (requestFields .plain) r member = .ok next) : assignMember idFields r.id member = .ok next.id := by
  rw [assignMember_idFields]
  unfold assignMember at taken
  cases found : (requestFields .plain).find? (·.takes member.1) with
  | none =>
    rw [found] at taken
    have skipped := find?_eq_none.mp found (interfaceField .plain "id" fun r v => { r with id := v })
      (by simp [requestFields])
    have unnamed : ¬ member.1.toList.map foldChar = "id".toList := fun named => skipped (decide_eq_true named)
    cases taken
    rw [if_neg unnamed]
  | some field =>
    rw [found] at taken
    have takes : member.1.toList.map foldChar = field.name.toList := by
      simpa [StructField.takes] using find?_some found
    have listed := mem_of_find?_eq_some found
    simp only [requestFields,mem_cons,not_mem_nil,or_false] at listed
    rw [takes]
    rcases listed with rfl | rfl | rfl | rfl
    · simp only [stringField] at taken
      split at taken <;> cases taken <;> rfl
    · simp only [stringField] at taken
      split at taken <;> cases taken <;> rfl
    all_goals
      cases taken
      rfl

private theorem decodeMembers_id (members : List (String × Any)) {r final : Request}
    (decoded : members.foldlM (assignMember (requestFields .plain)) r = .ok final) :
    members.foldlM (assignMember idFields) r.id = .ok final.id := by
  induction members generalizing r with
  | nil => cases decoded; rfl
  | cons member rest ih =>
    rw [foldlM_cons] at decoded ⊢
    cases taken : assignMember (requestFields .plain) r member with
    | error text => rw [taken] at decoded; cases decoded
    | ok next =>
      rw [taken] at decoded
      rw [assignMember_id taken]
      exact ih decoded

theorem extractRequestID_eq {v : Any} {r : Request} (decoded : decodeRequest .plain v = .ok r) : extractRequestID v = r.id := by
  cases v with
  | null => cases decoded; rfl
  | object members =>
    have alone := decodeMembers_id members decoded
    simp only [extractRequestID,decodeStruct]
    rw [show members.foldlM (assignMember idFields) Any.null = .ok r.id from alone]
  | bool _ | number _ | string _ | array _ => cases decoded

end McpBridge.Values
