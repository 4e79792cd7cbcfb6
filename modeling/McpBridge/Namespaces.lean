import McpBridge.Routing
import McpBridge.TcpClient

/-!
The namespace of a request, as the two sides see it. The router's clients find it from the method and stamp it on the
message, where it takes precedence; the gateway, when nothing is stamped, finds it from the method and the params.
-/
namespace McpBridge.Namespaces
open Values Transparency
open TcpClient (TCPClient)

/-- `NewClient`: without a configured namespace it is `NamespaceDefault`. -/
def newClient (cfg : Client) (defaultNamespace : String) : Client :=
  { cfg with defaultNamespace := if defaultNamespace = "" then "default" else defaultNamespace }

def newTCPClient (cfg : TCPClient) (defaultNamespace : String) : TCPClient :=
  { cfg with defaultNamespace := if defaultNamespace = "" then "default" else defaultNamespace }

def firstPart (name : String) : String := String.ofList (name.toList.takeWhile (· ≠ '.'))

def toolName? (req : Request) : Option String :=
  match req.params with
  | .object members =>
    match Any.member? "name" members with
    | some (.string name) => some name
    | _ => none
  | _ => none

def listed? (req : Request) : Option String :=
  match req.params with
  | .object members =>
    match Any.member? "namespace" members with
    | some (.string ns) => some ns
    | _ => none
  | _ => none

/-- Where both sides see the same namespace. -/
def Agrees (defaultNamespace : String) (req : Request) : Prop :=
  if req.method = "initialize" then True
  else if req.method = "tools/list" then ∀ ns ∈ listed? req, ns = "system"
  else if req.method = "tools/call" then ∃ name ∈ toolName? req, firstPart name = "system"
  else if req.method = "ping" then False
  else if req.method = "shutdown" then defaultNamespace = "system"
  else if '.' ∈ req.method.toList then firstPart req.method = "default"
  else defaultNamespace = "default" ∨ defaultNamespace = ""

section
variable {req : Request}

theorem splitOn_head (chars : List Char) : ∃ rest, chars.splitOn '.' = chars.takeWhile (· ≠ '.') :: rest := by
  induction chars with
  | nil => exact ⟨[],rfl⟩
  | cons c chars ih =>
    obtain ⟨rest,parts⟩ := ih
    rw [List.splitOn] at parts ⊢
    rw [List.splitOnP_cons_eq_if_modifyHead,parts]
    by_cases dot : c = '.'
    · exact ⟨chars.takeWhile (· ≠ '.') :: rest,by simp [dot]⟩
    · exact ⟨rest,by simp [dot]⟩

theorem split_headD (name fallback : String) : (Auth.split name '.').headD fallback = firstPart name := by
  obtain ⟨rest,parts⟩ := splitOn_head name.toList
  rw [Auth.split,parts]
  rfl

theorem extractNamespace_eq (req : Request) : Routing.extractNamespace req =
    if req.method = "initialize" ∨ req.method = "shutdown" then "system"
    else if req.method = "tools/call" then ((toolName? req).map firstPart).getD "default"
    else if req.method = "tools/list" then (listed? req).getD "system" else "default" := by
  unfold Routing.extractNamespace toolName? listed?
  simp only [split_headD]
  cases req.params with
  | object members =>
    dsimp only
    congr 2
    · cases Any.member? "name" members with
      | none => rfl
      | some value => cases value <;> rfl
    · congr 1
      cases Any.member? "namespace" members with
      | none => rfl
      | some value => cases value <;> rfl
  | null => rfl
  | bool value => rfl
  | number value => rfl
  | string value => rfl
  | array items => rfl

end

/-- The clients stamp the namespace that the gateway would extract, exactly where the two functions agree. -/
theorem stamped_eq_extracted_iff (cfg : Client) (tcp : TCPClient) (defaultNamespace : String) (req : Request) :
    ((newClient cfg defaultNamespace).extractNamespace req.method = Routing.extractNamespace req ∧
      (newTCPClient tcp defaultNamespace).extractNamespace req.method = Routing.extractNamespace req) ↔
      Agrees defaultNamespace req := by
  have both : (newTCPClient tcp defaultNamespace).extractNamespace req.method =
      (newClient cfg defaultNamespace).extractNamespace req.method := rfl
  rw [both,and_self,extractNamespace_eq]
  unfold Agrees Client.extractNamespace
  by_cases first : req.method = "initialize"
  · simp [first]
  by_cases lists : req.method = "tools/list"
  · cases listed? req <;> simp [lists,eq_comm]
  by_cases calls : req.method = "tools/call"
  · cases toolName? req <;> simp [calls,eq_comm]
  by_cases pings : req.method = "ping"
  · simp [pings]
  by_cases last : req.method = "shutdown"
  · by_cases missing : defaultNamespace = "" <;> simp [last,newClient,missing]
  · by_cases dotted : '.' ∈ req.method.toList
    · simp [first,lists,calls,pings,last,dotted,firstPart]
    · by_cases missing : defaultNamespace = "" <;> simp [first,lists,calls,pings,last,dotted,newClient,missing]

/-- The tool is of the namespace `k8s`, and the clients stamp `system`. -/
theorem tool_call_misrouted : (newClient {} "").extractNamespace "tools/call" = "system" ∧
    Routing.extractNamespace { method := "tools/call", params := .object [("name",.string "k8s.getPods")] } = "k8s" := by
  refine ⟨rfl,?_⟩
  decide

end McpBridge.Namespaces
