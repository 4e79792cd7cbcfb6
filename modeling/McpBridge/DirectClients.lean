import McpBridge.Runs
import McpBridge.Values

/-!
The direct clients of the router (`direct.StdioClient`, `direct.WebSocketClient`, `direct.SSEClient`) and the responses
to requests under way together.
-/
namespace McpBridge.DirectClients
open Values Runs Function

inductive Transport where
  | stdio
  | websocket
  | sse
  deriving DecidableEq

/-- A direct client, with what its keys need. -/
structure Client where
  transport : Transport
  name : String
  sprint : Any → String

namespace Client
variable (c : Client)

def capacity : Nat :=
  match c.transport with
  | .stdio => 1
  | .websocket => 1
  | .sse => 10

theorem capacity_pos : 0 < c.capacity := by
  unfold capacity
  split <;> simp

/-- `ensureRequestID` (`prepareRequestID` of the SSE client): the request's key, its identifier from now on, and the
    counter. -/
def ensureRequestID (counter : Nat) (id : Any) : String × Any × Nat :=
  match id with
  | .null => (c.name ++ "-" ++ toString (counter + 1),.string (c.name ++ "-" ++ toString (counter + 1)),counter + 1)
  | .string "" =>
    (c.name ++ "-" ++ toString (counter + 1),.string (c.name ++ "-" ++ toString (counter + 1)),counter + 1)
  | .string text => (text,.string text,counter)
  | id => (c.sprint id,id,counter)

/-- The key under which the reader looks for the channel; the empty string is none to the stdio and the WebSocket
    client. -/
def lookupKey (responseID : Any) : Option String :=
  match responseID with
  | .string text => if c.transport ≠ .sse ∧ text = "" then none else some text
  | _ => none

end Client

variable {Req : Type} [DecidableEq Req]

/-- Where a request is; a response is known by the request that it answers. -/
inductive Pc (Req : Type) where
  | start
  | named
  | registered
  | waiting
  | received (response : Req)
  | returned (response : Req)
  deriving DecidableEq

structure State (Req : Type) where
  requestID : Nat
  id : Req → Any
  key : Req → String := fun _ => ""
  pc : Req → Pc Req := fun _ => .start
  requestMap : String → Option Req := fun _ => none
  channel : Req → List Req := fun _ => []
  /-- The server has answered, and the reader has routed the response. -/
  answered : Req → Bool := fun _ => false

inductive Label (Req : Type) where
  | ensure (i : Req)
  | register (i : Req)
  | send (i : Req)
  | respond (i : Req)
  | receive (i : Req)
  | cleanup (i : Req)

def Pc.sent : Pc Req → Bool
  | .waiting => true
  | .received _ => true
  | .returned _ => true
  | _ => false

def Pc.listed : Pc Req → Bool
  | .registered => true
  | .waiting => true
  | .received _ => true
  | _ => false

namespace State

def setPc (s : State Req) (i : Req) (pc : Pc Req) : State Req := { s with pc := update s.pc i pc }

/-- `deliverResponse`: a full channel drops the response. -/
def deliver (c : Client) (s : State Req) (key : String) (response : Req) : State Req :=
  match s.requestMap key with
  | some j =>
    if (s.channel j).length < c.capacity then
      { s with channel := update s.channel j (s.channel j ++ [response]) }
    else s
  | none => s

/-- `routeResponse` (`processSSEEvent`). -/
def routeResponse (c : Client) (s : State Req) (i : Req) : State Req :=
  match c.lookupKey (s.id i) with
  | some key => s.deliver c key i
  | none => s

def ensure (c : Client) (s : State Req) (i : Req) : State Req :=
  { s with
    requestID := (c.ensureRequestID s.requestID (s.id i)).2.2
    id := update s.id i (c.ensureRequestID s.requestID (s.id i)).2.1
    key := update s.key i (c.ensureRequestID s.requestID (s.id i)).1
    pc := update s.pc i .named }

/-- `registerRequest` (`setupResponseChannel`). -/
def register (s : State Req) (i : Req) : State Req :=
  { s with requestMap := update s.requestMap (s.key i) (some i), pc := update s.pc i .registered }

def respond (c : Client) (s : State Req) (i : Req) : State Req :=
  { s.routeResponse c i with answered := update s.answered i true }

def receive (s : State Req) (i response : Req) (rest : List Req) : State Req :=
  { s with pc := update s.pc i (.received response), channel := update s.channel i rest }

/-- `cleanupRequest` (`cleanupResponseChannel`). -/
def cleanup (s : State Req) (i response : Req) : State Req :=
  { s with requestMap := update s.requestMap (s.key i) none, pc := update s.pc i (.returned response) }

end State

/-- One step of a request or of the reader. -/
def step (c : Client) (s : State Req) : Label Req → Option (State Req)
  | .ensure i => if s.pc i = .start then some (s.ensure c i) else none
  | .register i => if s.pc i = .named then some (s.register i) else none
  | .send i => if s.pc i = .registered then some (s.setPc i .waiting) else none
  | .respond i => if (s.pc i).sent = true ∧ s.answered i = false then some (s.respond c i) else none
  | .receive i =>
    match s.pc i,s.channel i with
    | .waiting,response :: rest => some (s.receive i response rest)
    | _,_ => none
  | .cleanup i =>
    match s.pc i with
    | .received response => some (s.cleanup i response)
    | _ => none

def start (ids : Req → Any) (counter : Nat) : State Req := { requestID := counter, id := ids }

/-- No request has another's response, and an answered one has its response or finds it in its channel. -/
structure Correlated (s : State Req) : Prop where
  channel : ∀ i, ∀ response ∈ s.channel i, response = i
  own : ∀ i response, s.pc i = .received response ∨ s.pc i = .returned response → response = i
  answered : ∀ i, s.answered i = true →
    s.pc i = .received i ∨ s.pc i = .returned i ∨ s.pc i = .waiting ∧ s.channel i = [i]

/-! ### Identifiers that are strings -/

section
variable {c : Client} {n : Nat} {ids : Req → Any}

def Client.keyOf (c : Client) (n : Nat) (ids : Req → Any) (i : Req) : String := (c.ensureRequestID n (ids i)).1

theorem ensure_empty (m : Nat) : c.ensureRequestID m (.string "") =
    (c.name ++ "-" ++ toString (m + 1),.string (c.name ++ "-" ++ toString (m + 1)),m + 1) := rfl

theorem ensure_text {text : String} (filled : text ≠ "") (m : Nat) :
    c.ensureRequestID m (.string text) = (text,.string text,m) := by
  unfold Client.ensureRequestID
  split
  next same => cases same
  next same => cases same; exact absurd rfl filled
  next same => cases same; rfl
  next other => exact absurd rfl (other text)

theorem ensure_string (text : String) (m : Nat) :
    (c.ensureRequestID m (.string text)).2.1 = .string (c.ensureRequestID m (.string text)).1 ∧
      (c.ensureRequestID m (.string text)).1 ≠ "" := by
  by_cases filled : text = ""
  · subst filled
    rw [ensure_empty]
    refine ⟨rfl,fun same => ?_⟩
    have lengths := congrArg String.length same
    rw [String.length_append,String.length_append] at lengths
    have dash : "-".length = 1 := rfl
    have none : "".length = 0 := rfl
    omega
  · rw [ensure_text filled]
    exact ⟨rfl,filled⟩

theorem lookupKey_string {key : String} (filled : key ≠ "") : c.lookupKey (.string key) = some key := by
  exact if_neg fun both => filled both.2

/-- One request, when all identifiers are strings and their keys differ. -/
structure Local (c : Client) (n : Nat) (ids : Req → Any) (i : Req) (pc : Pc Req) (id : Any) (key : String)
    (channel : List Req) (answered : Bool) : Prop where
  fresh : pc = .start → id = ids i
  named : pc ≠ .start → id = .string (c.keyOf n ids i) ∧ key = c.keyOf n ids i
  channel : channel = if answered = true ∧ pc = .waiting then [i] else []
  sent : answered = true → pc.sent = true
  own : ∀ response, pc = .received response ∨ pc = .returned response → response = i ∧ answered = true

structure Sound (c : Client) (n : Nat) (ids : Req → Any) (s : State Req) : Prop where
  counter : s.requestID = n ∨ ∃ j, ids j = .string "" ∧ s.pc j ≠ .start
  each : ∀ i, Local c n ids i (s.pc i) (s.id i) (s.key i) (s.channel i) (s.answered i)
  listed : ∀ key i, s.requestMap key = some i ↔ key = c.keyOf n ids i ∧ (s.pc i).listed = true

theorem Sound.correlated {s : State Req} (sound : Sound c n ids s) : Correlated s where
  channel i response listed := by
    rw [(sound.each i).channel] at listed
    split at listed
    · exact List.mem_singleton.mp listed
    · cases listed
  own i response at_ := ((sound.each i).own response at_).1
  answered i answered := by
    have sent := (sound.each i).sent answered
    cases at_ : s.pc i with
    | start | named | registered => rw [at_] at sent; cases sent
    | waiting => exact .inr (.inr ⟨rfl,by rw [(sound.each i).channel,if_pos ⟨answered,at_⟩]⟩)
    | received response => rw [((sound.each i).own response (.inl at_)).1]; exact .inl rfl
    | returned response => rw [((sound.each i).own response (.inr at_)).1]; exact .inr (.inl rfl)

theorem sound_start : Sound c n ids (start ids n) where
  counter := .inl rfl
  each i := ⟨fun _ => rfl,fun moved => absurd rfl moved,by simp [start],nofun,by simp [start]⟩
  listed key i := by simp [start,Pc.listed]

section
variable {s next : State Req} {i : Req}

structure Elsewhere (s next : State Req) (i : Req) : Prop where
  pc : ∀ j, j ≠ i → next.pc j = s.pc j
  id : ∀ j, j ≠ i → next.id j = s.id j
  key : ∀ j, j ≠ i → next.key j = s.key j
  channel : ∀ j, j ≠ i → next.channel j = s.channel j
  answered : ∀ j, j ≠ i → next.answered j = s.answered j

section
variable (sound : Sound c n ids s) (elsewhere : Elsewhere s next i)
include sound elsewhere

theorem Sound.each_of
    (here : Local c n ids i (next.pc i) (next.id i) (next.key i) (next.channel i) (next.answered i)) (j : Req) :
    Local c n ids j (next.pc j) (next.id j) (next.key j) (next.channel j) (next.answered j) := by
  by_cases own : j = i
  · exact own ▸ here
  · rw [elsewhere.pc j own,elsewhere.id j own,elsewhere.key j own,elsewhere.channel j own,elsewhere.answered j own]
    exact sound.each j

theorem Sound.counter_of (moved : next.pc i ≠ .start)
    (same : next.requestID = s.requestID) : next.requestID = n ∨ ∃ j, ids j = .string "" ∧ next.pc j ≠ .start := by
  rw [same]
  refine sound.counter.imp_right ?_
  rintro ⟨j,empty,earlier⟩
  by_cases own : j = i
  · exact ⟨j,empty,own ▸ moved⟩
  · exact ⟨j,empty,by rwa [elsewhere.pc j own]⟩

theorem Sound.listed_of
    (table : next.requestMap = s.requestMap) (same : (next.pc i).listed = (s.pc i).listed) (key : String) (j : Req) :
    next.requestMap key = some j ↔ key = c.keyOf n ids j ∧ (next.pc j).listed = true := by
  rw [table,sound.listed]
  by_cases own : j = i
  · rw [own,same]
  · rw [elsewhere.pc j own]

theorem Sound.listed_update (injective : Injective (c.keyOf n ids)) {entry : Option Req}
    (table : next.requestMap = update s.requestMap (c.keyOf n ids i) entry)
    (mine : ∀ j, entry = some j ↔ j = i ∧ (next.pc j).listed = true) (key : String) (j : Req) :
    next.requestMap key = some j ↔ key = c.keyOf n ids j ∧ (next.pc j).listed = true := by
  rw [table]
  by_cases same : key = c.keyOf n ids i
  · rw [same,update_self,mine,injective.eq_iff,eq_comm]
  · rw [update_of_ne same,sound.listed]
    by_cases own : j = i
    · simp [own,same]
    · rw [elsewhere.pc j own]

end

theorem Sound.ensure (strings : ∀ i, ∃ text, ids i = .string text) (distinct : Injective ids)
    (sound : Sound c n ids s) (taken : step c s (.ensure i) = some next) : Sound c n ids next := by
  obtain ⟨at_,same⟩ := Option.ite_none_right_eq_some.mp taken
  cases same
  have fresh := (sound.each i).fresh at_
  obtain ⟨text,isText⟩ := strings i
  have unlisted : (s.pc i).listed = false := by rw [at_]; rfl
  have quiet : s.channel i = [] := by rw [(sound.each i).channel,at_]; simp
  have unanswered : s.answered i = false := by
    cases answered : s.answered i with
    | false => rfl
    | true =>
      have early := (sound.each i).sent answered
      rw [at_] at early
      cases early
  -- nobody else has the empty string, so that the counter has not moved yet
  have unmoved : text = "" → s.requestID = n := by
    rintro rfl
    refine sound.counter.resolve_right ?_
    rintro ⟨j,empty,moved⟩
    exact moved (distinct (empty.trans isText.symm) ▸ at_)
  have key : (c.ensureRequestID s.requestID (s.id i)).1 = c.keyOf n ids i := by
    rw [fresh,Client.keyOf,isText]
    by_cases filled : text = ""
    · rw [unmoved filled]
    · rw [ensure_text filled,ensure_text filled]
  have id : (c.ensureRequestID s.requestID (s.id i)).2.1 = .string (c.keyOf n ids i) := by
    rw [← key,fresh,isText]
    exact (ensure_string text _).1
  have elsewhere : Elsewhere s (s.ensure c i) i := by constructor <;> intro j other <;> simp [State.ensure,other]
  refine ⟨?_,sound.each_of elsewhere ?_,sound.listed_of elsewhere rfl ?_⟩
  · by_cases filled : text = ""
    · exact .inr ⟨i,filled ▸ isText,by simp [State.ensure]⟩
    · refine sound.counter_of elsewhere (by simp [State.ensure]) ?_
      show (c.ensureRequestID s.requestID (s.id i)).2.2 = s.requestID
      rw [fresh,isText,ensure_text filled]
  · simp [State.ensure,key,id,quiet,unanswered]
    exact ⟨nofun,fun _ => ⟨rfl,rfl⟩,by simp,nofun,by simp⟩
  · simp [State.ensure,unlisted]
    rfl

theorem Sound.register (injective : Injective (c.keyOf n ids)) (sound : Sound c n ids s)
    (taken : step c s (.register i) = some next) : Sound c n ids next := by
  obtain ⟨at_,same⟩ := Option.ite_none_right_eq_some.mp taken
  cases same
  have here := sound.each i
  rw [at_] at here
  have named := here.named nofun
  have elsewhere : Elsewhere s (s.register i) i := by constructor <;> intro j other <;> simp [State.register,other]
  refine ⟨sound.counter_of elsewhere (by simp [State.register]) rfl,sound.each_of elsewhere ?_,
    sound.listed_update elsewhere injective (congrArg (update s.requestMap · _) named.2) fun j => ?_⟩
  · simp [State.register]
    refine ⟨nofun,fun _ => named,by simpa using here.channel,fun answered => ?_,by simp⟩
    cases here.sent answered
  · rw [Option.some.injEq,eq_comm]
    refine ⟨fun own => ⟨own,by simp [State.register,own,Pc.listed]⟩,fun own => own.1⟩

theorem Sound.send (sound : Sound c n ids s) (taken : step c s (.send i) = some next) : Sound c n ids next := by
  obtain ⟨at_,same⟩ := Option.ite_none_right_eq_some.mp taken
  cases same
  have here := sound.each i
  rw [at_] at here
  have elsewhere : Elsewhere s (s.setPc i .waiting) i := by constructor <;> intro j other <;> simp [State.setPc,other]
  refine ⟨sound.counter_of elsewhere (by simp [State.setPc]) rfl,sound.each_of elsewhere ?_,
    sound.listed_of elsewhere rfl ?_⟩
  · have unanswered : s.answered i = false := by
      cases answered : s.answered i with
      | false => rfl
      | true => cases here.sent answered
    simp [State.setPc,unanswered]
    exact ⟨nofun,fun _ => here.named nofun,by simpa [unanswered] using here.channel,nofun,by simp⟩
  · simp [State.setPc,at_]
    rfl

theorem Sound.routeResponse (filled : c.keyOf n ids i ≠ "") (sound : Sound c n ids s) (at_ : s.pc i = .waiting)
    (unanswered : s.answered i = false) :
    s.routeResponse c i = { s with channel := update s.channel i [i] } := by
  have here := sound.each i
  have quiet : s.channel i = [] := by rw [here.channel,unanswered]; simp
  have found : s.requestMap (c.keyOf n ids i) = some i := (sound.listed _ i).mpr ⟨rfl,by rw [at_]; rfl⟩
  have room : (s.channel i).length < c.capacity := by
    rw [quiet]
    exact c.capacity_pos
  unfold State.routeResponse State.deliver
  rw [(here.named (by rw [at_]; nofun)).1,lookupKey_string filled]
  dsimp only
  rw [found]
  dsimp only
  rw [if_pos room,quiet,List.nil_append]

theorem Sound.respond (filled : c.keyOf n ids i ≠ "") (sound : Sound c n ids s)
    (taken : step c s (.respond i) = some next) : Sound c n ids next := by
  obtain ⟨⟨sent,unanswered⟩,same⟩ := Option.ite_none_right_eq_some.mp taken
  cases same
  have here := sound.each i
  have at_ : s.pc i = .waiting := by
    cases pc : s.pc i with
    | start | named | registered => rw [pc] at sent; cases sent
    | waiting => rfl
    | received response => exact absurd (here.own response (.inl pc)).2 (by simp [unanswered])
    | returned response => exact absurd (here.own response (.inr pc)).2 (by simp [unanswered])
  unfold State.respond
  rw [sound.routeResponse filled at_ unanswered]
  have elsewhere : Elsewhere s { s with
      channel := update s.channel i [i], answered := update s.answered i true } i := by
    constructor <;> intro j other <;> simp [other]
  refine ⟨sound.counter,sound.each_of elsewhere ?_,sound.listed⟩
  exact ⟨here.fresh,here.named,by simp [at_],fun _ => sent,by simp [at_]⟩

theorem Sound.receive (sound : Sound c n ids s) (taken : step c s (.receive i) = some next) : Sound c n ids next := by
  simp only [step] at taken
  split at taken <;> cases taken
  next response rest at_ held =>
    have here := sound.each i
    have channel := here.channel
    rw [held] at channel
    have answered : s.answered i = true := by
      by_contra unanswered
      rw [if_neg fun both => unanswered both.1] at channel
      cases channel
    rw [if_pos ⟨answered,at_⟩] at channel
    cases channel
    have elsewhere : Elsewhere s (s.receive i i []) i := by constructor <;> intro j other <;> simp [State.receive,other]
    refine ⟨sound.counter_of elsewhere (by simp [State.receive]) rfl,sound.each_of elsewhere ?_,
      sound.listed_of elsewhere rfl ?_⟩
    · simp [State.receive]
      refine ⟨nofun,fun _ => here.named (by rw [at_]; nofun),by simp,fun _ => rfl,fun response received => ?_⟩
      obtain got | gone := received
      · cases got
        exact ⟨rfl,answered⟩
      · cases gone
    · simp [State.receive,at_]
      rfl

theorem Sound.cleanup (injective : Injective (c.keyOf n ids)) (sound : Sound c n ids s)
    (taken : step c s (.cleanup i) = some next) : Sound c n ids next := by
  simp only [step] at taken
  split at taken <;> cases taken
  next response at_ =>
    have here := sound.each i
    rw [at_] at here
    have named := here.named nofun
    have elsewhere : Elsewhere s (s.cleanup i response) i := by constructor <;> intro j other <;> simp [State.cleanup,other]
    refine ⟨sound.counter_of elsewhere (by simp [State.cleanup]) rfl,sound.each_of elsewhere ?_,
      sound.listed_update elsewhere injective (congrArg (update s.requestMap · _) named.2) fun j => ?_⟩
    · simp [State.cleanup]
      refine ⟨nofun,fun _ => named,by simpa using here.channel,fun _ => rfl,fun other received => ?_⟩
      obtain got | gone := received
      · cases got
      · cases gone
        exact here.own response (.inl rfl)
    · by_cases own : j = i <;> simp [State.cleanup,own,Pc.listed]

theorem Sound.step (strings : ∀ i, ∃ text, ids i = .string text) (distinct : Injective ids)
    (injective : Injective (c.keyOf n ids)) (sound : Sound c n ids s) {label : Label Req}
    (taken : step c s label = some next) : Sound c n ids next := by
  have filled : ∀ i, c.keyOf n ids i ≠ "" := by
    intro i
    obtain ⟨text,isText⟩ := strings i
    rw [Client.keyOf,isText]
    exact (ensure_string text n).2
  cases label with
  | ensure i => exact sound.ensure strings distinct taken
  | register i => exact sound.register injective taken
  | send i => exact sound.send taken
  | respond i => exact sound.respond (filled i) taken
  | receive i => exact sound.receive taken
  | cleanup i => exact sound.cleanup injective taken

/-! ### Other identifiers -/

theorem reaches_waiting (at_ : s.pc i = .start) :
    Reaches (step c) s (((s.ensure c i).register i).setPc i .waiting) := by
  have first : step c s (.ensure i) = some (s.ensure c i) := if_pos at_
  have second : step c (s.ensure c i) (.register i) = some ((s.ensure c i).register i) :=
    if_pos (by simp [State.ensure])
  have third : step c ((s.ensure c i).register i) (.send i) =
      some (((s.ensure c i).register i).setPc i .waiting) := if_pos (by simp [State.register])
  exact .cons first (.cons second (reaches_of_step third))

theorem number_lost {q : Rat} (number : ids i = .number q) :
    ∃ t, Reaches (step c) (start ids n) t ∧ ¬ Correlated t := by
  have kept : (c.ensureRequestID n (.number q)).2.1 = .number q := rfl
  have taken : step c ((((start ids n).ensure c i).register i).setPc i .waiting) (.respond i) =
      some (((((start ids n).ensure c i).register i).setPc i .waiting).respond c i) :=
    if_pos ⟨by simp [State.setPc,Pc.sent],rfl⟩
  obtain ⟨labels,executed⟩ := reaches_waiting (c := c) (show (start ids n).pc i = .start from rfl)
  refine ⟨_,⟨labels ++ [.respond i],run_append.mpr ⟨_,executed,run_cons_eq_some.mpr ⟨_,taken,rfl⟩⟩⟩,fun correlated => ?_⟩
  have lookup : c.lookupKey (.number q) = none := rfl
  have lost := correlated.answered i
  simp [State.respond,State.routeResponse,State.setPc,State.register,State.ensure,start,number,kept,lookup] at lost

/-- A response goes to the request that was registered last under its key. -/
theorem shared_key_misdelivers {j : Req} (strings : ∀ i, ∃ text, ids i = .string text)
    (distinct : Injective ids) (different : i ≠ j) (shared : c.keyOf n ids i = c.keyOf n ids j) :
    ∃ t, Reaches (step c) (start ids n) t ∧ ¬ Correlated t := by
  let s₁ := (start ids n).ensure c i
  let s₂ := s₁.ensure c j
  let s₃ := (s₂.register i).register j
  let s₄ := s₃.setPc i .waiting
  have unnamed : s₁.pc j = .start := by simp [s₁,State.ensure,start,different.symm]
  have first : step c (start ids n) (.ensure i) = some s₁ := if_pos (c := (start ids n).pc i = .start) (e := none) rfl
  have second : step c s₁ (.ensure j) = some s₂ := if_pos unnamed
  have sound : Sound c n ids s₂ :=
    (sound_start.ensure strings distinct first).ensure strings distinct second
  have named : s₂.pc i = .named ∧ s₂.pc j = .named := by simp [s₂,s₁,State.ensure,different]
  have third : step c s₂ (.register i) = some (s₂.register i) := if_pos named.1
  have fourth : step c (s₂.register i) (.register j) = some s₃ :=
    if_pos (by simpa [State.register,different.symm] using named.2)
  have fifth : step c s₃ (.send i) = some s₄ := if_pos (by simp [s₃,State.register,different])
  have sixth : step c s₄ (.respond i) = some (s₄.respond c i) := if_pos ⟨by simp [s₄,State.setPc,Pc.sent],rfl⟩
  refine ⟨s₄.respond c i,.cons first (.cons second (.cons third (.cons fourth (.cons fifth (reaches_of_step sixth))))),
    fun correlated => ?_⟩
  have id : s₄.id i = .string (c.keyOf n ids j) := by
    rw [← shared]
    exact ((sound.each i).named (by rw [named.1]; nofun)).1
  have key : s₂.key j = c.keyOf n ids j := ((sound.each j).named (by rw [named.2]; nofun)).2
  have filled : c.keyOf n ids j ≠ "" := by
    obtain ⟨text,isText⟩ := strings j
    rw [Client.keyOf,isText]
    exact (ensure_string text n).2
  have found : s₄.requestMap (c.keyOf n ids j) = some j := by
    rw [← key]
    exact update_self ..
  have room : (s₄.channel j).length < c.capacity := c.capacity_pos
  have misplaced : i ∈ (s₄.respond c i).channel j := by
    unfold State.respond State.routeResponse State.deliver
    rw [id,lookupKey_string filled]
    dsimp only
    rw [found]
    dsimp only
    rw [if_pos room]
    simp
  exact different (correlated.channel j i misplaced)

end

/-- In every run the requests get their own responses, exactly when their identifiers are strings with different keys. -/
theorem correlated_iff (c : Client) (counter : Nat) (ids : Req → Any)
    (kinds : ∀ i, (∃ text, ids i = .string text) ∨ ∃ q, ids i = .number q) (distinct : Injective ids) :
    (∀ t, Reaches (step c) (start ids counter) t → Correlated t) ↔
      (∀ i, ∃ text, ids i = .string text) ∧ Injective (c.keyOf counter ids) := by
  constructor
  · intro always
    have strings : ∀ i, ∃ text, ids i = .string text := by
      intro i
      refine (kinds i).resolve_right ?_
      rintro ⟨q,number⟩
      obtain ⟨t,reached,lost⟩ := number_lost number
      exact lost (always t reached)
    refine ⟨strings,fun i j shared => ?_⟩
    by_contra different
    obtain ⟨t,reached,misdelivered⟩ := shared_key_misdelivers strings distinct different shared
    exact misdelivered (always t reached)
  · rintro ⟨strings,injective⟩ t reached
    exact (reaches_keeps (fun _ _ _ sound taken => sound.step strings distinct injective taken) sound_start reached).correlated

end

def letters : Bool → Any
  | true => .string "a"
  | false => .string "b"

theorem letters_correlated : Injective letters ∧
    ∀ t, Reaches (step ⟨.stdio,"server",fun _ => ""⟩) (start letters 0) t → Correlated t := by
  have distinct : Injective letters := by
    intro i j same
    cases i <;> cases j <;> simp [letters] at same <;> rfl
  refine ⟨distinct,(correlated_iff ⟨.stdio,"server",fun _ => ""⟩ 0 letters ?_ distinct).mpr ⟨?_,?_⟩⟩
  · intro i
    cases i <;> exact .inl ⟨_,rfl⟩
  · intro i
    cases i <;> exact ⟨_,rfl⟩
  · intro i j same
    cases i <;> cases j <;> simp [Client.keyOf,Client.ensureRequestID,letters] at same <;> rfl

/-- The response to the identifier 7 is routed, and the request waits on an empty channel. -/
theorem number_times_out : ∃ t,
    run (step ⟨.websocket,"server",fun _ => "7"⟩) (start (fun _ : Unit => .number 7) 0)
      [.ensure (),.register (),.send (),.respond ()] = some t ∧
    t.answered () = true ∧ t.pc () = .waiting ∧ t.channel () = [] ∧ ¬ Correlated t := by
  refine ⟨_,rfl,rfl,rfl,rfl,fun correlated => ?_⟩
  obtain got | gone | held := correlated.answered () rfl
  · cases got
  · cases gone
  · cases held.2

end McpBridge.DirectClients
