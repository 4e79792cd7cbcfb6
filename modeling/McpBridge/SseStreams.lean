import McpBridge.Channels
import McpBridge.Runs
import McpBridge.Values
import Mathlib.Data.List.AList

/-!
`forwardRequestViaSSE` and `readSSEStream` of the gateway's router. All calls to one URL share one SSE stream, which
finds a waiting call's channel by the JSON-RPC identifier alone.
-/
namespace McpBridge.SseStreams
open Values Function Option
open Channels
open Runs

structure Call where
  url : String
  request : Request

/-- The map key of the identifier of a call; `none` when the identifier is unhashable. -/
def Call.key? (call : Call) : Option Key := call.request.id.key?

structure Event where
  response : Response
  answers : Option Nat

/-- Where a call stands. A stream is named by the call that opened it. -/
inductive Pc where
  | start
  | initializing
  | establishing
  | initialized (event : Event)
  | established
  | ready (stream : Nat)
  | posting (stream : Nat)
  | waiting (stream : Nat)
  | returned (result : Except String Event)
  /-- `pendingRequests[req.ID] = respChan` panicked, with `pendingMu` held. -/
  | panicked

inductive Post where
  | unsent
  | inFlight
  | accepted
  | answered
  | refused
  deriving DecidableEq

structure Caller where
  pc : Pc := .start
  post : Post := .unsent
  stream : Option Nat := none
  respChan : Slot Event := {}

/-- The goroutine of `readSSEStream`: it closes the pending channels and removes the stream from the map in separate
    sections. -/
inductive Reader where
  | unopened
  | running
  | closed
  | gone
  deriving DecidableEq

structure Stream where
  sessionID : String := ""
  pendingRequests : AList (fun _ : Key => Nat) := ∅
  reader : Reader := .unopened
  /-- `pendingMu` is held by a call that panicked. -/
  locked : Bool := false

structure State where
  caller : Nat → Caller := fun _ => {}
  stream : Nat → Stream := fun _ => {}
  sseStreams : String → Option Nat := fun _ => none
  crashed : Bool := false

def init : State := {}

namespace State

def setCaller (s : State) (c : Nat) (caller : Caller) : State :=
  { s with caller := update s.caller c caller }

def setStream (s : State) (st : Nat) (stream : Stream) : State :=
  { s with stream := update s.stream st stream }

def goto (s : State) (c : Nat) (pc : Pc) : State := s.setCaller c { s.caller c with pc := pc }

def setPost (s : State) (c : Nat) (post : Post) : State := s.setCaller c { s.caller c with post := post }

def setChan (s : State) (c : Nat) (chan : Slot Event) : State := s.setCaller c { s.caller c with respChan := chan }

/-- `delete(stream.pendingRequests, id)`. -/
def erasePending (s : State) (st : Nat) (id : Option Key) : State :=
  match id with
  | none => s
  | some k => s.setStream st { s.stream st with pendingRequests := (s.stream st).pendingRequests.erase k }

def list (s : State) (url : String) (st : Option Nat) : State :=
  { s with sseStreams := update s.sseStreams url st }

variable (s : State) (c d st : Nat) (caller : Caller) (pc : Pc) (post : Post) (chan : Slot Event) (stream : Stream)

@[simp] theorem setCaller_caller :
    (s.setCaller c caller).caller d = if d = c then caller else s.caller d := update_apply ..

@[simp] theorem setStream_stream (st other : Nat) :
    (s.setStream st stream).stream other = if other = st then stream else s.stream other := update_apply ..

@[simp] theorem setCaller_stream : (s.setCaller c caller).stream = s.stream := rfl

@[simp] theorem setCaller_sseStreams : (s.setCaller c caller).sseStreams = s.sseStreams := rfl

@[simp] theorem setStream_caller : (s.setStream st stream).caller = s.caller := rfl

@[simp] theorem setStream_sseStreams : (s.setStream st stream).sseStreams = s.sseStreams := rfl

@[simp] theorem goto_caller :
    (s.goto c pc).caller d = if d = c then { s.caller c with pc := pc } else s.caller d := setCaller_caller ..

@[simp] theorem goto_stream : (s.goto c pc).stream = s.stream := rfl

@[simp] theorem goto_sseStreams : (s.goto c pc).sseStreams = s.sseStreams := rfl

@[simp] theorem setPost_caller :
    (s.setPost c post).caller d = if d = c then { s.caller c with post := post } else s.caller d := setCaller_caller ..

@[simp] theorem setPost_pc : ((s.setPost c post).caller d).pc = (s.caller d).pc := by
  rw [setPost_caller]
  split
  next same => rw [same]
  next => rfl

@[simp] theorem setPost_respChan : ((s.setPost c post).caller d).respChan = (s.caller d).respChan := by
  rw [setPost_caller]
  split
  next same => rw [same]
  next => rfl

@[simp] theorem setPost_stream : (s.setPost c post).stream = s.stream := rfl

@[simp] theorem setPost_sseStreams : (s.setPost c post).sseStreams = s.sseStreams := rfl

@[simp] theorem setChan_caller :
    (s.setChan c chan).caller d = if d = c then { s.caller c with respChan := chan } else s.caller d :=
  setCaller_caller ..

@[simp] theorem setChan_pc : ((s.setChan c chan).caller d).pc = (s.caller d).pc := by
  rw [setChan_caller]
  split
  next same => rw [same]
  next => rfl

@[simp] theorem setChan_stream : (s.setChan c chan).stream = s.stream := rfl

@[simp] theorem setChan_sseStreams : (s.setChan c chan).sseStreams = s.sseStreams := rfl

@[simp] theorem list_caller (url : String) (st : Option Nat) : (s.list url st).caller = s.caller := rfl

@[simp] theorem list_stream (url : String) (st : Option Nat) : (s.list url st).stream = s.stream := rfl

@[simp] theorem list_sseStreams (url other : String) (st : Option Nat) :
    (s.list url st).sseStreams other = if other = url then st else s.sseStreams other := update_apply ..

@[simp] theorem erasePending_caller (id : Option Key) : (s.erasePending st id).caller = s.caller := by
  cases id <;> rfl

@[simp] theorem erasePending_sseStreams (id : Option Key) : (s.erasePending st id).sseStreams = s.sseStreams := by
  cases id <;> rfl

theorem erasePending_stream (id : Option Key) (other : Nat) :
    ((s.erasePending st id).stream other).reader = (s.stream other).reader ∧
      ((s.erasePending st id).stream other).locked = (s.stream other).locked := by
  cases id with
  | none => exact ⟨rfl,rfl⟩
  | some k =>
    simp only [erasePending,setStream_stream]
    split
    next same =>
      subst same
      exact ⟨rfl,rfl⟩
    next => exact ⟨rfl,rfl⟩

theorem lookup_erasePending (st other : Nat) (k k' : Key) :
    ((s.erasePending st (some k)).stream other).pendingRequests.lookup k' =
      if other = st ∧ k' = k then none else (s.stream other).pendingRequests.lookup k' := by
  simp only [erasePending,setStream_stream]
  by_cases here : other = st
  · subst here
    by_cases same : k' = k
    · rw [if_pos rfl,if_pos ⟨rfl,same⟩,same,AList.lookup_erase]
    · rw [if_pos rfl,if_neg (fun both => same both.2),AList.lookup_erase_ne same]
  · rw [if_neg here,if_neg (fun both => here both.1)]

end State

/-- A section of a call, a step of the backend, or a step of a stream's reader. -/
inductive Label where
  | lookup (c : Nat)
  | initOk (c : Nat) (session : String) (first : Response) (own : Bool)
  | initFail (c : Nat)
  | getOk (c : Nat) (session : String)
  | getFail (c : Nat) (cause : String)
  | store (c : Nat)
  | register (c : Nat)
  | postOk (c : Nat)
  | postStatus (c : Nat) (status : Nat) (body : String)
  | postFail (c : Nat) (cause : String)
  | receive (c : Nat)
  | cancel (c : Nat) (cause : String)
  | accept (c : Nat)
  | refuse (c : Nat)
  /-- The reader of the call's stream reads the answer to its POST. -/
  | answer (c : Nat) (response : Response)
  /-- The reader of a stream reads a data line that answers no POST of a call. -/
  | message (st : Nat) (response : Response)
  | readerEnd (st : Nat)
  | unlist (st : Nat)

section
variable (calls : Nat → Call)

/-- The first section: an open stream of the URL is used as it is. -/
def lookup (s : State) (c : Nat) : Option State :=
  match (s.caller c).pc with
  | .start =>
    match s.sseStreams (calls c).url with
    | some st => some (s.goto c (.ready st))
    | none => if (calls c).request.method = "initialize" then some (s.goto c .initializing)
        else some (s.goto c .establishing)
  | _ => none

def openStream (s : State) (c : Nat) (session : String) (pc : Pc) : State :=
  (s.goto c pc).setStream c { sessionID := session, reader := .running }

/-- `establishSSESessionViaInitialize` succeeds: a backend without a session is refused. -/
def initOk (s : State) (c : Nat) (session : String) (first : Response) (own : Bool) : Option State :=
  match (s.caller c).pc with
  | .initializing =>
    if session = "" then none
    else some (openStream s c session (.initialized ⟨first,if own then some c else none⟩))
  | _ => none

/-- `establishSSESessionViaInitialize` fails, and the call falls back to the GET. -/
def initFail (s : State) (c : Nat) : Option State :=
  match (s.caller c).pc with
  | .initializing => some (s.goto c .establishing)
  | _ => none

/-- `establishSSESession` succeeds. -/
def getOk (s : State) (c : Nat) (session : String) : Option State :=
  match (s.caller c).pc with
  | .establishing => if session = "" then none else some (openStream s c session .established)
  | _ => none

def getFail (s : State) (c : Nat) (cause : String) : Option State :=
  match (s.caller c).pc with
  | .establishing => some (s.goto c (.returned (.error ("failed to establish SSE session: " ++ cause))))
  | _ => none

/-- `sseStreams[endpointURL] = newStream`, whatever the map holds by now. -/
def store (s : State) (c : Nat) : Option State :=
  match (s.caller c).pc with
  | .initialized event => some ((s.goto c (.returned (.ok event))).list (calls c).url (some c))
  | .established => some ((s.goto c (.ready c)).list (calls c).url (some c))
  | _ => none

/-- `pendingRequests[req.ID] = respChan` with a new channel; the POST carries the stream's session. -/
def register (s : State) (c : Nat) : Option State :=
  match (s.caller c).pc with
  | .ready st =>
    if (s.stream st).locked then none
    else match (calls c).key? with
      | none => some ((s.goto c .panicked).setStream st { s.stream st with locked := true })
      | some k =>
        some ((s.setCaller c { pc := .posting st, post := .inFlight, stream := some st, respChan := {} }).setStream st
          { s.stream st with pendingRequests := (s.stream st).pendingRequests.insert k c })
  | _ => none

/-- The call gives up with an error and deletes its identifier's entry, whoever registered it. -/
def giveUp (s : State) (c st : Nat) (text : String) : Option State :=
  if (s.stream st).locked then none
  else some ((s.goto c (.returned (.error text))).erasePending st (calls c).key?)

/-- `client.Do` returns 200 or 202. -/
def postOk (s : State) (c : Nat) : Option State :=
  match (s.caller c).pc with
  | .posting st =>
    if (s.caller c).post = .accepted ∨ (s.caller c).post = .answered then some (s.goto c (.waiting st)) else none
  | _ => none

def postStatus (s : State) (c status : Nat) (body : String) : Option State :=
  match (s.caller c).pc with
  | .posting st =>
    if status ≠ 200 ∧ status ≠ 202 ∧ (s.caller c).post = .refused then
      giveUp calls s c st ("backend returned status " ++ toString status ++ ": " ++ body)
    else none
  | _ => none

/-- `client.Do` fails; the backend may have taken the POST all the same. -/
def postFail (s : State) (c : Nat) (cause : String) : Option State :=
  match (s.caller c).pc with
  | .posting st => giveUp calls s c st ("failed to send request: " ++ cause)
  | _ => none

/-- The `select` at the end takes the response channel. -/
def receive (s : State) (c : Nat) : Option State :=
  match (s.caller c).pc with
  | .waiting _ =>
    match (s.caller c).respChan.receive with
    | none => none
    | some (none,chan) =>
      some ((s.setChan c chan).goto c (.returned (.error "SSE stream closed while waiting for response")))
    | some (some event,chan) => some ((s.setChan c chan).goto c (.returned (.ok event)))
  | _ => none

/-- The `select` at the end takes `ctx.Done()`. -/
def cancel (s : State) (c : Nat) (cause : String) : Option State :=
  match (s.caller c).pc with
  | .waiting st => giveUp calls s c st ("context cancelled while waiting for SSE response: " ++ cause)
  | _ => none

/-- `readSSEStream` at a data line: the entry of its identifier takes it and is deleted. -/
def deliver (s : State) (st : Nat) (event : Event) : Option State :=
  if (s.stream st).reader = .running ∧ (s.stream st).locked = false then
    match event.response.id.key? with
    | none => some { s with crashed := true }
    | some k =>
      match (s.stream st).pendingRequests.lookup k with
      | none => some s
      | some c =>
        match (s.caller c).respChan.offer event with
        | .error _ => some { s with crashed := true }
        | .ok chan => some ((s.setChan c chan).erasePending st (some k))
  else none

/-- The backend answers an accepted POST once, with its request's identifier, on the stream of its session. -/
def answer (s : State) (c : Nat) (response : Response) : Option State :=
  match (s.caller c).stream with
  | some st =>
    if (s.caller c).post = .accepted ∧ response.id.key? = (calls c).key? then
      deliver (s.setPost c .answered) st ⟨response,some c⟩
    else none
  | none => none

/-- The deferred loop over the pending channels; the entries stay in the map. -/
def closeAll (s : State) : List (Sigma fun _ : Key => Nat) → State
  | [] => s
  | entry :: rest =>
    match (s.caller entry.2).respChan.close with
    | .error _ => { s with crashed := true }
    | .ok chan => closeAll (s.setChan entry.2 chan) rest

@[simp] theorem closeAll_stream (s : State) (entries : List (Sigma fun _ : Key => Nat)) :
    (closeAll s entries).stream = s.stream := by
  induction entries generalizing s with
  | nil => rfl
  | cons entry rest ih =>
    unfold closeAll
    split
    · rfl
    · rw [ih,State.setChan_stream]

@[simp] theorem closeAll_sseStreams (s : State) (entries : List (Sigma fun _ : Key => Nat)) :
    (closeAll s entries).sseStreams = s.sseStreams := by
  induction entries generalizing s with
  | nil => rfl
  | cons entry rest ih =>
    unfold closeAll
    split
    · rfl
    · rw [ih,State.setChan_sseStreams]

/-- The first deferred section of `readSSEStream`. -/
def readerEnd (s : State) (st : Nat) : Option State :=
  if (s.stream st).reader = .running ∧ (s.stream st).locked = false then
    some (closeAll (s.setStream st { s.stream st with reader := .closed }) (s.stream st).pendingRequests.entries)
  else none

def unlist (s : State) (st : Nat) : Option State :=
  if (s.stream st).reader = .closed then
    some ((s.setStream st { s.stream st with reader := .gone }).list (calls st).url none)
  else none

def decidePost (s : State) (c : Nat) (decision : Post) : Option State :=
  if (s.caller c).post = .inFlight then some (s.setPost c decision) else none

def step (s : State) (label : Label) : Option State :=
  if s.crashed then none
  else match label with
    | .lookup c => lookup calls s c
    | .initOk c session first own => initOk s c session first own
    | .initFail c => initFail s c
    | .getOk c session => getOk s c session
    | .getFail c cause => getFail s c cause
    | .store c => store calls s c
    | .register c => register calls s c
    | .postOk c => postOk s c
    | .postStatus c status body => postStatus calls s c status body
    | .postFail c cause => postFail calls s c cause
    | .receive c => receive s c
    | .cancel c cause => cancel calls s c cause
    | .accept c => decidePost s c .accepted
    | .refuse c => decidePost s c .refused
    | .answer c response => answer calls s c response
    | .message st response => deliver s st ⟨response,none⟩
    | .readerEnd st => readerEnd s st
    | .unlist st => unlist calls s st

def Label.abandons : Label → Option Nat
  | .postStatus c _ _ => some c
  | .postFail c _ => some c
  | .cancel c _ => some c
  | _ => none

/-- What a call returns when its channel yields an event, or a closed channel's zero value. -/
def resultOf : Option Event → Except String Event
  | none => .error "SSE stream closed while waiting for response"
  | some event => .ok event

inductive Delivery (s : State) (st : Nat) (event : Event) : State → Prop where
  | unhashable (unkeyed : event.response.id.key? = none) : Delivery s st event { s with crashed := true }
  | unknown {k : Key} (keyed : event.response.id.key? = some k)
      (missing : (s.stream st).pendingRequests.lookup k = none) : Delivery s st event s
  | refused {k : Key} {c : Nat} {panic : Panic} (keyed : event.response.id.key? = some k)
      (found : (s.stream st).pendingRequests.lookup k = some c)
      (offered : (s.caller c).respChan.offer event = .error panic) : Delivery s st event { s with crashed := true }
  | delivered {k : Key} {c : Nat} {chan : Slot Event} (keyed : event.response.id.key? = some k)
      (found : (s.stream st).pendingRequests.lookup k = some c)
      (offered : (s.caller c).respChan.offer event = .ok chan) :
      Delivery s st event ((s.setChan c chan).erasePending st (some k))

inductive Effect (s : State) : Label → State → Prop where
  | lookup {c : Nat} {pc : Pc} (begun : (s.caller c).pc = .start) (onward : pc = .initializing ∨ pc = .establishing ∨
        ∃ st, s.sseStreams (calls c).url = some st ∧ pc = .ready st)
      (missed : s.sseStreams (calls c).url = none ∨ ∃ st, pc = .ready st) : Effect s (.lookup c) (s.goto c pc)
  | initOk {c : Nat} {session : String} {first : Response} {own : Bool} (asked : (s.caller c).pc = .initializing) :
      Effect s (.initOk c session first own)
        (openStream s c session (.initialized ⟨first,if own then some c else none⟩))
  | initFail {c : Nat} (asked : (s.caller c).pc = .initializing) : Effect s (.initFail c) (s.goto c .establishing)
  | getOk {c : Nat} {session : String} (asked : (s.caller c).pc = .establishing) :
      Effect s (.getOk c session) (openStream s c session .established)
  | getFail {c : Nat} {cause : String} (asked : (s.caller c).pc = .establishing) :
      Effect s (.getFail c cause) (s.goto c (.returned (.error ("failed to establish SSE session: " ++ cause))))
  | storeFirst {c : Nat} {event : Event} (opened : (s.caller c).pc = .initialized event) :
      Effect s (.store c) ((s.goto c (.returned (.ok event))).list (calls c).url (some c))
  | store {c : Nat} (opened : (s.caller c).pc = .established) :
      Effect s (.store c) ((s.goto c (.ready c)).list (calls c).url (some c))
  | panic {c st : Nat} (here : (s.caller c).pc = .ready st) (unlocked : (s.stream st).locked = false)
      (unkeyed : (calls c).key? = none) :
      Effect s (.register c) ((s.goto c .panicked).setStream st { s.stream st with locked := true })
  | register {c st : Nat} {k : Key} (here : (s.caller c).pc = .ready st) (unlocked : (s.stream st).locked = false)
      (keyed : (calls c).key? = some k) :
      Effect s (.register c)
        ((s.setCaller c { pc := .posting st, post := .inFlight, stream := some st, respChan := {} }).setStream st
          { s.stream st with pendingRequests := (s.stream st).pendingRequests.insert k c })
  | abandon {label : Label} {c st : Nat} {text : String} (abandons : label.abandons = some c)
      (registered : (s.caller c).pc = .posting st ∨ (s.caller c).pc = .waiting st)
      (unlocked : (s.stream st).locked = false) :
      Effect s label ((s.goto c (.returned (.error text))).erasePending st (calls c).key?)
  | postOk {c st : Nat} (posting : (s.caller c).pc = .posting st) : Effect s (.postOk c) (s.goto c (.waiting st))
  | receive {c st : Nat} {x : Option Event} {chan : Slot Event} (waiting : (s.caller c).pc = .waiting st)
      (received : (s.caller c).respChan.receive = some (x,chan)) :
      Effect s (.receive c) ((s.setChan c chan).goto c (.returned (resultOf x)))
  | accept {c : Nat} (inFlight : (s.caller c).post = .inFlight) : Effect s (.accept c) (s.setPost c .accepted)
  | refuse {c : Nat} (inFlight : (s.caller c).post = .inFlight) : Effect s (.refuse c) (s.setPost c .refused)
  | answer {c st : Nat} {response : Response} {t : State} (sentOn : (s.caller c).stream = some st)
      (accepted : (s.caller c).post = .accepted) (same : response.id.key? = (calls c).key?)
      (running : (s.stream st).reader = .running) (unlocked : (s.stream st).locked = false)
      (delivery : Delivery (s.setPost c .answered) st ⟨response,some c⟩ t) : Effect s (.answer c response) t
  | message {st : Nat} {response : Response} {t : State} (running : (s.stream st).reader = .running)
      (unlocked : (s.stream st).locked = false) (delivery : Delivery s st ⟨response,none⟩ t) :
      Effect s (.message st response) t
  | readerEnd {st : Nat} (running : (s.stream st).reader = .running) (unlocked : (s.stream st).locked = false) :
      Effect s (.readerEnd st)
        (closeAll (s.setStream st { s.stream st with reader := .closed }) (s.stream st).pendingRequests.entries)
  | unlist {st : Nat} (closed : (s.stream st).reader = .closed) :
      Effect s (.unlist st) ((s.setStream st { s.stream st with reader := .gone }).list (calls st).url none)

variable {calls} {label : Label}

@[simp] theorem openStream_caller (s : State) (c d : Nat) (session : String) (pc : Pc) :
    (openStream s c session pc).caller d = if d = c then { s.caller c with pc := pc } else s.caller d :=
  State.setCaller_caller ..

@[simp] theorem openStream_stream (s : State) (c st : Nat) (session : String) (pc : Pc) :
    (openStream s c session pc).stream st =
      if st = c then { sessionID := session, reader := .running } else s.stream st :=
  State.setStream_stream ..

theorem deliver_delivery {s t : State} {st : Nat} {event : Event} (taken : deliver s st event = some t) :
    (s.stream st).reader = .running ∧ (s.stream st).locked = false ∧ Delivery s st event t := by
  revert taken
  fun_cases deliver s st event <;> rintro ⟨⟩
  case case1 reads unkeyed => exact ⟨reads.1,reads.2,.unhashable unkeyed⟩
  case case2 reads _ keyed missing => exact ⟨reads.1,reads.2,.unknown keyed missing⟩
  case case3 reads _ keyed _ found _ offered => exact ⟨reads.1,reads.2,.refused keyed found offered⟩
  case case4 reads _ keyed _ found _ offered => exact ⟨reads.1,reads.2,.delivered keyed found offered⟩

theorem giveUp_effect {s t : State} {c st : Nat} {text : String} (abandons : label.abandons = some c)
    (registered : (s.caller c).pc = .posting st ∨ (s.caller c).pc = .waiting st)
    (taken : giveUp calls s c st text = some t) : Effect calls s label t := by
  obtain ⟨unlocked,⟨⟩⟩ := ite_none_left_eq_some.mp taken
  exact .abandon abandons registered (Bool.eq_false_iff.mpr unlocked)

theorem step_effect {s t : State} (taken : step calls s label = some t) :
    s.crashed = false ∧ Effect calls s label t := by
  obtain ⟨up,taken⟩ := ite_none_left_eq_some.mp taken
  refine ⟨Bool.eq_false_iff.mpr up,?_⟩
  revert taken
  cases label <;> dsimp only
  case lookup c =>
    fun_cases lookup calls s c <;> rintro ⟨⟩
    case case1 begun st listed => exact .lookup begun (.inr (.inr ⟨st,listed,rfl⟩)) (.inr ⟨st,rfl⟩)
    case case2 begun missed _ => exact .lookup begun (.inl rfl) (.inl missed)
    case case3 begun missed _ => exact .lookup begun (.inr (.inl rfl)) (.inl missed)
  case initOk c session first own =>
    fun_cases initOk s c session first own <;> rintro ⟨⟩
    case case2 asked _ => exact .initOk asked
  case initFail c =>
    fun_cases initFail s c <;> rintro ⟨⟩
    case case1 asked => exact .initFail asked
  case getOk c session =>
    fun_cases getOk s c session <;> rintro ⟨⟩
    case case2 asked _ => exact .getOk asked
  case getFail c cause =>
    fun_cases getFail s c cause <;> rintro ⟨⟩
    case case1 asked => exact .getFail asked
  case store c =>
    fun_cases store calls s c <;> rintro ⟨⟩
    case case1 opened => exact .storeFirst opened
    case case2 opened => exact .store opened
  case register c =>
    fun_cases register calls s c <;> rintro ⟨⟩
    case case2 here unlocked unkeyed => exact .panic here (Bool.eq_false_iff.mpr unlocked) unkeyed
    case case3 here unlocked _ keyed => exact .register here (Bool.eq_false_iff.mpr unlocked) keyed
  case postOk c =>
    fun_cases postOk s c <;> rintro ⟨⟩
    case case1 posting _ => exact .postOk posting
  case postStatus c status body =>
    fun_cases postStatus calls s c status body <;> intro taken
    case case1 posting _ => exact giveUp_effect rfl (.inl posting) taken
    all_goals cases taken
  case postFail c cause =>
    fun_cases postFail calls s c cause <;> intro taken
    case case1 posting => exact giveUp_effect rfl (.inl posting) taken
    case case2 => cases taken
  case receive c =>
    fun_cases receive s c <;> rintro ⟨⟩
    case case2 waiting _ received => exact .receive waiting received
    case case3 waiting _ _ received => exact .receive waiting received
  case cancel c cause =>
    fun_cases cancel calls s c cause <;> intro taken
    case case1 waiting => exact giveUp_effect rfl (.inr waiting) taken
    case case2 => cases taken
  case accept c =>
    intro taken
    obtain ⟨inFlight,⟨⟩⟩ := ite_none_right_eq_some.mp taken
    exact .accept inFlight
  case refuse c =>
    intro taken
    obtain ⟨inFlight,⟨⟩⟩ := ite_none_right_eq_some.mp taken
    exact .refuse inFlight
  case answer c response =>
    fun_cases answer calls s c response <;> intro taken
    case case1 sentOn accepted =>
      obtain ⟨running,unlocked,delivery⟩ := deliver_delivery taken
      exact .answer sentOn accepted.1 accepted.2 running unlocked delivery
    all_goals cases taken
  case message st response =>
    intro taken
    obtain ⟨running,unlocked,delivery⟩ := deliver_delivery taken
    exact .message running unlocked delivery
  case readerEnd st =>
    intro taken
    obtain ⟨reads,⟨⟩⟩ := ite_none_right_eq_some.mp taken
    exact .readerEnd reads.1 reads.2
  case unlist st =>
    intro taken
    obtain ⟨closed,⟨⟩⟩ := ite_none_right_eq_some.mp taken
    exact .unlist closed

theorem register_pc {calls : Nat → Call} {s t : State} {c : Nat} (taken : step calls s (.register c) = some t) :
    ∃ st, (s.caller c).pc = .ready st ∧ (t.caller c).pc = if (calls c).key?.isSome then .posting st else .panicked := by
  cases (step_effect taken).2 with
  | panic here unlocked unkeyed => exact ⟨_,here,by simp [unkeyed,State.goto,State.setStream]⟩
  | register here unlocked keyed => exact ⟨_,here,by simp [keyed,State.setStream]⟩
  | abandon abandons => cases abandons

end
end McpBridge.SseStreams
