import McpBridge.Buffers
import McpBridge.Runs

/-!
The SSE frontend (`frontends/sse/frontend.go`). A client opens its event stream with a GET and sends its requests with
POSTs, which are matched with some registered stream of the user. Every stream has a loop that writes what comes over
its channel.
-/
namespace McpBridge.SseFrontend
open Runs Function
open Channels (Panic)
open Buffers

/-- The clients, with their users, and the POSTs. Every client has the stream of its number. -/
structure Site where
  user : Nat → String
  issuer : Nat → Nat
  capacity : Nat

/-- What is sent over `EventCh`: the response to a POST, or `:keepalive`. -/
inductive Event where
  | response (p : Nat)
  | keepAlive
  deriving DecidableEq

inductive Loop where
  | absent
  | waiting
  | writing (event : Event)
  | leaving
  | closed
  | gone
  deriving DecidableEq

structure Stream where
  loop : Loop := .absent
  eventCh : Guarded Event := {}
  written : List Event := []

inductive Post where
  | start
  | found (k : Nat)
  | sending (k : Nat)
  | accepted
  | failed
  | dropped
  | panicked
  deriving DecidableEq

inductive KeepAlive where
  | waiting
  | round (rest : List Nat)
  | ended
  deriving DecidableEq

inductive Stop where
  | running
  | signalled
  | closing (rest : List Nat)
  | returned
  deriving DecidableEq

structure State where
  streams : List Nat := []
  stream : Nat → Stream := fun _ => {}
  post : Nat → Post := fun _ => .start
  keepAlive : KeepAlive := .waiting
  stop : Stop := .running
  panic : Option Panic := none

def init : State := {}

inductive Label where
  | connect (k : Nat)
  | receive (k : Nat)
  | write (k : Nat) (ok : Bool)
  | quit (k : Nat)
  | close (k : Nat)
  | unlist (k : Nat)
  | find (p k : Nat)
  | notFound (p : Nat)
  | route (p : Nat) (ok : Bool)
  | send (p : Nat)
  | timeout (p : Nat)
  /-- A round begins, over the registry in the order in which the map is iterated. -/
  | keepAlive (order : List Nat)
  | keepSend
  | keepEnd
  | keepStop
  | signal
  | snapshot (order : List Nat)
  | stopClose
  | stopEnd

namespace State

def setStream (s : State) (k : Nat) (stream : Stream) : State := { s with stream := update s.stream k stream }

def setLoop (s : State) (k : Nat) (loop : Loop) : State := s.setStream k { s.stream k with loop := loop }

def setEventCh (s : State) (k : Nat) (eventCh : Guarded Event) : State :=
  s.setStream k { s.stream k with eventCh := eventCh }

def setPost (s : State) (p : Nat) (post : Post) : State := { s with post := update s.post p post }

/-- Something is in `EventCh` of the stream. -/
def push (s : State) (k : Nat) (buffer : Buffer Event) : State :=
  s.setEventCh k { (s.stream k).eventCh with buffer := buffer }

/-- No round of keep-alives holds `streamsMu`. -/
def unlocked (s : State) : Bool :=
  match s.keepAlive with
  | .round _ => false
  | _ => true

end State

section
variable (site : Site)

/-- The steps of the handler of a GET. -/
def stepStream (s : State) (k : Nat) : Loop → Label → Option State
  | .absent,.connect _ =>
    if s.unlocked then some { s.setLoop k .waiting with streams := k :: s.streams } else none
  | .waiting,.receive _ =>
    match (s.stream k).eventCh.buffer.receive with
    | some (some event,buffer) => some ((s.push k buffer).setLoop k (.writing event))
    | some (none,_) => some (s.setLoop k .leaving)
    | none => none
  | .writing event,.write _ ok =>
    if ok then some (s.setStream k { s.stream k with loop := .waiting, written := (s.stream k).written ++ [event] })
    else some (s.setLoop k .leaving)
  | .waiting,.quit _ =>
    if (s.stream k).eventCh.flag ∨ s.stop ≠ .running then some (s.setLoop k .leaving) else none
  | .leaving,.close _ =>
    match (s.stream k).eventCh.close with
    | .ok eventCh => some ((s.setEventCh k eventCh).setLoop k .closed)
    | .error panic => some { s with panic := some panic }
  | .closed,.unlist _ =>
    if s.unlocked then some { s.setLoop k .gone with streams := s.streams.erase k } else none
  | _,_ => none

/-- The steps of the handler of a POST; `findStreamByUser` returns the first stream of the user that it meets. -/
def stepPost (s : State) (p : Nat) : Post → Label → Option State
  | .start,.find _ k =>
    if k ∈ s.streams ∧ site.user k = site.user (site.issuer p) then some (s.setPost p (.found k)) else none
  | .start,.notFound _ =>
    if ∀ k ∈ s.streams, site.user k ≠ site.user (site.issuer p) then some (s.setPost p .failed) else none
  | .found k,.route _ ok => some (s.setPost p (if ok then .sending k else .failed))
  | .sending k,.send _ =>
    match (s.stream k).eventCh.buffer.send site.capacity (.response p) with
    | .ok (some buffer) => some ((s.push k buffer).setPost p .accepted)
    | .ok none => none
    | .error panic => some { s.setPost p .panicked with panic := some panic }
  | .sending _,.timeout _ => some (s.setPost p .dropped)
  | _,_ => none

def stepKeepAlive (s : State) : KeepAlive → Label → Option State
  | .waiting,.keepAlive order => if order.isPerm s.streams then some { s with keepAlive := .round order } else none
  | .round (k :: rest),.keepSend =>
    match (s.stream k).eventCh.buffer.send site.capacity .keepAlive with
    | .ok (some buffer) => some { s.push k buffer with keepAlive := .round rest }
    | .ok none => some { s with keepAlive := .round rest }
    | .error panic => some { s with panic := some panic }
  | .round [],.keepEnd => some { s with keepAlive := .waiting }
  | .waiting,.keepStop => if s.stop ≠ .running then some { s with keepAlive := .ended } else none
  | _,_ => none

def stepStop (s : State) : Stop → Label → Option State
  | .running,.signal => some { s with stop := .signalled }
  | .signalled,.snapshot order =>
    if s.unlocked ∧ order.isPerm s.streams then some { s with stop := .closing order } else none
  | .closing (k :: rest),.stopClose =>
    match (s.stream k).eventCh.close with
    | .ok eventCh => some { s.setEventCh k eventCh with stop := .closing rest }
    | .error panic => some { s with panic := some panic }
  | .closing [],.stopEnd => some { s with stop := .returned }
  | _,_ => none

/-- One step of the frontend; a panic is the end. -/
def step (s : State) (label : Label) : Option State :=
  if s.panic = none then
    match label with
    | .connect k | .receive k | .write k _ | .quit k | .close k | .unlist k => stepStream s k (s.stream k).loop label
    | .find p _ | .notFound p | .route p _ | .send p | .timeout p => stepPost site s p (s.post p) label
    | .keepAlive _ | .keepSend | .keepEnd | .keepStop => stepKeepAlive site s s.keepAlive label
    | .signal | .snapshot _ | .stopClose | .stopEnd => stepStop s s.stop label
  else none

inductive Effect (s : State) : Label → State → Prop where
  | connect {k : Nat} (here : (s.stream k).loop = .absent) (free : s.unlocked = true) :
      Effect s (.connect k) { s.setLoop k .waiting with streams := k :: s.streams }
  | receive {k : Nat} {event : Event} {rest : List Event} (here : (s.stream k).loop = .waiting)
      (queued : (s.stream k).eventCh.buffer.queue = event :: rest) :
      Effect s (.receive k)
        ((s.push k { (s.stream k).eventCh.buffer with queue := rest }).setLoop k (.writing event))
  | ended {k : Nat} (here : (s.stream k).loop = .waiting) (empty : (s.stream k).eventCh.buffer.queue = [])
      (closed : (s.stream k).eventCh.buffer.closed = true) : Effect s (.receive k) (s.setLoop k .leaving)
  | wrote {k : Nat} {event : Event} (here : (s.stream k).loop = .writing event) : Effect s (.write k true)
        (s.setStream k { s.stream k with loop := .waiting, written := (s.stream k).written ++ [event] })
  | unwritten {k : Nat} {event : Event} (here : (s.stream k).loop = .writing event) :
      Effect s (.write k false) (s.setLoop k .leaving)
  | quit {k : Nat} (here : (s.stream k).loop = .waiting) : Effect s (.quit k) (s.setLoop k .leaving)
  | close {k : Nat} {eventCh : Guarded Event} (here : (s.stream k).loop = .leaving)
      (done : (s.stream k).eventCh.close = .ok eventCh) :
      Effect s (.close k) ((s.setEventCh k eventCh).setLoop k .closed)
  | closePanic {k : Nat} {panic : Panic} (here : (s.stream k).loop = .leaving)
      (twice : (s.stream k).eventCh.close = .error panic) : Effect s (.close k) { s with panic := some panic }
  | unlist {k : Nat} (here : (s.stream k).loop = .closed) (free : s.unlocked = true) :
      Effect s (.unlist k) { s.setLoop k .gone with streams := s.streams.erase k }
  | find {p k : Nat} (here : s.post p = .start) (listed : k ∈ s.streams)
      (same : site.user k = site.user (site.issuer p)) : Effect s (.find p k) (s.setPost p (.found k))
  | notFound {p : Nat} (here : s.post p = .start) : Effect s (.notFound p) (s.setPost p .failed)
  | route {p k : Nat} {ok : Bool} (here : s.post p = .found k) :
      Effect s (.route p ok) (s.setPost p (if ok then .sending k else .failed))
  | send {p k : Nat} (here : s.post p = .sending k) (usable : (s.stream k).eventCh.buffer.closed = false)
      (room : (s.stream k).eventCh.buffer.queue.length < site.capacity) :
      Effect s (.send p) ((s.push k { (s.stream k).eventCh.buffer with
        queue := (s.stream k).eventCh.buffer.queue ++ [.response p] }).setPost p .accepted)
  | sendPanic {p k : Nat} (here : s.post p = .sending k) (closed : (s.stream k).eventCh.buffer.closed = true) :
      Effect s (.send p) { s.setPost p .panicked with panic := some .sendOnClosed }
  | timeout {p k : Nat} (here : s.post p = .sending k) : Effect s (.timeout p) (s.setPost p .dropped)
  | keepAlive {order : List Nat} (here : s.keepAlive = .waiting) (all : order.Perm s.streams) :
      Effect s (.keepAlive order) { s with keepAlive := .round order }
  | keepSend {k : Nat} {rest : List Nat} (here : s.keepAlive = .round (k :: rest))
      (usable : (s.stream k).eventCh.buffer.closed = false)
      (room : (s.stream k).eventCh.buffer.queue.length < site.capacity) :
      Effect s .keepSend { s.push k { (s.stream k).eventCh.buffer with
        queue := (s.stream k).eventCh.buffer.queue ++ [.keepAlive] } with keepAlive := .round rest }
  | keepSkip {k : Nat} {rest : List Nat} (here : s.keepAlive = .round (k :: rest))
      (usable : (s.stream k).eventCh.buffer.closed = false)
      (full : site.capacity ≤ (s.stream k).eventCh.buffer.queue.length) :
      Effect s .keepSend { s with keepAlive := .round rest }
  | keepPanic {k : Nat} {rest : List Nat} (here : s.keepAlive = .round (k :: rest))
      (closed : (s.stream k).eventCh.buffer.closed = true) :
      Effect s .keepSend { s with panic := some .sendOnClosed }
  | keepEnd (here : s.keepAlive = .round []) : Effect s .keepEnd { s with keepAlive := .waiting }
  | keepStop (here : s.keepAlive = .waiting) : Effect s .keepStop { s with keepAlive := .ended }
  | signal (here : s.stop = .running) : Effect s .signal { s with stop := .signalled }
  | snapshot {order : List Nat} (here : s.stop = .signalled) (free : s.unlocked = true) (all : order.Perm s.streams) :
      Effect s (.snapshot order) { s with stop := .closing order }
  | stopClose {k : Nat} {rest : List Nat} {eventCh : Guarded Event} (here : s.stop = .closing (k :: rest))
      (done : (s.stream k).eventCh.close = .ok eventCh) :
      Effect s .stopClose { s.setEventCh k eventCh with stop := .closing rest }
  | stopPanic {k : Nat} {rest : List Nat} {panic : Panic} (here : s.stop = .closing (k :: rest))
      (twice : (s.stream k).eventCh.close = .error panic) : Effect s .stopClose { s with panic := some panic }
  | stopEnd (here : s.stop = .closing []) : Effect s .stopEnd { s with stop := .returned }

variable {site}

variable {s t : State} {label : Label}

def Label.stream : Label → Option Nat
  | .connect k | .receive k | .write k _ | .quit k | .close k | .unlist k => some k
  | _ => none

def Label.post : Label → Option Nat
  | .find p _ | .notFound p | .route p _ | .send p | .timeout p => some p
  | _ => none

theorem stepStream_effect {k : Nat} (mine : label.stream = some k)
    (taken : stepStream s k (s.stream k).loop label = some t) : Effect site s label t := by
  generalize here : (s.stream k).loop = loop at taken
  revert taken
  fun_cases stepStream s k loop label <;> rintro ⟨⟩ <;> cases mine
  case case1 free => exact .connect here free
  case case3 received =>
    obtain ⟨x,rest,⟨⟩,queued,rfl⟩ | ⟨⟨⟩,-⟩ := Buffer.receive_cases received
    exact .receive here queued
  case case4 received =>
    obtain ⟨x,rest,⟨⟩,-⟩ | ⟨-,empty,closed,-⟩ := Buffer.receive_cases received
    exact .ended here empty closed
  case case6 => exact .wrote here
  case case7 failed =>
    cases Bool.eq_false_iff.mpr failed
    exact .unwritten here
  case case8 => exact .quit here
  case case10 done => exact .close here done
  case case11 twice => exact .closePanic here twice
  case case12 free => exact .unlist here free

theorem stepPost_effect {p : Nat} (mine : label.post = some p)
    (taken : stepPost site s p (s.post p) label = some t) : Effect site s label t := by
  generalize here : s.post p = post at taken
  revert taken
  fun_cases stepPost site s p post label <;> rintro ⟨⟩ <;> cases mine
  case case1 listed => exact .find here listed.1 listed.2
  case case3 => exact .notFound here
  case case5 => exact .route here
  case case6 sent =>
    obtain ⟨-,⟨⟩⟩ | ⟨-,-,⟨⟩⟩ | ⟨usable,room,⟨⟩⟩ := Buffer.send_cases sent
    exact .send here usable room
  case case8 sent =>
    obtain ⟨closed,⟨⟩⟩ | ⟨-,-,⟨⟩⟩ | ⟨-,-,⟨⟩⟩ := Buffer.send_cases sent
    exact .sendPanic here closed
  case case9 => exact .timeout here

theorem stepKeepAlive_effect (taken : stepKeepAlive site s s.keepAlive label = some t) : Effect site s label t := by
  generalize here : s.keepAlive = keepAlive at taken
  revert taken
  fun_cases stepKeepAlive site s keepAlive label <;> rintro ⟨⟩
  case case1 all => exact .keepAlive here (List.isPerm_iff.mp all)
  case case3 sent =>
    obtain ⟨-,⟨⟩⟩ | ⟨-,-,⟨⟩⟩ | ⟨usable,room,⟨⟩⟩ := Buffer.send_cases sent
    exact .keepSend here usable room
  case case4 sent =>
    obtain ⟨-,⟨⟩⟩ | ⟨usable,full,-⟩ | ⟨-,-,⟨⟩⟩ := Buffer.send_cases sent
    exact .keepSkip here usable full
  case case5 sent =>
    obtain ⟨closed,⟨⟩⟩ | ⟨-,-,⟨⟩⟩ | ⟨-,-,⟨⟩⟩ := Buffer.send_cases sent
    exact .keepPanic here closed
  case case6 => exact .keepEnd here
  case case7 => exact .keepStop here

theorem stepStop_effect (taken : stepStop s s.stop label = some t) : Effect site s label t := by
  generalize here : s.stop = stop at taken
  revert taken
  fun_cases stepStop s stop label <;> rintro ⟨⟩
  case case1 => exact .signal here
  case case2 free => exact .snapshot here free.1 (List.isPerm_iff.mp free.2)
  case case4 done => exact .stopClose here done
  case case5 twice => exact .stopPanic here twice
  case case6 => exact .stopEnd here

theorem step_effect (taken : step site s label = some t) : s.panic = none ∧ Effect site s label t := by
  obtain ⟨calm,taken⟩ := Option.ite_none_right_eq_some.mp taken
  refine ⟨calm,?_⟩
  cases label with
  | connect | receive | write | quit | close | unlist => exact stepStream_effect rfl taken
  | find | notFound | route | send | timeout => exact stepPost_effect rfl taken
  | keepAlive | keepSend | keepEnd | keepStop => exact stepKeepAlive_effect taken
  | signal | snapshot | stopClose | stopEnd => exact stepStop_effect taken

end

namespace State

@[simp] theorem setStream_stream (s : State) (k j : Nat) (stream : Stream) :
    (s.setStream k stream).stream j = if j = k then stream else s.stream j := update_apply ..

theorem setEventCh_setLoop (s : State) (k : Nat) (eventCh : Guarded Event) (loop : Loop) :
    (s.setEventCh k eventCh).setLoop k loop = s.setStream k { s.stream k with loop := loop, eventCh := eventCh } := by
  unfold setLoop setEventCh
  rw [setStream_stream,if_pos rfl]
  unfold setStream
  rw [update_idem]

@[simp] theorem setPost_post (s : State) (p q : Nat) (post : Post) :
    (s.setPost p post).post q = if q = p then post else s.post q := update_apply ..

end State

end McpBridge.SseFrontend
