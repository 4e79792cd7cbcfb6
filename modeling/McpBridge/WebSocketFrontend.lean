import McpBridge.Buffers
import McpBridge.Runs

/-!
The connections of the WebSocket frontend (`frontends/websocket/frontend.go`) and their channels. The read loop handles
one message after the other and sends the responses over `WriteCh`, from which the write loop takes them.
-/
namespace McpBridge.WebSocketFrontend
open Runs
open Channels (Panic)
open Buffers

inductive Message where
  | response
  | error
  | shutdown

inductive Reader where
  | absent
  | checking
  | reading
  | routing
  | sending (message : Message)
  | leaving
  | removed
  | gone

structure Connection where
  reader : Reader := .absent
  writeCh : Guarded Message := {}

inductive Stop where
  | running
  | signalled
  | notifying (rest : List Nat)
  | notified
  | closing (rest : List Nat)
  | returned
  deriving DecidableEq

structure State where
  connections : List Nat := []
  connection : Nat → Connection := fun _ => {}
  stop : Stop := .running
  panic : Option Panic := none

def init : State := {}

inductive Label where
  | register (k : Nat)
  | check (k : Nat)
  | message (k : Nat) (text : Bool)
  | readFail (k : Nat)
  | route (k : Nat) (ok : Bool)
  | send (k : Nat)
  | giveUp (k : Nat)
  | remove (k : Nat)
  | close (k : Nat)
  | take (k : Nat)
  | signal
  | notify (order : List Nat)
  | notifySend
  | notifySkip
  | notifyEnd
  | snapshot (order : List Nat)
  | stopClose
  | stopEnd

namespace State

def setConnection (s : State) (k : Nat) (connection : Connection) : State :=
  { s with connection := Function.update s.connection k connection }

def setReader (s : State) (k : Nat) (reader : Reader) : State :=
  s.setConnection k { s.connection k with reader := reader }

def setWriteCh (s : State) (k : Nat) (writeCh : Guarded Message) : State :=
  s.setConnection k { s.connection k with writeCh := writeCh }

def push (s : State) (k : Nat) (buffer : Buffer Message) : State :=
  s.setWriteCh k { (s.connection k).writeCh with buffer := buffer }

/-- `notifyConnectionsOfShutdown` does not hold `connMu`. -/
def unlocked (s : State) : Bool :=
  match s.stop with
  | .notifying _ => false
  | _ => true

end State

section
variable (capacity : Nat)

/-- The steps of `handleClientRead`. A message read before the socket was closed can still be returned. -/
def stepReader (s : State) (k : Nat) : Reader → Label → Option State
  | .absent,.register _ =>
    if s.unlocked then some { s.setReader k .checking with connections := k :: s.connections } else none
  | .checking,.check _ =>
    some (s.setReader k (if (s.connection k).writeCh.flag ∨ s.stop ≠ .running then .leaving else .reading))
  | .reading,.message _ text => some (s.setReader k (if text then .routing else .checking))
  | .reading,.readFail _ => some (s.setReader k .leaving)
  | .routing,.route _ ok => some (s.setReader k (.sending (if ok then .response else .error)))
  | .sending message,.send _ =>
    match (s.connection k).writeCh.buffer.send capacity message with
    | .ok (some buffer) => some ((s.push k buffer).setReader k .checking)
    | .ok none => none
    | .error panic => some { s with panic := some panic }
  | .sending .response,.giveUp _ => some (s.setReader k (.sending .error))
  | .sending _,.giveUp _ => some (s.setReader k .checking)
  | .leaving,.remove _ =>
    if s.unlocked then some { s.setReader k .removed with connections := s.connections.erase k } else none
  | .removed,.close _ =>
    match (s.connection k).writeCh.close with
    | .ok writeCh => some ((s.setWriteCh k writeCh).setReader k .gone)
    | .error panic => some { s with panic := some panic }
  | _,_ => none

def stepStop (s : State) : Stop → Label → Option State
  | .running,.signal => some { s with stop := .signalled }
  | .signalled,.notify order =>
    if order.isPerm s.connections then some { s with stop := .notifying order } else none
  | .notifying (k :: rest),.notifySend =>
    match (s.connection k).writeCh.buffer.send capacity .shutdown with
    | .ok (some buffer) => some { s.push k buffer with stop := .notifying rest }
    | .ok none => none
    | .error panic => some { s with panic := some panic }
  | .notifying (_ :: rest),.notifySkip => some { s with stop := .notifying rest }
  | .notifying [],.notifyEnd => some { s with stop := .notified }
  | .notified,.snapshot order =>
    if order.isPerm s.connections then some { s with stop := .closing order } else none
  | .closing (k :: rest),.stopClose =>
    match (s.connection k).writeCh.close with
    | .ok writeCh => some { s.setWriteCh k writeCh with stop := .closing rest }
    | .error panic => some { s with panic := some panic }
  | .closing [],.stopEnd => some { s with stop := .returned }
  | _,_ => none

def take (s : State) (k : Nat) : Option State :=
  match (s.connection k).writeCh.buffer.receive with
  | some (some _,buffer) => some (s.push k buffer)
  | _ => none

def step (s : State) (label : Label) : Option State :=
  if s.panic = none then
    match label with
    | .register k | .check k | .message k _ | .readFail k | .route k _ | .send k | .giveUp k | .remove k | .close k =>
      stepReader capacity s k (s.connection k).reader label
    | .take k => take s k
    | .signal | .notify _ | .notifySend | .notifySkip | .notifyEnd | .snapshot _ | .stopClose | .stopEnd =>
      stepStop capacity s s.stop label
  else none

inductive Effect (s : State) : Label → State → Prop where
  | register {k : Nat} (here : (s.connection k).reader = .absent) (free : s.unlocked = true) :
      Effect s (.register k) { s.setReader k .checking with connections := k :: s.connections }
  | check {k : Nat} (here : (s.connection k).reader = .checking) : Effect s (.check k)
        (s.setReader k (if (s.connection k).writeCh.flag ∨ s.stop ≠ .running then .leaving else .reading))
  | message {k : Nat} {text : Bool} (here : (s.connection k).reader = .reading) :
      Effect s (.message k text) (s.setReader k (if text then .routing else .checking))
  | readFail {k : Nat} (here : (s.connection k).reader = .reading) : Effect s (.readFail k) (s.setReader k .leaving)
  | route {k : Nat} {ok : Bool} (here : (s.connection k).reader = .routing) :
      Effect s (.route k ok) (s.setReader k (.sending (if ok then .response else .error)))
  | send {k : Nat} {message : Message} (here : (s.connection k).reader = .sending message)
      (usable : (s.connection k).writeCh.buffer.closed = false) :
      Effect s (.send k) ((s.push k { (s.connection k).writeCh.buffer with
        queue := (s.connection k).writeCh.buffer.queue ++ [message] }).setReader k .checking)
  | sendPanic {k : Nat} {message : Message} (here : (s.connection k).reader = .sending message)
      (closed : (s.connection k).writeCh.buffer.closed = true) :
      Effect s (.send k) { s with panic := some .sendOnClosed }
  | giveUp {k : Nat} {message : Message} {reader : Reader} (here : (s.connection k).reader = .sending message)
      (next : reader = .sending .error ∨ reader = .checking) : Effect s (.giveUp k) (s.setReader k reader)
  | remove {k : Nat} (here : (s.connection k).reader = .leaving) (free : s.unlocked = true) :
      Effect s (.remove k) { s.setReader k .removed with connections := s.connections.erase k }
  | close {k : Nat} {writeCh : Guarded Message} (here : (s.connection k).reader = .removed)
      (done : (s.connection k).writeCh.close = .ok writeCh) :
      Effect s (.close k) ((s.setWriteCh k writeCh).setReader k .gone)
  | closePanic {k : Nat} {panic : Panic} (here : (s.connection k).reader = .removed)
      (twice : (s.connection k).writeCh.close = .error panic) : Effect s (.close k) { s with panic := some panic }
  | take {k : Nat} {message : Message} {rest : List Message}
      (queued : (s.connection k).writeCh.buffer.queue = message :: rest) :
      Effect s (.take k) (s.push k { (s.connection k).writeCh.buffer with queue := rest })
  | signal (here : s.stop = .running) : Effect s .signal { s with stop := .signalled }
  | notify {order : List Nat} (here : s.stop = .signalled) (all : order.Perm s.connections) :
      Effect s (.notify order) { s with stop := .notifying order }
  | notifySend {k : Nat} {rest : List Nat} (here : s.stop = .notifying (k :: rest))
      (usable : (s.connection k).writeCh.buffer.closed = false) :
      Effect s .notifySend { s.push k { (s.connection k).writeCh.buffer with
        queue := (s.connection k).writeCh.buffer.queue ++ [.shutdown] } with stop := .notifying rest }
  | notifyPanic {k : Nat} {rest : List Nat} (here : s.stop = .notifying (k :: rest))
      (closed : (s.connection k).writeCh.buffer.closed = true) :
      Effect s .notifySend { s with panic := some .sendOnClosed }
  | notifySkip {k : Nat} {rest : List Nat} (here : s.stop = .notifying (k :: rest)) :
      Effect s .notifySkip { s with stop := .notifying rest }
  | notifyEnd (here : s.stop = .notifying []) : Effect s .notifyEnd { s with stop := .notified }
  | snapshot {order : List Nat} (here : s.stop = .notified) (all : order.Perm s.connections) :
      Effect s (.snapshot order) { s with stop := .closing order }
  | stopClose {k : Nat} {rest : List Nat} {writeCh : Guarded Message} (here : s.stop = .closing (k :: rest))
      (done : (s.connection k).writeCh.close = .ok writeCh) :
      Effect s .stopClose { s.setWriteCh k writeCh with stop := .closing rest }
  | stopPanic {k : Nat} {rest : List Nat} {panic : Panic} (here : s.stop = .closing (k :: rest))
      (twice : (s.connection k).writeCh.close = .error panic) : Effect s .stopClose { s with panic := some panic }
  | stopEnd (here : s.stop = .closing []) : Effect s .stopEnd { s with stop := .returned }

variable {capacity}

variable {s t : State} {label : Label} {k : Nat}

/-- The connection whose `handleClientRead` takes the step. -/
def Label.reader : Label → Option Nat
  | .register k | .check k | .message k _ | .readFail k | .route k _ | .send k | .giveUp k | .remove k | .close k => some k
  | _ => none

theorem stepReader_effect (mine : label.reader = some k)
    (taken : stepReader capacity s k (s.connection k).reader label = some t) : Effect s label t := by
  generalize here : (s.connection k).reader = reader at taken
  revert taken
  fun_cases stepReader capacity s k reader label <;> rintro ⟨⟩ <;> cases mine
  case case1 free => exact .register here free
  case case3 => exact .check here
  case case4 => exact .message here
  case case5 => exact .readFail here
  case case6 => exact .route here
  case case7 sent =>
    obtain ⟨-,⟨⟩⟩ | ⟨-,-,⟨⟩⟩ | ⟨usable,-,⟨⟩⟩ := Buffer.send_cases sent
    exact .send here usable
  case case9 sent =>
    obtain ⟨closed,⟨⟩⟩ | ⟨-,-,⟨⟩⟩ | ⟨-,-,⟨⟩⟩ := Buffer.send_cases sent
    exact .sendPanic here closed
  case case10 => exact .giveUp here (.inl rfl)
  case case11 => exact .giveUp here (.inr rfl)
  case case12 free => exact .remove here free
  case case14 done => exact .close here done
  case case15 twice => exact .closePanic here twice

theorem stepStop_effect (taken : stepStop capacity s s.stop label = some t) : Effect s label t := by
  generalize here : s.stop = stop at taken
  revert taken
  fun_cases stepStop capacity s stop label <;> rintro ⟨⟩
  case case1 => exact .signal here
  case case2 all => exact .notify here (List.isPerm_iff.mp all)
  case case4 sent =>
    obtain ⟨-,⟨⟩⟩ | ⟨-,-,⟨⟩⟩ | ⟨usable,-,⟨⟩⟩ := Buffer.send_cases sent
    exact .notifySend here usable
  case case6 sent =>
    obtain ⟨closed,⟨⟩⟩ | ⟨-,-,⟨⟩⟩ | ⟨-,-,⟨⟩⟩ := Buffer.send_cases sent
    exact .notifyPanic here closed
  case case7 => exact .notifySkip here
  case case8 => exact .notifyEnd here
  case case9 all => exact .snapshot here (List.isPerm_iff.mp all)
  case case11 done => exact .stopClose here done
  case case12 twice => exact .stopPanic here twice
  case case13 => exact .stopEnd here

theorem take_effect (taken : take s k = some t) : Effect s (.take k) t := by
  revert taken
  fun_cases take s k <;> rintro ⟨⟩
  case case1 received =>
    obtain ⟨x,rest,-,queued,rfl⟩ | ⟨⟨⟩,-⟩ := Buffer.receive_cases received
    exact .take queued

theorem step_effect (taken : step capacity s label = some t) : s.panic = none ∧ Effect s label t := by
  obtain ⟨calm,taken⟩ := Option.ite_none_right_eq_some.mp taken
  refine ⟨calm,?_⟩
  cases label with
  | register | check | message | readFail | route | send | giveUp | remove | close => exact stepReader_effect rfl taken
  | take k => exact take_effect taken
  | signal | notify | notifySend | notifySkip | notifyEnd | snapshot | stopClose | stopEnd => exact stepStop_effect taken

end

namespace State

@[simp] theorem setConnection_connection (s : State) (k j : Nat) (connection : Connection) :
    (s.setConnection k connection).connection j = if j = k then connection else s.connection j :=
  Function.update_apply ..

theorem setWriteCh_setReader (s : State) (k : Nat) (writeCh : Guarded Message) (reader : Reader) :
    (s.setWriteCh k writeCh).setReader k reader = s.setConnection k ⟨reader,writeCh⟩ := by
  unfold setReader setWriteCh
  rw [setConnection_connection,if_pos rfl]
  unfold setConnection
  rw [Function.update_idem]

end State

end McpBridge.WebSocketFrontend
