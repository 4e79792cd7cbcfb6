import Mathlib.Data.List.Nodup
import McpBridge.Channels
import McpBridge.Runs

/-!
`RequestQueue` of the router, which holds requests until there is a connection.
-/
namespace McpBridge.RequestQueues
open Channels Runs List Function

/-- A request with the number of its response channel. -/
structure QueuedRequest (Data : Type) where
  data : Data
  response : Nat

/-- The queue, with the response channels of all requests. -/
structure RequestQueue (Data Error : Type) where
  queue : List (QueuedRequest Data) := []
  maxSize : Nat
  totalQueued : Nat := 0
  totalDropped : Nat := 0
  totalProcessed : Nat := 0
  responses : Nat → Slot Error := fun _ => {}
  panic : Option Panic := none

variable {Data Error : Type}

/-- A size that is not positive becomes 100. -/
def newRequestQueue (maxSize : Int) : RequestQueue Data Error :=
  { maxSize := if maxSize ≤ 0 then 100 else maxSize.toNat }

/-- The call returns the channel of the request, or that the queue is full. -/
def enqueue (q : RequestQueue Data Error) (data : Data) : RequestQueue Data Error × Except String Nat :=
  if q.maxSize ≤ q.queue.length then
    ({ q with totalDropped := q.totalDropped + 1 },.error s!"request queue full (size: {q.maxSize})")
  else
    ({ q with queue := q.queue ++ [⟨data,q.totalQueued⟩], totalQueued := q.totalQueued + 1 },.ok q.totalQueued)

/-- The call returns the requests of the queue. -/
def dequeueAll (q : RequestQueue Data Error) : RequestQueue Data Error × List (QueuedRequest Data) :=
  if q.queue = [] then (q,[])
  else ({ q with queue := [], totalProcessed := q.totalProcessed + q.queue.length },q.queue)

/-- The loop of `Clear`: the error is offered to each channel, which is then closed. -/
def notify (err : Error) : List (QueuedRequest Data) → (Nat → Slot Error) → Except Panic (Nat → Slot Error)
  | [],responses => .ok responses
  | qr :: rest,responses => do
    let sent ← (responses qr.response).offer err
    let closed ← sent.close
    notify err rest (update responses qr.response closed)

def clear (q : RequestQueue Data Error) (err : Error) : RequestQueue Data Error :=
  if q.queue = [] then q
  else match notify err q.queue q.responses with
    | .error panic => { q with panic := some panic }
    | .ok responses => { q with
        queue := [], totalDropped := q.totalDropped + q.queue.length, responses := responses }

inductive Label (Data Error : Type) where
  | enqueue (data : Data)
  | dequeueAll
  | clear (err : Error)

/-- The queue and what its callers have seen: the requests accepted, those that left it, with the error of cleared ones,
    and how many it rejected. -/
structure State (Data Error : Type) extends RequestQueue Data Error where
  accepted : List (QueuedRequest Data) := []
  left : List (QueuedRequest Data × Option Error) := []
  rejected : Nat := 0

def start (maxSize : Int) : State Data Error := { newRequestQueue maxSize with }

/-- The requests whose channels a call of `Clear` closes. -/
def closedBy (q : RequestQueue Data Error) (err : Error) : List (QueuedRequest Data) :=
  q.queue.filter fun qr => !(q.responses qr.response).closed && ((clear q err).responses qr.response).closed

/-- One call, and what its results say. -/
def step (s : State Data Error) : Label Data Error → Option (State Data Error)
  | .enqueue data =>
    match enqueue s.toRequestQueue data with
    | (q,.ok response) => some { s with toRequestQueue := q, accepted := s.accepted ++ [⟨data,response⟩] }
    | (q,.error _) => some { s with toRequestQueue := q, rejected := s.rejected + 1 }
  | .dequeueAll =>
    let (q,requests) := dequeueAll s.toRequestQueue
    some { s with toRequestQueue := q, left := s.left ++ requests.map (·,none) }
  | .clear err => some { s with
      toRequestQueue := clear s.toRequestQueue err, left := s.left ++ (closedBy s.toRequestQueue err).map (·,some err) }

/-- How many requests left with an error. -/
def State.cleared (s : State Data Error) : Nat := s.left.countP (·.2.isSome)

/-- Requests leave in the order of their acceptance, each once and with a channel of its own; cleared ones find the
    error in it, closed once; and the counters agree. -/
structure Lawful (s : State Data Error) : Prop where
  order : s.left.map Prod.fst ++ s.queue = s.accepted
  channels : s.accepted.map (·.response) = range s.totalQueued
  room : s.queue.length ≤ s.maxSize
  notified : ∀ qr err, (qr,some err) ∈ s.left → s.responses qr.response = ⟨some err,true⟩
  untouched : ∀ i, (∀ qr err, (qr,some err) ∈ s.left → qr.response ≠ i) → s.responses i = {}
  calm : s.panic = none
  queued : s.totalQueued = s.totalProcessed + s.cleared + s.queue.length
  dropped : s.totalDropped = s.rejected + s.cleared

/-- `DequeueAll` returns, and `Clear` notifies, all requests that were accepted and have not left, in order; `Enqueue`
    fails only when the queue is full. -/
structure Empties (s : State Data Error) : Prop where
  dequeued : (dequeueAll s.toRequestQueue).1.queue = [] ∧
    s.left.map Prod.fst ++ (dequeueAll s.toRequestQueue).2 = s.accepted
  cleared : ∀ err, (clear s.toRequestQueue err).queue = [] ∧
    s.left.map Prod.fst ++ closedBy s.toRequestQueue err = s.accepted
  refused : ∀ data text, (enqueue s.toRequestQueue data).2 = .error text → s.queue.length = s.maxSize

variable {s : State Data Error} {err : Error}

theorem dequeueAll_eq (q : RequestQueue Data Error) :
    dequeueAll q = ({ q with queue := [], totalProcessed := q.totalProcessed + q.queue.length },q.queue) := by
  by_cases none : q.queue = []
  · obtain ⟨queue⟩ := q
    simp_all [dequeueAll]
  · simp [dequeueAll,none]

theorem notify_fresh {queue : List (QueuedRequest Data)} {responses : Nat → Slot Error}
    (once : (queue.map (·.response)).Nodup) (fresh : ∀ qr ∈ queue, responses qr.response = {}) :
    notify err queue responses = .ok fun i => if i ∈ queue.map (·.response) then ⟨some err,true⟩ else responses i := by
  induction queue generalizing responses with
  | nil => simp [notify]
  | cons qr rest ih =>
    obtain ⟨absent,once⟩ := nodup_cons.mp once
    obtain ⟨first,others⟩ := forall_mem_cons.mp fresh
    have later : ∀ other ∈ rest, update responses qr.response ⟨some err,true⟩ other.response = {} := by
      intro other member
      have apart : other.response ≠ qr.response := fun same => absent (mem_map.mpr ⟨other,member,same⟩)
      rw [update_of_ne apart,others other member]
    unfold notify
    rw [first]
    change notify err rest (update responses qr.response ⟨some err,true⟩) = _
    rw [ih once later]
    congr 1
    funext i
    by_cases same : i = qr.response <;> simp [same]

namespace Lawful
variable (lawful : Lawful s)
include lawful

theorem nodup : ((s.left.map Prod.fst).map (·.response) ++ s.queue.map (·.response)).Nodup := by
  rw [← map_append,lawful.order,lawful.channels]
  exact nodup_range

theorem apart {gone qr : QueuedRequest Data} {outcome : Option Error} (away : (gone,outcome) ∈ s.left)
    (member : qr ∈ s.queue) : gone.response ≠ qr.response :=
  (nodup_append.mp lawful.nodup).2.2 _ (mem_map_of_mem (mem_map_of_mem away)) _
    (mem_map_of_mem member)

theorem clear_eq (err : Error) : clear s.toRequestQueue err = { s.toRequestQueue with
    queue := [], totalDropped := s.totalDropped + s.queue.length
    responses := fun i => if i ∈ s.queue.map (·.response) then ⟨some err,true⟩ else s.responses i } := by
  have notifies := @notify_fresh _ _ err s.queue s.responses (nodup_append.mp lawful.nodup).2.1 fun _ member =>
    lawful.untouched _ fun _ _ away => lawful.apart away member
  by_cases none : s.queue = []
  · obtain ⟨⟨queue⟩⟩ := s
    simp_all [RequestQueues.clear]
  · simp [RequestQueues.clear,none,notifies]

/-- `Clear` closes the channels of all requests in the queue. -/
theorem closedBy_eq (err : Error) : closedBy s.toRequestQueue err = s.queue := by
  refine filter_eq_self.mpr fun qr member => ?_
  have fresh : s.responses qr.response = {} := lawful.untouched _ fun _ _ away => lawful.apart away member
  have listed : qr.response ∈ s.queue.map (·.response) := mem_map_of_mem member
  simp only [lawful.clear_eq err,fresh,if_pos listed]
  rfl

theorem empties : Empties s := by
  refine ⟨?_,fun err => ⟨?_,?_⟩,fun data text refused => ?_⟩
  · simp [dequeueAll_eq,lawful.order]
  · rw [lawful.clear_eq err]
  · rw [lawful.closedBy_eq err,lawful.order]
  · by_cases full : s.maxSize ≤ s.queue.length
    · exact Nat.le_antisymm lawful.room full
    · simp [RequestQueues.enqueue,full] at refused

theorem step {label : Label Data Error} {next : State Data Error} (taken : step s label = some next) : Lawful next := by
  obtain ⟨order,channels,room,notified,untouched,calm,queued,dropped⟩ := id lawful
  cases label with
  | enqueue data =>
    by_cases full : s.maxSize ≤ s.queue.length
    · obtain rfl := by simpa [RequestQueues.step,RequestQueues.enqueue,full] using taken
      refine ⟨order,channels,room,notified,untouched,calm,queued,?_⟩
      simp only [dropped,State.cleared]
      omega
    · obtain rfl := by simpa [RequestQueues.step,RequestQueues.enqueue,full] using taken
      refine ⟨?_,?_,?_,notified,untouched,calm,?_,dropped⟩
      · rw [← order,append_assoc]
      · simp [channels,range_succ]
      · simp
        omega
      · simp [queued,State.cleared]
        omega
  | dequeueAll =>
    obtain rfl := by simpa [RequestQueues.step,dequeueAll_eq] using taken
    refine ⟨?_,channels,Nat.zero_le _,?_,?_,calm,?_,?_⟩
    · simpa [comp_def] using order
    · simpa using notified
    · simpa using untouched
    · simp [State.cleared,countP_map,comp_def,queued]
      omega
    · simpa [State.cleared,countP_map,comp_def] using dropped
  | clear err =>
    obtain rfl := by simpa [RequestQueues.step,lawful.clear_eq,lawful.closedBy_eq] using taken
    refine ⟨?_,channels,Nat.zero_le _,fun qr other away => ?_,fun i others => ?_,calm,?_,?_⟩
    · simpa [comp_def] using order
    · rcases mem_append.mp away with away | away
      · have absent : qr.response ∉ s.queue.map (·.response) := fun member => by
          obtain ⟨queued,member,same⟩ := mem_map.mp member
          exact lawful.apart away member same.symm
        exact (if_neg (by simpa using absent)).trans (notified qr other away)
      · obtain ⟨_,member,⟨⟩⟩ := mem_map.mp away
        exact if_pos ⟨_,member,rfl⟩
    · have absent : i ∉ s.queue.map (·.response) := fun member => by
        obtain ⟨qr,member,same⟩ := mem_map.mp member
        exact others qr err (mem_append_right _ (mem_map_of_mem member)) same
      have before : s.responses i = {} := untouched i fun qr other away => others qr other (mem_append_left _ away)
      exact (if_neg (by simpa using absent)).trans before
    · simp [State.cleared,countP_map,comp_def,queued]
      omega
    · simp [State.cleared,countP_map,comp_def,dropped]
      omega

end Lawful

/-- The queue keeps its law after every sequence of operations, and gives out what it holds. -/
theorem queue_lawful (maxSize : Int) (labels : List (Label Data Error)) :
    Always step (fun s => Lawful s ∧ Empties s) (start maxSize) labels := by
  have initial : Lawful (start maxSize : State Data Error) :=
    ⟨rfl,rfl,Nat.zero_le _,nofun,fun _ _ => rfl,rfl,rfl,rfl⟩
  refine (always_of_step (fun _ _ _ lawful taken => lawful.step taken) initial).imp fun s lawful => ?_
  exact ⟨lawful,lawful.empties⟩

/-- Two of three requests are accepted and dequeued, and one more is accepted and cleared. -/
def traffic : List (Label String String) :=
  [.enqueue "a",.enqueue "b",.enqueue "c",.dequeueAll,.enqueue "d",.clear "down"]

theorem traffic_lawful : ∃ s, run step (start 2) traffic = some s ∧
    s.left = [(⟨"a",0⟩,none),(⟨"b",1⟩,none),(⟨"d",2⟩,some "down")] ∧ s.rejected = 1 ∧
    s.responses 2 = ⟨some "down",true⟩ ∧ Lawful s ∧ Empties s :=
  ⟨_,rfl,rfl,rfl,rfl,(queue_lawful 2 traffic).last rfl⟩

end McpBridge.RequestQueues
