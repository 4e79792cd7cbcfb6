import McpBridge.TcpHandler

/-!
The bytes of a `TCPHandler` connection. When the read deadline expires `Decode` keeps nothing of a frame read in part,
and the next frame begins where it broke off. The senders in `tcp_handler.go` write their frames without the transport's
mutex.
-/
namespace McpBridge.TcpStreams
open Runs Frames FrameInterop WireCodec TcpHandler List Function Option
open TcpHandler (Turn Arrival)
open WireTransport (Payload handleReceivedFrame)

structure Link where
  handler : State := {}
  unread : List UInt8 := []
  sent : List Wire.Frame := []
  dispatched : List Wire.Frame := []

/-- What happens on the link. -/
inductive Event where
  | send (frame : Wire.Frame)
  | receive (turn : Turn)
  /-- The deadline expires when so many of the bytes have arrived. -/
  | timeout (arrived : Nat) (turn : Turn)
  | fail (err : String) (turn : Turn)
  | cancel (turn : Turn)
  | route (i : Nat)

/-- There was nothing left to read, so that on a live connection `Decode` still waits. -/
def starved (err : String) : Bool :=
  ["failed to read magic bytes","failed to read version","failed to read message type","failed to read payload length",
    "failed to read payload"].any fun operation => err = Wire.wrap operation .eof || err = Wire.wrap operation .unexpectedEOF

section
variable (parse : List UInt8 → Payload) (messageAuth : Bool)

def Link.arrive (s : Link) (arrival : Arrival) (turn : Turn) : Option Link :=
  (TcpHandler.step messageAuth s.handler (.next arrival turn)).map fun handler => { s with handler }

def received (frame : Wire.Frame) : WireTransport.Frame := ⟨frame.messageType,parse frame.payload⟩

/-- `ReceiveMessage` returns the frame. -/
def isMessage (frame : Wire.Frame) : Bool :=
  match handleReceivedFrame (received parse frame) with
  | .ok _ => true
  | .error _ => false

/-- The client sends a frame, or the handler's read ends. -/
def step (s : Link) : Event → Option Link
  | .send frame => some { s with unread := s.unread ++ frame.encode, sent := s.sent ++ [frame] }
  | .receive turn =>
    match Wire.decode s.unread with
    | .ok (frame,rest) => Link.arrive messageAuth { s with
        unread := rest
        dispatched := s.dispatched ++ if isMessage parse frame then [frame] else [] } (.frame (received parse frame)) turn
    | .error err => if starved err then none else s.arrive messageAuth (.failed err) turn
  | .timeout arrived turn =>
    match Wire.decode (s.unread.take arrived) with
    | .ok _ => none
    | .error err =>
      if starved err then Link.arrive messageAuth { s with unread := s.unread.drop arrived } .timeout turn else none
  | .fail err turn => s.arrive messageAuth (.failed err) turn
  | .cancel turn => s.arrive messageAuth .canceled turn
  | .route i => (TcpHandler.step messageAuth s.handler (.route i)).map fun handler => { s with handler }

end

/-- The length of a frame fits its field, and the deadline expires only between frames. -/
def Timely (_ : Link) : Event → Prop
  | .send frame => frame.payload.length < 2 ^ 32
  | .timeout arrived _ => arrived = 0
  | _ => True

theorem bigEndian_inj {width n m : Nat} (small : n < 256 ^ width) (small' : m < 256 ^ width)
    (same : bigEndian width n = bigEndian width m) : n = m := by
  have equal := congrArg ofBigEndian same
  rwa [ofBigEndian_bigEndian,ofBigEndian_bigEndian,Nat.mod_eq_of_lt small,Nat.mod_eq_of_lt small'] at equal

/-- What is read at the beginning of a frame is this frame. -/
theorem eq_of_decode {f g : Wire.Frame} {following rest : List UInt8} (fits : f.payload.length < 2 ^ 32)
    (read : Wire.decode (f.encode ++ following) = .ok (g,rest)) : g = f ∧ rest = following := by
  obtain ⟨⟨reserved,size,same⟩,short,_⟩ := decode_eq_ok_iff.mp read
  obtain rfl : reserved = [] := length_eq_zero_iff.mp size
  simp only [Wire.Frame.encode,wireLayout,append_assoc,nil_append,Nat.mod_eq_of_lt fits] at same
  obtain ⟨version,same⟩ := append_inj (append_inj same (by simp)).2 (by simp)
  obtain ⟨messageType,same⟩ := append_inj same (by simp)
  obtain ⟨length,same⟩ := append_inj same (by simp)
  have short : g.payload.length < 256 ^ 4 := Nat.lt_of_le_of_lt short (by decide)
  obtain ⟨payload,rfl⟩ := append_inj same (bigEndian_inj fits short length)
  have version := UInt16.toNat_inj.mp (bigEndian_inj f.version.toNat_lt g.version.toNat_lt version)
  have messageType := UInt16.toNat_inj.mp (bigEndian_inj f.messageType.toNat_lt g.messageType.toNat_lt messageType)
  cases f
  cases g
  simp_all

/-- The loop is at the beginning of the first frame that it has not dispatched. -/
def InStep (s : Link) : Prop :=
  s.dispatched <+: s.sent ∧ (s.handler.running = true → ∃ left, s.sent = s.dispatched ++ left ∧
    s.unread = left.flatMap Wire.Frame.encode ∧ ∀ frame ∈ left, frame.payload.length < 2 ^ 32)

section
variable {parse : List UInt8 → Payload} {messageAuth : Bool} {s next : Link} {turn : Turn} {arrival : Arrival}

theorem arrive_eq_some (taken : s.arrive messageAuth arrival turn = some next) :
    s.handler.running = true ∧
      next = { s with handler := s.handler.take (processNextMessage messageAuth turn s.handler.conn arrival) } := by
  simp only [Link.arrive,TcpHandler.step,map_eq_some_iff,ite_none_right_eq_some,some.injEq] at taken
  obtain ⟨_,⟨running,rfl⟩,rfl⟩ := taken
  exact ⟨running,rfl⟩

theorem InStep.arrive (inStep : InStep s)
    (taken : s.arrive messageAuth arrival turn = some next) : InStep next := by
  obtain ⟨running,rfl⟩ := arrive_eq_some taken
  exact ⟨inStep.1,fun _ => inStep.2 running⟩

theorem InStep.receive {frame : Wire.Frame} {rest : List UInt8} (inStep : InStep s)
    (read : Wire.decode s.unread = .ok (frame,rest)) (taken : Link.arrive messageAuth { s with
        unread := rest
        dispatched := s.dispatched ++ if isMessage parse frame then [frame] else [] } (.frame (received parse frame)) turn =
      some next) : InStep next := by
  obtain ⟨running,rfl⟩ := arrive_eq_some taken
  obtain ⟨left,sent,unread,fits⟩ := inStep.2 running
  cases left with
  | nil =>
    rw [unread] at read
    cases read
  | cons f more =>
    rw [unread,flatMap_cons] at read
    obtain ⟨rfl,rfl⟩ := eq_of_decode (fits f mem_cons_self) read
    by_cases message : isMessage parse frame = true
    · have split : s.sent = s.dispatched ++ [frame] ++ more := by rw [sent,append_assoc]; rfl
      simp only [message,if_true]
      exact ⟨⟨more,split.symm⟩,fun _ => ⟨more,split,rfl,fun g member => fits g (mem_cons_of_mem _ member)⟩⟩
    · -- The frame is no message, and the loop ends.
      simp [message]
      refine ⟨inStep.1,fun goes => ?_⟩
      unfold isMessage at message
      split at message
      · exact absurd rfl message
      next err refused => simp [State.take,processNextMessage,refused,goesOn] at goes

theorem step_inStep {event : Event} (inStep : InStep s) (timely : Timely s event)
    (taken : step parse messageAuth s event = some next) : InStep next := by
  revert taken
  fun_cases step parse messageAuth s event <;> intro taken
  case case1 frame =>
    cases taken
    refine ⟨inStep.1.trans (prefix_append _ _),fun running => ?_⟩
    obtain ⟨left,sent,unread,fits⟩ := inStep.2 running
    refine ⟨left ++ [frame],by simp [sent],by simp [unread],fun g member => ?_⟩
    rcases mem_append.mp member with before | this
    · exact fits g before
    · exact mem_singleton.mp this ▸ timely
  case case2 read => exact inStep.receive read taken
  case case3 | case5 | case7 => cases taken
  case case4 | case8 | case9 => exact inStep.arrive taken
  case case6 arrived _ _ _ _ =>
    obtain rfl : arrived = 0 := timely
    exact inStep.arrive taken
  case case10 i =>
    obtain ⟨_,moved,rfl⟩ := map_eq_some_iff.mp taken
    simp only [TcpHandler.step] at moved
    split at moved <;> cases moved
    exact inStep

end

/-- However the bytes arrive: the loop dispatches the frames that were sent, in order, as long as no deadline expires
    within a frame. -/
theorem frames_in_step (parse : List UInt8 → Payload) (messageAuth : Bool) {events : List Event}
    (timely : Meets (step parse messageAuth) Timely {} events) :
    Always (step parse messageAuth) (fun s => s.dispatched <+: s.sent) {} events := by
  have always : Always (step parse messageAuth) InStep {} events :=
    always_of_keeps (fun s event next inStep timely taken => step_inStep inStep timely taken)
      ⟨prefix_rfl,fun _ => ⟨[],rfl,rfl,nofun⟩⟩ timely
  exact always.imp fun s inStep => inStep.1

/-- The two bytes `{}` stand for a negotiation of the versions from 1 to 1. -/
def sampleParse (bytes : List UInt8) : Payload :=
  if bytes = [123,125] then .json (.object [("min_version",.number 1),("max_version",.number 1)]) else .malformed bytes ""

theorem frames_in_step_one : Always (step sampleParse false) (fun s => s.dispatched <+: s.sent) {}
      [.send ⟨1,6,[123,125]⟩,.timeout 0 obliging,.receive obliging] :=
  frames_in_step sampleParse false ⟨(by decide : 2 < 2 ^ 32),fun _ _ => ⟨rfl,fun _ _ => ⟨trivial,fun _ _ => trivial⟩⟩⟩

/-- A control frame with a negotiation in its payload, and a deadline that expires behind its header. -/
def smuggled : List Event :=
  [.send ⟨1,3,Wire.Frame.encode ⟨1,6,[123,125]⟩⟩,.timeout 12 obliging,.receive obliging]

theorem smuggled_dispatched :
    (run (step sampleParse false) {} smuggled).map (fun s => s.dispatched.map (·.messageType)) = some [6] ∧
      ¬ Always (step sampleParse false) (fun s => s.dispatched <+: s.sent) {} smuggled := by
  have ran : (run (step sampleParse false) {} smuggled).map
      (fun s => (s.dispatched.map (·.messageType),s.sent.map (·.messageType))) = some ([6],[3]) := by decide +kernel
  obtain ⟨s,executed,seen⟩ := map_eq_some_iff.mp ran
  refine ⟨by rw [executed]; exact congrArg some (congrArg Prod.fst seen),fun always => ?_⟩
  have ordered := (always.last executed).map Wire.Frame.messageType
  rw [show s.dispatched.map _ = _ from congrArg Prod.fst seen,show s.sent.map _ = _ from congrArg Prod.snd seen] at ordered
  revert ordered
  decide

/-- The writes of `Frame.Encode`. -/
def writes (f : Wire.Frame) : List (List UInt8) :=
  [bigEndian 4 Wire.magicBytes,bigEndian 2 f.version.toNat,bigEndian 2 f.messageType.toNat,
    bigEndian 4 (f.payload.length % 2 ^ 32)] ++ if f.payload.isEmpty then [] else [f.payload]

/-- A goroutine that sends frames: before its first write, or with writes left. -/
inductive Sender where
  | idle
  | ready (frame : Wire.Frame) (locked : Bool)
  | writing (left : List (List UInt8)) (locked : Bool)

def Sender.left : Sender → List UInt8
  | .idle => []
  | .ready _ _ => []
  | .writing left _ => left.flatten

/-- The reader of the connection is sender 0, the requests' goroutines are the others; the mutex names who holds it. -/
structure Output where
  senders : Nat → Sender := fun _ => .idle
  writeMutex : Option Nat := none
  sent : List Wire.Frame := []
  written : List UInt8 := []

inductive Write where
  /-- `SendResponse` or `SendHealthCheck`, with the mutex; the reader's `sendProtocolError` or `sendVersionAck`, without. -/
  | begin (i : Nat) (frame : Wire.Frame) (locked : Bool)
  | write (i : Nat)

def Output.set (o : Output) (i : Nat) (sender : Sender) : Output :=
  { o with senders := update o.senders i sender }

/-- One step of a writer of frames. -/
def Output.step (o : Output) : Write → Option Output
  | .begin i frame locked =>
    match o.senders i with
    | .idle =>
      if locked then if o.writeMutex.isSome then none else some { o.set i (.ready frame true) with writeMutex := some i }
      else if i = 0 then some (o.set i (.ready frame false)) else none
    | _ => none
  | .write i =>
    match o.senders i with
    | .idle => none
    | .ready frame locked => some { o.set i (.writing (writes frame).tail locked) with
        sent := o.sent ++ [frame]
        written := o.written ++ bigEndian 4 Wire.magicBytes }
    | .writing (bytes :: left) locked => some { o.set i (.writing left locked) with written := o.written ++ bytes }
    | .writing [] locked => some { o.set i .idle with writeMutex := if locked then none else o.writeMutex }

/-- Once nobody is sending, the stream consists of the frames that were sent. -/
def Output.Whole (o : Output) : Prop :=
  (∀ i, o.senders i = .idle) → ∃ frames : List Wire.Frame, frames.Perm o.sent ∧ o.written = frames.flatMap Wire.Frame.encode

/-- The reader's frames without the mutex begin while no sender has bytes left, and no other begins while they have. -/
def Apart (o : Output) : Write → Prop
  | .write i =>
    match o.senders i with
    | .ready _ false => ∀ j, (o.senders j).left = []
    | .ready _ true => ∀ left, o.senders 0 = .writing left false → left.flatten = []
    | _ => True
  | _ => True

theorem magic_writes (f : Wire.Frame) : bigEndian 4 Wire.magicBytes ++ (writes f).tail.flatten = f.encode := by
  unfold writes Wire.Frame.encode
  cases f.payload <;> simp

def Sender.locked : Sender → Bool
  | .idle => false
  | .ready _ locked => locked
  | .writing _ locked => locked

/-- Who sends with the mutex holds it, and the reader alone sends without. -/
structure Output.Guarded (o : Output) : Prop where
  held : ∀ i, (o.senders i).locked = true → o.writeMutex = some i
  reader : ∀ i, (o.senders i).locked = false → i ≠ 0 → o.senders i = .idle

theorem Output.Guarded.set {o next : Output} {i : Nat} {sender : Sender} (guarded : o.Guarded)
    (senders : next.senders = update o.senders i sender)
    (others : ∀ j, j ≠ i → o.writeMutex = some j → next.writeMutex = some j)
    (held : sender.locked = true → next.writeMutex = some i)
    (reader : sender.locked = false → i ≠ 0 → sender = .idle) : next.Guarded := by
  constructor
  all_goals
    intro j
    rw [senders]
    by_cases same : j = i
  · rw [same,update_self]
    exact held
  · rw [update_of_ne same]
    exact fun locked => others j same (guarded.held j locked)
  · rw [same,update_self]
    exact reader
  · rw [update_of_ne same]
    exact guarded.reader j

theorem Output.Guarded.step {o next : Output} {label : Write} (guarded : o.Guarded) (taken : o.step label = some next) :
    next.Guarded := by
  revert taken
  fun_cases Output.step o label <;> rintro ⟨⟩
  case case2 free => exact guarded.set rfl (fun j _ other => absurd (by rw [other]; rfl) free) (fun _ => rfl) nofun
  case case3 => exact guarded.set rfl (fun _ _ other => other) nofun (fun _ away => absurd rfl away)
  case case7 i frame locked here | case8 i bytes left locked here =>
    have same : (o.senders i).locked = locked := by rw [here]; rfl
    refine guarded.set rfl (fun _ _ other => other) (fun mine => guarded.held i (same.trans mine)) (fun unlocked away => ?_)
    have idle := guarded.reader i (same.trans unlocked) away
    rw [here] at idle
    cases idle
  case case9 i locked here =>
    refine guarded.set rfl (fun j away other => ?_) nofun (fun _ _ => rfl)
    cases locked with
    | false => exact other
    | true =>
      have mine := guarded.held i (by rw [here]; rfl)
      exact absurd (some.inj (other.symm.trans mine)) away

/-- The first write of a frame comes while no other sender is in the middle of one: the mutex excludes those that hold it. -/
theorem Output.Guarded.alone {o : Output} {i : Nat} {frame : Wire.Frame} {locked : Bool} (guarded : o.Guarded)
    (apart : Apart o (.write i)) (here : o.senders i = .ready frame locked) {j : Nat} (other : j ≠ i) :
    (o.senders j).left = [] := by
  simp only [Apart,here] at apart
  cases locked with
  | false => exact apart j
  | true =>
    have unlocked : (o.senders j).locked = false :=
      Bool.eq_false_iff.mpr fun both => other (some.inj ((guarded.held j both).symm.trans
        (guarded.held i (by rw [here]; rfl))))
    by_cases reader : j = 0
    · subst reader
      cases at0 : o.senders 0 with
      | idle => rfl
      | ready => rfl
      | writing left locked =>
        rw [at0] at unlocked
        cases unlocked
        exact apart left at0
    · rw [guarded.reader j unlocked reader]
      rfl

/-- Only one sender has something left to write, with which the stream consists of whole frames. -/
def Output.Orderly (o : Output) : Prop :=
  ∃ i, (∀ j, j ≠ i → (o.senders j).left = []) ∧ o.written ++ (o.senders i).left = o.sent.flatMap Wire.Frame.encode

theorem Output.Orderly.set {o next : Output} {i : Nat} {sender : Sender} (orderly : o.Orderly)
    (senders : next.senders = update o.senders i sender) (sent : next.sent = o.sent)
    (written : next.written ++ sender.left = o.written ++ (o.senders i).left)
    (spent : (o.senders i).left = [] → next.written = o.written ∧ sender.left = []) : next.Orderly := by
  obtain ⟨k,others,whole⟩ := orderly
  refine ⟨k,fun j other => ?_,?_⟩
  · rw [senders,update_apply]
    split
    next same => exact (spent (same ▸ others j other)).2
    · exact others j other
  · rw [senders,sent,← whole,update_apply]
    split
    next same => rw [written,same]
    next other => rw [(spent (others i (Ne.symm other))).1]

theorem Output.step_orderly {o next : Output} {label : Write} (orderly : o.Orderly) (guarded : o.Guarded)
    (apart : Apart o label) (taken : o.step label = some next) : next.Orderly := by
  revert taken
  fun_cases Output.step o label <;> rintro ⟨⟩
  case case2 idle _ | case3 idle => exact orderly.set rfl rfl (by rw [idle]; rfl) (fun _ => ⟨rfl,rfl⟩)
  case case7 i frame locked here =>
    have others : ∀ j, j ≠ i → (o.senders j).left = [] := fun j other => guarded.alone apart here other
    refine ⟨i,fun j other => ?_,?_⟩
    · rw [← others j other]
      exact congrArg Sender.left (update_of_ne other _ _)
    · obtain ⟨k,_,whole⟩ := orderly
      have empty : (o.senders k).left = [] := by
        by_cases same : k = i
        · rw [same,here]; rfl
        · exact others k same
      rw [empty,append_nil] at whole
      simp [Output.set,Sender.left,magic_writes,whole]
  case case8 here =>
    refine orderly.set rfl rfl (by rw [here]; simp [Sender.left]) (fun spent => ?_)
    rw [here,Sender.left,flatten_cons,append_eq_nil_iff] at spent
    exact ⟨by simp [spent.1],spent.2⟩
  case case9 here => exact orderly.set rfl rfl (by rw [here]; rfl) (fun _ => ⟨rfl,rfl⟩)

/-- The stream consists of whole frames if the reader's frames without the mutex are kept apart; the mutex keeps the
    others. -/
theorem whole_frames {labels : List Write} (apart : Meets Output.step Apart {} labels) :
    Always Output.step Output.Whole {} labels := by
  have always : Always Output.step (fun o => o.Orderly ∧ o.Guarded) {} labels :=
    always_of_keeps (fun o label next kept apart taken => ⟨Output.step_orderly kept.1 kept.2 apart taken,kept.2.step taken⟩)
      ⟨⟨0,fun _ _ => rfl,rfl⟩,⟨nofun,fun _ _ _ => rfl⟩⟩ apart
  refine always.imp ?_
  rintro o ⟨⟨i,_,whole⟩,-⟩ quiet
  rw [quiet i,Sender.left,append_nil] at whole
  exact ⟨o.sent,.rfl,whole⟩

/-- The reader begins its frame while a request has the mutex, and writes it when the response is out. -/
def takingTurns : List Write :=
  [.begin 1 ⟨1,2,[]⟩ true,.begin 0 ⟨1,5,[]⟩ false] ++ replicate 5 (.write 1) ++ replicate 5 (.write 0)

theorem whole_frames_two : Always Output.step Output.Whole {} takingTurns ∧
    (run Output.step {} takingTurns).map (·.written) = some ([(⟨1,2,[]⟩ : Wire.Frame),⟨1,5,[]⟩].flatMap Wire.Frame.encode) := by
  refine ⟨whole_frames ?_,by decide +kernel⟩
  -- Each frame has its first write when the other has written nothing or everything.
  iterate 2
    refine ⟨trivial,?_⟩
    rintro _ ⟨⟩
  refine ⟨nofun,?_⟩
  rintro _ ⟨⟩
  iterate 4
    refine ⟨trivial,?_⟩
    rintro _ ⟨⟩
  refine ⟨fun j => by rcases j with _ | _ | j <;> rfl,?_⟩
  rintro _ ⟨⟩
  iterate 4
    refine ⟨trivial,?_⟩
    rintro _ ⟨⟩
  trivial

/-- The reader sends a protocol error without the mutex, and a request its response with it; their writes alternate
    once. -/
def interleaved : List Write :=
  [.begin 0 ⟨1,5,[]⟩ false,.begin 1 ⟨1,2,[]⟩ true,.write 0,.write 1] ++ replicate 4 (.write 0) ++ replicate 4 (.write 1)

theorem interleaved_torn : ¬ Always Output.step Output.Whole {} interleaved := by
  intro always
  obtain ⟨frames,same,whole⟩ := always.last rfl (fun i => by rcases i with _ | _ | i <;> rfl)
  obtain ⟨f,rest,rfl⟩ := exists_cons_of_length_pos (l := frames) (by rw [same.length_eq]; decide)
  have sent : f ∈ [(⟨1,5,[]⟩ : Wire.Frame),⟨1,2,[]⟩] := same.mem_iff.mp mem_cons_self
  -- The bytes of the version are the beginning of the other frame.
  have version : ([0x4D,0x43] : List UInt8) = bigEndian 2 f.version.toNat :=
    congrArg (fun bytes => (bytes.drop 4).take 2) whole
  simp only [mem_cons,not_mem_nil,or_false] at sent
  rcases sent with rfl | rfl
  all_goals revert version; decide

end McpBridge.TcpStreams
