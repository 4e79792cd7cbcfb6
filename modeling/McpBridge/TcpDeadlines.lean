import McpBridge.Mailboxes
import McpBridge.TcpClient

/-!
The reads of the TCP client. Nothing takes back the deadline that `performHandshake` sets for the acknowledgment: from
ten seconds after on no byte is read, and `ReceiveResponse` returns what is buffered and then errors.
-/
namespace McpBridge.TcpDeadlines
open Values Runs Frames FrameInterop List
open WireTransport (Payload)
open Mailboxes

/-- What was read is not enough for `ReadBinaryFrame`: neither a frame nor a mistake in its header. -/
def readsOn (bytes : List UInt8) : Bool :=
  if bytes.length < 4 then true
  else if ofBigEndian (bytes.take 4) ≠ magicBytes then false
  else if bytes.length < 16 then true
  else
    let payloadLen := ofBigEndian ((bytes.drop 12).take 4)
    if maxPayloadSize < payloadLen then false else bytes.length < 16 + payloadLen

/-- The read that waits for the bytes behind those. -/
def operation (bytes : List UInt8) : String :=
  if bytes.length < 4 then "failed to read magic bytes"
  else if bytes.length < 6 then "failed to read version"
  else if bytes.length < 8 then "failed to read message type"
  else if bytes.length < 12 then "failed to read reserved padding"
  else if bytes.length < 16 then "failed to read payload length"
  else "failed to read payload"

def refused (bytes : List UInt8) : List UInt8 :=
  if ofBigEndian (bytes.take 4) ≠ magicBytes then bytes.drop 4 else bytes.drop 16

structure SentFrame where
  frame : BinaryFrame
  fits : frame.payload.length ≤ maxPayloadSize

def encode (frames : List SentFrame) : List UInt8 := frames.flatMap fun f => f.frame.writeToWriter.1

section
variable (parse : List UInt8 → Payload)

/-- What `ReceiveResponse` makes of a frame, with `encoding/json` as a parameter. -/
def receive (f : BinaryFrame) : Except String Response := TcpClient.receiveResponse ⟨f.messageType,parse f.payload⟩

/-- The responses among the frames; for the others `ReceiveResponse` returns an error. -/
def responses (frames : List SentFrame) : List Response := frames.filterMap fun f => (receive parse f.frame).toOption

/-- `defaultRetryCount * time.Second`, in nanoseconds. -/
def handshakeTimeout : Nat := 10 * 1000000000

structure State where
  now : Nat
  deadline : Nat
  wire : List UInt8 := []
  /-- The bytes that the client has read and no finished call has used. -/
  buffer : List UInt8 := []
  calling : Bool := false
  sent : List SentFrame := []
  results : List (Except String Response) := []

/-- The client whose `Connect` returned so long after it set the deadline. -/
def connected (elapsed : Nat) : State := { now := elapsed, deadline := handshakeTimeout }

inductive Label where
  | send (f : SentFrame)
  | call
  /-- A read from the connection returns so many bytes. -/
  | fill (n : Nat)
  | expire
  | finish
  | tick (nanoseconds : Nat)

/-- `ReceiveResponse` returns; bytes behind the frame stay in the buffer. -/
def finish (s : State) : State :=
  match readBinaryFrame s.buffer with
  | .ok (f,rest) => { s with calling := false, buffer := rest, results := s.results ++ [receive parse f] }
  | .error err =>
    let failed : Except String Response := .error ("failed to read frame: " ++ err)
    { s with calling := false, buffer := refused s.buffer, results := s.results ++ [failed] }

def fail (s : State) : State :=
  let err := "failed to read frame: " ++ operation s.buffer ++ ": i/o timeout"
  { s with calling := false, buffer := [], results := s.results ++ [.error err] }

def step (s : State) : Label → Option State
  | .send f => some { s with wire := s.wire ++ f.frame.writeToWriter.1, sent := s.sent ++ [f] }
  | .call => if s.calling = false then some { s with calling := true } else none
  | .fill n =>
    if s.calling = true ∧ readsOn s.buffer = true ∧ s.now < s.deadline ∧ 0 < n ∧ n ≤ s.wire.length then
      some { s with buffer := s.buffer ++ s.wire.take n, wire := s.wire.drop n }
    else none
  | .expire => if s.calling = true ∧ readsOn s.buffer = true ∧ s.deadline ≤ s.now then some (fail s) else none
  | .finish => if s.calling = true ∧ readsOn s.buffer = false then some (finish parse s) else none
  | .tick nanoseconds => some { s with now := s.now + nanoseconds }

def returned (s : State) : List Response := s.results.filterMap Except.toOption

def framesIn : Nat → List UInt8 → List BinaryFrame
  | 0, _ => []
  | n + 1, bytes =>
    match readBinaryFrame bytes with
    | .ok (f,rest) => f :: framesIn n rest
    | .error _ => []

def responsesIn (bytes : List UInt8) : List Response :=
  (framesIn bytes.length bytes).filterMap fun f => (receive parse f).toOption

/-- A response is sent before the deadline, and is returned or in the buffer when it passes. -/
def InTime (s : State) : Label → Prop
  | .send f => (receive parse f.frame).toOption.isSome → s.now < s.deadline
  | .tick nanoseconds => s.now < s.deadline → s.deadline ≤ s.now + nanoseconds →
      responses parse s.sent = returned s ++ responsesIn parse s.buffer
  | _ => True

end

theorem length_writeToWriter (f : SentFrame) : f.frame.writeToWriter.1.length = 16 + f.frame.payload.length := by
  have small : ¬ 2 ^ 32 - 1 < f.frame.payload.length := by
    have fits := f.fits
    simp only [maxPayloadSize] at fits
    omega
  simp only [BinaryFrame.writeToWriter,if_neg small,length_append,length_bigEndian]
  omega

/-- Of a stream that opens with a frame, what was read is not enough precisely when it is shorter. -/
theorem readsOn_of_opens {version messageType : UInt16} {payload rest start behind : List UInt8}
    (opens : routerLayout.Opens version messageType payload rest (start ++ behind))
    (fits : payload.length ≤ maxPayloadSize) : readsOn start = decide (start.length < 16 + payload.length) := by
  obtain ⟨reserved,size,bytes⟩ := opens
  have wide : reserved.length = 4 := size
  unfold readsOn
  by_cases few : start.length < 4
  · rw [if_pos few]
    exact (decide_eq_true (by omega)).symm
  have magic : start.take 4 = bigEndian 4 magicBytes := by
    have same := congrArg (take 4) bytes
    rwa [take_append_of_le_length (by omega),take_left' (length_bigEndian ..)] at same
  have known : ofBigEndian (start.take 4) = magicBytes := by
    rw [magic,ofBigEndian_bigEndian]
    rfl
  rw [if_neg few,if_neg (not_not.mpr known)]
  by_cases short : start.length < 16
  · rw [if_pos short]
    exact (decide_eq_true (by omega)).symm
  have length : (start.drop 12).take 4 = bigEndian 4 payload.length := by
    have behind_length : (start ++ behind).drop 12 = bigEndian 4 payload.length ++ (payload ++ rest) := by
      rw [bytes]
      simp [drop_append,length_bigEndian,wide,drop_eq_nil_of_le]
    have same := congrArg (take 4) behind_length
    rwa [drop_append_of_le_length (by omega),take_append_of_le_length (by rw [length_drop]; omega),
      take_left' (length_bigEndian ..)] at same
  have value : ofBigEndian ((start.drop 12).take 4) = payload.length := by
    rw [length,ofBigEndian_bigEndian]
    exact Nat.mod_eq_of_lt (Nat.lt_of_le_of_lt fits (by decide))
  rw [if_neg short]
  rw [value,if_neg (by omega)]

theorem readsOn_start {f : SentFrame} {start behind following : List UInt8}
    (bytes : start ++ behind = f.frame.writeToWriter.1 ++ following) :
    readsOn start = decide (start.length < f.frame.writeToWriter.1.length) := by
  have opens := writeToWriter_opens f.frame following f.fits
  rw [← bytes] at opens
  rw [readsOn_of_opens opens f.fits,length_writeToWriter]

theorem encode_cons (f : SentFrame) (frames : List SentFrame) :
    encode (f :: frames) = f.frame.writeToWriter.1 ++ encode frames := flatMap_cons ..

theorem readsOn_encode_cons (f : SentFrame) (frames : List SentFrame) (part : List UInt8) :
    readsOn (encode (f :: frames) ++ part) = false := by
  have bytes : (encode (f :: frames) ++ part) ++ [] = f.frame.writeToWriter.1 ++ (encode frames ++ part) := by
    rw [encode_cons,append_nil,append_assoc]
  rw [readsOn_start bytes,decide_eq_false_iff_not,encode_cons,length_append,length_append]
  omega

theorem readBinaryFrame_encode_cons (f : SentFrame) (frames : List SentFrame) (part : List UInt8) :
    readBinaryFrame (encode (f :: frames) ++ part) =
      .ok ({ f.frame with magic := 0, payloadLen := 0 },encode frames ++ part) := by
  rw [encode_cons,append_assoc]
  exact readBinaryFrame_writeToWriter f.frame _ f.fits

theorem readBinaryFrame_short {bytes : List UInt8} (short : readsOn bytes = true) :
    ∃ err, readBinaryFrame bytes = .error err := by
  cases read : readBinaryFrame bytes with
  | error err => exact ⟨err,rfl⟩
  | ok found =>
    obtain ⟨f,rest⟩ := found
    obtain ⟨opens,fits,_⟩ := readBinaryFrame_eq_ok_iff.mp read
    have whole : routerLayout.Opens f.version f.messageType f.payload rest (bytes ++ []) := by
      rwa [append_nil]
    rw [readsOn_of_opens whole fits,decide_eq_true_eq] at short
    obtain ⟨reserved,size,same⟩ := opens
    have wide : reserved.length = 4 := size
    rw [same] at short
    simp only [length_append,length_bigEndian,wide] at short
    omega

/-- The beginning of a stream of frames has the first ones complete and a part of the next. -/
theorem split_start {frames : List SentFrame} {start behind : List UInt8} (bytes : start ++ behind = encode frames) :
    ∃ front back part, frames = front ++ back ∧ start = encode front ++ part ∧ readsOn part = true ∧
      part ++ behind = encode back := by
  induction frames generalizing start with
  | nil =>
    obtain ⟨rfl,rfl⟩ := append_eq_nil_iff.mp bytes
    exact ⟨[],[],[],rfl,rfl,rfl,rfl⟩
  | cons f frames ih =>
    rw [encode_cons] at bytes
    by_cases short : start.length < f.frame.writeToWriter.1.length
    · refine ⟨[],f :: frames,start,rfl,rfl,?_,by rw [encode_cons,bytes]⟩
      rw [readsOn_start bytes]
      exact decide_eq_true short
    · obtain ⟨more,rfl⟩ : ∃ more, start = f.frame.writeToWriter.1 ++ more := by
        have inside : f.frame.writeToWriter.1 <+: start ++ behind := bytes ▸ prefix_append ..
        obtain ⟨more,same⟩ := prefix_of_prefix_length_le inside (prefix_append ..) (Nat.not_lt.mp short)
        exact ⟨more,same.symm⟩
      rw [append_assoc] at bytes
      obtain ⟨front,back,part,rfl,rfl,unfinished,rest⟩ := ih (append_cancel_left bytes)
      refine ⟨f :: front,back,part,rfl,?_,unfinished,rest⟩
      rw [encode_cons,append_assoc]

variable (frames : List SentFrame)

theorem length_le_encode : frames.length ≤ (encode frames).length := by
  induction frames with
  | nil => exact Nat.zero_le _
  | cons f frames ih =>
    rw [encode_cons,length_append,length_writeToWriter,length_cons]
    omega

section
variable {parse : List UInt8 → Payload}

theorem responses_append (first second : List SentFrame) :
    responses parse (first ++ second) = responses parse first ++ responses parse second := filterMap_append ..

theorem responsesIn_eq {part : List UInt8} (unfinished : readsOn part = true) :
    responsesIn parse (encode frames ++ part) = responses parse frames := by
  have found : ∀ n, frames.length ≤ n →
      (framesIn n (encode frames ++ part)).filterMap (fun f => (receive parse f).toOption) = responses parse frames := by
    induction frames with
    | nil =>
      intro n _
      obtain ⟨err,failed⟩ := readBinaryFrame_short unfinished
      cases n with
      | zero => rfl
      | succ n =>
        have same : encode [] ++ part = part := rfl
        rw [framesIn,same,failed]
        rfl
    | cons f frames ih =>
      intro n enough
      cases n with
      | zero => cases enough
      | succ n =>
        rw [framesIn,readBinaryFrame_encode_cons,filterMap_cons,responses,filterMap_cons,
          ih n (Nat.le_of_succ_le_succ enough)]
        rfl
  refine found _ ?_
  rw [length_append]
  exact Nat.le_add_right_of_le (length_le_encode frames)

/-! ### Where the responses are -/

/-- The buffer has frames and a part of the next, which goes on on the connection while that can be read. -/
structure Split (parse : List UInt8 → Payload) (s : State) (readable later : List SentFrame) (part : List UInt8) :
    Prop where
  buffer : s.buffer = encode readable ++ part
  unfinished : readsOn part = true
  wire : s.now < s.deadline → part ++ s.wire = encode later
  sent : returned s ++ (responses parse readable ++ responses parse later) = responses parse s.sent

def mailbox (parse : List UInt8 → Payload) (s : State) (readable later : List SentFrame) : Mailbox Response :=
  ⟨returned s,responses parse readable,responses parse later,decide (s.now < s.deadline)⟩

variable (parse) in
def Shows (s : State) (b : Mailbox Response) : Prop :=
  ∃ readable later part, Split parse s readable later part ∧ b = mailbox parse s readable later

theorem mailbox_safe_iff {s : State} {readable later : List SentFrame} :
    (mailbox parse s readable later).Safe ↔ responses parse later = [] ∨ s.now < s.deadline :=
  or_congr Iff.rfl decide_eq_true_iff

section
variable {s t : State} {readable later : List SentFrame} {part : List UInt8}

section
variable (split : Split parse s readable later part)
include split

theorem Split.readsOn_iff : readsOn s.buffer = true ↔ readable = [] := by
  rw [split.buffer]
  cases readable with
  | nil => exact iff_of_true split.unfinished rfl
  | cons f readable => simp [readsOn_encode_cons]

theorem Split.responsesIn : responsesIn parse s.buffer = responses parse readable := by
  rw [split.buffer,responsesIn_eq readable split.unfinished]

theorem split_send (f : SentFrame) :
    Split parse { s with wire := s.wire ++ f.frame.writeToWriter.1, sent := s.sent ++ [f] } readable (later ++ [f])
      part where
  buffer := split.buffer
  unfinished := split.unfinished
  wire early := by
    have one : encode [f] = f.frame.writeToWriter.1 := append_nil _
    rw [encode,flatMap_append,← encode,← encode,one,← split.wire early,append_assoc]
  sent := by
    rw [responses_append,responses_append,← split.sent]
    simp only [append_assoc]
    rfl

end

theorem split_fill (split : Split parse s [] later part) (early : s.now < s.deadline) (n : Nat) :
    ∃ front back part', later = front ++ back ∧
      Split parse { s with buffer := s.buffer ++ s.wire.take n, wire := s.wire.drop n } front back part' := by
  have bytes : (part ++ s.wire.take n) ++ s.wire.drop n = encode later := by
    rw [append_assoc,take_append_drop,split.wire early]
  obtain ⟨front,back,part',rfl,start,unfinished,rest⟩ := split_start bytes
  refine ⟨front,back,part',rfl,?_,unfinished,fun _ => rest,?_⟩
  · rw [split.buffer,← start]
    rfl
  · have sent := split.sent
    rw [responses_append] at sent
    exact sent

theorem returned_fail (s : State) : returned (fail s) = returned s := by
  simp [returned,fail,filterMap_append,Except.toOption]

theorem split_fail (split : Split parse s [] later part) (closed : ¬ s.now < s.deadline) :
    Split parse (fail s) [] later [] where
  buffer := rfl
  unfinished := rfl
  wire early := absurd early closed
  sent := by
    rw [returned_fail]
    exact split.sent

section
variable {f : SentFrame} (split : Split parse s (f :: readable) later part)
include split

theorem finish_eq : finish parse s = { s with
      calling := false, buffer := encode readable ++ part, results := s.results ++ [receive parse f.frame] } := by
  unfold finish
  rw [split.buffer,readBinaryFrame_encode_cons]
  rfl

theorem returned_finish : returned (finish parse s) = returned s ++ responses parse [f] := by
  rw [finish_eq split]
  show (s.results ++ [receive parse f.frame]).filterMap Except.toOption = _
  rw [filterMap_append]
  rfl

theorem split_finish : Split parse (finish parse s) readable later part where
  buffer := by rw [finish_eq split]
  unfinished := split.unfinished
  wire := by
    rw [finish_eq split]
    exact split.wire
  sent := by
    have whole := split.sent
    have first : responses parse (f :: readable) = responses parse [f] ++ responses parse readable :=
      responses_append [f] readable
    rw [returned_finish split,finish_eq split]
    rw [first] at whole
    simpa only [append_assoc] using whole

end

/-! ### Steps as moves of a mailbox -/

section
variable (split : Split parse s readable later part)
include split

theorem moves_send (f : SentFrame) (taken : step parse s (.send f) = some t) :
    Moved (Shows parse t) (mailbox parse s readable later) (InTime parse s (.send f)) := by
  cases taken
  refine ⟨mailbox parse _ readable (later ++ [f]),⟨_,_,_,split_send split f,rfl⟩,?_,fun safe => ?_⟩
  · have grown := Move.send (b := mailbox parse s readable later) (responses parse [f])
    rwa [mailbox,← responses_append] at grown
  · rw [mailbox_safe_iff] at safe ⊢
    rw [responses_append,append_eq_nil_iff]
    simp [responses,InTime]
    cases read : (receive parse f.frame).toOption with
    | none => simpa [responses] using safe
    | some response => simp

theorem moves_fill (n : Nat) (taken : step parse s (.fill n) = some t) :
    Moved (Shows parse t) (mailbox parse s readable later) (InTime parse s (.fill n)) := by
  obtain ⟨⟨_,short,early,_⟩,⟨⟩⟩ := Option.ite_none_right_eq_some.mp taken
  have empty := split.readsOn_iff.mp short
  subst empty
  obtain ⟨front,back,part',rfl,filled⟩ := split_fill split early n
  refine moved_of_kept (c := mailbox parse _ front back) ⟨_,_,_,filled,rfl⟩ ?_ (fun _ => mailbox_safe_iff.mpr (.inr early))
    trivial
  exact Move.take (b := mailbox parse s [] (front ++ back)) (decide_eq_true early) (responses_append front back)

theorem moves_finish (taken : step parse s .finish = some t) :
    Moved (Shows parse t) (mailbox parse s readable later) (InTime parse s .finish) := by
  obtain ⟨⟨_,enough⟩,⟨⟩⟩ := Option.ite_none_right_eq_some.mp taken
  cases readable with
  | nil =>
    rw [split.readsOn_iff.mpr rfl] at enough
    cases enough
  | cons f readable =>
    have clock : (finish parse s).now = s.now ∧ (finish parse s).deadline = s.deadline := by
      rw [finish_eq split]
      exact ⟨rfl,rfl⟩
    refine moved_of_kept (c := mailbox parse (finish parse s) readable later) ⟨_,_,_,split_finish split,rfl⟩ ?_
      (fun safe => ?_) trivial
    · have given := Move.give (b := mailbox parse s (f :: readable) later) (responses_append [f] readable)
      have same : mailbox parse (finish parse s) readable later = { mailbox parse s (f :: readable) later with
          returned := returned s ++ responses parse [f], held := responses parse readable } := by
        rw [mailbox,returned_finish split,clock.1,clock.2]
        rfl
      rw [same]
      exact given
    · rw [mailbox_safe_iff] at safe ⊢
      rw [clock.1,clock.2]
      exact safe

theorem moves_tick (n : Nat) (taken : step parse s (.tick n) = some t) :
    Moved (Shows parse t) (mailbox parse s readable later) (InTime parse s (.tick n)) := by
  cases taken
  have after : Split parse { s with now := s.now + n } readable later part :=
    ⟨split.buffer,split.unfinished,fun early => split.wire (Nat.lt_of_le_of_lt (Nat.le_add_right ..) early),split.sent⟩
  refine ⟨mailbox parse _ readable later,⟨_,_,_,after,rfl⟩,?_,fun safe => ?_⟩
  · by_cases same : decide (s.now + n < s.deadline) = decide (s.now < s.deadline)
    · have unchanged : mailbox parse { s with now := s.now + n } readable later = mailbox parse s readable later := by
        rw [mailbox,same]
        rfl
      rw [unchanged]
      exact .stay
    · have passed : decide (s.now + n < s.deadline) = false := by
        rw [decide_eq_false_iff_not]
        intro early
        exact same ((decide_eq_true early).trans (decide_eq_true (by omega)).symm)
      have closed : mailbox parse { s with now := s.now + n } readable later =
          { mailbox parse s readable later with isOpen := false } := by
        rw [mailbox,passed]
        rfl
      rw [closed]
      exact Move.close
  · rw [mailbox_safe_iff] at safe ⊢
    have settled : responses parse later = [] ↔ responses parse s.sent = returned s ++ responsesIn parse s.buffer := by
      rw [split.responsesIn,← split.sent]
      simp
    simp only [InTime]
    rw [← settled]
    by_cases early : s.now + n < s.deadline
    · exact iff_of_true (.inr early) (fun _ late => absurd early (Nat.not_lt.mpr late))
    · obtain nothing | before := safe
      · exact iff_of_true (.inl nothing) (fun _ _ => nothing)
      · exact ⟨fun safe _ _ => safe.resolve_right early,fun fine => .inl (fine before (Nat.not_lt.mp early))⟩

end

theorem step_moves (s : State) (label : Label) (t : State) (b : Mailbox Response) (shown : Shows parse s b)
    (taken : step parse s label = some t) : Moved (Shows parse t) b (InTime parse s label) := by
  obtain ⟨readable,later,part,split,rfl⟩ := shown
  cases label with
  | send f => exact moves_send split f taken
  | call =>
    obtain ⟨_,⟨⟩⟩ := Option.ite_none_right_eq_some.mp taken
    exact moved_of_kept ⟨_,_,_,⟨split.buffer,split.unfinished,split.wire,split.sent⟩,rfl⟩ .stay id trivial
  | fill n => exact moves_fill split n taken
  | expire =>
    obtain ⟨⟨_,short,late⟩,⟨⟩⟩ := Option.ite_none_right_eq_some.mp taken
    have empty := split.readsOn_iff.mp short
    subst empty
    have unchanged : mailbox parse (fail s) [] later = mailbox parse s [] later := by
      rw [mailbox,returned_fail]
      rfl
    exact moved_of_kept ⟨_,_,_,split_fail split (Nat.not_lt.mpr late),unchanged.symm⟩ .stay id trivial
  | finish => exact moves_finish split taken
  | tick n => exact moves_tick split n taken

/-! ### What can be returned -/

theorem run_call (parse : List UInt8 → Payload) (s : State) :
    ∃ labels, run (step parse) s labels = some { s with calling := true } := by
  cases busy : s.calling with
  | true =>
    refine ⟨[],?_⟩
    rw [← busy]
    rfl
  | false =>
    refine ⟨[.call],run_cons_eq_some.mpr ⟨{ s with calling := true },?_,rfl⟩⟩
    simp [step,busy]

theorem drain_readable (split : Split parse s readable later part) :
    ∃ labels t, run (step parse) s labels = some t ∧ Split parse t [] later part ∧
      t.now = s.now ∧ t.deadline = s.deadline ∧ t.sent = s.sent := by
  induction readable generalizing s with
  | nil => exact ⟨[],s,rfl,split,rfl,rfl,rfl⟩
  | cons f readable ih =>
    obtain ⟨begin_,called⟩ := run_call parse s
    have split' : Split parse { s with calling := true } (f :: readable) later part :=
      ⟨split.buffer,split.unfinished,split.wire,split.sent⟩
    have finished : step parse { s with calling := true } .finish = some (finish parse { s with calling := true }) := by
      simp [step,split.buffer,readsOn_encode_cons]
    obtain ⟨labels,t,executed,drained,now,deadline,sent⟩ := ih (split_finish split')
    rw [finish_eq split'] at now deadline sent
    refine ⟨begin_ ++ .finish :: labels,t,?_,drained,now,deadline,sent⟩
    exact run_append.mpr ⟨_,called,run_cons_eq_some.mpr ⟨_,finished,executed⟩⟩

theorem Split.all_returned (split : Split parse s [] later part) (nothing : responses parse later = []) :
    responses parse s.sent = returned s := by
  rw [← split.sent,nothing]
  exact append_nil _

theorem eq_nil_of_readsOn (short : readsOn (encode frames) = true) : frames = [] := by
  cases frames with
  | nil => rfl
  | cons f frames =>
    have enough := readsOn_encode_cons f frames []
    rw [append_nil,short] at enough
    cases enough

theorem fill_all (split : Split parse s [] later part) (early : s.now < s.deadline) (some_bytes : s.wire ≠ []) :
    ∃ labels t, run (step parse) s labels = some t ∧ Split parse t later [] [] ∧ t.sent = s.sent := by
  obtain ⟨begin_,called⟩ := run_call parse s
  have split' : Split parse { s with calling := true } [] later part :=
    ⟨split.buffer,split.unfinished,split.wire,split.sent⟩
  obtain ⟨front,back,part',rfl,filled⟩ := split_fill split' early s.wire.length
  have rest := filled.wire early
  rw [drop_length,append_nil] at rest
  have unfinished := filled.unfinished
  rw [rest] at unfinished
  have none_back := eq_nil_of_readsOn back unfinished
  subst none_back
  have none_part : part' = [] := rest
  subst none_part
  rw [append_nil]
  refine ⟨begin_ ++ [.fill s.wire.length],_,run_append.mpr ⟨_,called,?_⟩,filled,rfl⟩
  have short := split'.readsOn_iff.mpr rfl
  refine run_cons_eq_some.mpr ⟨_,?_,rfl⟩
  exact if_pos ⟨rfl,short,early,length_pos_iff.mpr some_bytes,Nat.le_refl _⟩

theorem drains (s : State) (b : Mailbox Response) (shown : Shows parse s b) (safe : b.Safe) :
    Delivers (step parse) (fun s => responses parse s.sent) returned s := by
  obtain ⟨readable,later,part,split,rfl⟩ := shown
  rw [mailbox_safe_iff] at safe
  obtain ⟨labels,t,executed,drained,now,deadline,sent⟩ := drain_readable split
  by_cases nothing : responses parse later = []
  · refine ⟨labels,t,executed,?_⟩
    rw [← drained.all_returned nothing,sent]
  · have early : t.now < t.deadline := by
      rw [now,deadline]
      exact safe.resolve_left nothing
    have some_bytes : t.wire ≠ [] := by
      intro none_left
      have rest := drained.wire early
      rw [none_left,append_nil] at rest
      have short := drained.unfinished
      rw [rest] at short
      rw [eq_nil_of_readsOn later short] at nothing
      exact nothing rfl
    obtain ⟨labels',u,executed',filled,sent'⟩ := fill_all drained early some_bytes
    obtain ⟨labels'',v,executed'',drained',_,_,sent''⟩ := drain_readable filled
    refine ⟨labels ++ (labels' ++ labels''),v,?_,?_⟩
    · exact run_append.mpr ⟨t,executed,run_append.mpr ⟨u,executed',executed''⟩⟩
    · rw [← drained'.all_returned rfl,sent'',sent',sent]

theorem carrier (parse : List UInt8 → Payload) :
    Carrier (step parse) (InTime parse) (Shows parse) (fun s => responses parse s.sent) returned where
  sent_eq := by
    rintro s b ⟨readable,later,part,split,rfl⟩
    exact split.sent
  returned_eq := by
    rintro s b ⟨readable,later,part,split,rfl⟩
    rfl
  moves := step_moves
  drains := drains

theorem connected_shows (parse : List UInt8 → Payload) (elapsed : Nat) :
    Shows parse (connected elapsed) (mailbox parse (connected elapsed) [] []) :=
  ⟨[],[],[],⟨rfl,rfl,fun _ => rfl,rfl⟩,rfl⟩

end

end

end McpBridge.TcpDeadlines
