import McpBridge.Runs

/-!
The bodies of the direct SSE client's requests. `createRequestBody` encodes each request into one buffer under a lock
and returns a reader of its bytes, which the HTTP transport reads later, and again from the start when a redirect (307
or 308) or a lost connection makes it send the request once more.
-/
namespace McpBridge.RequestBodies
open Runs List Function

/-- A `bytes.Reader` of the first `length` bytes of an array, with what it sent last; `finished` once `Do` has returned. -/
structure Body where
  array : Nat
  length : Nat
  offset : Nat := 0
  sent : List UInt8 := []
  finished : Bool := false

/-- The array of a `bytes.Buffer` is `current`; it has outgrown those before. -/
structure Buffer where
  current : Nat := 0
  capacity : Nat := 0
  arrays : Nat → List UInt8 := fun _ => []

structure State where
  requestBuffer : Buffer := {}
  bodies : Nat → Option Body := fun _ => none

/-- What becomes of a request's body. -/
inductive Label where
  | createRequestBody (c grown : Nat)
  | read (c n : Nat)
  /-- The request's `GetBody`: a reader of the same bytes of the array, for another transmission. -/
  | replay (c : Nat)
  | finish (c : Nat)

/-- `Reset` keeps the array, and `Encode` writes once: at its start if there is room, else into a new one. -/
def Buffer.encode (buf : Buffer) (bytes : List UInt8) (grown : Nat) : Buffer :=
  if bytes.length ≤ buf.capacity then
    { buf with arrays := update buf.arrays buf.current (bytes ++ (buf.arrays buf.current).drop bytes.length) }
  else ⟨buf.current + 1,grown,update buf.arrays (buf.current + 1) bytes⟩

def State.setBody (s : State) (c : Nat) (b : Body) : State := { s with bodies := update s.bodies c (some b) }

variable (encoding : Nat → Option (List UInt8))

def createRequestBody (s : State) (c grown : Nat) : Option State :=
  match s.bodies c,encoding c with
  | some _,_ => none
  | none,none => some s
  | none,some bytes =>
    if grown < bytes.length then none
    else
      let buf := s.requestBuffer.encode bytes grown
      some ({ s with requestBuffer := buf }.setBody c { array := buf.current, length := bytes.length })

def read (s : State) (c n : Nat) : Option State :=
  (s.bodies c).map fun b =>
    let chunk := (((s.requestBuffer.arrays b.array).take b.length).drop b.offset).take n
    s.setBody c { b with offset := b.offset + chunk.length, sent := b.sent ++ chunk }

/-- One step of a call with its body. -/
def step (s : State) : Label → Option State
  | .createRequestBody c grown => createRequestBody encoding s c grown
  | .read c n => read s c n
  | .replay c => (s.bodies c).bind fun b => if b.finished then none else some (s.setBody c { b with offset := 0, sent := [] })
  | .finish c => (s.bodies c).map fun b => s.setBody c { b with finished := true }

/-- What a transmission has sent for a call begins its own request's encoding, and is all of it at the end. -/
def SendsOwn (s : State) : Prop :=
  ∀ c b, s.bodies c = some b → ∃ bytes, encoding c = some bytes ∧ b.sent <+: bytes ∧ (b.length ≤ b.offset → b.sent = bytes)

/-- A request is encoded only when the buffer grows, or all calls with a body in its array have finished with it. -/
def Undisturbed (s : State) : Label → Prop
  | .createRequestBody c _ => ∀ bytes, encoding c = some bytes → bytes.length ≤ s.requestBuffer.capacity →
      ∀ d b, s.bodies d = some b → b.array = s.requestBuffer.current → b.finished = true ∧ b.length ≤ b.offset
  | _ => True

structure Reads (buf : Buffer) (b : Body) (bytes : List UInt8) : Prop where
  old : b.array ≤ buf.current
  length : b.length = bytes.length
  sent : b.sent = bytes.take b.offset
  unread : b.offset < b.length ∨ b.finished = false → (buf.arrays b.array).take b.length = bytes

def Inv (s : State) : Prop :=
  ∀ c b, s.bodies c = some b → ∃ bytes, encoding c = some bytes ∧ Reads s.requestBuffer b bytes

variable {encoding} {s next : State} {buf : Buffer} {b : Body} {bytes written : List UInt8} {c grown n : Nat}

theorem Inv.setBody (inv : Inv encoding s) (encoded : encoding c = some bytes) (reads : Reads s.requestBuffer b bytes) :
    Inv encoding (s.setBody c b) := by
  intro d b' found
  by_cases same : d = c
  · subst same
    cases (update_self ..).symm.trans found
    exact ⟨bytes,encoded,reads⟩
  · exact inv d b' ((update_of_ne same ..).symm.trans found)

/-- A write disturbs no reader of another array and none that has finished at its end. -/
theorem Reads.encode (reads : Reads buf b bytes)
    (fine : written.length ≤ buf.capacity → b.array = buf.current → b.finished = true ∧ b.length ≤ b.offset) :
    Reads (buf.encode written grown) b bytes := by
  obtain ⟨old,length,sent,unread⟩ := reads
  unfold Buffer.encode
  split_ifs with fits
  · refine ⟨old,length,sent,fun left => ?_⟩
    have apart : b.array ≠ buf.current := fun same => by
      obtain ⟨finished,ended⟩ := fine fits same
      rcases left with left | open_
      · omega
      · simp [finished] at open_
    simpa [update_of_ne apart] using unread left
  · refine ⟨Nat.le_succ_of_le old,length,sent,fun left => ?_⟩
    have apart : b.array ≠ buf.current + 1 := by omega
    simpa [update_of_ne apart] using unread left

theorem encode_take : ((buf.encode written grown).arrays (buf.encode written grown).current).take written.length = written := by
  unfold Buffer.encode
  split <;> simp

theorem create_inv (inv : Inv encoding s) (fine : Undisturbed encoding s (.createRequestBody c grown))
    (taken : createRequestBody encoding s c grown = some next) : Inv encoding next := by
  revert taken
  fun_cases createRequestBody encoding s c grown <;> rintro ⟨⟩
  case case2 => exact inv
  case case4 bytes encoded new room buf =>
    have kept : Inv encoding { s with requestBuffer := buf } := fun d b found => by
      obtain ⟨own,encoded',reads⟩ := inv d b found
      exact ⟨own,encoded',reads.encode fun fits => fine bytes encoded fits d b found⟩
    exact kept.setBody encoded ⟨Nat.le_refl _,rfl,rfl,fun _ => encode_take⟩

/-- A read goes on in the encoding where the last one stopped. -/
theorem Reads.read (reads : Reads buf b bytes) {chunk : List UInt8}
    (next : chunk = (((buf.arrays b.array).take b.length).drop b.offset).take n) :
    Reads buf { b with offset := b.offset + chunk.length, sent := b.sent ++ chunk } bytes := by
  obtain ⟨old,length,sent,unread⟩ := reads
  refine ⟨old,length,?_,fun left => unread (left.imp_left fun less => by dsimp only at less; omega)⟩
  have more : chunk = (bytes.drop b.offset).take n := by
    by_cases left : b.offset < b.length
    · rw [next,unread (.inl left)]
    · rw [next,drop_of_length_le (by simp; omega),drop_of_length_le (by omega)]
  simp [sent,more,take_add]

theorem step_inv {label : Label} (inv : Inv encoding s) (fine : Undisturbed encoding s label)
    (taken : step encoding s label = some next) : Inv encoding next := by
  cases label with
  | createRequestBody c grown => exact create_inv inv fine taken
  | read c n =>
    obtain ⟨b,found,rfl⟩ := Option.map_eq_some_iff.mp taken
    obtain ⟨bytes,encoded,reads⟩ := inv c b found
    exact inv.setBody encoded (reads.read rfl)
  | replay c =>
    obtain ⟨b,found,taken⟩ := Option.bind_eq_some_iff.mp taken
    obtain ⟨opened,⟨⟩⟩ := Option.ite_none_left_eq_some.mp taken
    obtain ⟨bytes,encoded,reads⟩ := inv c b found
    refine inv.setBody encoded ⟨reads.old,reads.length,rfl,fun _ => reads.unread (.inr (Bool.eq_false_iff.mpr opened))⟩
  | finish c =>
    obtain ⟨b,found,rfl⟩ := Option.map_eq_some_iff.mp taken
    obtain ⟨bytes,encoded,reads⟩ := inv c b found
    exact inv.setBody encoded ⟨reads.old,reads.length,reads.sent,fun left => reads.unread (.inl (left.resolve_right nofun))⟩

/-- If no request is encoded over bytes that may still be read, what is sent for a call is the encoding of its own
    request. -/
theorem bodies_own (encoding : Nat → Option (List UInt8)) (labels : List Label)
    (meets : Meets (step encoding) (Undisturbed encoding) {} labels) :
    Always (step encoding) (SendsOwn encoding) {} labels := by
  have start : Inv encoding {} := nofun
  refine (always_of_keeps (fun s label next inv fine taken => step_inv inv fine taken) start meets).imp ?_
  intro s inv c b found
  obtain ⟨bytes,encoded,reads⟩ := inv c b found
  refine ⟨bytes,encoded,reads.sent ▸ take_prefix ..,fun ended => ?_⟩
  rw [reads.sent,take_of_length_le (reads.length ▸ ended)]

def request (method : List UInt8) (digit : UInt8) : List UInt8 :=
  [123,34,106,115,111,110,114,112,99,34,58,34,50,46,48,34,44,34,109,101,116,104,111,100,34,58,34] ++ method ++
    [34,44,34,105,100,34,58,digit,125,10]

/-- The second of the calls has a longer method. -/
def requests (c : Nat) : Option (List UInt8) := some (request (replicate (if c = 1 then 21 else 1) 97) (49 + c.toUInt8))

/-- The second request needs a larger array while the first is read, redirected and read again; the third is encoded
    into the second one's array when that call has finished. -/
def redirected : List Label :=
  [.createRequestBody 0 40,.read 0 20,.createRequestBody 1 64,.read 1 64,.read 0 64,.replay 0,.read 0 64,.finish 0,.finish 1,
    .createRequestBody 2 64,.read 2 64]

theorem bodies_own_redirected : Always (step requests) (SendsOwn requests) {} redirected ∧
    (run (step requests) {} redirected).map (fun s => (range 3).map fun c => (s.bodies c).map (·.sent)) =
      some ((range 3).map requests) := by
  refine ⟨bodies_own _ _ ?_,by decide +kernel⟩
  refine ⟨fun _ _ _ _ _ => nofun,?_⟩
  rintro _ ⟨⟩
  refine ⟨trivial,?_⟩
  rintro _ ⟨⟩
  refine ⟨?_,?_⟩
  · rintro _ ⟨⟩ fits
    exact absurd fits (by decide)
  iterate 6
    rintro _ ⟨⟩
    refine ⟨trivial,?_⟩
  rintro _ ⟨⟩
  refine ⟨?_,?_⟩
  · rintro _ ⟨⟩ - (_ | _ | d) b ⟨⟩ here
    · exact absurd here (by decide)
    · decide
  rintro _ ⟨⟩
  exact ⟨trivial,fun _ _ => trivial⟩

/-- The second request is encoded over the first one's bytes before these are read: both calls send the second. -/
theorem body_overwritten :
    ¬ Always (step fun c => some (request [97] (49 + c.toUInt8))) (SendsOwn fun c => some (request [97] (49 + c.toUInt8))) {}
      [.createRequestBody 0 64,.createRequestBody 1 64,.read 0 64] := by
  intro always
  obtain ⟨bytes,encoded,begins,-⟩ := always.last rfl 0 _ rfl
  cases encoded
  revert begins
  decide

end McpBridge.RequestBodies
