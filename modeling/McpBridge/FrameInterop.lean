import McpBridge.Frames

/-!
The two codecs for binary frames: `BinaryFrame` of the router's TCP client and `wire.Frame` of the gateway.
-/
namespace McpBridge.FrameInterop
open Frames List

def hexDigits : Nat → Nat → List Char
  | 0,_ => []
  | width + 1,n => hexDigits width (n / 16) ++ ["0123456789ABCDEF".toList.getD (n % 16) '0']

/-- The verbs `%08X` and `%04X`, for numbers of no more digits. -/
def hex (width n : Nat) : String := String.ofList (hexDigits width n)

def fail {α : Type} (err : String) : Reader String α := fun _ => .error err

def succeed {α : Type} (x : α) : Reader String α := fun bytes => .ok (x,bytes)

def readPayload (wrap : ReadError → String) (payloadLen : Nat) : Reader String (List UInt8) :=
  if payloadLen = 0 then succeed [] else andThen (readFull payloadLen) wrap succeed

/-! ### The router's codec -/

def magicBytes : Nat := 0x4D435000

def maxPayloadSize : Nat := 10 * 1024 * 1024

/-- The gateway's frame. -/
structure BinaryFrame where
  magic : UInt32 := 0
  version : UInt16
  messageType : UInt16
  payloadLen : UInt32 := 0
  payload : List UInt8

def wrapConnectionError (operation : String) : ReadError → String
  | .eof => operation ++ ": connection closed unexpectedly"
  | .unexpectedEOF => operation ++ ": " ++ ReadError.text .unexpectedEOF

/-- `WriteToWriter`: the bytes that it writes, and its error. -/
def BinaryFrame.writeToWriter (f : BinaryFrame) : List UInt8 × Option String :=
  let header := bigEndian 4 magicBytes ++ (bigEndian 2 f.version.toNat ++ (bigEndian 2 f.messageType.toNat ++
    bigEndian 4 0))
  if 2 ^ 32 - 1 < f.payload.length then
    (header,some ("payload too large: " ++ toString f.payload.length ++ " bytes exceeds uint32 limit"))
  else (header ++ (bigEndian 4 f.payload.length ++ f.payload),none)

def readBinaryFrame : Reader String BinaryFrame :=
  andThen (readUint 4) (wrapConnectionError "failed to read magic bytes") fun magic =>
  if magic ≠ magicBytes then fail ("invalid magic bytes: 0x" ++ hex 8 magic) else
  andThen (readUint 2) (wrapConnectionError "failed to read version") fun version =>
  andThen (readUint 2) (wrapConnectionError "failed to read message type") fun msgType =>
  andThen (readUint 4) (wrapConnectionError "failed to read reserved padding") fun _ =>
  andThen (readUint 4) (wrapConnectionError "failed to read payload length") fun payloadLen =>
  if maxPayloadSize < payloadLen then
    fail ("payload too large: " ++ toString payloadLen ++ " bytes (max " ++ toString maxPayloadSize ++ ")")
  else
  andThen (readPayload (wrapConnectionError "failed to read payload") payloadLen) id fun payload =>
  succeed { version := .ofNat version, messageType := .ofNat msgType, payload := payload }

/-! ### The gateway's codec -/

namespace Wire

def magicBytes : Nat := 0x4D435042

def minVersion : Nat := 1

def maxVersion : Nat := 1

/-- The router's frame. -/
structure Frame where
  version : UInt16
  messageType : UInt16
  payload : List UInt8

/-- `Frame.Encode`; the length is converted to a `uint32` without a check. -/
def Frame.encode (f : Frame) : List UInt8 :=
  bigEndian 4 magicBytes ++ (bigEndian 2 f.version.toNat ++ (bigEndian 2 f.messageType.toNat ++
    (bigEndian 4 (f.payload.length % 2 ^ 32) ++ f.payload)))

/-- The verb `%w` behind the text of the operation. -/
def wrap (operation : String) (err : ReadError) : String := operation ++ ": " ++ err.text

def validateMagicBytes : Reader String Unit :=
  andThen (readUint 4) (wrap "failed to read magic bytes") fun magic =>
  if magic ≠ magicBytes then fail ("invalid magic bytes: 0x" ++ hex 8 magic) else succeed ()

def readVersion : Reader String Nat :=
  andThen (readUint 2) (wrap "failed to read version") fun version =>
  if version < minVersion ∨ maxVersion < version then
    fail ("unsupported protocol version: 0x" ++ hex 4 version ++ " (supported: 0x" ++ hex 4 minVersion ++ "-0x" ++
      hex 4 maxVersion ++ ")")
  else succeed version

def readMessageType : Reader String Nat := andThen (readUint 2) (wrap "failed to read message type") succeed

def readPayloadLength : Reader String Nat :=
  andThen (readUint 4) (wrap "failed to read payload length") fun payloadLen =>
  if 10 * 1024 * 1024 < payloadLen then fail ("payload too large: " ++ toString payloadLen ++ " bytes")
  else succeed payloadLen

def readFramePayload : Nat → Reader String (List UInt8) := readPayload (wrap "failed to read payload")

def decode : Reader String Frame :=
  andThen validateMagicBytes id fun _ =>
  andThen readVersion id fun version =>
  andThen readMessageType id fun msgType =>
  andThen readPayloadLength id fun payloadLen =>
  andThen (readFramePayload payloadLen) id fun payload =>
  succeed { version := .ofNat version, messageType := .ofNat msgType, payload := payload }

end Wire

/-! ### What the readers accept -/

variable {bytes rest : List UInt8} {wrap : ReadError → String} {α : Type}

theorem succeed_eq_ok_iff {x y : α} : succeed x bytes = .ok (y,rest) ↔ x = y ∧ bytes = rest := by
  simp [succeed]

theorem ite_fail_eq_ok_iff {c : Prop} [Decidable c] {err : String} {reader : Reader String α} {y : α} :
    (if c then fail err else reader) bytes = .ok (y,rest) ↔ ¬ c ∧ reader bytes = .ok (y,rest) := by
  split
  next wrong => exact ⟨nofun,fun accepted => absurd wrong accepted.1⟩
  next right => exact ⟨fun read => ⟨right,read⟩,fun accepted => accepted.2⟩

theorem readPayload_eq_ok_iff {length : Nat} {payload : List UInt8} :
    readPayload wrap length bytes = .ok (payload,rest) ↔ payload.length = length ∧ bytes = payload ++ rest := by
  unfold readPayload
  split
  next empty =>
    rw [succeed_eq_ok_iff,empty,length_eq_zero_iff]
    constructor
    all_goals
      rintro ⟨rfl,rfl⟩
      exact ⟨rfl,rfl⟩
  next =>
    simp only [andThen_eq_ok_iff,readFull_eq_ok_iff,succeed_eq_ok_iff]
    constructor
    · rintro ⟨_,_,taken,rfl,rfl⟩
      exact taken
    · intro taken
      exact ⟨_,_,taken,rfl,rfl⟩

def routerLayout : Layout := ⟨magicBytes,4,by decide⟩

def wireLayout : Layout := ⟨Wire.magicBytes,0,by decide⟩

theorem toNat_of_read {n : Nat} (small : n < 256 ^ 2) : (UInt16.ofNat n).toNat = n := by
  exact Nat.mod_eq_of_lt small

theorem readBinaryFrame_eq_ok_iff {f : BinaryFrame} : readBinaryFrame bytes = .ok (f,rest) ↔
      routerLayout.Opens f.version f.messageType f.payload rest bytes ∧ f.payload.length ≤ maxPayloadSize ∧
        f.magic = 0 ∧ f.payloadLen = 0 := by
  unfold readBinaryFrame
  simp only [andThen_eq_ok_iff,ite_fail_eq_ok_iff,readUint_eq_ok_iff,readPayload_eq_ok_iff,succeed_eq_ok_iff,not_not,
    Nat.not_lt]
  constructor
  · rintro ⟨_,_,⟨_,rfl⟩,rfl,version,_,⟨small,rfl⟩,msgType,_,⟨small',rfl⟩,reserved,_,⟨_,rfl⟩,_,_,⟨_,rfl⟩,
      fits,payload,_,⟨rfl,rfl⟩,rfl,rfl⟩
    refine ⟨⟨bigEndian 4 reserved,length_bigEndian 4 reserved,?_⟩,fits,rfl,rfl⟩
    simp [routerLayout,toNat_of_read small,toNat_of_read small']
  · rintro ⟨⟨reserved,size,rfl⟩,fits,magic,payloadLen⟩
    have short : f.payload.length < 256 ^ 4 := Nat.lt_of_le_of_lt fits (by decide)
    have wide : reserved.length = 4 := size
    have reread : bigEndian 4 (ofBigEndian reserved) = reserved := wide ▸ bigEndian_ofBigEndian reserved
    have bound : ofBigEndian reserved < 256 ^ 4 := wide ▸ ofBigEndian_lt reserved
    refine ⟨magicBytes,_,⟨by decide,rfl⟩,rfl,f.version.toNat,_,⟨f.version.toNat_lt,rfl⟩,f.messageType.toNat,_,
      ⟨f.messageType.toNat_lt,rfl⟩,ofBigEndian reserved,_,⟨bound,by rw [reread]⟩,f.payload.length,_,⟨short,rfl⟩,
      fits,f.payload,rest,⟨rfl,rfl⟩,?_,rfl⟩
    cases f
    simp_all

theorem decode_eq_ok_iff {f : Wire.Frame} : Wire.decode bytes = .ok (f,rest) ↔
      wireLayout.Opens f.version f.messageType f.payload rest bytes ∧ f.payload.length ≤ maxPayloadSize ∧
        f.version = 1 := by
  unfold Wire.decode Wire.validateMagicBytes Wire.readVersion Wire.readMessageType Wire.readPayloadLength
    Wire.readFramePayload
  simp only [andThen_eq_ok_iff,ite_fail_eq_ok_iff,readUint_eq_ok_iff,readPayload_eq_ok_iff,succeed_eq_ok_iff,not_not,
    Nat.not_lt]
  constructor
  · rintro ⟨_,_,⟨_,_,⟨_,rfl⟩,rfl,_,rfl⟩,_,_,⟨version,_,⟨small,rfl⟩,supported,rfl,rfl⟩,_,_,
      ⟨msgType,_,⟨small',rfl⟩,rfl,rfl⟩,_,_,⟨_,_,⟨_,rfl⟩,fits,rfl,rfl⟩,payload,_,⟨rfl,rfl⟩,rfl,rfl⟩
    obtain rfl : version = 1 := by
      simp only [Wire.minVersion,Wire.maxVersion] at supported
      omega
    refine ⟨⟨[],rfl,?_⟩,fits,rfl⟩
    simp [wireLayout,toNat_of_read small']
  · rintro ⟨⟨reserved,size,rfl⟩,fits,version⟩
    have short : f.payload.length < 256 ^ 4 := Nat.lt_of_le_of_lt fits (by decide)
    obtain rfl : reserved = [] := length_eq_zero_iff.mp size
    have one : f.version.toNat = 1 := by rw [version]; rfl
    refine ⟨(),_,⟨Wire.magicBytes,_,⟨by decide,rfl⟩,rfl,trivial,rfl⟩,1,_,⟨1,_,⟨by decide,by rw [one]; rfl⟩,by decide,rfl,rfl⟩,
      f.messageType.toNat,_,⟨_,_,⟨f.messageType.toNat_lt,rfl⟩,rfl,rfl⟩,f.payload.length,_,
      ⟨_,_,⟨short,rfl⟩,fits,rfl,rfl⟩,f.payload,rest,⟨rfl,rfl⟩,?_,rfl⟩
    cases f
    simp_all

/-! ### Each package reads back what it writes -/

variable (f : BinaryFrame) (following : List UInt8)

theorem writeToWriter_opens (fits : f.payload.length ≤ maxPayloadSize) :
    routerLayout.Opens f.version f.messageType f.payload following (f.writeToWriter.1 ++ following) := by
  have small : ¬ 2 ^ 32 - 1 < f.payload.length := by
    simp only [maxPayloadSize] at fits
    omega
  refine ⟨bigEndian 4 0,length_bigEndian 4 0,?_⟩
  simp only [BinaryFrame.writeToWriter,if_neg small,routerLayout,append_assoc]

theorem encode_opens (f : Wire.Frame) (following : List UInt8) (fits : f.payload.length ≤ maxPayloadSize) :
    wireLayout.Opens f.version f.messageType f.payload following (f.encode ++ following) := by
  have small : f.payload.length < 2 ^ 32 := Nat.lt_of_le_of_lt fits (by decide)
  refine ⟨[],rfl,?_⟩
  simp only [Wire.Frame.encode,Nat.mod_eq_of_lt small,wireLayout,append_assoc,nil_append]

theorem readBinaryFrame_writeToWriter (fits : f.payload.length ≤ maxPayloadSize) :
    readBinaryFrame (f.writeToWriter.1 ++ following) = .ok ({ f with magic := 0, payloadLen := 0 },following) :=
  readBinaryFrame_eq_ok_iff.mpr ⟨writeToWriter_opens f following fits,fits,rfl,rfl⟩

theorem decode_encode (f : Wire.Frame) (following : List UInt8) (fits : f.payload.length ≤ maxPayloadSize)
    (version : f.version = 1) : Wire.decode (f.encode ++ following) = .ok (f,following) :=
  decode_eq_ok_iff.mpr ⟨encode_opens f following fits,fits,version⟩

/-- Frames that the router writes come back from a stream in order and what follows stays unread; and whatever is read
    is what the router writes for the frame, with any reserved bytes. -/
theorem binary_stream_reads (frames : List BinaryFrame) (tail : List UInt8)
    (fits : ∀ f ∈ frames, f.payload.length ≤ maxPayloadSize) :
    readMany readBinaryFrame frames.length (frames.flatMap (·.writeToWriter.1) ++ tail) =
        .ok (frames.map ({ · with magic := 0, payloadLen := 0 }),tail) ∧
      ∀ bytes f rest, readBinaryFrame bytes = .ok (f,rest) → ∃ reserved : List UInt8, reserved.length = 4 ∧
        bytes = f.writeToWriter.1.take 8 ++ (reserved ++ (f.writeToWriter.1.drop 12 ++ rest)) := by
  constructor
  · have read := @readMany_flatMap _ _ readBinaryFrame (·.writeToWriter.1)
      (frames.map ({ · with magic := 0, payloadLen := 0 })) (fun f listed following => ?_) tail
    · rwa [length_map,flatMap_map] at read
    · obtain ⟨f,old,rfl⟩ := mem_map.mp listed
      exact readBinaryFrame_writeToWriter _ following (fits f old)
  · intro bytes f rest read
    obtain ⟨⟨reserved,size,rfl⟩,small,-⟩ := readBinaryFrame_eq_ok_iff.mp read
    have short : ¬ 4294967295 < f.payload.length := by
      simp only [maxPayloadSize] at small
      omega
    refine ⟨reserved,size,?_⟩
    simp [BinaryFrame.writeToWriter,short,routerLayout,take_append,drop_append,length_bigEndian,
      take_of_length_le,drop_eq_nil_of_le]

theorem binary_frame_reads : ∃ f : BinaryFrame, f.payload = [7] ∧
    readMany readBinaryFrame 1 ([f].flatMap (·.writeToWriter.1) ++ [9]) = .ok ([f],[9]) :=
  ⟨⟨0,1,1,0,[7]⟩,rfl,(binary_stream_reads [⟨0,1,1,0,[7]⟩] [9] (by simp [maxPayloadSize])).1⟩

/-! ### Neither package reads a frame of the other -/

theorem andThen_readUint {width n : Nat} {next : Nat → Reader String α}
    (small : n < 256 ^ width) : andThen (readUint width) wrap next (bigEndian width n ++ rest) = next n rest := by
  have read : readUint width (bigEndian width n ++ rest) = .ok (n,rest) := readUint_eq_ok_iff.mpr ⟨small,rfl⟩
  simp only [andThen,read]

theorem writeToWriter_magic : ∃ rest, f.writeToWriter.1 = bigEndian 4 magicBytes ++ rest := by
  unfold BinaryFrame.writeToWriter
  split
  next => exact ⟨_,rfl⟩
  next => exact ⟨_,append_assoc ..⟩

theorem decode_writeToWriter :
    Wire.decode (f.writeToWriter.1 ++ following) = .error "invalid magic bytes: 0x4D435000" := by
  obtain ⟨rest,written⟩ := writeToWriter_magic f
  have refused : Wire.validateMagicBytes (bigEndian 4 magicBytes ++ (rest ++ following)) =
      .error "invalid magic bytes: 0x4D435000" := by
    rw [Wire.validateMagicBytes,andThen_readUint (by decide)]
    rfl
  rw [written,append_assoc,Wire.decode,andThen,refused]
  rfl

theorem readBinaryFrame_encode (g : Wire.Frame) (following : List UInt8) :
    readBinaryFrame (g.encode ++ following) = .error "invalid magic bytes: 0x4D435042" := by
  rw [Wire.Frame.encode,append_assoc,readBinaryFrame,andThen_readUint (by decide)]
  rfl

/-- Each side refuses every frame of the other at its first four bytes, whatever is in it and follows it. -/
theorem frames_never_interoperate (f : BinaryFrame) (g : Wire.Frame) (following : List UInt8) :
    Wire.decode (f.writeToWriter.1 ++ following) = .error "invalid magic bytes: 0x4D435000" ∧
      readBinaryFrame (g.encode ++ following) = .error "invalid magic bytes: 0x4D435042" :=
  ⟨decode_writeToWriter f following,readBinaryFrame_encode g following⟩

/-- A request frame without a payload, with nothing behind it. -/
theorem empty_request_refused :
    (¬ ∃ g rest, Wire.decode ((BinaryFrame.writeToWriter { version := 1, messageType := 1, payload := [] }).1 ++ []) =
        .ok (g,rest)) ∧ ¬ ∃ f rest, readBinaryFrame (Wire.Frame.encode ⟨1,1,[]⟩ ++ []) = .ok (f,rest) := by
  constructor
  · rintro ⟨g,rest,read⟩
    cases read
  · rintro ⟨f,rest,read⟩
    rw [readBinaryFrame_encode] at read
    cases read

end McpBridge.FrameInterop
