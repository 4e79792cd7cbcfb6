import McpBridge.FrameInterop

/-!
`wire.Frame.Encode` and `wire.Decode` on a stream of frames.
-/
namespace McpBridge.WireCodec
open Frames FrameInterop Wire List

/-- The version is one that `Decode` accepts. -/
def Supported (f : Frame) : Prop := minVersion ≤ f.version.toNat ∧ f.version.toNat ≤ maxVersion

theorem supported_iff (f : Frame) : Supported f ↔ f.version = 1 := by
  unfold Supported
  simp only [minVersion,maxVersion]
  rw [← UInt16.toNat_inj]
  show _ ↔ f.version.toNat = 1
  omega

theorem decode_consumes {bytes rest : List UInt8} {f : Frame} (read : decode bytes = .ok (f,rest)) :
    bytes = f.encode ++ rest := by
  obtain ⟨⟨reserved,size,rfl⟩,fits,_⟩ := decode_eq_ok_iff.mp read
  obtain rfl : reserved = [] := length_eq_zero_iff.mp size
  have small : f.payload.length < 2 ^ 32 := Nat.lt_of_le_of_lt fits (by decide)
  simp only [Frame.encode,Nat.mod_eq_of_lt small,wireLayout,append_assoc,nil_append]

/-- Encoded frames come back from a stream in order and what follows stays unread; and whatever is read was the encoding
    of the frame. -/
theorem stream_decodes (frames : List Frame) (tail : List UInt8)
    (supported : ∀ f ∈ frames, minVersion ≤ f.version.toNat ∧ f.version.toNat ≤ maxVersion)
    (fits : ∀ f ∈ frames, f.payload.length ≤ 10 * 1024 * 1024) :
    readMany decode frames.length (frames.flatMap Frame.encode ++ tail) = .ok (frames,tail) ∧
      (∀ bytes f rest, decode bytes = .ok (f,rest) → bytes = f.encode ++ rest) ∧
      ∀ bytes bytes' f rest, decode bytes = .ok (f,rest) → decode bytes' = .ok (f,rest) → bytes = bytes' := by
  refine ⟨?_,fun bytes f rest read => decode_consumes read,?_⟩
  · apply readMany_flatMap
    intro f found following
    exact decode_encode f following (fits f found) ((supported_iff f).mp (supported f found))
  · intro bytes bytes' f rest read read'
    rw [decode_consumes read,decode_consumes read']

/-- Two frames, the first without a payload, with two bytes behind them. -/
theorem two_frames_decode : readMany decode 2 ([⟨1,1,[]⟩,⟨1,65535,[7]⟩].flatMap Frame.encode ++ [9,9]) =
      .ok ([⟨1,1,[]⟩,⟨1,65535,[7]⟩],[9,9]) := by
  refine (stream_decodes [⟨1,1,[]⟩,⟨1,65535,[7]⟩] [9,9] ?_ ?_).1
  · simp [minVersion,maxVersion]
  · simp

theorem decode_wrapped (f : Frame) (following : List UInt8) (version : f.version = 1)
    (fits : f.payload.length % 2 ^ 32 ≤ maxPayloadSize) : decode (f.encode ++ following) =
      .ok ({ f with payload := f.payload.take (f.payload.length % 2 ^ 32) },
        f.payload.drop (f.payload.length % 2 ^ 32) ++ following) := by
  have short : (f.payload.take (f.payload.length % 2 ^ 32)).length = f.payload.length % 2 ^ 32 :=
    length_take_of_le (Nat.mod_le ..)
  refine decode_eq_ok_iff.mpr ⟨⟨[],rfl,?_⟩,?_,version⟩
  · simp only [Frame.encode,wireLayout,short,append_assoc,nil_append]
    rw [← append_assoc (f.payload.take _),take_append_drop]
  · rw [short]
    exact fits

theorem decode_multiple {payload : List UInt8} (wraps : payload.length % 2 ^ 32 = 0) :
    decode (Frame.encode ⟨1,1,payload⟩ ++ []) = .ok (⟨1,1,[]⟩,payload) := by
  have read := decode_wrapped ⟨1,1,payload⟩ [] rfl (by rw [wraps]; exact Nat.zero_le _)
  simpa only [wraps,take_zero,drop_zero,append_nil] using read

/-- `Decode` gives back an encoded frame exactly when its version is supported and its payload within the limit. -/
theorem encode_read_back_iff (f : Frame) (following : List UInt8) :
    (∃ rest, decode (f.encode ++ following) = .ok (f,rest)) ↔
      (minVersion ≤ f.version.toNat ∧ f.version.toNat ≤ maxVersion) ∧ f.payload.length ≤ 10 * 1024 * 1024 := by
  constructor
  · rintro ⟨rest,read⟩
    obtain ⟨_,fits,version⟩ := decode_eq_ok_iff.mp read
    exact ⟨(supported_iff f).mpr version,fits⟩
  · rintro ⟨supported,fits⟩
    exact ⟨following,decode_encode f following fits ((supported_iff f).mp supported)⟩

/-- A frame of version 2 is refused; one with 2^32 bytes of payload is read as one without. -/
theorem encoded_frames_lost : (¬ ∃ rest, decode (Frame.encode ⟨2,1,[]⟩ ++ []) = .ok (⟨2,1,[]⟩,rest)) ∧
      decode (Frame.encode ⟨1,1,replicate (2 ^ 32) 0⟩ ++ []) = .ok (⟨1,1,[]⟩,replicate (2 ^ 32) 0) := by
  constructor
  · rintro ⟨rest,read⟩
    obtain ⟨_,_,version⟩ := decode_eq_ok_iff.mp read
    exact absurd version (by decide)
  · apply decode_multiple
    rw [length_replicate,Nat.mod_self]

end McpBridge.WireCodec
