import Mathlib.Algebra.Ring.Nat
import Mathlib.Data.List.Induction

/-!
Frames on a byte stream: a header of big-endian fields with the length of the payload, and the payload. A reader takes
bytes from the front of a stream and yields a value or an error.
-/
namespace McpBridge.Frames
open List
universe u

def bigEndian : Nat → Nat → List UInt8
  | 0,_ => []
  | width + 1,n => bigEndian width (n / 256) ++ [UInt8.ofNat n]

def ofBigEndian (bytes : List UInt8) : Nat := bytes.foldl (fun n byte => n * 256 + byte.toNat) 0

@[simp] theorem length_bigEndian (width n : Nat) : (bigEndian width n).length = width := by
  induction width generalizing n with
  | zero => rfl
  | succ width ih => simp [bigEndian,ih]

theorem ofBigEndian_concat (front : List UInt8) (byte : UInt8) :
    ofBigEndian (front ++ [byte]) = ofBigEndian front * 256 + byte.toNat := by
  simp [ofBigEndian]

theorem ofBigEndian_bigEndian (width n : Nat) : ofBigEndian (bigEndian width n) = n % 256 ^ width := by
  induction width generalizing n with
  | zero => simp [bigEndian,ofBigEndian,Nat.mod_one]
  | succ width ih =>
    have byte : (UInt8.ofNat n).toNat = n % 256 := UInt8.toNat_ofNat'
    rw [bigEndian,ofBigEndian_concat,ih,byte,Nat.pow_succ,Nat.mul_comm (256 ^ width) 256,Nat.mod_mul]
    omega

theorem ofBigEndian_lt (bytes : List UInt8) : ofBigEndian bytes < 256 ^ bytes.length := by
  induction bytes using reverseRecOn with
  | nil => simp [ofBigEndian]
  | append_singleton front byte ih =>
    have small : byte.toNat < 256 := byte.toNat_lt
    rw [ofBigEndian_concat,length_append,length_singleton,Nat.pow_succ]
    omega

theorem bigEndian_ofBigEndian (bytes : List UInt8) : bigEndian bytes.length (ofBigEndian bytes) = bytes := by
  induction bytes using reverseRecOn with
  | nil => rfl
  | append_singleton front byte ih =>
    have small : byte.toNat < 256 := byte.toNat_lt
    have high : (ofBigEndian front * 256 + byte.toNat) / 256 = ofBigEndian front := by omega
    have low : UInt8.ofNat (ofBigEndian front * 256 + byte.toNat) = byte := by
      apply UInt8.toNat_inj.mp
      rw [UInt8.toNat_ofNat']
      omega
    rw [ofBigEndian_concat,length_append,length_singleton,bigEndian,high,low,ih]

abbrev Reader (ε : Type) (α : Type u) := List UInt8 → Except ε (α × List UInt8)

/-- `io.EOF` and `io.ErrUnexpectedEOF`. -/
inductive ReadError where
  | eof
  | unexpectedEOF
  deriving DecidableEq, Repr

def ReadError.text : ReadError → String
  | .eof => "EOF"
  | .unexpectedEOF => "unexpected EOF"

/-- `io.ReadFull` into a buffer of the given length. -/
def readFull (length : Nat) : Reader ReadError (List UInt8) := fun bytes =>
  if length ≤ bytes.length then .ok (bytes.take length,bytes.drop length)
  else if bytes.isEmpty then .error .eof
  else .error .unexpectedEOF

/-- `binary.Read` of an unsigned integer with `binary.BigEndian`. -/
def readUint (width : Nat) : Reader ReadError Nat := fun bytes =>
  match readFull width bytes with
  | .error err => .error err
  | .ok (word,rest) => .ok (ofBigEndian word,rest)

/-- One reader after the other, with the error of the first wrapped. -/
def andThen {ε ε' : Type} {α β : Type u} (first : Reader ε α) (wrap : ε → ε') (second : α → Reader ε' β) :
    Reader ε' β := fun bytes =>
  match first bytes with
  | .error err => .error (wrap err)
  | .ok (x,rest) => second x rest

theorem readFull_eq_ok_iff {length : Nat} {bytes word rest : List UInt8} :
    readFull length bytes = .ok (word,rest) ↔ word.length = length ∧ bytes = word ++ rest := by
  unfold readFull
  constructor
  · intro read
    split at read
    next long =>
      cases read
      exact ⟨length_take_of_le long,(take_append_drop length bytes).symm⟩
    next =>
      split at read <;> cases read
  · rintro ⟨rfl,rfl⟩
    rw [if_pos (by simp),take_left,drop_left]

variable {bytes rest : List UInt8}

theorem readUint_eq_ok_iff {width n : Nat} :
    readUint width bytes = .ok (n,rest) ↔ n < 256 ^ width ∧ bytes = bigEndian width n ++ rest := by
  unfold readUint
  constructor
  · intro read
    split at read
    next => cases read
    next word left full =>
      cases read
      obtain ⟨rfl,rfl⟩ := readFull_eq_ok_iff.mp full
      exact ⟨ofBigEndian_lt word,by rw [bigEndian_ofBigEndian]⟩
  · rintro ⟨small,rfl⟩
    have full : readFull width (bigEndian width n ++ rest) = .ok (bigEndian width n,rest) :=
      readFull_eq_ok_iff.mpr ⟨length_bigEndian width n,rfl⟩
    rw [full]
    simp only [ofBigEndian_bigEndian,Nat.mod_eq_of_lt small]

theorem andThen_eq_ok_iff {ε ε' : Type} {α β : Type u} {first : Reader ε α} {wrap : ε → ε'} {second : α → Reader ε' β}
    {y : β} : andThen first wrap second bytes = .ok (y,rest) ↔
      ∃ x left, first bytes = .ok (x,left) ∧ second x left = .ok (y,rest) := by
  unfold andThen
  constructor
  · intro read
    split at read
    next => cases read
    next x left taken => exact ⟨x,left,taken,read⟩
  · rintro ⟨x,left,taken,read⟩
    rw [taken]
    exact read

/-- The same reader again and again, for so many values. -/
def readMany {ε : Type} {α : Type u} (reader : Reader ε α) : Nat → Reader ε (List α)
  | 0 => fun bytes => .ok ([],bytes)
  | n + 1 => andThen reader id fun x => andThen (readMany reader n) id fun xs bytes => .ok (x :: xs,bytes)

/-- A reader that reads back each written value, and leaves what follows, reads back a whole stream. -/
theorem readMany_flatMap {ε : Type} {α : Type u} {reader : Reader ε α} {write : α → List UInt8} {xs : List α}
    (reads : ∀ x ∈ xs, ∀ following, reader (write x ++ following) = .ok (x,following)) (tail : List UInt8) :
    readMany reader xs.length (xs.flatMap write ++ tail) = .ok (xs,tail) := by
  induction xs with
  | nil => rfl
  | cons x xs ih =>
    rw [flatMap_cons,append_assoc,length_cons,readMany,andThen_eq_ok_iff]
    refine ⟨x,xs.flatMap write ++ tail,reads x mem_cons_self _,?_⟩
    rw [andThen_eq_ok_iff]
    exact ⟨xs,tail,ih fun y found => reads y (mem_cons_of_mem x found),rfl⟩

/-- The header of a frame besides the version, the type and the length. -/
structure Layout where
  magic : Nat
  padding : Nat
  magic_lt : magic < 256 ^ 4

/-- The stream opens with a frame of the layout, and the rest follows it. -/
def Layout.Opens (layout : Layout) (version messageType : UInt16) (payload rest bytes : List UInt8) : Prop :=
  ∃ reserved : List UInt8, reserved.length = layout.padding ∧
    bytes = bigEndian 4 layout.magic ++ (bigEndian 2 version.toNat ++ (bigEndian 2 messageType.toNat ++
      (reserved ++ (bigEndian 4 payload.length ++ (payload ++ rest)))))

end McpBridge.Frames
