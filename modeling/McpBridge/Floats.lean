import Mathlib.Data.Int.Log
import Mathlib.Data.Rat.Floor
import Mathlib.Tactic.Positivity

/-!
Binary floating point and its decimal text, over the rationals. A format has the multiples of powers of two with so many
bits; a number is read as the nearest one, ties to even, and written as the shortest decimal that reads back.
-/
namespace McpBridge.Floats

def roundEven (x : Rat) : Int :=
  if x - ⌊x⌋ < 1 / 2 then ⌊x⌋
  else if 1 / 2 < x - ⌊x⌋ then ⌊x⌋ + 1
  else if ⌊x⌋ % 2 = 0 then ⌊x⌋ else ⌊x⌋ + 1

def onGrid (base : Nat) (e : Int) (x : Rat) : Rat := roundEven (x / (base : Rat) ^ e) * (base : Rat) ^ e

structure Format where
  precision : Nat
  /-- The exponent of the last place of the numbers near zero. -/
  minExponent : Int
  maxExponent : Int
  positive : 0 < precision

def binary64 : Format := ⟨53,-1074,1024,by decide⟩

namespace Format
variable (F : Format)

def place (x : Rat) : Int := max (Int.log 2 |x| + 1 - F.precision) F.minExponent

def nearest (x : Rat) : Option Rat :=
  if |onGrid 2 (F.place x) x| < (2 : Rat) ^ F.maxExponent then some (onGrid 2 (F.place x) x) else none

variable {F}

end Format

def decimals (e : Int) (x : Rat) : List Rat :=
  let m := roundEven (x / 10 ^ e)
  let other := if (m : Rat) ≤ x / 10 ^ e then m + 1 else m - 1
  [m * 10 ^ e,other * 10 ^ e]

/-- The shortest decimal that reads back as the number, up to this number of digits. -/
def Format.shortest (F : Format) (digits : Nat) (d : Rat) : Rat :=
  let tried := (List.range digits).flatMap fun n : Nat => decimals (Int.log 10 |d| - n) d
  (tried.find? fun q => F.nearest q = some d).getD d

def Format.printed (F : Format) (digits : Nat) (x : Rat) : Option Rat := (F.nearest x).map (F.shortest digits)

example : binary64.printed 17 (1 / 10) = some (1 / 10) := by decide +kernel

end McpBridge.Floats
