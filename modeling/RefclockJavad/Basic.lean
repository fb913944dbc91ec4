import Mathlib.Logic.Function.Basic
import Mathlib.Data.List.Infix
import Mathlib.Algebra.Group.Int

namespace RefclockJavad.Basic

def weeksecs : Nat := 7 * 24 * 60 * 60

def gpsEpoch : Nat := 315964800

theorem weeksecs_eq : weeksecs = 604800 := rfl

inductive ByteOrder
  | little
  | big
  deriving DecidableEq, Repr

def rawShort : ByteOrder → UInt8 → UInt8 → Nat
  | .little, b0, b1 => b0.toNat + 256 * b1.toNat
  | .big, b0, b1 => 256 * b0.toNat + b1.toNat

/-- `getshort`: a wire short as the host sees it, swapped on a big-endian host. -/
def getshort : ByteOrder → Nat → Nat
  | .little, s => s % 65536
  | .big, s => s % 256 * 256 + s / 256 % 256

def putshort : ByteOrder → Nat → Nat := getshort

theorem toNat_lt_256 (b : UInt8) : b.toNat < 256 := b.toBitVec.isLt

theorem getshort_rawShort (order : ByteOrder) (b0 b1 : UInt8) :
    getshort order (rawShort order b0 b1) = b0.toNat + 256 * b1.toNat := by
  have h0 := toNat_lt_256 b0
  have h1 := toNat_lt_256 b1
  cases order <;> simp only [getshort, rawShort] <;> omega

theorem getshort_lt (order : ByteOrder) (s : Nat) : getshort order s < 65536 := by
  cases order <;> simp only [getshort] <;> omega

theorem getshort_putshort (order : ByteOrder) {x : Nat} (hx : x < 65536) :
    getshort order (putshort order x) = x := by
  cases order with
  | little => simp only [putshort, getshort]; omega
  | big =>
      obtain ⟨a, b, hb, rfl⟩ : ∃ a b, b < 256 ∧ x = 256 * a + b :=
        ⟨x / 256, x % 256, Nat.mod_lt _ (by decide), (Nat.div_add_mod x 256).symm⟩
      have ha : a < 256 := by omega
      simp only [putshort, getshort, Nat.mul_add_mod, Nat.mod_eq_of_lt hb,
        Nat.mul_add_div (by decide : 0 < 256), Nat.div_eq_of_lt hb, Nat.add_zero, Nat.mod_eq_of_lt ha]
      omega

end RefclockJavad.Basic
