/- Byte strings and fixed-width little-endian integers. -/

set_option autoImplicit false
set_option relaxedAutoImplicit false

namespace Oscilloscope

/-- Lists rather than packed arrays: the laws below take them apart byte by byte. -/
abbrev Bytes := List UInt8

namespace Bytes

def capacity : Nat → Nat
  | 0 => 1
  | w + 1 => 256 * capacity w

/-- The `w` low bytes of `n`, least significant first. -/
def ofNatLE : Nat → Nat → Bytes
  | 0, _ => []
  | w + 1, n => UInt8.ofNat n :: ofNatLE w (n / 256)

def toNatLE : Bytes → Nat
  | [] => 0
  | b :: bs => b.toNat + 256 * toNatLE bs

@[simp] theorem length_ofNatLE (w n : Nat) : (ofNatLE w n).length = w := by
  induction w generalizing n with
  | zero => rfl
  | succ w ih => simp [ofNatLE, ih]

theorem toNatLE_lt (bs : Bytes) : toNatLE bs < capacity bs.length := by
  induction bs with
  | nil => decide
  | cons b bs ih =>
    have hb := b.toNat_lt
    simp only [toNatLE, List.length_cons, capacity]
    omega

theorem toNatLE_ofNatLE (w n : Nat) : toNatLE (ofNatLE w n) = n % capacity w := by
  induction w generalizing n with
  | zero => simp [ofNatLE, toNatLE, capacity, Nat.mod_one]
  | succ w ih =>
    rw [ofNatLE, toNatLE, ih, capacity, Nat.mod_mul]
    simp

theorem ofNatLE_toNatLE (bs : Bytes) : ofNatLE bs.length (toNatLE bs) = bs := by
  induction bs with
  | nil => rfl
  | cons b bs ih =>
    have hb := b.toNat_lt
    have hdiv : (b.toNat + 256 * toNatLE bs) / 256 = toNatLE bs := by omega
    have hlow : UInt8.ofNat (b.toNat + 256 * toNatLE bs) = b := by
      apply UInt8.toNat.inj
      simp
    simp [ofNatLE, toNatLE, hdiv, hlow, ih]

end Bytes

end Oscilloscope
