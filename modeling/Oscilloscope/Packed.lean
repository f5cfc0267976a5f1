/- Fixed-width wire forms. Taking undoes writing, and writing undoes taking. -/

import Oscilloscope.Bytes

set_option autoImplicit false
set_option relaxedAutoImplicit false

namespace Oscilloscope

/-- Values that occupy `width` bytes each. Every byte string of that width is the form of one. -/
class Packed (α : Type) where
  width : Nat
  bytes : α → Bytes
  /-- The value in front, and the bytes behind it. -/
  take : Bytes → α × Bytes
  length_bytes : ∀ a, (bytes a).length = width
  take_bytes : ∀ a rest, take (bytes a ++ rest) = (a, rest)
  bytes_take : ∀ bs, width ≤ bs.length → bytes (take bs).1 ++ (take bs).2 = bs

namespace Packed

variable {α β : Type}

/-- A word of `w` bytes, least significant byte first. -/
abbrev word (w : Nat) (toNat : α → Nat) (ofNat : Nat → α)
    (toNat_lt : ∀ a, toNat a < Bytes.capacity w) (ofNat_toNat : ∀ a, ofNat (toNat a) = a)
    (toNat_ofNat : ∀ n, n < Bytes.capacity w → toNat (ofNat n) = n) : Packed α where
  width := w
  bytes a := Bytes.ofNatLE w (toNat a)
  take bs := (ofNat (Bytes.toNatLE (bs.take w)), bs.drop w)
  length_bytes a := Bytes.length_ofNatLE w (toNat a)
  take_bytes a rest := by
    have hlen := Bytes.length_ofNatLE w (toNat a)
    rw [List.take_append_of_le_length (by omega), List.drop_append_of_le_length (by omega),
      List.take_of_length_le (by omega), List.drop_of_length_le (by omega),
      Bytes.toNatLE_ofNatLE, Nat.mod_eq_of_lt (toNat_lt a), ofNat_toNat]
    rfl
  bytes_take bs h := by
    have hlen : (bs.take w).length = w := by simp [Nat.min_eq_left h]
    have hlt := Bytes.toNatLE_lt (bs.take w)
    have hround := Bytes.ofNatLE_toNatLE (bs.take w)
    rw [hlen] at hlt hround
    simp only [toNat_ofNat _ hlt, hround, List.take_append_drop]

instance : Packed UInt8 :=
  word 1 UInt8.toNat UInt8.ofNat (fun a => a.toNat_lt) (fun a => by simp)
    (fun n h => by simpa using (show n < 256 from h))

instance : Packed UInt16 :=
  word 2 UInt16.toNat UInt16.ofNat (fun a => a.toNat_lt) (fun a => by simp)
    (fun n h => by simpa using (show n < 65536 from h))

instance : Packed UInt64 :=
  word 8 UInt64.toNat UInt64.ofNat (fun a => a.toNat_lt) (fun a => by simp)
    (fun n h => by simpa using (show n < 18446744073709551616 from h))

/-- Signed words are written in two's complement. -/
instance : Packed Int16 :=
  word 2 (fun a => a.toUInt16.toNat) (fun n => (UInt16.ofNat n).toInt16)
    (fun a => a.toUInt16.toNat_lt) (fun a => by simp)
    (fun n h => by simpa using (show n < 65536 from h))

instance : Packed Int64 :=
  word 8 (fun a => a.toUInt64.toNat) (fun n => (UInt64.ofNat n).toInt64)
    (fun a => a.toUInt64.toNat_lt) (fun a => by simp)
    (fun n h => by simpa using (show n < 18446744073709551616 from h))

instance [Packed α] [Packed β] : Packed (α × β) where
  width := width α + width β
  bytes p := bytes p.1 ++ bytes p.2
  take bs :=
    let a := take bs
    let b := take a.2
    ((a.1, b.1), b.2)
  length_bytes p := by simp [length_bytes]
  take_bytes p rest := by simp [List.append_assoc, take_bytes]
  bytes_take bs h := by
    have ha := bytes_take (α := α) bs (by omega)
    have hlen := congrArg List.length ha
    rw [List.length_append, length_bytes] at hlen
    have hb := bytes_take (α := β) (take (α := α) bs).2 (by omega)
    simp only [List.append_assoc, hb, ha]

/-- The form of `α` is that of its fields `β`, in their order. -/
abbrev via [Packed β] (fields : α → β) (build : β → α) (build_fields : ∀ a, build (fields a) = a)
    (fields_build : ∀ b, fields (build b) = b) : Packed α where
  width := width β
  bytes a := bytes (fields a)
  take bs := (build (take bs).1, (take (α := β) bs).2)
  length_bytes a := length_bytes (fields a)
  take_bytes a rest := by simp [take_bytes, build_fields]
  bytes_take bs h := by simp only [fields_build]; exact bytes_take bs h

end Packed

end Oscilloscope
