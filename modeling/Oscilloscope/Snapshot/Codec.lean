/- The wire form of a snapshot: 240 bytes, blocks in a fixed order, the fields of a block in
   declaration order. Only the last two fields of the math block stand apart, at the very end. -/

import Oscilloscope.Frame
import Oscilloscope.Packed
import Oscilloscope.Snapshot.Basic

set_option autoImplicit false
set_option relaxedAutoImplicit false

namespace Oscilloscope

instance {α : Type} [Packed α] : Packed (PerChannel α) :=
  .via (fun p => (p.ch1, p.ch2)) (fun (a, b) => ⟨a, b⟩) (fun _ => rfl) (fun _ => rfl)

instance : Packed VerticalRegisters :=
  .via
    (fun v => (v.shown, v.range, v.coupling, v.filter, v.fine, v.probe, v.inverted, v.fineCount,
      v.position))
    (fun (a, b, c, d, e, f, g, h, i) => ⟨a, b, c, d, e, f, g, h, i⟩)
    (fun _ => rfl) (fun _ => rfl)

instance : Packed TriggerDetail :=
  .via
    (fun t => (t.edgeSlope, t.videoPolarity, t.videoStandard, t.videoSync, t.videoLine,
      t.pulsePolarity, t.pulseCondition, t.pulseTime, t.slopeSet, t.slopeWindow, t.slopeCondition,
      t.slopeFirst, t.slopeSecond, t.slopeTime))
    (fun (a, b, c, d, e, f, g, h, i, j, k, l, m, n) => ⟨a, b, c, d, e, f, g, h, i, j, k, l, m, n⟩)
    (fun _ => rfl) (fun _ => rfl)

instance : Packed TriggerRegisters :=
  .via
    (fun t => (t.state, t.kind, t.source, t.mode, t.coupling, t.level, t.frequency, t.holdMin,
      t.holdMax, t.hold, t.detail))
    (fun (a, b, c, d, e, f, g, h, i, j, k) => ⟨a, b, c, d, e, f, g, h, i, j, k⟩)
    (fun _ => rfl) (fun _ => rfl)

instance : Packed SwapTrigger :=
  .via (fun t => (t.kind, t.mode, t.coupling, t.detail)) (fun (a, b, c, d) => ⟨a, b, c, d⟩)
    (fun _ => rfl) (fun _ => rfl)

instance : Packed OvertimeTrigger :=
  .via (fun t => (t.polarity, t.time)) (fun (a, b) => ⟨a, b⟩) (fun _ => rfl) (fun _ => rfl)

instance : Packed SwapExtra :=
  .via (fun t => (t.level, t.overtime)) (fun (a, b) => ⟨a, b⟩) (fun _ => rfl) (fun _ => rfl)

instance : Packed HorizontalRegisters :=
  .via (fun t => (t.mainTimebase, t.windowTimebase, t.windowState, t.triggerTime))
    (fun (a, b, c, d) => ⟨a, b, c, d⟩) (fun _ => rfl) (fun _ => rfl)

instance : Packed DisplayRegisters :=
  .via
    (fun t => (t.mode, t.persistence, t.format, t.contrast, t.maxContrast, t.gridKind,
      t.gridBrightness, t.maxGridBrightness))
    (fun (a, b, c, d, e, f, g, h) => ⟨a, b, c, d, e, f, g, h⟩) (fun _ => rfl) (fun _ => rfl)

instance : Packed AcquireRegisters :=
  .via (fun t => (t.mode, t.averageCount, t.kind, t.memoryDepth)) (fun (a, b, c, d) => ⟨a, b, c, d⟩)
    (fun _ => rfl) (fun _ => rfl)

instance : Packed Measurement :=
  .via (fun t => (t.source, t.item)) (fun (a, b) => ⟨a, b⟩) (fun _ => rfl) (fun _ => rfl)

instance : Packed (Vector Measurement 8) :=
  .via (fun t => (t[0], t[1], t[2], t[3], t[4], t[5], t[6], t[7]))
    (fun (a, b, c, d, e, f, g, h) => #v[a, b, c, d, e, f, g, h])
    (fun t => by
      ext i hi : 1
      match i, hi with
      | 0, _ | 1, _ | 2, _ | 3, _ | 4, _ | 5, _ | 6, _ | 7, _ => rfl)
    (fun _ => rfl)

instance : Packed ControlRegisters :=
  .via (fun t => (t.model, t.menu, t.menuShown, t.multiWindow)) (fun (a, b, c, d) => ⟨a, b, c, d⟩)
    (fun _ => rfl) (fun _ => rfl)

instance : Packed Snapshot :=
  .via
    (fun s => (s.vertical, s.trigger, s.swap, s.overtime, s.horizontal,
      (s.math.shown, s.math.mode, s.math.fftSource, s.math.fftWindow, s.math.fftFactor,
        s.math.fftDecibels),
      s.display, s.acquire, s.measurements, s.control, s.swapExtra, s.math.fftBase,
      s.math.fftVrms))
    (fun (vertical, trigger, swap, overtime, horizontal, (a, b, c, d, e, f), display, acquire,
        measurements, control, swapExtra, g, h) =>
      ⟨vertical, trigger, swap, overtime, horizontal, ⟨a, b, c, d, e, f, g, h⟩, display, acquire,
        measurements, control, swapExtra⟩)
    (fun _ => rfl) (fun _ => rfl)

namespace Snapshot

def size : Nat := 240

def encode (s : Snapshot) : Bytes :=
  Packed.bytes s

/-- Reads a snapshot from the front of a payload; what follows it does not count. -/
def decode (payload : Bytes) : Except FrameFault Snapshot :=
  if payload.length < size then .error (.snapshotTooShort size payload.length)
  else .ok (Packed.take payload).1

def zero : Snapshot :=
  (Packed.take (List.replicate size 0)).1

private theorem width_eq : Packed.width Snapshot = size := rfl

@[simp] theorem length_encode (s : Snapshot) : s.encode.length = 240 :=
  Packed.length_bytes s

theorem decode_encode_append (s : Snapshot) (rest : Bytes) : decode (s.encode ++ rest) = .ok s := by
  have h : ¬ (s.encode ++ rest).length < size := by simp [size]
  rw [decode, if_neg h, encode, Packed.take_bytes]

@[simp] theorem decode_encode (s : Snapshot) : decode s.encode = .ok s := by
  rw [← List.append_nil s.encode]
  exact decode_encode_append s []

theorem encode_of_decode {payload : Bytes} {s : Snapshot} (h : decode payload = .ok s) :
    s.encode = payload.take 240 := by
  unfold decode at h
  split at h
  · exact absurd h (by simp)
  · rename_i hlen
    cases h
    have hround := Packed.bytes_take (α := Snapshot) payload (by rw [width_eq]; omega)
    have hwidth := Packed.length_bytes (Packed.take (α := Snapshot) payload).1
    rw [encode]
    conv => rhs; rw [← hround]
    exact (List.take_left' hwidth).symm

end Snapshot

end Oscilloscope
