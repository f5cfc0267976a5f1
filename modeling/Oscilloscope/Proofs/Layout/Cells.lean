/- A snapshot as its registers one after the other. Each has a fixed place among the 240 bytes, and
   replacing one leaves all bytes outside that place as they are. -/

import Mathlib.Algebra.GroupWithZero.Nat
import Oscilloscope.Snapshot.Codec

set_option autoImplicit false
set_option relaxedAutoImplicit false

namespace Oscilloscope

open Packed

/-- Pieces put together, with nothing behind the last one. -/
def joined : List Bytes → Bytes
  | [] => []
  | [last] => last
  | piece :: rest => piece ++ joined rest

private theorem flatten_eq_joined (pieces : List Bytes) : pieces.flatten = joined pieces := by
  induction pieces with
  | nil => rfl
  | cons piece rest ih =>
    rw [List.flatten_cons, ih]
    cases rest with
    | nil => exact List.append_nil piece
    | cons => rfl

/-- Bytes in front of piece `k` among pieces of these widths. -/
def offsetOf : List Nat → Nat → Nat
  | _, 0 => 0
  | [], _ + 1 => 0
  | width :: rest, k + 1 => width + offsetOf rest k

private theorem length_flatten_take (pieces : List Bytes) (k : Nat) :
    (pieces.take k).flatten.length = offsetOf (pieces.map List.length) k := by
  induction pieces generalizing k with
  | nil => cases k <;> rfl
  | cons piece rest ih =>
    cases k with
    | zero => rfl
    | succ k =>
      rw [List.take_succ_cons, List.flatten_cons, List.length_append, ih]
      rfl

theorem offsetOf_succ {widths : List Nat} {k width : Nat} (hwidth : widths[k]? = some width) :
    offsetOf widths (k + 1) = offsetOf widths k + width := by
  induction widths generalizing k with
  | nil => cases hwidth
  | cons first rest ih =>
    cases k with
    | zero =>
      cases hwidth
      simp [offsetOf]
    | succ k =>
      rw [List.getElem?_cons_succ] at hwidth
      rw [offsetOf, ih hwidth, offsetOf, Nat.add_assoc]

theorem exists_piece_at (widths : List Nat) {i : Nat} (inside : i < widths.sum) :
    ∃ k width, widths[k]? = some width ∧ offsetOf widths k ≤ i ∧ i < offsetOf widths k + width := by
  induction widths generalizing i with
  | nil => exact absurd inside (Nat.not_lt_zero i)
  | cons first rest ih =>
    rw [List.sum_cons] at inside
    rcases Nat.lt_or_ge i first with within | behind
    · exact ⟨0, first, rfl, Nat.zero_le i, by simpa [offsetOf] using within⟩
    · obtain ⟨k, width, hwidth, low, high⟩ := ih (i := i - first) (by omega)
      refine ⟨k + 1, width, hwidth, ?_, ?_⟩
      · rw [offsetOf]
        omega
      · rw [offsetOf]
        omega

/-- `cells` are `whole` cut into pieces of these widths. -/
structure Cuts (widths : List Nat) (whole : Bytes) (cells : List Bytes) : Prop where
  flatten : cells.flatten = whole
  lengths : cells.map List.length = widths

namespace Cuts

variable {widths later : List Nat} {whole rest : Bytes} {cells more : List Bytes}

private theorem of_joined (flatten : joined cells = whole)
    (lengths : cells.map List.length = widths) :
    Cuts widths whole cells :=
  ⟨(flatten_eq_joined cells).trans flatten, lengths⟩

private theorem append (first : Cuts widths whole cells) (second : Cuts later rest more) :
    Cuts (widths ++ later) (whole ++ rest) (cells ++ more) where
  flatten := by rw [List.flatten_append, first.flatten, second.flatten]
  lengths := by rw [List.map_append, first.lengths, second.lengths]

private theorem parts (cut : Cuts widths whole cells) {k : Nat} {piece : Bytes}
    (hpiece : cells[k]? = some piece) :
    (cells.take k).flatten.length = offsetOf widths k ∧
      whole = (cells.take k).flatten ++ (piece ++ (cells.drop (k + 1)).flatten) := by
  obtain ⟨hk, hget⟩ := List.getElem?_eq_some_iff.mp hpiece
  constructor
  · rw [length_flatten_take, cut.lengths]
  · rw [← cut.flatten, ← List.flatten_cons, ← List.flatten_append, ← hget,
      List.getElem_cons_drop, List.take_append_drop]

theorem split (cut : Cuts widths whole cells) {k : Nat} {piece : Bytes}
    (hpiece : cells[k]? = some piece) :
    ∃ front back, whole = front ++ (piece ++ back) ∧ front.length = offsetOf widths k :=
  ⟨_, _, (cut.parts hpiece).2, (cut.parts hpiece).1⟩

private theorem around (cut : Cuts widths whole cells) {k width : Nat}
    (hwidth : widths[k]? = some width) :
    ∃ piece, piece.length = width ∧ (cells.take k).flatten.length = offsetOf widths k ∧
      whole = (cells.take k).flatten ++ (piece ++ (cells.drop (k + 1)).flatten) := by
  rw [← cut.lengths, List.getElem?_map, Option.map_eq_some_iff] at hwidth
  obtain ⟨piece, hpiece, hlength⟩ := hwidth
  exact ⟨piece, hlength, cut.parts hpiece⟩

theorem getElem?_outside {other : Bytes} {k offset width : Nat} {piece : Bytes}
    (cut : Cuts widths whole cells) (changed : Cuts widths other (cells.set k piece))
    (offset_eq : offsetOf widths k = offset) (hwidth : widths[k]? = some width) {i : Nat}
    (outside : i < offset ∨ offset + width ≤ i) : other[i]? = whole[i]? := by
  obtain ⟨old, hold, hfront, hwhole⟩ := cut.around hwidth
  obtain ⟨new, hnew, -, hother⟩ := changed.around hwidth
  rw [List.take_set_of_le (Nat.le_refl k), List.drop_set_of_lt (Nat.lt_succ_self k)] at hother
  rw [hwhole, hother]
  rcases outside with before | behind
  · have hin : i < (cells.take k).flatten.length := by omega
    rw [List.getElem?_append_left hin, List.getElem?_append_left hin]
  · have hpast : (cells.take k).flatten.length ≤ i := by omega
    have hpastOld : old.length ≤ i - (cells.take k).flatten.length := by omega
    have hpastNew : new.length ≤ i - (cells.take k).flatten.length := by omega
    rw [List.getElem?_append_right hpast, List.getElem?_append_right hpast,
      List.getElem?_append_right hpastOld, List.getElem?_append_right hpastNew, hold, hnew]

end Cuts

def VerticalRegisters.cells (v : VerticalRegisters) : List Bytes :=
  [bytes v.shown, bytes v.range, bytes v.coupling, bytes v.filter, bytes v.fine, bytes v.probe,
    bytes v.inverted, bytes v.fineCount, bytes v.position]

private theorem VerticalRegisters.cuts (v : VerticalRegisters) :
    Cuts [1, 1, 1, 1, 1, 1, 1, 1, 2] (bytes v) v.cells :=
  .of_joined rfl rfl

def TriggerDetail.cells (t : TriggerDetail) : List Bytes :=
  [bytes t.edgeSlope, bytes t.videoPolarity, bytes t.videoStandard, bytes t.videoSync,
    bytes t.videoLine, bytes t.pulsePolarity, bytes t.pulseCondition, bytes t.pulseTime,
    bytes t.slopeSet, bytes t.slopeWindow, bytes t.slopeCondition, bytes t.slopeFirst,
    bytes t.slopeSecond, bytes t.slopeTime]

def TriggerDetail.widths : List Nat :=
  [1, 1, 1, 1, 2, 1, 1, 8, 1, 1, 1, 2, 2, 8]

def TriggerRegisters.cells (t : TriggerRegisters) : List Bytes :=
  [bytes t.state, bytes t.kind, bytes t.source, bytes t.mode, bytes t.coupling, bytes t.level,
    bytes t.frequency, bytes t.holdMin, bytes t.holdMax, bytes t.hold] ++ t.detail.cells

private theorem TriggerRegisters.cuts (t : TriggerRegisters) :
    Cuts ([1, 1, 1, 1, 1, 2, 8, 8, 8, 8] ++ TriggerDetail.widths) (bytes t) t.cells :=
  .of_joined rfl rfl

def SwapTrigger.cells (t : SwapTrigger) : List Bytes :=
  [bytes t.kind, bytes t.mode, bytes t.coupling] ++ t.detail.cells

private theorem SwapTrigger.cuts (t : SwapTrigger) :
    Cuts ([1, 1, 1] ++ TriggerDetail.widths) (bytes t) t.cells :=
  .of_joined rfl rfl

def OvertimeTrigger.cells (t : OvertimeTrigger) : List Bytes :=
  [bytes t.polarity, bytes t.time]

private theorem OvertimeTrigger.cuts (t : OvertimeTrigger) : Cuts [1, 8] (bytes t) t.cells :=
  .of_joined rfl rfl

def SwapExtra.cells (t : SwapExtra) : List Bytes :=
  [bytes t.level] ++ t.overtime.cells

private theorem SwapExtra.cuts (t : SwapExtra) : Cuts [2, 1, 8] (bytes t) t.cells :=
  .of_joined rfl rfl

def HorizontalRegisters.cells (h : HorizontalRegisters) : List Bytes :=
  [bytes h.mainTimebase, bytes h.windowTimebase, bytes h.windowState, bytes h.triggerTime]

private theorem HorizontalRegisters.cuts (h : HorizontalRegisters) :
    Cuts [1, 1, 1, 8] (bytes h) h.cells :=
  .of_joined rfl rfl

/-- The math registers but for the two that stand at the end of the snapshot. -/
def MathRegisters.cells (m : MathRegisters) : List Bytes :=
  [bytes m.shown, bytes m.mode, bytes m.fftSource, bytes m.fftWindow, bytes m.fftFactor,
    bytes m.fftDecibels]

private theorem MathRegisters.cuts (m : MathRegisters) :
    Cuts [1, 1, 1, 1, 1, 1]
      (bytes (m.shown, m.mode, m.fftSource, m.fftWindow, m.fftFactor, m.fftDecibels)) m.cells :=
  .of_joined rfl rfl

def MathRegisters.lastCells (m : MathRegisters) : List Bytes :=
  [bytes m.fftBase, bytes m.fftVrms]

private theorem MathRegisters.lastCuts (m : MathRegisters) :
    Cuts [1, 1] (bytes (m.fftBase, m.fftVrms)) m.lastCells :=
  .of_joined rfl rfl

def DisplayRegisters.cells (d : DisplayRegisters) : List Bytes :=
  [bytes d.mode, bytes d.persistence, bytes d.format, bytes d.contrast, bytes d.maxContrast,
    bytes d.gridKind, bytes d.gridBrightness, bytes d.maxGridBrightness]

private theorem DisplayRegisters.cuts (d : DisplayRegisters) :
    Cuts [1, 1, 1, 1, 1, 1, 1, 1] (bytes d) d.cells :=
  .of_joined rfl rfl

def AcquireRegisters.cells (a : AcquireRegisters) : List Bytes :=
  [bytes a.mode, bytes a.averageCount, bytes a.kind, bytes a.memoryDepth]

private theorem AcquireRegisters.cuts (a : AcquireRegisters) :
    Cuts [1, 1, 1, 1] (bytes a) a.cells :=
  .of_joined rfl rfl

def Measurement.cells (m : Measurement) : List Bytes :=
  [bytes m.source, bytes m.item]

private theorem Measurement.cuts (m : Measurement) : Cuts [1, 1] (bytes m) m.cells :=
  .of_joined rfl rfl

def measurementCells (ms : Vector Measurement 8) : List Bytes :=
  (ms.get 0).cells ++ ((ms.get 1).cells ++ ((ms.get 2).cells ++ ((ms.get 3).cells ++
    ((ms.get 4).cells ++ ((ms.get 5).cells ++ ((ms.get 6).cells ++ (ms.get 7).cells))))))

private theorem measurement_cuts (ms : Vector Measurement 8) :
    Cuts (List.replicate 16 1) (bytes ms) (measurementCells ms) :=
  (ms.get 0).cuts.append <| (ms.get 1).cuts.append <| (ms.get 2).cuts.append <|
    (ms.get 3).cuts.append <| (ms.get 4).cuts.append <| (ms.get 5).cuts.append <|
      (ms.get 6).cuts.append (ms.get 7).cuts

def ControlRegisters.cells (c : ControlRegisters) : List Bytes :=
  [bytes c.model, bytes c.menu, bytes c.menuShown, bytes c.multiWindow]

private theorem ControlRegisters.cuts (c : ControlRegisters) :
    Cuts [1, 1, 1, 1] (bytes c) c.cells :=
  .of_joined rfl rfl

namespace Snapshot

def cells (s : Snapshot) : List Bytes :=
  (s.vertical.ch1.cells ++ s.vertical.ch2.cells) ++ (s.trigger.cells ++
    ((s.swap.ch1.cells ++ s.swap.ch2.cells) ++ (s.overtime.cells ++ (s.horizontal.cells ++
      (s.math.cells ++ (s.display.cells ++ (s.acquire.cells ++ (measurementCells s.measurements ++
        (s.control.cells ++ ((s.swapExtra.ch1.cells ++ s.swapExtra.ch2.cells) ++
          s.math.lastCells))))))))))

def widths : List Nat :=
  let vertical := [1, 1, 1, 1, 1, 1, 1, 1, 2]
  let swap := [1, 1, 1] ++ TriggerDetail.widths
  (vertical ++ vertical) ++ (([1, 1, 1, 1, 1, 2, 8, 8, 8, 8] ++ TriggerDetail.widths) ++
    ((swap ++ swap) ++ ([1, 8] ++ ([1, 1, 1, 8] ++ ([1, 1, 1, 1, 1, 1] ++
      ([1, 1, 1, 1, 1, 1, 1, 1] ++ ([1, 1, 1, 1] ++ (List.replicate 16 1 ++ ([1, 1, 1, 1] ++
        (([2, 1, 8] ++ [2, 1, 8]) ++ [1, 1]))))))))))

theorem cuts (s : Snapshot) : Cuts widths s.encode s.cells :=
  (s.vertical.ch1.cuts.append s.vertical.ch2.cuts).append <| s.trigger.cuts.append <|
    (s.swap.ch1.cuts.append s.swap.ch2.cuts).append <| s.overtime.cuts.append <|
      s.horizontal.cuts.append <| s.math.cuts.append <| s.display.cuts.append <|
        s.acquire.cuts.append <| (measurement_cuts s.measurements).append <|
          s.control.cuts.append <| (s.swapExtra.ch1.cuts.append s.swapExtra.ch2.cuts).append
            s.math.lastCuts

end Snapshot

end Oscilloscope
