/- Bytes that a setting may change. Applying it replaces one register, or two where a timebase moves
   the memory depth, and so leaves all other bytes of the snapshot as they are. -/

import Oscilloscope.Proofs.Layout.Cells
import Oscilloscope.Proofs.Setting.Apply

set_option autoImplicit false
set_option relaxedAutoImplicit false

namespace Oscilloscope

/-- Whether the memory depth has no sample rate at the timebase that `value` asks for. -/
def Snapshot.losesDepth (s : Snapshot) (value : Value) : Prop :=
  ∃ tb depth, value.ratio?.bind Timebase.ofWindowDivision? = some tb ∧ s.memoryDepth = .ok depth ∧
    maxSampleRate tb s.bothEnabled depth = 0

/-- The bytes of a setting among those of a snapshot. -/
inductive Setting.Owns (s : Snapshot) (value : Value) : Setting → Nat → Prop
  | enabled (c : ChannelId) : Owns s value (.channel .enabled c) (10 * c.index)
  | range (c : ChannelId) : Owns s value (.channel .range c) (10 * c.index + 1)
  | coupling (c : ChannelId) : Owns s value (.channel .coupling c) (10 * c.index + 2)
  | filter (c : ChannelId) : Owns s value (.channel .filter c) (10 * c.index + 3)
  | probe (c : ChannelId) : Owns s value (.channel .probe c) (10 * c.index + 5)
  | triggerSource : Owns s value (.device .triggerSource) 22
  | triggerLevel {i : Nat} (within : 25 ≤ i ∧ i ≤ 26) : Owns s value (.device .triggerLevel) i
  | triggerSlope : Owns s value (.device .triggerSlope) 59
  | triggerPosition {i : Nat} (within : 170 ≤ i ∧ i ≤ 177) :
      Owns s value (.device .triggerPosition) i
  | averaging : Owns s value (.device .averaging) 192
  | averageCount : Owns s value (.device .averageCount) 193
  | memoryDepth : Owns s value (.device .memoryDepth) 195
  | timebase : Owns s value (.device .timebase) 168
  | lostDepth (lost : s.losesDepth value) : Owns s value (.device .timebase) 195

namespace Snapshot

open Packed

variable {s t : Snapshot} {v : Value} {i : Nat}

private theorem getElem?_encode_of_cells (k offset width : Nat) {cell : Bytes}
    (changed : t.cells = s.cells.set k cell) (offset_eq : offsetOf widths k = offset)
    (hwidth : widths[k]? = some width) (outside : i < offset ∨ offset + width ≤ i) :
    t.encode[i]? = s.encode[i]? :=
  s.cuts.getElem?_outside (changed ▸ t.cuts) offset_eq hwidth outside

private theorem vertical_places : ∀ k < 8, offsetOf widths k = k ∧ widths[k]? = some 1 ∧
    offsetOf widths (9 + k) = 10 + k ∧ widths[9 + k]? = some 1 := by
  decide

private theorem getElem?_encode_setVertical {change : VerticalRegisters → VerticalRegisters}
    {cell : Bytes}
    (c : ChannelId) (k : Nat) (hk : k < 8)
    (changed : (change (s.vertical.get c)).cells = (s.vertical.get c).cells.set k cell)
    (outside : i ≠ 10 * c.index + k) : (s.setVertical c change).encode[i]? = s.encode[i]? := by
  obtain ⟨behind, hcells⟩ : ∃ behind, ∀ vertical, ({ s with vertical } : Snapshot).cells =
      (vertical.ch1.cells ++ vertical.ch2.cells) ++ behind :=
    ⟨s.cells.drop 18, fun _ => rfl⟩
  have hold : s.cells = (s.vertical.ch1.cells ++ s.vertical.ch2.cells) ++ behind :=
    hcells s.vertical
  have hlength (v : VerticalRegisters) : v.cells.length = 9 := rfl
  obtain ⟨offset1, at1, offset2, at2⟩ := vertical_places k hk
  cases c with
  | ch1 =>
    have hset : (s.setVertical .ch1 change).cells = s.cells.set k cell := by
      rw [hold, List.set_append_left _ _ (by rw [List.length_append, hlength, hlength]; omega),
        List.set_append_left _ _ (by rw [hlength]; omega), setVertical, hcells]
      exact congrArg (fun first => (first ++ s.vertical.ch2.cells) ++ behind) changed
    have hne : i ≠ k := by simpa [ChannelId.index] using outside
    exact getElem?_encode_of_cells k k 1 hset offset1 at1 (by omega)
  | ch2 =>
    have hset : (s.setVertical .ch2 change).cells = s.cells.set (9 + k) cell := by
      rw [hold, List.set_append_left _ _ (by rw [List.length_append, hlength, hlength]; omega),
        List.set_append_right _ _ (by rw [hlength]; omega), setVertical, hcells, hlength,
        Nat.add_sub_cancel_left]
      exact congrArg (fun second => (s.vertical.ch1.cells ++ second) ++ behind) changed
    have hne : i ≠ 10 + k := by simpa [ChannelId.index] using outside
    exact getElem?_encode_of_cells (9 + k) (10 + k) 1 hset offset2 at2 (by omega)

theorem Applied.getElem?_encode {x : Setting} (h : Applied s v x t) (outside : ¬ x.Owns s v i) :
    t.encode[i]? = s.encode[i]? := by
  cases h with
  | enabled c =>
    exact getElem?_encode_setVertical c 0 (by decide) rfl fun h => outside (h ▸ .enabled c)
  | range c =>
    exact getElem?_encode_setVertical c 1 (by decide) rfl fun h => outside (h ▸ .range c)
  | coupling c =>
    exact getElem?_encode_setVertical c 2 (by decide) rfl fun h => outside (h ▸ .coupling c)
  | filter c =>
    exact getElem?_encode_setVertical c 3 (by decide) rfl fun h => outside (h ▸ .filter c)
  | probe c =>
    exact getElem?_encode_setVertical c 5 (by decide) rfl fun h => outside (h ▸ .probe c)
  | triggerSource =>
    have hne : i ≠ 22 := fun h => outside (h ▸ .triggerSource)
    exact getElem?_encode_of_cells 20 22 1 rfl rfl rfl (by omega)
  | triggerSlope =>
    have hne : i ≠ 59 := fun h => outside (h ▸ .triggerSlope)
    exact getElem?_encode_of_cells 28 59 1 rfl rfl rfl (by omega)
  | triggerLevel =>
    have hout : ¬ (25 ≤ i ∧ i ≤ 26) := fun within => outside (.triggerLevel within)
    exact getElem?_encode_of_cells 23 25 2 rfl rfl rfl (by omega)
  | triggerPosition =>
    have hout : ¬ (170 ≤ i ∧ i ≤ 177) := fun within => outside (.triggerPosition within)
    exact getElem?_encode_of_cells 81 170 8 rfl rfl rfl (by omega)
  | memoryDepth =>
    have hne : i ≠ 195 := fun h => outside (h ▸ .memoryDepth)
    exact getElem?_encode_of_cells 99 195 1 rfl rfl rfl (by omega)
  | averaging =>
    have hne : i ≠ 192 := fun h => outside (h ▸ .averaging)
    exact getElem?_encode_of_cells 96 192 1 rfl rfl rfl (by omega)
  | averageCount =>
    have hne : i ≠ 193 := fun h => outside (h ▸ .averageCount)
    exact getElem?_encode_of_cells 97 193 1 rfl rfl rfl (by omega)
  | @timebase tb depth fitting taken known fits =>
    have hne : i ≠ 168 := fun h => outside (h ▸ .timebase)
    -- The timebase moves first; the depth follows only where it has no rate.
    let moved : Snapshot :=
      { s with horizontal := { s.horizontal with windowTimebase := CodeTable.code tb } }
    have hmoved : moved.encode[i]? = s.encode[i]? :=
      getElem?_encode_of_cells 79 168 1 rfl rfl rfl (by omega)
    rw [← hmoved]
    by_cases rate : maxSampleRate tb s.bothEnabled depth = 0
    · have hdepth : i ≠ 195 := fun h => outside (h ▸ .lostDepth ⟨tb, depth, taken, known, rate⟩)
      exact getElem?_encode_of_cells 99 195 1 rfl rfl rfl (by omega)
    · rw [fittingDepth?_of_rate rate] at fits
      cases fits
      rw [code_of_decodeRegister known]

end Snapshot

end Oscilloscope
