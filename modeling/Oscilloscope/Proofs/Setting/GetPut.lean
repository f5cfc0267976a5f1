/- Getting a setting and putting it back as it was shown. The text of what is described is read as
   the very value that was described, and applying that value leaves the snapshot as it is. -/

import Oscilloscope.Proofs.Setting.Offer

set_option autoImplicit false
set_option relaxedAutoImplicit false

namespace Oscilloscope.Snapshot

/-- Showing `v` and reading it again puts the snapshot where it is. -/
def RestoredBy (s : Snapshot) (x : Setting) (v : Value) : Prop :=
  Value.parse? x.key.valueKind v.display = some v ∧ s.apply x v = .ok s

variable {s : Snapshot} {x : Setting} {v : Value}

private theorem Applied.restored {t : Snapshot} (h : Applied s v x t)
    (reads : v.ReadsAs x.key.valueKind)
    (same : t = s) : s.RestoredBy x v := by
  have applied := apply_of_applied h
  rw [same] at applied
  exact ⟨Value.parse?_display reads, applied⟩

private theorem Offer.restored {α : Type} [CodeTable α] (offer : s.Offer x α)
    (restorable : s.Restorable x) (described : s.describe x = .ok v) : s.RestoredBy x v := by
  obtain ⟨a, rfl, held⟩ := offer.described described
  have applied : s.apply x (offer.menu.shown a) = .ok (offer.put a) := by
    rw [offer.apply_eq, offer.menu.taken_shown]
    rfl
  rw [offer.put_self restorable held] at applied
  exact ⟨Value.parse?_display (offer.menu.readsAs a), applied⟩

private theorem informed_of_described (restorable : s.Restorable x)
    (described : s.describe x = .ok v) :
    s.Informed x := by
  unfold Informed
  split
  · rename_i c
    obtain ⟨channel, decoded, -⟩ := bind_eq_ok_iff.mp described
    have known := (s.channel_inspects c).ok_iff.mp ⟨channel, decoded⟩
    exact known ⟨.probe, (s.vertical.get c).probe⟩ (by simp [VerticalRegisters.coded])
  · obtain ⟨depth, decoded, -⟩ := restorable
    have known := s.memoryDepth_inspects.ok_iff.mp ⟨depth, decoded⟩
    exact known _ (List.mem_singleton_self _)
  · trivial

private theorem flagByte_of_flag {byte : UInt8} (flag : byte = 0 ∨ byte = 1) :
    flagByte (byte != 0) = byte := by
  rcases flag with rfl | rfl
  · rfl
  · rfl

private theorem code_of_averaging
    (mode : s.acquire.mode = CodeTable.code AcquireMode.normal ∨
      s.acquire.mode = CodeTable.code AcquireMode.average) :
    CodeTable.code (if s.averaging then AcquireMode.average else .normal) = s.acquire.mode := by
  rw [averaging]
  rcases mode with normal | average
  · rw [normal]
    rfl
  · rw [average]
    rfl

private theorem restored_flag (settable : x.key.capabilities.set = true)
    (unlisted : x.key.capabilities.list = false) (level : x ≠ .device .triggerLevel)
    (restorable : s.Restorable x) (described : s.describe x = .ok v) : s.RestoredBy x v := by
  cases x with
  | device k =>
    cases k with
    | connection | verticalDivisions | horizontalDivisions | sampleRate => cases settable
    | timebase | triggerSource | triggerSlope | triggerPosition | memoryDepth | averageCount =>
      cases unlisted
    | limit => cases described
    | triggerLevel => exact absurd rfl level
    | averaging =>
      cases described
      have code := code_of_averaging restorable
      refine (Applied.averaging rfl).restored (.flag _) ?_
      rw [code]
  | channel k c =>
    cases k with
    | range | coupling | probe => cases unlisted
    | enabled =>
      cases described
      have byte : flagByte (s.channelEnabled c) = (s.vertical.get c).shown :=
        flagByte_of_flag restorable
      refine (Applied.enabled c rfl).restored (.flag _) (setVertical_eq_self ?_)
      rw [byte]
    | filter =>
      cases described
      have byte := flagByte_of_flag restorable
      refine (Applied.filter c rfl).restored (.flag _) (setVertical_eq_self ?_)
      rw [byte]

/-- What is shown of a setting can be put back: its text is read as the value that was described,
and applying that leaves the snapshot as it is. Trigger level and position are left out, as they
are rounded to what a register can hold. -/
theorem apply_parsed_display (settable : x.key.capabilities.set = true)
    (level : x ≠ .device .triggerLevel) (position : x ≠ .device .triggerPosition)
    (restorable : s.Restorable x) (described : s.describe x = .ok v) :
    ∃ parsed, Value.parse? x.key.valueKind v.display = some parsed ∧ s.apply x parsed = .ok s := by
  have restored : s.RestoredBy x v := by
    cases listed : x.key.capabilities.list with
    | true =>
      have informed := informed_of_described restorable described
      obtain ⟨α, table, ⟨offer⟩⟩ := exists_offer listed position informed
      exact offer.restored restorable described
    | false => exact restored_flag settable listed level restorable described
  exact ⟨v, restored.1, restored.2⟩

theorem apply_parsed_display_of_range :
    let s := zero.setVertical .ch2 fun r => { r with shown := 7, range := 6, filter := 200 }
    s.describe (.channel .range .ch2) = .ok (.ratio ⟨200, 1000⟩) ∧
      (Value.ratio ⟨200, 1000⟩).display = "200/1000" ∧
      ∃ parsed, Value.parse? .ratio "200/1000" = some parsed ∧
        s.apply (.channel .range .ch2) parsed = .ok s := by
  intro s
  have range : voltsPerDivision .x1 .mv200 = ⟨200, 1000⟩ := by decide
  have described : s.describe (.channel .range .ch2) =
      .ok (.ratio (voltsPerDivision .x1 .mv200)) := rfl
  have shown : (Value.ratio ⟨200, 1000⟩).display = "200/1000" := by decide
  have restorable : s.Restorable (.channel .range .ch2) := trivial
  rw [range] at described
  obtain ⟨parsed, read, applied⟩ :=
    apply_parsed_display rfl (by decide) (by decide) restorable described
  rw [shown] at read
  exact ⟨described, shown, parsed, read, applied⟩

end Oscilloscope.Snapshot
