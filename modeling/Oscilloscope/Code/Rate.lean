/- Samples in one frame and sample rates, by timebase, channels in use and memory depth. -/

import Oscilloscope.Code.Horizontal

set_option autoImplicit false
set_option relaxedAutoImplicit false

namespace Oscilloscope

structure PerDepth where
  k4 : Nat
  k40 : Nat
  k512 : Nat
  m1 : Nat

def PerDepth.get (p : PerDepth) : MemoryDepth → Nat
  | .k4 => p.k4
  | .k40 => p.k40
  | .k512 => p.k512
  | .m1 => p.m1

/-- Entries for the screen without the menu and beside it. -/
structure PerScreen where
  whole : PerDepth
  besideMenu : PerDepth

/-- Samples in one frame, by window timebase: with one channel, then with both. -/
def frameSizes : Vector (PerScreen × PerScreen) 32 := #v[
  (⟨⟨768, 768, 768, 768⟩, ⟨640, 640, 640, 640⟩⟩,
    ⟨⟨768, 768, 768, 0⟩, ⟨640, 640, 640, 0⟩⟩),
  (⟨⟨768, 768, 768, 768⟩, ⟨640, 640, 640, 640⟩⟩,
    ⟨⟨768, 768, 768, 0⟩, ⟨640, 640, 640, 0⟩⟩),
  (⟨⟨768, 768, 768, 768⟩, ⟨640, 640, 640, 640⟩⟩,
    ⟨⟨768, 768, 768, 0⟩, ⟨640, 640, 640, 0⟩⟩),
  (⟨⟨768, 768, 768, 768⟩, ⟨640, 640, 640, 640⟩⟩,
    ⟨⟨768, 768, 768, 0⟩, ⟨640, 640, 640, 0⟩⟩),
  (⟨⟨768, 768, 768, 768⟩, ⟨640, 640, 640, 640⟩⟩,
    ⟨⟨768, 768, 768, 0⟩, ⟨640, 640, 640, 0⟩⟩),
  (⟨⟨1536, 768, 768, 768⟩, ⟨1280, 640, 640, 640⟩⟩,
    ⟨⟨768, 768, 768, 0⟩, ⟨640, 640, 640, 0⟩⟩),
  (⟨⟨3072, 1536, 1536, 1536⟩, ⟨2560, 1280, 1280, 1280⟩⟩,
    ⟨⟨1536, 1536, 1536, 0⟩, ⟨1280, 1280, 1280, 0⟩⟩),
  (⟨⟨3072, 3072, 3072, 3072⟩, ⟨2560, 2560, 2560, 2560⟩⟩,
    ⟨⟨3072, 3072, 3072, 0⟩, ⟨2560, 2560, 2560, 0⟩⟩),
  (⟨⟨3072, 6144, 6144, 6144⟩, ⟨2560, 5120, 5120, 5120⟩⟩,
    ⟨⟨3072, 3072, 3072, 0⟩, ⟨2560, 2560, 2560, 0⟩⟩),
  (⟨⟨3840, 15360, 15360, 15360⟩, ⟨3200, 12800, 12800, 12800⟩⟩,
    ⟨⟨3840, 7680, 7680, 0⟩, ⟨3200, 6400, 6400, 0⟩⟩),
  (⟨⟨3840, 30720, 30720, 30720⟩, ⟨3200, 25600, 25600, 25600⟩⟩,
    ⟨⟨3840, 15360, 15360, 0⟩, ⟨3200, 12800, 12800, 0⟩⟩),
  (⟨⟨3840, 30720, 61440, 61440⟩, ⟨3200, 25600, 51200, 51200⟩⟩,
    ⟨⟨3840, 30720, 30720, 0⟩, ⟨3200, 25600, 25600, 0⟩⟩),
  (⟨⟨3840, 38400, 153600, 153600⟩, ⟨3200, 32000, 128000, 128000⟩⟩,
    ⟨⟨3840, 38400, 76800, 0⟩, ⟨3200, 32000, 64000, 0⟩⟩),
  (⟨⟨3840, 38400, 307200, 307200⟩, ⟨3200, 32000, 256000, 256000⟩⟩,
    ⟨⟨3840, 38400, 153600, 0⟩, ⟨3200, 32000, 128000, 0⟩⟩),
  (⟨⟨3840, 38400, 307200, 614400⟩, ⟨3200, 32000, 256000, 512000⟩⟩,
    ⟨⟨3840, 38400, 307200, 0⟩, ⟨3200, 32000, 256000, 0⟩⟩),
  (⟨⟨3840, 38400, 384000, 0⟩, ⟨3200, 32000, 320000, 0⟩⟩,
    ⟨⟨3840, 38400, 384000, 0⟩, ⟨3200, 32000, 320000, 0⟩⟩),
  (⟨⟨3840, 38400, 384000, 768000⟩, ⟨3200, 32000, 320000, 640000⟩⟩,
    ⟨⟨3840, 38400, 384000, 0⟩, ⟨3200, 32000, 320000, 0⟩⟩),
  (⟨⟨3840, 38400, 384000, 768000⟩, ⟨3200, 32000, 320000, 640000⟩⟩,
    ⟨⟨3840, 38400, 384000, 0⟩, ⟨3200, 32000, 320000, 0⟩⟩),
  (⟨⟨3840, 38400, 384000, 768000⟩, ⟨3200, 32000, 320000, 640000⟩⟩,
    ⟨⟨3840, 38400, 384000, 0⟩, ⟨3200, 32000, 320000, 0⟩⟩),
  (⟨⟨3840, 38400, 384000, 768000⟩, ⟨3200, 32000, 320000, 640000⟩⟩,
    ⟨⟨3840, 38400, 384000, 0⟩, ⟨3200, 32000, 320000, 0⟩⟩),
  (⟨⟨3840, 38400, 384000, 768000⟩, ⟨3200, 32000, 320000, 640000⟩⟩,
    ⟨⟨3840, 38400, 384000, 0⟩, ⟨3200, 32000, 320000, 0⟩⟩),
  (⟨⟨3840, 38400, 384000, 768000⟩, ⟨3200, 32000, 320000, 640000⟩⟩,
    ⟨⟨3840, 38400, 384000, 0⟩, ⟨3200, 32000, 320000, 0⟩⟩),
  (⟨⟨3840, 38400, 384000, 768000⟩, ⟨3200, 32000, 320000, 640000⟩⟩,
    ⟨⟨3840, 38400, 384000, 0⟩, ⟨3200, 32000, 320000, 0⟩⟩),
  (⟨⟨3840, 38400, 384000, 768000⟩, ⟨3200, 32000, 320000, 640000⟩⟩,
    ⟨⟨3840, 38400, 384000, 0⟩, ⟨3200, 32000, 320000, 0⟩⟩),
  (⟨⟨3840, 38400, 384000, 768000⟩, ⟨3200, 32000, 320000, 640000⟩⟩,
    ⟨⟨3840, 38400, 384000, 0⟩, ⟨3200, 32000, 320000, 0⟩⟩),
  (⟨⟨3840, 38400, 384000, 768000⟩, ⟨3200, 32000, 320000, 640000⟩⟩,
    ⟨⟨3840, 38400, 384000, 0⟩, ⟨3200, 32000, 320000, 0⟩⟩),
  (⟨⟨3840, 38400, 384000, 768000⟩, ⟨3200, 32000, 320000, 640000⟩⟩,
    ⟨⟨3840, 38400, 384000, 0⟩, ⟨3200, 32000, 320000, 0⟩⟩),
  (⟨⟨3840, 38400, 384000, 768000⟩, ⟨3200, 32000, 320000, 640000⟩⟩,
    ⟨⟨3840, 38400, 384000, 0⟩, ⟨3200, 32000, 320000, 0⟩⟩),
  (⟨⟨3840, 38400, 384000, 768000⟩, ⟨3200, 32000, 320000, 640000⟩⟩,
    ⟨⟨3840, 38400, 384000, 0⟩, ⟨3200, 32000, 320000, 0⟩⟩),
  (⟨⟨3840, 38400, 384000, 768000⟩, ⟨3200, 32000, 320000, 640000⟩⟩,
    ⟨⟨3840, 38400, 384000, 0⟩, ⟨3200, 32000, 320000, 0⟩⟩),
  (⟨⟨3840, 38400, 384000, 768000⟩, ⟨3200, 32000, 320000, 640000⟩⟩,
    ⟨⟨3840, 38400, 384000, 0⟩, ⟨3200, 32000, 320000, 0⟩⟩),
  (⟨⟨3840, 38400, 384000, 768000⟩, ⟨3200, 32000, 320000, 640000⟩⟩,
    ⟨⟨3840, 38400, 384000, 0⟩, ⟨3200, 32000, 320000, 0⟩⟩)]

/-- Samples a second, by window timebase: with one channel, then with both. Zero marks a depth that
cannot be used. -/
def sampleRates : Vector (PerDepth × PerDepth) 32 := #v[
  (⟨1000000000, 400000000, 400000000, 400000000⟩, ⟨500000000, 200000000, 200000000, 0⟩),
  (⟨1000000000, 400000000, 400000000, 400000000⟩, ⟨500000000, 200000000, 200000000, 0⟩),
  (⟨1000000000, 400000000, 400000000, 400000000⟩, ⟨500000000, 200000000, 200000000, 0⟩),
  (⟨800000000, 400000000, 400000000, 400000000⟩, ⟨400000000, 200000000, 200000000, 0⟩),
  (⟨800000000, 400000000, 400000000, 400000000⟩, ⟨400000000, 200000000, 200000000, 0⟩),
  (⟨800000000, 400000000, 400000000, 400000000⟩, ⟨400000000, 200000000, 200000000, 0⟩),
  (⟨800000000, 400000000, 400000000, 400000000⟩, ⟨400000000, 200000000, 200000000, 0⟩),
  (⟨400000000, 400000000, 400000000, 400000000⟩, ⟨400000000, 200000000, 200000000, 0⟩),
  (⟨200000000, 400000000, 400000000, 400000000⟩, ⟨200000000, 200000000, 200000000, 0⟩),
  (⟨100000000, 400000000, 400000000, 400000000⟩, ⟨100000000, 200000000, 200000000, 0⟩),
  (⟨50000000, 400000000, 400000000, 400000000⟩, ⟨50000000, 200000000, 200000000, 0⟩),
  (⟨25000000, 200000000, 400000000, 400000000⟩, ⟨25000000, 200000000, 200000000, 0⟩),
  (⟨10000000, 100000000, 400000000, 400000000⟩, ⟨10000000, 100000000, 200000000, 0⟩),
  (⟨5000000, 50000000, 400000000, 400000000⟩, ⟨5000000, 50000000, 200000000, 0⟩),
  (⟨2500000, 25000000, 200000000, 400000000⟩, ⟨2500000, 25000000, 200000000, 0⟩),
  (⟨1000000, 10000000, 100000000, 0⟩, ⟨1000000, 10000000, 100000000, 0⟩),
  (⟨500000, 5000000, 50000000, 100000000⟩, ⟨500000, 5000000, 50000000, 0⟩),
  (⟨250000, 2500000, 25000000, 50000000⟩, ⟨250000, 2500000, 25000000, 0⟩),
  (⟨100000, 1000000, 10000000, 20000000⟩, ⟨100000, 1000000, 10000000, 0⟩),
  (⟨50000, 500000, 5000000, 10000000⟩, ⟨50000, 500000, 5000000, 0⟩),
  (⟨25000, 250000, 2500000, 5000000⟩, ⟨25000, 250000, 2500000, 0⟩),
  (⟨10000, 100000, 1000000, 2000000⟩, ⟨10000, 100000, 1000000, 0⟩),
  (⟨5000, 50000, 500000, 1000000⟩, ⟨5000, 50000, 500000, 0⟩),
  (⟨2500, 25000, 250000, 500000⟩, ⟨2500, 25000, 250000, 0⟩),
  (⟨1000, 10000, 100000, 200000⟩, ⟨1000, 10000, 100000, 0⟩),
  (⟨500, 5000, 50000, 100000⟩, ⟨500, 5000, 50000, 0⟩),
  (⟨250, 2500, 25000, 50000⟩, ⟨250, 2500, 25000, 0⟩),
  (⟨100, 1000, 10000, 20000⟩, ⟨100, 1000, 10000, 0⟩),
  (⟨50, 500, 5000, 10000⟩, ⟨50, 500, 5000, 0⟩),
  (⟨25, 250, 2500, 5000⟩, ⟨25, 250, 2500, 0⟩),
  (⟨10, 100, 1000, 2000⟩, ⟨10, 100, 1000, 0⟩),
  (⟨5, 50, 500, 1000⟩, ⟨5, 50, 500, 0⟩)]

def sampleCount (tb : Timebase) (bothChannels menuVisible : Bool) (depth : MemoryDepth) : Nat :=
  let row := frameSizes[tb.index]
  let screen := if bothChannels then row.2 else row.1
  (if menuVisible then screen.besideMenu else screen.whole).get depth

def maxSampleRate (tb : Timebase) (bothChannels : Bool) (depth : MemoryDepth) : Nat :=
  let row := sampleRates[tb.index]
  (if bothChannels then row.2 else row.1).get depth

/-- The first depth from `depth` down that the timebase can use. -/
def fittingDepth? (tb : Timebase) (bothChannels : Bool) (depth : MemoryDepth) :
    Option MemoryDepth :=
  if maxSampleRate tb bothChannels depth = 0 then
    match _h : depth.smaller? with
    | some next => fittingDepth? tb bothChannels next
    | none => none
  else some depth
termination_by depth.rank
decreasing_by
  have place := MemoryDepth.rank_of_smaller? _h
  omega

section

variable {tb : Timebase} {both : Bool} {depth fitting : MemoryDepth}

theorem fittingDepth?_of_rate (rate : maxSampleRate tb both depth ≠ 0) :
    fittingDepth? tb both depth = some depth := by
  rw [fittingDepth?, if_neg rate]

theorem rate_of_fittingDepth? (found : fittingDepth? tb both depth = some fitting) :
    maxSampleRate tb both fitting ≠ 0 := by
  fun_induction fittingDepth? tb both depth with
  | case1 _ _ _ _ ih => exact ih found
  | case2 => cases found
  | case3 depth rate =>
    cases found
    exact rate

end

/-- Horizontal divisions on screen as a fraction: 16 beside the menu, 19.2 without it. -/
def horizontalDivisions (menuVisible : Bool) : Nat × Nat :=
  if menuVisible then (16, 1) else (96, 5)

/-- Samples in a frame over the time that the screen spans, in whole samples a second. -/
def sampleRate (tb : Timebase) (bothChannels menuVisible : Bool) (depth : MemoryDepth) : Nat :=
  let divisions := horizontalDivisions menuVisible
  let window := tb.windowDivision
  sampleCount tb bothChannels menuVisible depth * window.den.toNat * divisions.2 /
    (window.num.toNat * divisions.1)

end Oscilloscope
