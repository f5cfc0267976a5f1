/- What the events of the running acquisition add up to: the frames that were begun since the last
   header, and the samples that they carry. -/

import Mathlib.Algebra.GroupWithZero.Nat
import Mathlib.Data.List.DropRight
import Oscilloscope.Proofs.Scope.Step

set_option autoImplicit false
set_option relaxedAutoImplicit false

namespace Oscilloscope

/-- The events after the last header; all of them if there is none. -/
def sinceHeader (events : List Event) : List Event :=
  events.rtakeWhile (· != .header)

@[simp] theorem sinceHeader_header (events : List Event) :
    sinceHeader (events ++ [.header]) = [] :=
  List.rtakeWhile_concat_neg _ _ _ (by decide)

theorem sinceHeader_append {later : List Event} (within : .header ∉ later) (events : List Event) :
    sinceHeader (events ++ later) = sinceHeader events ++ later := by
  have unbroken : ∀ e ∈ later.reverse, (e != .header) = true := by
    intro e he
    refine bne_iff_ne.mpr ?_
    rintro rfl
    exact within (List.mem_reverse.mp he)
  rw [sinceHeader, List.rtakeWhile, List.reverse_append, List.takeWhile_append_of_pos unbroken,
    List.reverse_append, List.reverse_reverse]
  rfl

/-- Frames and samples, as they are counted and as they are told, in the 64 bits of the counters. -/
@[ext]
structure Tally where
  frames : UInt64 := 0
  samples : UInt64 := 0
  deriving DecidableEq

instance : Add Tally where
  add a b := ⟨a.frames + b.frames, a.samples + b.samples⟩

def Event.sampleCount : Event → Nat
  | .data packet => packet.samples.length
  | _ => 0

namespace Tally

theorem add_frames (a b : Tally) : (a + b).frames = a.frames + b.frames := rfl

theorem zero_add (a : Tally) : {} + a = a :=
  Tally.ext (UInt64.zero_add _) (UInt64.zero_add _)

theorem add_zero (a : Tally) : a + {} = a :=
  Tally.ext (UInt64.add_zero _) (UInt64.add_zero _)

theorem add_assoc (a b c : Tally) : a + b + c = a + (b + c) :=
  Tally.ext (UInt64.add_assoc _ _ _) (UInt64.add_assoc _ _ _)

private theorem add_comm (a b : Tally) : a + b = b + a :=
  Tally.ext (UInt64.add_comm _ _) (UInt64.add_comm _ _)

def ofEvents (events : List Event) : Tally :=
  ⟨.ofNat (events.count .frameBegin), .ofNat (events.map Event.sampleCount).sum⟩

theorem ofEvents_append (events later : List Event) :
    ofEvents (events ++ later) = ofEvents events + ofEvents later := by
  rw [ofEvents, List.count_append, List.map_append, List.sum_append, UInt64.ofNat_add,
    UInt64.ofNat_add]
  rfl

end Tally

/-- What was read since the start, as the limits count it. -/
def Limits.read (limits : Limits) : Tally :=
  ⟨limits.framesRead, limits.samplesRead⟩

theorem Limits.count_nothing (limits : Limits) :
    (limits.countSamples 0).countFrames 0 = limits := by
  rw [countSamples, countFrames, UInt64.add_zero, UInt64.add_zero]

/-- A frame that was begun: the settings of its channel, and the stream that was received for it. -/
structure FrameTaken where
  id : ChannelId
  channel : Channel
  stream : Stream

namespace FrameTaken

/-- Whether the stream came to its end. Only then does the frame count. -/
def whole (f : FrameTaken) : Bool :=
  f.stream.ending.isOk

def broken (f : FrameTaken) : Bool :=
  !f.whole

def events (f : FrameTaken) : List Event :=
  frameEvents f.channel f.id f.stream.chunks

theorem count_begun (f : FrameTaken) : f.events.count .frameBegin = 1 := by
  let packet (bytes : Bytes) : Event :=
    .data ⟨f.id, f.channel.decodeChunk bytes, f.channel.digits⟩
  have unbegun : (f.stream.chunks.map packet).count .frameBegin = 0 := by
    refine List.count_eq_zero.mpr fun h => ?_
    obtain ⟨bytes, -, hbytes⟩ := List.mem_map.mp h
    cases hbytes
  show (Event.frameBegin :: (f.stream.chunks.map packet ++ [.frameEnd])).count .frameBegin = 1
  rw [List.count_cons_self, List.count_append, unbegun]
  rfl

theorem ofEvents_events (f : FrameTaken) :
    Tally.ofEvents f.events = ⟨1, f.stream.sampleCount⟩ := by
  let packet (bytes : Bytes) : Event :=
    .data ⟨f.id, f.channel.decodeChunk bytes, f.channel.digits⟩
  have carried : ((f.stream.chunks.map packet).map Event.sampleCount).sum =
      f.stream.chunks.flatten.length := by
    rw [List.map_map, List.length_flatten]
    exact congrArg List.sum (List.map_congr_left fun bytes _ => List.length_map _)
  have samples : (f.events.map Event.sampleCount).sum = f.stream.chunks.flatten.length := by
    show ((Event.frameBegin :: (f.stream.chunks.map packet ++ [.frameEnd])).map
      Event.sampleCount).sum = _
    rw [List.map_cons, List.map_append, List.sum_cons, List.sum_append, carried]
    exact Nat.zero_add _
  rw [Tally.ofEvents, f.count_begun, samples]
  rfl

theorem header_not_mem_events (f : FrameTaken) : .header ∉ f.events := by
  rw [events, frameEvents]
  simp

theorem ofEvents_partition (frames : List FrameTaken) :
    Tally.ofEvents (frames.flatMap events) =
      Tally.ofEvents ((frames.filter whole).flatMap events) +
        Tally.ofEvents ((frames.filter broken).flatMap events) := by
  induction frames with
  | nil => rfl
  | cons f rest ih =>
    rw [List.flatMap_cons, Tally.ofEvents_append, ih]
    cases counts : f.whole with
    | true =>
      have unbroken : ¬ f.broken = true := by simp [broken, counts]
      rw [List.filter_cons_of_pos counts, List.filter_cons_of_neg unbroken, List.flatMap_cons,
        Tally.ofEvents_append, Tally.add_assoc]
    | false =>
      have uncounted : ¬ f.whole = true := by simp [counts]
      have broken : f.broken = true := by simp [broken, counts]
      rw [List.filter_cons_of_neg uncounted, List.filter_cons_of_pos broken, List.flatMap_cons,
        Tally.ofEvents_append, ← Tally.add_assoc, ← Tally.add_assoc,
        Tally.add_comm (Tally.ofEvents f.events)]

end FrameTaken

end Oscilloscope
