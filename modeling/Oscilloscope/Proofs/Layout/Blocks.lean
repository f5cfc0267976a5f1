/- The layout of a snapshot as a table of blocks, each with its registers in order. A register is a
   number of a fixed width, little-endian and in two's complement if it is signed, and stands
   behind the registers before it in its block. The codec is exact for this layout. -/

import Oscilloscope.Proofs.Layout.Cells

set_option autoImplicit false
set_option relaxedAutoImplicit false

namespace Oscilloscope

/-- What a register holds, by its type on the wire. -/
inductive Word
  | u8 (n : UInt8) | u16 (n : UInt16) | u64 (n : UInt64) | i16 (n : Int16) | i64 (n : Int64)

namespace Word

def width : Word → Nat
  | .u8 _ => 1
  | .u16 _ | .i16 _ => 2
  | .u64 _ | .i64 _ => 8

def value : Word → Int
  | .u8 n => n.toNat
  | .u16 n => n.toNat
  | .u64 n => n.toNat
  | .i16 n => n.toInt
  | .i64 n => n.toInt

/-- The bytes of the number, least significant first. A negative one stands for the number that
exceeds it by all that the bytes can count. -/
def bytes (w : Word) : Bytes :=
  Bytes.ofNatLE w.width (w.value % Bytes.capacity w.width).toNat

@[simp] theorem length_bytes (w : Word) : w.bytes.length = w.width :=
  Bytes.length_ofNatLE w.width _

private theorem toNat_toInt_emod {w : Nat} (x : BitVec w) :
    (x.toInt % (2 ^ w : Nat)).toNat = x.toNat := by
  rw [BitVec.toInt_eq_toNat_bmod, Int.bmod_emod, ← Int.natCast_emod, Int.toNat_natCast,
    Nat.mod_eq_of_lt x.isLt]

private theorem ofNatLE_emod {w n : Nat} (h : n < Bytes.capacity w) :
    Bytes.ofNatLE w ((n : Int) % Bytes.capacity w).toNat = Bytes.ofNatLE w n := by
  rw [← Int.natCast_emod, Int.toNat_natCast, Nat.mod_eq_of_lt h]

private theorem bytes_u8 (n : UInt8) : (u8 n).bytes = Packed.bytes n :=
  ofNatLE_emod (w := 1) n.toNat_lt

private theorem bytes_u16 (n : UInt16) : (u16 n).bytes = Packed.bytes n :=
  ofNatLE_emod (w := 2) n.toNat_lt

private theorem bytes_u64 (n : UInt64) : (u64 n).bytes = Packed.bytes n :=
  ofNatLE_emod (w := 8) n.toNat_lt

private theorem bytes_i16 (n : Int16) : (i16 n).bytes = Packed.bytes n := by
  have hcapacity : Bytes.capacity 2 = 2 ^ 16 := rfl
  rw [bytes, width, value, hcapacity]
  exact congrArg (Bytes.ofNatLE 2) (toNat_toInt_emod n.toBitVec)

private theorem bytes_i64 (n : Int64) : (i64 n).bytes = Packed.bytes n := by
  have hcapacity : Bytes.capacity 8 = 2 ^ 64 := rfl
  rw [bytes, width, value, hcapacity]
  exact congrArg (Bytes.ofNatLE 8) (toNat_toInt_emod n.toBitVec)

end Word

open Word

def VerticalRegisters.words (v : VerticalRegisters) : List Word :=
  [u8 v.shown, u8 v.range, u8 v.coupling, u8 v.filter, u8 v.fine, u8 v.probe, u8 v.inverted,
    u8 v.fineCount, i16 v.position]

def TriggerDetail.words (t : TriggerDetail) : List Word :=
  [u8 t.edgeSlope, u8 t.videoPolarity, u8 t.videoStandard, u8 t.videoSync, u16 t.videoLine,
    u8 t.pulsePolarity, u8 t.pulseCondition, u64 t.pulseTime, u8 t.slopeSet, u8 t.slopeWindow,
    u8 t.slopeCondition, u16 t.slopeFirst, u16 t.slopeSecond, u64 t.slopeTime]

def SwapTrigger.words (t : SwapTrigger) : List Word :=
  [u8 t.kind, u8 t.mode, u8 t.coupling] ++ t.detail.words

def SwapExtra.words (t : SwapExtra) : List Word :=
  [i16 t.level, u8 t.overtime.polarity, u64 t.overtime.time]

namespace Snapshot

private theorem toList_measurements (ms : Vector Measurement 8) :
    ms.toList =
      [ms.get 0, ms.get 1, ms.get 2, ms.get 3, ms.get 4, ms.get 5, ms.get 6, ms.get 7] := by
  refine List.ext_getElem (by simp) fun i h _ => ?_
  rw [Vector.length_toList] at h
  match i, h with
  | 0, _ | 1, _ | 2, _ | 3, _ | 4, _ | 5, _ | 6, _ | 7, _ => rfl

/-- The blocks in their order. Two of the math registers stand apart from the others. -/
inductive Block
  | vertical | trigger | swap | overtime | horizontal | math | display | acquire | measurements
  | control | swapExtra | mathEnd
  deriving DecidableEq

namespace Block

def all : List Block :=
  [.vertical, .trigger, .swap, .overtime, .horizontal, .math, .display, .acquire, .measurements,
    .control, .swapExtra, .mathEnd]

def offset : Block → Nat
  | .vertical => 0
  | .trigger => 20
  | .swap => 90
  | .overtime => 158
  | .horizontal => 167
  | .math => 178
  | .display => 184
  | .acquire => 192
  | .measurements => 196
  | .control => 212
  | .swapExtra => 216
  | .mathEnd => 238

def size : Block → Nat
  | .vertical => 20
  | .trigger => 70
  | .swap => 68
  | .overtime => 9
  | .horizontal => 11
  | .math => 6
  | .display => 8
  | .acquire => 4
  | .measurements => 16
  | .control => 4
  | .swapExtra => 22
  | .mathEnd => 2

def words (b : Block) (s : Snapshot) : List Word :=
  match b with
  | .vertical => s.vertical.ch1.words ++ s.vertical.ch2.words
  | .trigger =>
    let t := s.trigger
    [u8 t.state, u8 t.kind, u8 t.source, u8 t.mode, u8 t.coupling, i16 t.level, u64 t.frequency,
      u64 t.holdMin, u64 t.holdMax, u64 t.hold] ++ t.detail.words
  | .swap => s.swap.ch1.words ++ s.swap.ch2.words
  | .overtime => [u8 s.overtime.polarity, u64 s.overtime.time]
  | .horizontal =>
    let h := s.horizontal
    [u8 h.mainTimebase, u8 h.windowTimebase, u8 h.windowState, i64 h.triggerTime]
  | .math =>
    let m := s.math
    [u8 m.shown, u8 m.mode, u8 m.fftSource, u8 m.fftWindow, u8 m.fftFactor, u8 m.fftDecibels]
  | .display =>
    let d := s.display
    [u8 d.mode, u8 d.persistence, u8 d.format, u8 d.contrast, u8 d.maxContrast, u8 d.gridKind,
      u8 d.gridBrightness, u8 d.maxGridBrightness]
  | .acquire =>
    let a := s.acquire
    [u8 a.mode, u8 a.averageCount, u8 a.kind, u8 a.memoryDepth]
  | .measurements => s.measurements.toList.flatMap fun m => [u8 m.source, u8 m.item]
  | .control =>
    let c := s.control
    [u8 c.model, u8 c.menu, u8 c.menuShown, u8 c.multiWindow]
  | .swapExtra => s.swapExtra.ch1.words ++ s.swapExtra.ch2.words
  | .mathEnd => [u8 s.math.fftBase, u8 s.math.fftVrms]

def widths : Block → List Nat
  | .vertical => [1, 1, 1, 1, 1, 1, 1, 1, 2] ++ [1, 1, 1, 1, 1, 1, 1, 1, 2]
  | .trigger => [1, 1, 1, 1, 1, 2, 8, 8, 8, 8] ++ TriggerDetail.widths
  | .swap => ([1, 1, 1] ++ TriggerDetail.widths) ++ ([1, 1, 1] ++ TriggerDetail.widths)
  | .overtime => [1, 8]
  | .horizontal => [1, 1, 1, 8]
  | .math => [1, 1, 1, 1, 1, 1]
  | .display => [1, 1, 1, 1, 1, 1, 1, 1]
  | .acquire | .control => [1, 1, 1, 1]
  | .measurements => List.replicate 16 1
  | .swapExtra => [2, 1, 8] ++ [2, 1, 8]
  | .mathEnd => [1, 1]

/-- The first byte of register `k` of a block, which stands behind those before it. -/
def place (b : Block) (k : Nat) : Nat :=
  b.offset + offsetOf b.widths k

/-- The bytes of a block: its registers without gaps. -/
def bytes (b : Block) (s : Snapshot) : Bytes :=
  ((b.words s).map Word.bytes).flatten

private theorem map_width_words (b : Block) (s : Snapshot) :
    (b.words s).map Word.width = b.widths := by
  cases b with
  | measurements =>
    rw [words, toList_measurements]
    rfl
  | _ => rfl

private theorem sum_widths (b : Block) : b.widths.sum = b.size := by
  cases b <;> rfl

end Block

private theorem cells_eq_words (s : Snapshot) :
    s.cells = (Block.all.flatMap fun b => b.words s).map Word.bytes := by
  simp only [Block.all, List.flatMap_cons, List.flatMap_nil, Block.words, toList_measurements,
    VerticalRegisters.words, SwapTrigger.words, TriggerDetail.words, SwapExtra.words,
    List.map_append, List.map_cons, List.map_nil, bytes_u8, bytes_u16, bytes_u64, bytes_i16,
    bytes_i64]
  rfl

private theorem flatten_blocks (s : Snapshot) :
    (Block.all.map fun b => b.bytes s).flatten = s.encode := by
  rw [← s.cuts.flatten, cells_eq_words, List.map_flatMap, List.flatMap_def, List.flatten_flatten,
    List.map_map]
  rfl

namespace Block

private theorem cuts (b : Block) (s : Snapshot) :
    Cuts b.widths (b.bytes s) ((b.words s).map Word.bytes) where
  flatten := rfl
  lengths := by
    rw [List.map_map, ← b.map_width_words s]
    exact List.map_congr_left fun w _ => w.length_bytes

@[simp] theorem length_bytes (b : Block) (s : Snapshot) : (b.bytes s).length = b.size := by
  rw [bytes, List.length_flatten, (b.cuts s).lengths, sum_widths]

private theorem encode_cuts (s : Snapshot) :
    Cuts (all.map size) s.encode (all.map fun b => b.bytes s) where
  flatten := s.flatten_blocks
  lengths := by
    rw [List.map_map]
    exact List.map_congr_left fun b _ => b.length_bytes s

private theorem mem_all (b : Block) : b ∈ all := by
  cases b <;> decide

private theorem offsetOf_sizes {b : Block} {k : Nat} (h : all[k]? = some b) :
    offsetOf (all.map size) k = b.offset := by
  obtain ⟨hk, hb⟩ := List.getElem?_eq_some_iff.mp h
  subst hb
  revert hk k
  decide

private theorem split (b : Block) (s : Snapshot) :
    ∃ front back, s.encode = front ++ (b.bytes s ++ back) ∧ front.length = b.offset := by
  obtain ⟨k, hk⟩ := List.mem_iff_getElem?.mp b.mem_all
  rw [← offsetOf_sizes hk]
  exact (encode_cuts s).split (by rw [List.getElem?_map, hk]; rfl)

private theorem split_word {b : Block} {s : Snapshot} {k : Nat} {w : Word}
    (h : (b.words s)[k]? = some w) :
    ∃ front back, s.encode = front ++ (w.bytes ++ back) ∧ front.length = b.place k := by
  obtain ⟨before, behind, hencode, hbefore⟩ := b.split s
  obtain ⟨front, back, hblock, hfront⟩ :=
    (b.cuts s).split (k := k) (by rw [List.getElem?_map, h]; rfl)
  refine ⟨before ++ front, back ++ behind, ?_, ?_⟩
  · rw [hencode, hblock, List.append_assoc, List.append_assoc, List.append_assoc]
  · rw [List.length_append, hbefore, hfront, place]

private theorem getElem?_encode_of_word {b : Block} {s : Snapshot} {k : Nat} {w : Word}
    (h : (b.words s)[k]? = some w) {j : Nat} (within : j < w.width) :
    s.encode[b.place k + j]? = w.bytes[j]? := by
  obtain ⟨front, back, hencode, hfront⟩ := split_word h
  rw [hencode, ← hfront, List.getElem?_append_right (Nat.le_add_right _ _),
    Nat.add_sub_cancel_left, List.getElem?_append_left (by rwa [w.length_bytes])]

private theorem exists_word_at (s : Snapshot) {i : Nat} (hi : i < 240) :
    ∃ (b : Block) (k : Nat) (w : Word), (b.words s)[k]? = some w ∧ b.place k ≤ i ∧
      i < b.place k + w.width := by
  obtain ⟨n, size, hsize, hlow, hhigh⟩ := exists_piece_at (all.map Block.size) hi
  rw [List.getElem?_map, Option.map_eq_some_iff] at hsize
  obtain ⟨b, hb, rfl⟩ := hsize
  rw [offsetOf_sizes hb] at hlow hhigh
  obtain ⟨k, width, hwidth, low, high⟩ :=
    exists_piece_at b.widths (i := i - b.offset) (by rw [sum_widths]; omega)
  rw [← b.map_width_words s, List.getElem?_map, Option.map_eq_some_iff] at hwidth
  obtain ⟨w, hw, rfl⟩ := hwidth
  refine ⟨b, k, w, hw, ?_, ?_⟩
  · rw [place]
    omega
  · rw [place]
    omega

private theorem place_succ {b : Block} {s : Snapshot} {k : Nat} {w : Word}
    (h : (b.words s)[k]? = some w) :
    b.place (k + 1) = b.place k + w.width := by
  have hwidth : b.widths[k]? = some w.width := by
    rw [← b.map_width_words s, List.getElem?_map, h]
    rfl
  rw [place, offsetOf_succ hwidth, place, Nat.add_assoc]

end Block

private theorem eq_of_words {s t : Snapshot} (same : ∀ b : Block, b.words s = b.words t) :
    s = t := by
  have hencode : s.encode = t.encode := by
    rw [← s.flatten_blocks, ← t.flatten_blocks]
    refine congrArg List.flatten (List.map_congr_left fun b _ => ?_)
    rw [Block.bytes, same b, Block.bytes]
  have hs := decode_encode s
  rw [hencode, decode_encode] at hs
  exact (Except.ok.inj hs).symm

private theorem getElem?_encode_of_words {s t : Snapshot} {b : Block} {k : Nat}
    (same : ∀ (other : Block) (j : Nat), (other, j) ≠ (b, k) →
      (other.words t)[j]? = (other.words s)[j]?)
    {i : Nat} (outside : ¬ (b.place k ≤ i ∧ i < b.place (k + 1))) :
    t.encode[i]? = s.encode[i]? := by
  rcases Nat.lt_or_ge i 240 with inside | behind
  · obtain ⟨other, j, w, hw, low, high⟩ := Block.exists_word_at s inside
    have hne : (other, j) ≠ (b, k) := by
      rintro ⟨⟩
      rw [Block.place_succ hw] at outside
      exact outside ⟨low, high⟩
    obtain ⟨n, rfl⟩ := Nat.exists_eq_add_of_le low
    have within : n < w.width := by omega
    rw [Block.getElem?_encode_of_word hw within,
      Block.getElem?_encode_of_word ((same other j hne).trans hw) within]
  · rw [List.getElem?_eq_none (by rwa [length_encode]),
      List.getElem?_eq_none (by rwa [length_encode])]

/-- The codec is a bijection between snapshots and strings of 240 bytes, and keeps to the layout.
Decoding undoes encoding and encoding undoes decoding, what follows the 240 bytes does not count,
and fewer bytes are refused. The blocks stand where the table says and hold all registers of a
snapshot, each register at its place in its block; so a change of one register changes bytes at its
place only. -/
theorem codec_follows_layout :
    (∀ s : Snapshot, s.encode.length = 240 ∧ decode s.encode = .ok s) ∧
    (∀ p : Bytes,
      if 240 ≤ p.length then
        ∃ s, decode p = .ok s ∧ s.encode = p.take 240 ∧
          ∀ q : Bytes, q.take 240 = p.take 240 → decode q = .ok s
      else decode p = .error (.snapshotTooShort 240 p.length)) ∧
    (∀ s t : Snapshot, (∀ b : Block, b.words s = b.words t) → s = t) ∧
    (∀ (s : Snapshot) (b : Block),
      (s.encode.drop b.offset).take b.size = ((b.words s).map Word.bytes).flatten) ∧
    (∀ (s : Snapshot) (b : Block) (k : Nat) (w : Word), (b.words s)[k]? = some w →
      (s.encode.drop (b.place k)).take w.width = w.bytes) ∧
    ∀ (s t : Snapshot) (b : Block) (k : Nat),
      (∀ (other : Block) (j : Nat), (other, j) ≠ (b, k) →
        (other.words t)[j]? = (other.words s)[j]?) →
      ∀ i, ¬ (b.place k ≤ i ∧ i < b.place (k + 1)) → t.encode[i]? = s.encode[i]? := by
  refine ⟨fun s => ⟨length_encode s, decode_encode s⟩, fun p => ?_, fun s t => eq_of_words,
    fun s b => ?_, fun s b k w h => ?_, fun s t b k same i => getElem?_encode_of_words same⟩
  · split
    · rename_i long
      obtain ⟨s, hs⟩ : ∃ s, decode p = .ok s := ⟨_, if_neg (Nat.not_lt.mpr long)⟩
      have hencode := encode_of_decode hs
      refine ⟨s, hs, hencode, fun q hq => ?_⟩
      rw [← List.take_append_drop 240 q, hq, ← hencode]
      exact decode_encode_append s _
    · rename_i short
      exact if_pos (Nat.not_le.mp short)
  · obtain ⟨front, back, hencode, hfront⟩ := b.split s
    rw [hencode, List.drop_left' hfront, List.take_left' (b.length_bytes s), Block.bytes]
  · obtain ⟨front, back, hencode, hfront⟩ := Block.split_word h
    rw [hencode, List.drop_left' hfront, List.take_left' w.length_bytes]

end Snapshot

end Oscilloscope
