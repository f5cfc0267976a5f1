/- The format of frames, said on their bytes alone. Encoding and decoding are exact for it: what is
   in the format is decoded and encodes back to itself, and of everything else the first departure
   from the format comes out. -/

import Mathlib.Algebra.GroupWithZero.Nat
import Oscilloscope.Frame

set_option autoImplicit false
set_option relaxedAutoImplicit false

namespace Oscilloscope

private theorem toNat_checksum (bs : Bytes) :
    (checksum bs).toNat = (bs.map UInt8.toNat).sum % 256 := by
  -- The sum so far stands in front while the fold goes on.
  have fold (sofar : UInt8) (bs : Bytes) : (bs.foldl (fun sum b => sum + b) sofar).toNat =
      (sofar.toNat + (bs.map UInt8.toNat).sum) % 256 := by
    induction bs generalizing sofar with
    | nil =>
      have hlt := sofar.toNat_lt
      simp only [List.foldl_nil, List.map_nil, List.sum_nil, Nat.add_zero]
      omega
    | cons b bs ih =>
      rw [List.foldl_cons, ih, UInt8.toNat_add, List.map_cons, List.sum_cons]
      omega
  rw [checksum, fold]
  simp

namespace Frame

/-- The length that a string of bytes declares in its second and third byte. The three bytes up to
there are not counted in it. -/
def declaredLength (bs : Bytes) : Nat :=
  Bytes.toNatLE ((bs.drop 1).take 2) + 3

/-- The bytes of a frame: as many as declared, and the last one the sum of all others. -/
structure WellFormed (bs : Bytes) : Prop where
  long : 5 ≤ bs.length
  sized : declaredLength bs = bs.length
  summed : ∃ front last, bs = front ++ [last] ∧ last.toNat = (front.map UInt8.toNat).sum % 256

/-- The first departure from the format, of bytes that are no frame. -/
def defect (bs : Bytes) : FrameFault :=
  if bs.length < 3 then .tooShort bs.length
  else if declaredLength bs ≠ bs.length then .sizeMismatch (declaredLength bs) bs.length
  else if bs.length < 5 then .tooShort bs.length
  else .checksum (checksum bs.dropLast) (bs.getLastD 0)

private theorem exists_parts {bs : Bytes} (long : 5 ≤ bs.length) :
    ∃ marker low high command payload sum,
      bs = marker :: low :: high :: command :: payload ++ [sum] := by
  match bs, long with
  | marker :: low :: high :: command :: next :: rest, _ =>
    have hne : next :: rest ≠ [] := List.cons_ne_nil next rest
    refine ⟨marker, low, high, command, (next :: rest).dropLast, (next :: rest).getLast hne, ?_⟩
    rw [List.cons_append, List.cons_append, List.cons_append, List.cons_append,
      List.dropLast_concat_getLast]

section parts

variable (marker low high command sum : UInt8) (payload : Bytes)

private theorem declaredLength_parts :
    declaredLength (marker :: low :: high :: command :: payload ++ [sum]) =
      Bytes.toNatLE [low, high] + 3 := rfl

private theorem length_parts :
    (marker :: low :: high :: command :: payload ++ [sum]).length = payload.length + 5 := by
  simp

private theorem decode_parts :
    decode (marker :: low :: high :: command :: payload ++ [sum]) =
      if payload.length + 5 ≠ Bytes.toNatLE [low, high] + 3 then
        .error (.sizeMismatch (Bytes.toNatLE [low, high] + 3) (payload.length + 5))
      else if sum = checksum (marker :: low :: high :: command :: payload) then
        .ok ⟨⟨marker⟩, command, payload⟩
      else .error (.checksum (checksum (marker :: low :: high :: command :: payload)) sum) := by
  have hrest : (command :: payload ++ [sum]).dropLast = command :: payload :=
    List.dropLast_concat
  have hlast : (command :: payload ++ [sum]).getLast? = some sum := List.getLast?_concat
  have hfront : (marker :: low :: high :: command :: payload ++ [sum]).dropLast =
      marker :: low :: high :: command :: payload := List.dropLast_concat
  have hlength := length_parts marker low high command sum payload
  simp only [List.cons_append] at hrest hlast hfront hlength ⊢
  simp only [decode, hlength, hrest, hlast, hfront]

private theorem wellFormed_parts :
    WellFormed (marker :: low :: high :: command :: payload ++ [sum]) ↔
      payload.length + 5 = Bytes.toNatLE [low, high] + 3 ∧
        sum = checksum (marker :: low :: high :: command :: payload) := by
  constructor
  · rintro ⟨-, sized, front, last, hparts, summed⟩
    obtain ⟨rfl, hlast⟩ := List.append_inj' hparts rfl
    cases hlast
    refine ⟨?_, UInt8.toNat.inj ?_⟩
    · rw [← length_parts marker low high command sum payload, ← sized, declaredLength_parts]
    · rw [summed, toNat_checksum]
  · rintro ⟨sized, summed⟩
    refine ⟨?_, ?_, _, _, rfl, ?_⟩
    · rw [length_parts]
      omega
    · rw [length_parts, declaredLength_parts, sized]
    · rw [summed, toNat_checksum]

end parts

private theorem decode_of_short {bs : Bytes} (short : bs.length < 3) :
    decode bs = .error (.tooShort bs.length) := by
  match bs, short with
  | [], _ | [_], _ | [_, _], _ => rfl

private theorem decode_of_truncated {bs : Bytes} (head : 3 ≤ bs.length) (short : bs.length < 5) :
    decode bs = if declaredLength bs ≠ bs.length then
      .error (.sizeMismatch (declaredLength bs) bs.length) else .error (.tooShort bs.length) := by
  match bs, head, short with
  | [marker, low, high], _, _ | [marker, low, high, last], _, _ =>
    simp only [decode, declaredLength, List.drop_one, List.tail_cons, List.take_succ_cons,
      List.take_zero, List.dropLast, List.getLast?_nil, ne_eq, eq_comm]

theorem encode_of_decode {bs : Bytes} {f : Frame} (h : decode bs = .ok f) :
    WellFormed bs ∧ f.encode = .ok bs := by
  rcases Nat.lt_or_ge bs.length 5 with short | long
  · rcases Nat.lt_or_ge bs.length 3 with headless | head
    · rw [decode_of_short headless] at h
      cases h
    · rw [decode_of_truncated head short] at h
      split at h <;> cases h
  · obtain ⟨marker, low, high, command, payload, sum, rfl⟩ := exists_parts long
    rw [decode_parts] at h
    split at h
    · cases h
    · rename_i sized
      split at h
      · rename_i summed
        cases h
        have hsize := Classical.not_not.mp sized
        refine ⟨(wellFormed_parts ..).mpr ⟨hsize, summed⟩, ?_⟩
        have hlt : Bytes.toNatLE [low, high] < 65536 := Bytes.toNatLE_lt [low, high]
        have hdeclared : payload.length + 2 = Bytes.toNatLE [low, high] := by omega
        have hbytes : Bytes.ofNatLE 2 (payload.length + 2) = [low, high] := by
          rw [hdeclared]
          exact Bytes.ofNatLE_toNatLE [low, high]
        have hbody : body ⟨⟨marker⟩, command, payload⟩ =
            marker :: low :: high :: command :: payload := by
          rw [body, hbytes]
          rfl
        rw [encode, if_pos (by simp only; omega), hbody, summed]
      · cases h

theorem decode_encode {bs : Bytes} {f : Frame} (h : f.encode = .ok bs) : decode bs = .ok f := by
  obtain ⟨⟨marker⟩, command, payload⟩ := f
  unfold encode at h
  split at h
  · rename_i fits
    cases h
    obtain ⟨low, high, hbytes⟩ : ∃ low high,
        Bytes.ofNatLE 2 (payload.length + 2) = [low, high] := ⟨_, _, rfl⟩
    have hsize : Bytes.toNatLE [low, high] = payload.length + 2 := by
      rw [← hbytes, Bytes.toNatLE_ofNatLE]
      exact Nat.mod_eq_of_lt fits
    have hbody : body ⟨⟨marker⟩, command, payload⟩ =
        marker :: low :: high :: command :: payload := by
      rw [body, hbytes]
      rfl
    rw [hbody, decode_parts, hsize, if_neg (by omega), if_pos rfl]
  · cases h

theorem encode_eq_ite (f : Frame) : f.encode =
    if f.payload.length ≤ 65533 then .ok (f.body ++ [checksum f.body])
    else .error (.payloadTooLarge f.payload.length) := by
  rw [encode]
  refine ite_congr (propext ?_) (fun _ => rfl) fun _ => rfl
  omega

theorem length_of_encode {bs : Bytes} {f : Frame} (h : f.encode = .ok bs) :
    bs.length = f.payload.length + 5 := by
  rw [encode_eq_ite] at h
  split at h
  · cases h
    simp [body]
    omega
  · cases h

private theorem decode_of_wellFormed {bs : Bytes} (well : WellFormed bs) :
    ∃ f, decode bs = .ok f := by
  obtain ⟨marker, low, high, command, payload, sum, rfl⟩ := exists_parts well.long
  obtain ⟨sized, summed⟩ := (wellFormed_parts ..).mp well
  refine ⟨⟨⟨marker⟩, command, payload⟩, ?_⟩
  rw [decode_parts, if_neg (not_not_intro sized), if_pos summed]

theorem decode_of_not_wellFormed {bs : Bytes} (bad : ¬ WellFormed bs) :
    decode bs = .error (defect bs) := by
  unfold defect
  rcases Nat.lt_or_ge bs.length 3 with headless | head
  · rw [if_pos headless, decode_of_short headless]
  · rw [if_neg (Nat.not_lt.mpr head)]
    rcases Nat.lt_or_ge bs.length 5 with short | long
    · rw [decode_of_truncated head short, if_pos short]
      split <;> rfl
    · rw [if_neg (Nat.not_lt.mpr long)]
      obtain ⟨marker, low, high, command, payload, sum, rfl⟩ := exists_parts long
      rw [wellFormed_parts] at bad
      rw [decode_parts, declaredLength_parts, length_parts, List.dropLast_concat,
        List.getLastD_concat]
      by_cases sized : payload.length + 5 = Bytes.toNatLE [low, high] + 3
      · rw [if_neg (not_not_intro sized), if_neg fun summed => bad ⟨sized, summed⟩,
          if_neg (not_not_intro sized.symm)]
      · rw [if_pos sized, if_pos (Ne.symm sized)]

/-- The codec is exact in both directions. Whatever fits into a frame is encoded and read back, and
nothing else is encoded; well-formed bytes and no others are decoded, and encode back to
themselves; and of all other bytes the first defect comes out. -/
theorem codec_exact :
    (∀ f : Frame,
      if f.payload.length ≤ 65533 then ∃ bs, f.encode = .ok bs ∧ decode bs = .ok f
      else f.encode = .error (.payloadTooLarge f.payload.length)) ∧
    ∀ bs : Bytes,
      ((∃ f, decode bs = .ok f) ↔ WellFormed bs) ∧
      (∀ f, decode bs = .ok f → f.encode = .ok bs) ∧
      (¬ WellFormed bs → decode bs = .error (defect bs)) := by
  constructor
  · intro f
    have hencode := encode_eq_ite f
    split
    · rename_i fits
      rw [if_pos fits] at hencode
      exact ⟨_, hencode, decode_encode hencode⟩
    · rename_i large
      rw [if_neg large] at hencode
      exact hencode
  · intro bs
    refine ⟨⟨?_, decode_of_wellFormed⟩, fun f h => (encode_of_decode h).2, decode_of_not_wellFormed⟩
    rintro ⟨f, h⟩
    exact (encode_of_decode h).1

end Frame

end Oscilloscope
