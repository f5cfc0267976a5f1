/- Damage on the wire. A frame of which one byte has changed, the end is missing or to which more
   was added is never taken for a frame: any byte but the last counts in the sum, the last is
   compared with it, and as many bytes as declared have to be there. -/

import Oscilloscope.Proofs.Wire.Format

set_option autoImplicit false
set_option relaxedAutoImplicit false

namespace Oscilloscope

/-- What one mishap makes of a transfer. -/
inductive Damaged : Bytes → Bytes → Prop
  | replaced (front : Bytes) {b other : UInt8} (back : Bytes) (ne : other ≠ b) :
      Damaged (front ++ b :: back) (front ++ other :: back)
  | cut (front : Bytes) {lost : Bytes} (any : lost ≠ []) : Damaged (front ++ lost) front
  | extended (bs : Bytes) {more : Bytes} (any : more ≠ []) : Damaged bs (bs ++ more)

def differences (bs other : Bytes) : Nat :=
  (bs.zip other).countP fun p => p.1 != p.2

private theorem differences_cons (b o : UInt8) (bs other : Bytes) :
    differences (b :: bs) (o :: other) = differences bs other + if b = o then 0 else 1 := by
  simp [differences, List.countP_cons]

private theorem eq_of_differences_eq_zero {bs other : Bytes} (same : other.length = bs.length)
    (h : differences bs other = 0) : other = bs := by
  induction bs generalizing other with
  | nil => exact List.length_eq_zero_iff.mp same
  | cons b bs ih =>
    obtain ⟨o, other, rfl⟩ := List.exists_cons_of_length_eq_add_one same
    rw [differences_cons] at h
    split at h
    · rename_i heq
      rw [heq, ih (Nat.succ.inj same) h]
    · cases h

private theorem Damaged.of_differences_eq_one {bs other : Bytes} (same : other.length = bs.length)
    (h : differences bs other = 1) : Damaged bs other := by
  -- The bytes in front agree so far.
  suffices ∃ front b o back, o ≠ b ∧ bs = front ++ b :: back ∧ other = front ++ o :: back by
    obtain ⟨front, b, o, back, ne, rfl, rfl⟩ := this
    exact .replaced front back ne
  induction bs generalizing other with
  | nil => cases h
  | cons b bs ih =>
    obtain ⟨o, other, rfl⟩ := List.exists_cons_of_length_eq_add_one same
    rw [differences_cons] at h
    split at h
    · rename_i heq
      obtain ⟨front, b', o', back, ne, rfl, rfl⟩ := ih (Nat.succ.inj same) h
      exact ⟨b :: front, b', o', back, ne, rfl, by rw [heq]; rfl⟩
    · rename_i ne
      rw [eq_of_differences_eq_zero (Nat.succ.inj same) (Nat.succ.inj h)]
      exact ⟨[], b, o, bs, Ne.symm ne, rfl, rfl⟩

namespace Frame

private theorem WellFormed.last_eq {front : Bytes} {last : UInt8}
    (h : WellFormed (front ++ [last])) :
    last.toNat = (front.map UInt8.toNat).sum % 256 := by
  obtain ⟨-, -, front', last', hparts, summed⟩ := h
  obtain ⟨rfl, hlast⟩ := List.append_inj' hparts rfl
  cases hlast
  exact summed

private theorem WellFormed.eq_of_replaced {front back : Bytes} {b other : UInt8}
    (h : WellFormed (front ++ b :: back)) (hother : WellFormed (front ++ other :: back)) :
    other = b := by
  apply UInt8.toNat.inj
  rcases List.eq_nil_or_concat back with rfl | ⟨middle, last, rfl⟩
  · rw [h.last_eq, hother.last_eq]
  · rw [List.concat_eq_append, ← List.cons_append, ← List.append_assoc] at h hother
    have hsum := h.last_eq
    rw [hother.last_eq] at hsum
    simp only [List.map_append, List.map_cons, List.sum_append, List.sum_cons] at hsum
    have hb := b.toNat_lt
    have hlt := other.toNat_lt
    omega

private theorem declaredLength_append {front : Bytes} (head : 3 ≤ front.length) (rest : Bytes) :
    declaredLength (front ++ rest) = declaredLength front := by
  match front, head with
  | _ :: _ :: _ :: _, _ => rfl

private theorem WellFormed.eq_of_isPrefix {bs other : Bytes} (h : WellFormed bs)
    (hother : WellFormed other)
    (start : bs <+: other) : other = bs := by
  have hlength := start.length_le
  obtain ⟨rest, rfl⟩ := start
  have hlong := h.long
  have hsized := hother.sized
  rw [declaredLength_append (by omega), h.sized] at hsized
  have hrest : rest.length = 0 := by
    rw [List.length_append] at hsized
    omega
  rw [List.length_eq_zero_iff.mp hrest, List.append_nil]

private theorem not_wellFormed_of_damaged {bs damaged : Bytes} (h : WellFormed bs)
    (damage : Damaged bs damaged) : ¬ WellFormed damaged := by
  intro hdamaged
  cases damage with
  | replaced front back ne => exact ne (h.eq_of_replaced hdamaged)
  | cut front any => exact any (List.append_right_eq_self.mp (hdamaged.eq_of_isPrefix h ⟨_, rfl⟩))
  | extended bs any => exact any (List.append_right_eq_self.mp (h.eq_of_isPrefix hdamaged ⟨_, rfl⟩))

theorem decode_take {bs : Bytes} {f : Frame} {n : Nat} (accepted : decode bs = .ok f)
    (head : 3 ≤ n) (cut : n < bs.length) :
    decode (bs.take n) = .error (.sizeMismatch bs.length n) := by
  have well := (encode_of_decode accepted).1
  have hlength : (bs.take n).length = n := List.length_take_of_le (Nat.le_of_lt cut)
  have hdeclared : declaredLength (bs.take n) = bs.length := by
    rw [← declaredLength_append (by omega) (bs.drop n), List.take_append_drop, well.sized]
  have bad : ¬ WellFormed (bs.take n) := fun short =>
    absurd short.sized (by omega)
  rw [decode_of_not_wellFormed bad, defect, hdeclared, hlength, if_neg (by omega),
    if_pos (Nat.ne_of_gt cut)]

/-- Nothing that one mishap makes of accepted bytes is accepted, and what is reported is its first
defect. Accepted bytes of one length disagree nowhere or in several positions, and none start with
others. -/
theorem damage_detected {bs : Bytes} {f : Frame} (accepted : decode bs = .ok f) :
    (∀ damaged, Damaged bs damaged → decode damaged = .error (defect damaged)) ∧
      ∀ other g, decode other = .ok g →
        (other.length = bs.length → differences bs other ≠ 1) ∧ (bs <+: other → other = bs) := by
  have well := (encode_of_decode accepted).1
  refine ⟨fun damaged damage => decode_of_not_wellFormed (not_wellFormed_of_damaged well damage),
    fun other g hother => ?_⟩
  have wellOther := (encode_of_decode hother).1
  refine ⟨fun same single => ?_, well.eq_of_isPrefix wellOther⟩
  exact not_wellFormed_of_damaged well (.of_differences_eq_one same single) wellOther

theorem damage_detected_acknowledgement :
    decode [0x53, 4, 0, 0x92, 1, 1, 0xeb] = .ok ⟨.normal, Command.lock.response, [1, 1]⟩ ∧
      decode [0x53, 4, 0, 0x92, 1, 3, 0xeb] = .error (.checksum 0xed 0xeb) ∧
      decode [0x53, 4, 0, 0x92, 1, 1] = .error (.sizeMismatch 7 6) ∧
      decode [0x53, 4, 0, 0x92, 1, 1, 0xeb, 0] = .error (.sizeMismatch 7 8) := by
  have accepted : decode [0x53, 4, 0, 0x92, 1, 1, 0xeb] =
      .ok ⟨.normal, Command.lock.response, [1, 1]⟩ := rfl
  have detected := (damage_detected accepted).1
  exact ⟨accepted, detected _ (.replaced [0x53, 4, 0, 0x92, 1] [0xeb] (by decide)),
    detected _ (.cut [0x53, 4, 0, 0x92, 1, 1] (List.cons_ne_nil 0xeb [])),
    detected _ (.extended _ (List.cons_ne_nil 0 []))⟩

end Frame

end Oscilloscope
