/- The memory depth that comes with a timebase. It is searched for from the present depth down. The
   search always ends, at the largest depth that has a sample rate, and what the samples in a frame
   say of the rate agrees with what the table of rates says. -/

import Oscilloscope.Proofs.Setting.Offer

set_option autoImplicit false
set_option relaxedAutoImplicit false

namespace Oscilloscope

private theorem sampleRate_eq_zero_iff {tb : Timebase} {both menu : Bool} {depth : MemoryDepth} :
    sampleRate tb both menu depth = 0 ↔ maxSampleRate tb both depth = 0 := by
  have tables : ∀ i : Fin 32, ∀ both menu : Bool, ∀ depth ∈ MemoryDepth.all,
      (sampleRate ⟨i⟩ both menu depth = 0 ↔ maxSampleRate ⟨i⟩ both depth = 0) := by
    decide +kernel
  exact tables tb.index both menu depth (CodeTable.mem_all depth)

namespace MemoryDepth

variable {depth next fitting other : MemoryDepth}

private theorem samples_le_iff : depth.samples ≤ other.samples ↔ depth.rank ≤ other.rank := by
  cases depth <;> cases other <;> decide

private theorem eq_of_rank_eq (same : depth.rank = other.rank) : depth = other := by
  cases depth <;> cases other <;> first | rfl | cases same

/-- The search for a depth, one step after the other: a depth with a rate is taken, and from one
without it goes on with the next smaller. -/
inductive Search (tb : Timebase) (both : Bool) : MemoryDepth → MemoryDepth → Prop
  | taken {depth : MemoryDepth} (rate : maxSampleRate tb both depth ≠ 0) :
      Search tb both depth depth
  | lower {depth next fitting : MemoryDepth} (lacks : maxSampleRate tb both depth = 0)
      (below : depth.smaller? = some next) (rest : Search tb both next fitting) :
      Search tb both depth fitting

/-- The largest depth with a rate among those that are not above `depth`. -/
structure Fits (tb : Timebase) (both : Bool) (depth fitting : MemoryDepth) : Prop where
  within : fitting.samples ≤ depth.samples
  rate : maxSampleRate tb both fitting ≠ 0
  largest : ∀ other : MemoryDepth, other.samples ≤ depth.samples →
    maxSampleRate tb both other ≠ 0 → other.samples ≤ fitting.samples

variable {tb : Timebase} {both : Bool}

private theorem search_of_fittingDepth? (found : fittingDepth? tb both depth = some fitting) :
    Search tb both depth fitting := by
  fun_induction fittingDepth? tb both depth with
  | case1 _ lacks _ below ih => exact .lower lacks below (ih found)
  | case2 => cases found
  | case3 depth rate =>
    cases found
    exact .taken rate

private theorem exists_search (tb : Timebase) (both : Bool) (depth : MemoryDepth) :
    ∃ fitting, fittingDepth? tb both depth = some fitting ∧ Search tb both depth fitting := by
  obtain ⟨fitting, found⟩ := Snapshot.exists_fittingDepth tb both depth
  exact ⟨fitting, found, search_of_fittingDepth? found⟩

private theorem Fits.lower (lacks : maxSampleRate tb both depth = 0)
    (below : depth.smaller? = some next)
    (fits : Fits tb both next fitting) : Fits tb both depth fitting := by
  have place := rank_of_smaller? below
  have within := samples_le_iff.mp fits.within
  refine ⟨samples_le_iff.mpr (by omega), fits.rate, fun other small rate => ?_⟩
  have rank := samples_le_iff.mp small
  have passed : other.rank ≠ depth.rank := by
    intro same
    rw [eq_of_rank_eq same] at rate
    exact rate lacks
  exact fits.largest other (samples_le_iff.mpr (by omega)) rate

private theorem Search.fits (search : Search tb both depth fitting) :
    Fits tb both depth fitting := by
  induction search with
  | taken rate => exact ⟨UInt64.le_refl _, rate, fun _ small _ => small⟩
  | lower lacks below _ ih => exact ih.lower lacks below

private theorem Fits.eq_iff (fits : Fits tb both depth fitting) :
    fitting = depth ↔ maxSampleRate tb both depth ≠ 0 := by
  constructor
  · rintro rfl
    exact fits.rate
  · intro rate
    have down := samples_le_iff.mp fits.within
    have up := samples_le_iff.mp (fits.largest depth (UInt64.le_refl _) rate)
    exact eq_of_rank_eq (Nat.le_antisymm down up)

end MemoryDepth

namespace Snapshot

def timed (s : Snapshot) (tb : Timebase) (depth : MemoryDepth) : Snapshot :=
  { s with
    horizontal := { s.horizontal with windowTimebase := CodeTable.code tb }
    acquire := { s.acquire with memoryDepth := CodeTable.code depth } }

variable {s : Snapshot} {tb : Timebase} {depth fitting : MemoryDepth}

private theorem memoryDepth_of_code (known : CodeTable.code depth = s.acquire.memoryDepth) :
    s.memoryDepth = .ok depth := by
  rw [memoryDepth, ← known]
  exact decodeRegister_code .memoryDepth depth

private theorem setTimebase_of_unknown
    (unknown : (CodeTable.ofCode? s.acquire.memoryDepth : Option MemoryDepth) = none) :
    s.setTimebase tb = .error (.unknownCode .memoryDepth s.acquire.memoryDepth) := by
  have undecoded : s.memoryDepth = .error (.unknownCode .memoryDepth s.acquire.memoryDepth) :=
    decodeRegister_of_unknown unknown
  rw [setTimebase_eq, undecoded]
  rfl

private theorem sampleRate_timed (fits : MemoryDepth.Fits tb s.bothEnabled depth fitting) :
    ∃ rate, (s.timed tb fitting).sampleRate = .ok rate ∧ 0 < rate := by
  have window : (s.timed tb fitting).windowTimebase = .ok tb :=
    decodeRegister_code .windowTimebase tb
  have memory : (s.timed tb fitting).memoryDepth = .ok fitting :=
    decodeRegister_code .memoryDepth fitting
  refine ⟨Oscilloscope.sampleRate tb s.bothEnabled s.menuVisible fitting, ?_, ?_⟩
  · rw [sampleRate, window, memory]
    rfl
  · refine Nat.pos_of_ne_zero fun zero => ?_
    exact fits.rate (sampleRate_eq_zero_iff.mp zero)

/-- A timebase can be set as soon as the code of the memory depth is known, and for no other reason
does it fail. Then the search from the present depth ends, at the largest depth not above it that
has a rate with the new timebase and the channels in use. Window timebase and memory depth become
these two and no other register changes; the depth stays as it was exactly if it has a rate itself.
The samples in a frame then give a positive sample rate too. -/
theorem setTimebase_takes_largest_depth (s : Snapshot) (tb : Timebase) :
    ((∃ fault, s.setTimebase tb = .error fault) ↔
      ∀ depth : MemoryDepth, CodeTable.code depth ≠ s.acquire.memoryDepth) ∧
    (∀ fault, s.setTimebase tb = .error fault →
      fault = .unknownCode .memoryDepth s.acquire.memoryDepth) ∧
    ∀ depth : MemoryDepth, CodeTable.code depth = s.acquire.memoryDepth →
      ∃ fitting, s.setTimebase tb = .ok (s.timed tb fitting) ∧
        MemoryDepth.Search tb s.bothEnabled depth fitting ∧
        MemoryDepth.Fits tb s.bothEnabled depth fitting ∧
        ((s.timed tb fitting).acquire.memoryDepth = s.acquire.memoryDepth ↔
          maxSampleRate tb s.bothEnabled depth ≠ 0) ∧
        ∃ rate, (s.timed tb fitting).sampleRate = .ok rate ∧ 0 < rate := by
  have taken (depth : MemoryDepth) (known : CodeTable.code depth = s.acquire.memoryDepth) :
      ∃ fitting, s.setTimebase tb = .ok (s.timed tb fitting) ∧
        MemoryDepth.Search tb s.bothEnabled depth fitting := by
    obtain ⟨fitting, found, search⟩ := MemoryDepth.exists_search tb s.bothEnabled depth
    have decoded := memoryDepth_of_code known
    exact ⟨fitting, setTimebase_eq_ok_iff.mpr ⟨depth, fitting, decoded, found, rfl⟩, search⟩
  refine ⟨⟨?_, ?_⟩, ?_, ?_⟩
  · rintro ⟨fault, failed⟩ depth known
    obtain ⟨fitting, done, -⟩ := taken depth known
    cases done.symm.trans failed
  · intro unknown
    cases done : s.setTimebase tb with
    | error fault => exact ⟨fault, rfl⟩
    | ok t =>
      obtain ⟨depth, -, decoded, -⟩ := setTimebase_eq_ok_iff.mp done
      exact absurd (code_of_decodeRegister decoded) (unknown depth)
  · intro fault failed
    rcases decodeRegister_eq_ok_or (α := MemoryDepth) .memoryDepth s.acquire.memoryDepth with
      ⟨depth, decoded⟩ | unknown
    · obtain ⟨fitting, done, -⟩ := taken depth (code_of_decodeRegister decoded)
      cases done.symm.trans failed
    · cases (setTimebase_of_unknown unknown).symm.trans failed
      rfl
  · intro depth known
    obtain ⟨fitting, done, search⟩ := taken depth known
    have fits := search.fits
    refine ⟨fitting, done, search, fits, ?_, sampleRate_timed fits⟩
    rw [← fits.eq_iff, ← known]
    exact ⟨CodeTable.code_inj _ _, congrArg CodeTable.code⟩

theorem setTimebase_takes_largest_depth_at_200_us :
    let s := { Snapshot.zero with acquire := { Snapshot.zero.acquire with memoryDepth := 7 } }
    s.memoryDepth = .ok .m1 ∧ s.setTimebase ⟨15⟩ = .ok (s.timed ⟨15⟩ .k512) := by
  intro s
  have known : CodeTable.code MemoryDepth.m1 = s.acquire.memoryDepth := rfl
  obtain ⟨-, -, set⟩ := setTimebase_takes_largest_depth s ⟨15⟩
  obtain ⟨fitting, done, search, -⟩ := set .m1 known
  refine ⟨memoryDepth_of_code known, ?_⟩
  cases search with
  | taken rate => exact absurd (by decide) rate
  | lower _ below rest =>
    cases below
    cases rest with
    | taken => exact done
    | lower lacks => exact absurd lacks (by decide)

end Snapshot

end Oscilloscope
