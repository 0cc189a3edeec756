import OutOfDomain.Proofs.Parameters.Bounds

/-!
# Validation is exact

A draft may have any number of faults, and validation reports one of them. `Draft.HasFault` says what
is a fault, each on its own and whatever else is wrong, and `ParameterError.rank` puts the kinds of
faults in order. A draft is refused for the fault of the least rank that it has, and accepted if it has
none (`Draft.validate_exact`).

What is accepted has word arithmetic that is that of numbers (`Parameters.IsExact`). The length of the
trace and the blowup are powers of two, and so is their product; so the highest degree has all bits set
and fills its width, and the number of rows is the first that needs one bit more. The edge is a trace of
`2 ^ 63` rows: without a blowup its highest degree takes 63 bits and its number of rows 64, and with the
next blowup the product is `2 ^ 64` and is refused.
-/

set_option autoImplicit false

namespace OutOfDomain

/-! ## Faults -/

/-- What can be wrong with a draft. No fault takes account of the others. -/
inductive Draft.HasFault (d : Draft) : ParameterError → Prop
  | traceTooShort (h : d.traceLength.toNat < 2) : HasFault d (.traceTooShort d.traceLength)
  | traceLengthNotPowerOfTwo (h : ¬ d.traceLength.toNat.isPowerOfTwo) :
    HasFault d (.traceLengthNotPowerOfTwo d.traceLength)
  | traceWidthZero (h : d.traceWidth.toNat = 0) : HasFault d .traceWidthZero
  | invalidBlowup (h : ¬ d.blowup.toNat.isPowerOfTwo) : HasFault d (.invalidBlowup d.blowup)
  | domainOverflow (h : 2 ^ 64 ≤ d.traceLength.toNat * d.blowup.toNat) :
    HasFault d (.domainOverflow d.traceLength d.blowup)

/-- The order in which faults are reported. -/
def ParameterError.rank : ParameterError → ℕ
  | .traceTooShort _ => 0
  | .traceLengthNotPowerOfTwo _ => 1
  | .traceWidthZero => 2
  | .invalidBlowup _ => 3
  | .domainOverflow _ _ => 4

namespace Draft

variable {d : Draft} {e e' : ParameterError}

theorem traceLength_lt_minTraceLength_iff : d.traceLength < minTraceLength ↔ d.traceLength.toNat < 2 :=
  UInt64.lt_iff_toNat_lt

theorem traceWidth_eq_zero_iff : d.traceWidth = 0 ↔ d.traceWidth.toNat = 0 :=
  UInt64.toNat_inj.symm

/-- A draft has at most one fault of a kind. -/
theorem HasFault.eq_of_rank_eq (h : d.HasFault e) (h' : d.HasFault e') (hrank : e.rank = e'.rank) :
    e = e' := by
  cases h <;> cases h' <;> simp_all [ParameterError.rank]

theorem IsSound.not_hasFault (h : d.IsSound) : ¬ d.HasFault e := by
  intro hfault
  cases hfault with
  | traceTooShort hshort => exact Nat.not_lt.2 h.two_le_traceLength hshort
  | traceLengthNotPowerOfTwo hpower => exact hpower h.isPowerOfTwo_traceLength
  | traceWidthZero hwidth => exact Nat.not_lt.2 hwidth.le h.one_le_traceWidth
  | invalidBlowup hblowup => exact hblowup h.isPowerOfTwo_blowup
  | domainOverflow hsize => exact Nat.not_lt.2 hsize h.length_mul_blowup_lt

theorem hasFault_of_fault? (h : d.fault? = some e) : d.HasFault e := by
  unfold fault? at h
  split at h
  next hshort =>
    cases h
    exact .traceTooShort (traceLength_lt_minTraceLength_iff.1 hshort)
  split at h
  next hpower =>
    cases h
    exact .traceLengthNotPowerOfTwo hpower
  split at h
  next hwidth =>
    cases h
    exact .traceWidthZero (traceWidth_eq_zero_iff.1 hwidth)
  split at h
  next hblowup =>
    cases h
    exact .invalidBlowup hblowup
  split at h
  next hsize =>
    cases h
    exact .domainOverflow hsize
  next => cases h

/-- A fault is only passed over for one that comes before it. -/
theorem rank_le_of_fault? (h : d.fault? = some e) (h' : d.HasFault e') : e.rank ≤ e'.rank := by
  unfold fault? at h
  -- The search does not get past the fault, and what it finds before has a lower rank.
  cases h' with
  | traceTooShort hshort =>
    rw [if_pos (traceLength_lt_minTraceLength_iff.2 hshort)] at h
    cases h
    exact le_rfl
  | traceLengthNotPowerOfTwo hpower =>
    rw [if_pos hpower] at h
    split at h <;> cases h <;> simp [ParameterError.rank]
  | traceWidthZero hwidth =>
    rw [if_pos (traceWidth_eq_zero_iff.2 hwidth)] at h
    repeat' split at h
    all_goals cases h; simp [ParameterError.rank]
  | invalidBlowup hblowup =>
    rw [if_pos hblowup] at h
    repeat' split at h
    all_goals cases h; simp [ParameterError.rank]
  | domainOverflow hsize =>
    have hsize' : UInt64.size ≤ d.traceLength.toNat * d.blowup.toNat := hsize
    rw [if_pos hsize'] at h
    repeat' split at h
    all_goals cases h; simp [ParameterError.rank]

/-- The fault of a draft is the first of its faults. -/
theorem fault?_eq_some_iff :
    d.fault? = some e ↔ d.HasFault e ∧ ∀ e', d.HasFault e' → e.rank ≤ e'.rank := by
  constructor
  · intro h
    exact ⟨hasFault_of_fault? h, fun e' h' => rank_le_of_fault? h h'⟩
  · intro ⟨hfault, hfirst⟩
    cases hreported : d.fault? with
    | none => exact absurd hfault (isSound_iff.2 hreported).not_hasFault
    | some reported =>
      have hle := hfirst reported (hasFault_of_fault? hreported)
      have hge := rank_le_of_fault? hreported hfault
      rw [(hasFault_of_fault? hreported).eq_of_rank_eq hfault (Nat.le_antisymm hge hle)]

theorem validate_eq_error_iff : d.validate = .error e ↔ d.fault? = some e := by
  unfold validate
  split
  next e' h => rw [h, Option.some_inj, Except.error.injEq]
  next h => exact iff_of_false nofun fun h' => nomatch h.symm.trans h'

theorem exists_validate_iff : (∃ p, d.validate = .ok p) ↔ d.IsSound := by
  simp only [validate_eq_ok_iff]
  constructor
  · intro ⟨p, hp⟩
    exact hp ▸ p.isSound
  · intro h
    exact ⟨⟨d, isSound_iff.1 h⟩, rfl⟩

end Draft

/-! ## Derived quantities -/

/-- The words that are derived from parameters are the numbers that their formulas say, and the two
widths are those of the numbers that they are for: every degree up to the highest fits the one, every
number of rows up to that of the trace the other, and no power with such an exponent is refused. -/
structure Parameters.IsExact (p : Parameters) : Prop where
  product : (p.traceLength * p.blowup).toNat = p.traceLength.toNat * p.blowup.toNat
  maxDegree : p.maxDegree.toNat + 1 = p.traceLength.toNat * p.blowup.toNat
  compositionDomainSize : p.compositionDomainSize.toNat = p.maxDegree.toNat + 1
  lastRow_le : p.traceLength.toNat - 1 ≤ p.maxDegree.toNat
  two_pow_degreeBits : 2 ^ p.degreeBits.toNat = p.traceLength.toNat * p.blowup.toNat
  two_pow_stepBits : 2 ^ p.stepBits.toNat = 2 * p.traceLength.toNat
  degree_lt : ∀ e : UInt64, e ≤ p.maxDegree → e.toNat < 2 ^ p.degreeBits.toNat
  step_lt : ∀ e : UInt64, e ≤ p.traceLength → e.toNat < 2 ^ p.stepBits.toNat
  powBounded_degreeBits : ∀ (q : Modulus) (base : Residue q) (e : UInt64), e ≤ p.maxDegree →
    base.powBounded e p.degreeBits = .ok (base ^ e.toNat)
  powBounded_stepBits : ∀ (q : Modulus) (base : Residue q) (e : UInt64), e ≤ p.traceLength →
    base.powBounded e p.stepBits = .ok (base ^ e.toNat)

namespace Parameters

variable (p : Parameters)

theorem two_pow_degreeBits : 2 ^ p.degreeBits.toNat = p.traceLength.toNat * p.blowup.toNat := by
  obtain ⟨rows, hrows⟩ := p.isPowerOfTwo_traceLength
  obtain ⟨copies, hcopies⟩ := p.isPowerOfTwo_blowup
  have hproduct : p.traceLength.toNat * p.blowup.toNat = 2 ^ (rows + copies) := by
    rw [hrows, hcopies, pow_add]
  have hbits : p.degreeBits.toNat = rows + copies :=
    bitWidth_of_add_one_eq_two_pow (p.toNat_maxDegree_add_one.trans hproduct)
  rw [hbits, hproduct]

theorem two_pow_stepBits : 2 ^ p.stepBits.toNat = 2 * p.traceLength.toNat := by
  obtain ⟨rows, hrows⟩ := p.isPowerOfTwo_traceLength
  have hbits : p.stepBits.toNat = rows + 1 := bitWidth_of_eq_two_pow hrows
  rw [hbits, hrows, pow_succ']

theorem isExact : p.IsExact where
  product := p.toNat_length_mul_blowup
  maxDegree := p.toNat_maxDegree_add_one
  compositionDomainSize := by rw [p.toNat_compositionDomainSize, p.toNat_maxDegree_add_one]
  lastRow_le := p.lastRow_le_maxDegree
  two_pow_degreeBits := p.two_pow_degreeBits
  two_pow_stepBits := p.two_pow_stepBits
  degree_lt e h := (UInt64.le_iff_toNat_le.1 h).trans_lt (toNat_lt_two_pow_bitWidth _)
  step_lt e h := (UInt64.le_iff_toNat_le.1 h).trans_lt (toNat_lt_two_pow_bitWidth _)
  powBounded_degreeBits _ _ e h := Residue.powBounded_bitWidth (UInt64.le_iff_toNat_le.1 h)
  powBounded_stepBits _ _ e h := Residue.powBounded_bitWidth (UInt64.le_iff_toNat_le.1 h)

end Parameters

/-! ## Both together -/

/-- **Validation is exact, and what it accepts is safe to compute with.** Any five words are accepted
exactly if the length of the trace is a power of two and at least two, there is a column, the blowup is
a power of two, and the product of length and blowup fits a word. If they are refused, it is for the
first of their faults. If they are accepted, the parameters are the five words, and everything that is
derived from them is exact. -/
theorem Draft.validate_exact (d : Draft) :
    ((∃ p, d.validate = .ok p) ↔ d.IsSound) ∧
      (∀ e, d.validate = .error e ↔
        d.HasFault e ∧ ∀ e', d.HasFault e' → e.rank ≤ e'.rank) ∧
      ∀ p, d.validate = .ok p → p.toDraft = d ∧ p.IsExact := by
  refine ⟨exists_validate_iff, fun e => ?_, fun p hp => ?_⟩
  · rw [validate_eq_error_iff, fault?_eq_some_iff]
  · exact ⟨validate_eq_ok_iff.1 hp, p.isExact⟩

/-- The longest trace that fits a word, with room for no blowup. -/
def longestDraft : Draft where
  traceLength := 0x8000000000000000
  traceWidth := 1
  assertionCount := 0
  blowup := 1
  publicInputCount := 0

theorem validate_exact_longestDraft :
    (∃ p, longestDraft.validate = .ok p ∧ p.toDraft = longestDraft ∧ p.IsExact) ∧
      { longestDraft with blowup := 2 }.validate =
        .error (.domainOverflow 0x8000000000000000 2) ∧
      { longestDraft with traceWidth := 0, blowup := 6 }.validate = .error .traceWidthZero := by
  have hlength : longestDraft.traceLength.toNat.isPowerOfTwo := ⟨63, rfl⟩
  have hblowup : longestDraft.blowup.toNat.isPowerOfTwo := ⟨0, rfl⟩
  refine ⟨?_, ?_, ?_⟩
  · obtain ⟨haccepted, -, hexact⟩ := Draft.validate_exact longestDraft
    obtain ⟨p, hp⟩ := haccepted.2 ⟨by decide, hlength, by decide, hblowup, by decide⟩
    exact ⟨p, hp, hexact p hp⟩
  · apply ((Draft.validate_exact _).2.1 _).2
    refine ⟨.domainOverflow (by decide), fun e' he' => ?_⟩
    -- No other fault is there, so the last one is the first.
    cases he' with
    | traceTooShort h => exact absurd h (by decide)
    | traceLengthNotPowerOfTwo h => exact absurd hlength h
    | traceWidthZero h => exact absurd h (by decide)
    | invalidBlowup h => exact absurd ⟨1, rfl⟩ h
    | domainOverflow => exact le_rfl
  · apply ((Draft.validate_exact _).2.1 _).2
    refine ⟨.traceWidthZero rfl, fun e' he' => ?_⟩
    cases he' with
    | traceTooShort h => exact absurd h (by decide)
    | traceLengthNotPowerOfTwo h => exact absurd hlength h
    | traceWidthZero => exact le_rfl
    | invalidBlowup => decide
    | domainOverflow => decide

end OutOfDomain
