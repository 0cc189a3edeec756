import OutOfDomain.Proofs.Check.Guard
import OutOfDomain.Proofs.Recurrence.Rows
import OutOfDomain.Proofs.Residue.Coset

/-!
# When a recurrence can be composed

Composing fails for three reasons, and the trace is none of them. The units must have a subgroup of
the size of the composition domain. The declared degree must be below that size. And the coset must
avoid the trace domain, which it does unless the subgroup is the group of all units
(`Residue.exists_shifted_pow_eq_one_iff`): then there is one coset, the point where it meets the trace
domain is degenerate, and nothing is composed.

`Recurrence.composable_iff` says that there are no other reasons. Whether the trace satisfies the
constraints does not matter: the polynomial that is composed from a broken trace is the wrong one, and
that is for a check to find out.
-/

set_option autoImplicit false

namespace OutOfDomain.Recurrence

variable {q : Modulus} [hq : Fact q.toNat.Prime] {r : Recurrence} {p : Parameters}
  {publicInputs : List (Residue q)} {transitionWeights boundaryWeights : List (Weight q)}

/-- With everything of its right size, a recurrence has a value at the points off the domain, if the
declared degree is in range. -/
theorem exists_valueAt_iff {T : TraceInterpolant q} {x : Residue q}
    (hfits : (r.system q).layout.Fits p) (hwidth : T.columns.length = r.rule.width)
    (hgenerator : T.generator ^ p.traceLength.toNat = 1)
    (hinputs : publicInputs.length = r.rule.publicInputCount)
    (htransition : transitionWeights.length = r.rule.width)
    (hboundary : boundaryWeights.length = r.rule.assertionCount) :
    (∃ value, Composition.valueAt p (r.system q) T publicInputs transitionWeights boundaryWeights x
        = .ok value) ↔
      x ^ p.traceLength.toNat ≠ 1 ∧ (r.rule.degree * r.lastRow).toNat ≤ p.maxDegree.toNat := by
  simp only [valueAt_eq_ok_iff hfits hwidth hgenerator]
  constructor
  · rintro ⟨_, hx, happlies, -⟩
    exact ⟨hx, happlies.degree_le⟩
  · rintro ⟨hx, hdegree⟩
    obtain ⟨assertions, hassertions⟩ := exists_assertions_iff.2 hinputs
    refine ⟨_, hx, ⟨?_, ?_, hdegree⟩, assertions, hassertions, rfl⟩
    · rw [htransition, toNat_traceWidth_of_fits hfits]
    · rw [hboundary, toNat_assertionCount_of_fits hfits]

section Domain

variable (hg : orderOf (Residue.generator : Residue q) = q.toNat - 1)

include hg

/-- The coset meets the trace domain exactly if the composition domain is the group of all units. -/
theorem coset_meets_domain_iff {g : Residue q}
    (hdvd : p.traceLength.toNat * p.blowup.toNat ∣ q.toNat - 1)
    (hroot : Residue.rootOfUnity? p.traceLength = some g) :
    (∃ i < p.traceLength.toNat * p.blowup.toNat, ∃ k < p.traceLength.toNat,
        Residue.generator * p.compositionRoot ^ i = g ^ k) ↔
      p.traceLength.toNat * p.blowup.toNat = q.toNat - 1 := by
  have htwo := p.two_le_traceLength
  have horder : orderOf g = p.traceLength.toNat :=
    (Residue.isPrimitiveRoot_of_rootOfUnity? hg hroot).eq_orderOf.symm
  simp only [exists_row_iff (Nat.ne_zero_of_lt htwo) horder]
  exact Residue.exists_shifted_pow_eq_one_iff hg (Nat.mul_div_cancel' hdvd)

/-- There is a composition exactly if the domain has its size, avoids the trace domain and is large
enough for the declared degree. -/
theorem exists_composition_iff {t : TraceTable q} (hfits : (r.system q).layout.Fits p)
    (hwidth : t.width = r.rule.width) (hlength : t.length = p.traceLength.toNat)
    (hinputs : publicInputs.length = r.rule.publicInputCount)
    (htransition : transitionWeights.length = r.rule.width)
    (hboundary : boundaryWeights.length = r.rule.assertionCount) :
    (∃ c, Composition.compose p (r.system q) t publicInputs transitionWeights boundaryWeights
        = .ok c) ↔
      p.traceLength.toNat * p.blowup.toNat ∣ q.toNat - 1 ∧
      p.traceLength.toNat * p.blowup.toNat ≠ q.toNat - 1 ∧
      (r.rule.degree * r.lastRow).toNat ≤ p.maxDegree.toNat := by
  have htwo := p.two_le_traceLength
  have hle := p.traceLength_le_length_mul_blowup
  have hcolumns : t.width = p.traceWidth.toNat := hwidth.trans (toNat_traceWidth_of_fits hfits).symm
  have hvalue : p.traceLength.toNat * p.blowup.toNat ∣ q.toNat - 1 → ∀ x : Residue q,
      (∃ value, Composition.valueAt p (r.system q) t.interpolant publicInputs transitionWeights
          boundaryWeights x = .ok value) ↔
        x ^ p.traceLength.toNat ≠ 1 ∧ (r.rule.degree * r.lastRow).toNat ≤ p.maxDegree.toNat := by
    intro hdvd x
    have hrows : t.length ∣ q.toNat - 1 := hlength ▸ (Nat.dvd_mul_right _ _).trans hdvd
    have hroot : t.root ^ p.traceLength.toNat = 1 :=
      hlength ▸ (t.isPrimitiveRoot_root hg hrows).pow_eq_one
    exact exists_valueAt_iff hfits (t.length_columns_interpolant.trans hwidth) hroot hinputs
      htransition hboundary
  rw [Composition.exists_compose_iff hg]
  constructor
  · rintro ⟨-, -, hdvd, hvalues⟩
    have hdegree := ((hvalue hdvd _).1 (hvalues 0 (by omega))).2
    refine ⟨hdvd, fun hall => ?_, hdegree⟩
    obtain ⟨i, hi, hone⟩ :=
      (Residue.exists_shifted_pow_eq_one_iff hg (Nat.mul_div_cancel' hdvd)).2 hall
    exact ((hvalue hdvd _).1 (hvalues i hi)).1 hone
  · rintro ⟨hdvd, hproper, hdegree⟩
    refine ⟨hcolumns, hlength, hdvd, fun i hi => (hvalue hdvd _).2 ⟨fun hone => hproper ?_, hdegree⟩⟩
    exact (Residue.exists_shifted_pow_eq_one_iff hg (Nat.mul_div_cancel' hdvd)).1 ⟨i, hi, hone⟩

/-- **When a recurrence can be composed.** Take a trace of the shape of a recurrence, valid or not,
and public inputs and weights of the right numbers, over a prime modulus whose generator generates
all units. A composition exists if and only if the size of the composition domain divides the number
of units without being that number, and the declared degree is below the size. And where the size
divides the number of units, the coset and the trace domain have a point in common if and only if
the two numbers are the same. -/
theorem composable_iff {blowup : UInt64} {t : TraceTable q}
    (hparameters : (r.system q).parameters blowup = .ok p) (hwidth : t.width = r.rule.width)
    (hlength : t.length = r.length.toNat)
    (hinputs : publicInputs.length = r.rule.publicInputCount)
    (htransition : transitionWeights.length = r.rule.width)
    (hboundary : boundaryWeights.length = r.rule.assertionCount) :
    ((∃ c, Composition.compose p (r.system q) t publicInputs transitionWeights boundaryWeights
          = .ok c) ↔
        r.length.toNat * blowup.toNat ∣ q.toNat - 1 ∧
        r.length.toNat * blowup.toNat ≠ q.toNat - 1 ∧
        (r.rule.degree * r.lastRow).toNat ≤ r.length.toNat * blowup.toNat - 1) ∧
      (r.length.toNat * blowup.toNat ∣ q.toNat - 1 →
        ∃ root g : Residue q, Residue.rootOfUnity? p.compositionDomainSize = some root ∧
          Residue.rootOfUnity? r.length = some g ∧
          ((∃ i < r.length.toNat * blowup.toNat, ∃ k < r.length.toNat,
              Residue.generator * root ^ i = g ^ k) ↔
            r.length.toNat * blowup.toNat = q.toNat - 1)) := by
  have hfits := fits_of_parameters hparameters
  have hr : r.length = p.traceLength := hfits.traceLength
  have htwo := p.two_le_traceLength
  rw [← blowup_of_parameters hparameters, hr]
  rw [hr] at hlength
  constructor
  · rw [exists_composition_iff hg hfits hwidth hlength hinputs htransition hboundary,
      p.toNat_maxDegree]
  · intro hdvd
    have hroot : Residue.rootOfUnity? p.compositionDomainSize =
        some (p.compositionRoot : Residue q) :=
      p.rootOfUnity?_compositionDomainSize_eq_some_iff.2 ⟨hdvd, rfl⟩
    have hunity : Residue.rootOfUnity? p.traceLength =
        some (Residue.generator ^ ((q.toNat - 1) / p.traceLength.toNat) : Residue q) :=
      Residue.rootOfUnity?_eq_some_iff.2 ⟨by omega, (Nat.dvd_mul_right _ _).trans hdvd, rfl⟩
    exact ⟨_, _, hroot, hunity, coset_meets_domain_iff hg hdvd hunity⟩

end Domain

/-! ## The group of all units -/

/-- The prime 17, whose units are the powers of three. Four rows and a blowup of four use them up. -/
def seventeen : Modulus := ⟨17, 3, by decide⟩

theorem seventeen_generates : seventeen.Generates := by
  refine Modulus.generates_of_factors [2, 2, 2, 2] (by decide) (by decide +kernel) fun p hp => ?_
  simp only [List.mem_cons, List.not_mem_nil, or_false, or_self] at hp
  rw [hp]
  exact ⟨Nat.prime_two, by decide +kernel⟩

instance : Fact seventeen.toNat.Prime := ⟨seventeen_generates.prime⟩

theorem orderOf_generator_seventeen :
    orderOf (Residue.generator : Residue seventeen) = seventeen.toNat - 1 :=
  seventeen_generates.orderOf_generator

/-- A trace of zeros, which is no run of a rule for most moduli. -/
def zeros (q : Modulus) (r : Recurrence) : TraceTable q where
  columns := List.replicate r.rule.width (List.replicate r.length.toNat 0)
  length := r.length.toNat
  columns_ne_nil := by cases r.rule <;> exact List.cons_ne_nil _ _
  length_column _ h := by rw [List.eq_of_mem_replicate h, List.length_replicate]
  two_le_length := r.two_le_length
  isPowerOfTwo_length := r.isPowerOfTwo_length

/-- Parameters for four rows that ask for all 16 units. -/
def allUnitsParameters : Parameters := { fourRowsParameters with blowup := 4, faultless := by decide }

/-- Four rows of zeros can be composed on eight of 96 units, and not on all 16. -/
theorem composable_zeros :
    (∃ c, Composition.compose fourRowsParameters (fourRows.system Modulus.small) (fourRows.zeros _)
        [1, 1] [⟨1, 1⟩] [⟨1, 1⟩, ⟨1, 1⟩] = .ok c) ∧
      ¬∃ c, Composition.compose allUnitsParameters (fourRows.system seventeen) (fourRows.zeros _)
        [1, 1] [⟨1, 1⟩] [⟨1, 1⟩, ⟨1, 1⟩] = .ok c := by
  have height : (fourRows.system Modulus.small).parameters 2 = .ok fourRowsParameters := rfl
  have hall : (fourRows.system seventeen).parameters 4 = .ok allUnitsParameters := rfl
  constructor
  · exact (composable_iff Modulus.orderOf_generator_small height rfl rfl rfl rfl rfl).1.2 (by decide)
  · intro h
    exact ((composable_iff orderOf_generator_seventeen hall rfl rfl rfl rfl rfl).1.1 h).2.1 rfl

end OutOfDomain.Recurrence
