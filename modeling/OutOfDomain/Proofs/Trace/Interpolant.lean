import OutOfDomain.Proofs.DensePoly.Interpolation
import OutOfDomain.Proofs.Trace.Rows
import OutOfDomain.Trace.Interpolant

/-!
# Trace polynomials and the rows of a trace

`TraceTable.root` is the generator of the trace domain and `TraceTable.interpolant` what
interpolation returns, both without a case for failure: for a prime modulus whose generator generates
all units, interpolation succeeds exactly if the number of rows divides the number of units
(`interpolate_eq`).

A frame exists at every point (`TraceInterpolant.frameAt_eq_ok_iff`). On the domain it is the frame
of the trace, and the frame of the last row wraps around because the domain does
(`frameAt_root_pow`). That is the one fact that ties the polynomials to the trace, and
`TraceInterpolant.Reproduces` says all that follows from it about a trace as a whole.
-/

set_option autoImplicit false

namespace OutOfDomain

variable {q : Modulus}

/-! ## Frames of polynomials -/

namespace TraceInterpolant

def rowAt (t : TraceInterpolant q) (x : Residue q) : List (Residue q) :=
  t.columns.map (·.evaluate x)

@[simp] theorem length_rowAt (t : TraceInterpolant q) (x : Residue q) :
    (t.rowAt x).length = t.columns.length := List.length_map _

theorem frameAt_eq_ok_iff {t : TraceInterpolant q} {x : Residue q} {f : Frame q} :
    t.frameAt x = .ok f ↔ f.current = t.rowAt x ∧ f.next = t.rowAt (x * t.generator) :=
  Frame.ofRows_eq_ok_iff

theorem exists_frameAt {t : TraceInterpolant q} (h : t.columns ≠ []) (x : Residue q) :
    ∃ f, t.frameAt x = .ok f := by
  have hne : t.rowAt x ≠ [] := fun h' => h (List.map_eq_nil_iff.1 h')
  have hlength : (t.rowAt (x * t.generator)).length = (t.rowAt x).length := by
    rw [length_rowAt, length_rowAt]
  exact ⟨⟨_, _, hne, hlength⟩, frameAt_eq_ok_iff.2 ⟨rfl, rfl⟩⟩

end TraceInterpolant

/-! ## Interpolation -/

namespace TraceTable

variable (t : TraceTable q)

theorem ne_nil_of_mem_columns {c : List (Residue q)} (hc : c ∈ t.columns) : c ≠ [] := by
  rintro rfl
  exact t.length_ne_zero (t.length_column _ hc).symm

/-- The generator of the trace domain. -/
def root : Residue q := Residue.generator ^ ((q.toNat - 1) / t.length)

variable [hq : Fact q.toNat.Prime]

def interpolant : TraceInterpolant q :=
  ⟨t.columns.map fun c => DensePoly.interpolateCoset c 1 t.root, t.root⟩

@[simp] theorem generator_interpolant : t.interpolant.generator = t.root := rfl

@[simp] theorem length_columns_interpolant : t.interpolant.columns.length = t.width :=
  List.length_map _

theorem exists_frameAt_interpolant (x : Residue q) : ∃ f, t.interpolant.frameAt x = .ok f := by
  apply TraceInterpolant.exists_frameAt
  intro h
  apply t.width_ne_zero
  rw [← t.length_columns_interpolant, h, List.length_nil]

theorem length_coefficients_interpolant {P : DensePoly q} (h : P ∈ t.interpolant.columns) :
    P.coefficients.length = t.length := by
  obtain ⟨c, hc, rfl⟩ := List.mem_map.1 h
  rw [DensePoly.length_interpolateCoset, t.length_column c hc]

/-- The number of rows becomes a word on its way to the root of unity. It is a power of two, so what
does not fit a word becomes zero, and there is no subgroup of either size. -/
theorem rootOfUnity?_length :
    (Residue.rootOfUnity? t.length.toUInt64 : Option (Residue q)) =
      if t.length ∣ q.toNat - 1 then some t.root else none := by
  have htwo := hq.out.two_le
  have hmodulus : q.toNat < 2 ^ 64 := q.word.toNat_lt
  have hword : t.length.toUInt64.toNat = t.length % 2 ^ 64 := UInt64.toNat_ofNat'
  apply Option.ext
  intro g
  rw [Residue.rootOfUnity?_eq_some_iff, hword]
  rcases Nat.lt_or_ge t.length (2 ^ 64) with hlength | hlength
  · rw [Nat.mod_eq_of_lt hlength]
    simp [t.length_ne_zero, root, eq_comm]
  · have hsize : ¬ t.length ∣ q.toNat - 1 := by
      intro hdvd
      have hle := Nat.le_of_dvd (by omega) hdvd
      omega
    have hzero : t.length % 2 ^ 64 = 0 := by
      obtain ⟨k, hk⟩ := t.isPowerOfTwo_length
      rw [hk] at hlength ⊢
      have hexponent : 64 ≤ k := (Nat.pow_le_pow_iff_right (by decide)).1 hlength
      exact Nat.mod_eq_zero_of_dvd (Nat.pow_dvd_pow 2 hexponent)
    rw [hzero, if_neg hsize]
    simp

section Domain

variable (hg : orderOf (Residue.generator : Residue q) = q.toNat - 1)

include hg

/-- Where there are enough units, the domain has as many elements as the trace has rows. -/
theorem isPrimitiveRoot_root (hdvd : t.length ∣ q.toNat - 1) : IsPrimitiveRoot t.root t.length := by
  have htwo := hq.out.two_le
  exact (IsPrimitiveRoot.iff_orderOf.2 hg).pow (by omega) (Nat.div_mul_cancel hdvd).symm

/-- Every column is interpolated, or none is because the field has no domain for them. -/
theorem interpolate_eq :
    t.interpolate =
      if t.length ∣ q.toNat - 1 then .ok t.interpolant else .error (.domainUnsupported t.length) := by
  unfold interpolate
  rw [t.rootOfUnity?_length]
  by_cases hdvd : t.length ∣ q.toNat - 1
  · have hroot := t.isPrimitiveRoot_root hg hdvd
    have hcolumns : (t.columns.mapM fun c => DensePoly.interpolateCoset? c 1 t.root) =
        some t.interpolant.columns := by
      apply mapM_eq_some_iff.2
      apply List.forall₂_map_right_iff.2
      apply List.forall₂_same.2
      intro c hc
      apply DensePoly.interpolateCoset?_eq_some (t.ne_nil_of_mem_columns hc) one_ne_zero
      rwa [t.length_column c hc]
    simp only [if_pos hdvd, hcolumns]
    rfl
  · simp only [if_neg hdvd]

theorem interpolate_eq_ok (hdvd : t.length ∣ q.toNat - 1) : t.interpolate = .ok t.interpolant := by
  rw [t.interpolate_eq hg, if_pos hdvd]

/-- Nothing else is ever returned. -/
theorem eq_interpolant_of_interpolate {T : TraceInterpolant q} (h : t.interpolate = .ok T) :
    t.length ∣ q.toNat - 1 ∧ T = t.interpolant := by
  rw [t.interpolate_eq hg] at h
  split at h
  · rename_i hdvd
    exact ⟨hdvd, (Except.ok.inj h).symm⟩
  · cases h

/-! ## On the domain -/

theorem getElem?_eq_evaluate (hdvd : t.length ∣ q.toNat - 1) {cells : List (Residue q)}
    (hcells : cells ∈ t.columns) {i : ℕ} (hi : i < t.length) :
    cells[i]? = some ((DensePoly.interpolateCoset cells 1 t.root).evaluate (t.root ^ i)) := by
  have hlength := t.length_column cells hcells
  have hi' : i < cells.length := hlength ▸ hi
  have hone : (1 : Residue q) ≠ 0 := one_ne_zero
  have hvalue := DensePoly.evaluate_interpolateCoset hone
    (hlength ▸ t.isPrimitiveRoot_root hg hdvd) hi'
  rw [one_mul] at hvalue
  rw [hvalue, List.getElem?_eq_getElem hi']

theorem row_eq_rowAt (hdvd : t.length ∣ q.toNat - 1) {i : ℕ} (hi : i < t.length) :
    t.row i = .ok (t.interpolant.rowAt (t.root ^ i)) := by
  rw [row_eq_ok_iff, ← mapM_getElem?_columns, mapM_eq_some_iff, TraceInterpolant.rowAt, interpolant,
    List.map_map, List.forall₂_map_right_iff, List.forall₂_same]
  exact fun c hc => t.getElem?_eq_evaluate hg hdvd hc hi

/-- What a cell holds is what its polynomial is worth at the element of its row. -/
theorem holds_iff_getElem?_rowAt (hdvd : t.length ∣ q.toNat - 1) {column row : ℕ}
    (hrow : row < t.length) {value : Residue q} :
    t.Holds column row value ↔ (t.interpolant.rowAt (t.root ^ row))[column]? = some value := by
  have hcells : t.rows[row]? = some (t.interpolant.rowAt (t.root ^ row)) :=
    row_eq_ok_iff.1 (t.row_eq_rowAt hg hdvd hrow)
  rw [holds_iff_row, hcells]
  simp only [Option.some.injEq, exists_eq_left']

theorem getElem?_rowAt_of_holds (hdvd : t.length ∣ q.toNat - 1) {column row : ℕ} {value : Residue q}
    (h : t.Holds column row value) :
    (t.interpolant.rowAt (t.root ^ row))[column]? = some value := by
  obtain ⟨cells, hcells, -⟩ := holds_iff_row.1 h
  have hrow := (List.getElem?_eq_some_iff.1 hcells).1
  rw [length_rows] at hrow
  exact (t.holds_iff_getElem?_rowAt hg hdvd hrow).1 h

/-- A frame of the trace is the frame of the polynomials at the row's element of the domain. -/
theorem frameAt_root_pow (hdvd : t.length ∣ q.toNat - 1) {i : ℕ} (hi : i < t.length) :
    t.interpolant.frameAt (t.root ^ i) = t.frame i := by
  have hroot := t.isPrimitiveRoot_root hg hdvd
  -- The row after the last is the first, and so is the power.
  have hnext : t.root ^ i * t.root = t.root ^ ((i + 1) % t.length) := by
    rw [← pow_succ, hroot.eq_orderOf, pow_mod_orderOf]
  have hmod := Nat.mod_lt (i + 1) (Nat.pos_of_ne_zero t.length_ne_zero)
  unfold frame TraceInterpolant.frameAt
  rw [t.row_eq_rowAt hg hdvd hi, t.row_eq_rowAt hg hdvd hmod, generator_interpolant, hnext]
  rfl

end Domain

end TraceTable

/-! ## The whole trace -/

/-- Polynomials that say what a trace says: one for each column, with a coefficient for each row, over
a domain with an element for each row, where the frame of every row is that of the trace. The frame of
a row is the row and the one below it, and below the last row is the first. -/
structure TraceInterpolant.Reproduces (T : TraceInterpolant q) (t : TraceTable q) : Prop where
  length_columns : T.columns.length = t.width
  length_coefficients : ∀ P ∈ T.columns, P.coefficients.length = t.length
  orderOf_generator : orderOf T.generator = t.length
  frameAt_eq : ∀ r < t.length, ∃ f, T.frameAt (T.generator ^ r) = .ok f ∧ t.frame r = .ok f ∧
    t.row r = .ok f.current ∧ t.row ((r + 1) % t.length) = .ok f.next

/-- **Interpolation reproduces the trace.** Over a prime field whose generator generates all units, a
trace of any width is interpolated if the units have a subgroup of its size, and its polynomials say
what it says; and if they have none, that is what is reported. -/
theorem interpolate_reproduces [hq : Fact q.toNat.Prime]
    (hg : orderOf (Residue.generator : Residue q) = q.toNat - 1) (t : TraceTable q) :
    (t.length ∣ q.toNat - 1 → ∃ T, t.interpolate = .ok T ∧ T.Reproduces t) ∧
      (¬ t.length ∣ q.toNat - 1 → t.interpolate = .error (.domainUnsupported t.length)) := by
  constructor
  · intro hdvd
    refine ⟨t.interpolant, t.interpolate_eq_ok hg hdvd, t.length_columns_interpolant,
      fun P hP => t.length_coefficients_interpolant hP,
      (t.isPrimitiveRoot_root hg hdvd).eq_orderOf.symm, ?_⟩
    intro r hr
    obtain ⟨f, hf⟩ := t.exists_frameAt_interpolant (t.root ^ r)
    have hframe : t.frame r = .ok f := t.frameAt_root_pow hg hdvd hr ▸ hf
    obtain ⟨hcurrent, hnext⟩ := TraceTable.frame_eq_ok_iff.1 hframe
    exact ⟨f, hf, hframe, TraceTable.row_eq_ok_iff.2 hcurrent, TraceTable.row_eq_ok_iff.2 hnext⟩
  · intro hdvd
    rw [t.interpolate_eq hg, if_neg hdvd]

/-- Two columns of four rows, which are no run of any rule. -/
def fourPairs : TraceTable Modulus.small where
  columns := [[.ofWord 4, .ofWord 9, 1, .ofWord 60], [.ofWord 96, 0, .ofWord 7, .ofWord 7]]
  length := 2 ^ 2
  columns_ne_nil := List.cons_ne_nil _ _
  length_column := by decide
  two_le_length := by decide
  isPowerOfTwo_length := ⟨2, rfl⟩

/-- More rows than there is a domain for: there are 96 units, and a third of them is the largest power
of two. -/
def sixtyFourRows : TraceTable Modulus.small where
  columns := [List.replicate 64 1]
  length := 2 ^ 6
  columns_ne_nil := List.cons_ne_nil _ _
  length_column := List.forall_mem_singleton.2 List.length_replicate
  two_le_length := by decide
  isPowerOfTwo_length := ⟨6, rfl⟩

theorem interpolate_reproduces_fourPairs :
    (∃ T, fourPairs.interpolate = .ok T ∧ T.Reproduces fourPairs) ∧
      sixtyFourRows.interpolate = .error (.domainUnsupported 64) := by
  have hgenerator := Modulus.orderOf_generator_small
  exact ⟨(interpolate_reproduces hgenerator fourPairs).1 (by decide),
    (interpolate_reproduces hgenerator sixtyFourRows).2 (by decide)⟩

end OutOfDomain
