import OutOfDomain.Proofs.Recurrence.Rule
import OutOfDomain.Proofs.Trace.Rows

/-!
# The trace that the constraints allow

The transition constraints compare a row with what the rule makes of the row before it, so they
vanish on a frame exactly if the frame is a step of the rule (`Recurrence.transitions_vanish_iff`).
All frames but the one from the last row to the first are checked, and so the rows are a run of the
rule from some row (`Recurrence.checkTransitions_eq_ok_iff_run`). The assertions say which row that
is, and besides what the public inputs are (`Recurrence.assertions_hold_iff`). Together they leave
one trace.

Nothing is said about the modulus, and no degree is involved: these are the constraints as they are
checked row by row.
-/

set_option autoImplicit false

namespace OutOfDomain

variable {q : Modulus}

/-! ## Runs -/

namespace Rule

@[simp] theorem length_next (rule : Rule) (row : List (Residue q)) :
    (rule.next row).length = row.length := by
  rw [← nextOver_eq_next, length_nextOver]

@[simp] theorem length_start (rule : Rule) (seed : Residue q) :
    (rule.start seed).length = rule.width := by
  cases rule <;> rfl

@[simp] theorem length_run (rule : Rule) (first : List (Residue q)) (count : ℕ) :
    (rule.run first count).length = count := by
  induction count generalizing first with
  | zero => rfl
  | succ count ih => rw [run, List.length_cons, ih]

theorem length_of_mem_run {rule : Rule} {first row : List (Residue q)} {count : ℕ}
    (h : row ∈ rule.run first count) : row.length = first.length := by
  induction count generalizing first with
  | zero => cases h
  | succ count ih =>
    rcases List.mem_cons.1 h with rfl | h
    · rfl
    · rw [ih h, length_next]

/-- Rows are a run exactly if each is the step of the one before. -/
theorem cons_eq_run_iff {rule : Rule} {row : List (Residue q)} {rows : List (List (Residue q))} :
    row :: rows = rule.run row (rows.length + 1) ↔
      (row :: rows).IsChain fun current next => next = rule.next current := by
  induction rows generalizing row with
  | nil => exact iff_of_true rfl (.singleton row)
  | cons next rows ih =>
    rw [run, List.cons.injEq, eq_self, true_and, List.length_cons, List.isChain_cons_cons]
    constructor
    · intro h
      have hnext : next = rule.next row := (List.cons.inj h).1
      exact ⟨hnext, ih.1 (hnext ▸ h)⟩
    · rintro ⟨rfl, h⟩
      exact ih.2 h

end Rule

/-! ## Transition constraints -/

theorem Residue.zipWith_sub_vanishes_iff {as bs : List (Residue q)} (h : as.length = bs.length) :
    (∀ residue ∈ List.zipWith (· - ·) as bs, residue = 0) ↔ as = bs := by
  induction as generalizing bs with
  | nil => exact iff_of_true nofun (List.length_eq_zero_iff.1 h.symm).symm
  | cons a as ih =>
    match bs, h with
    | b :: bs, h =>
      rw [List.zipWith_cons_cons, List.forall_mem_cons, sub_eq_zero, ih (Nat.succ_inj.1 h),
        List.cons.injEq]

namespace Recurrence

variable {r : Recurrence} {t : TraceTable q} {f : Frame q} {publicInputs : List (Residue q)}

/-- What the next row of a frame has, less what the rule makes of the row before it. -/
def transitionOn (r : Recurrence) (f : Frame q) : TransitionEvaluation q :=
  ⟨List.zipWith (· - ·) f.next (r.rule.next f.current),
    List.replicate r.rule.width (r.rule.degree * r.lastRow)⟩

theorem length_residues_transitionOn : (r.transitionOn f).residues.length = f.width := by
  rw [transitionOn, List.length_zipWith, Rule.length_next, f.length_next, Nat.min_self]
  rfl

theorem transitions_eq_ok (h : f.width = r.rule.width) :
    r.transitions f = .ok (r.transitionOn f) := by
  have hlength : (r.transitionOn f).residues.length = (r.transitionOn f).degrees.length :=
    length_residues_transitionOn.trans (h.trans (List.length_replicate ..).symm)
  unfold transitions TransitionEvaluation.ofParts
  rw [if_neg (not_not.2 h)]
  exact if_pos hlength

/-- The constraints vanish on the steps of the rule and on no other frame. -/
theorem transitions_vanish_iff :
    (∃ evaluation, r.transitions f = .ok evaluation ∧ ∀ residue ∈ evaluation.residues, residue = 0) ↔
      f.width = r.rule.width ∧ f.next = r.rule.next f.current := by
  have hlength : f.next.length = (r.rule.next f.current).length := by
    rw [Rule.length_next, f.length_next]
  rw [← Residue.zipWith_sub_vanishes_iff hlength]
  by_cases hwidth : f.width = r.rule.width
  · rw [transitions_eq_ok hwidth]
    constructor
    · rintro ⟨_, ⟨⟩, hzero⟩
      exact ⟨hwidth, hzero⟩
    · rintro ⟨-, hzero⟩
      exact ⟨_, rfl, hzero⟩
  · refine iff_of_false ?_ fun h => hwidth h.1
    rintro ⟨evaluation, h, -⟩
    rw [transitions, if_pos hwidth] at h
    cases h

/-- A trace passes exactly if it has the width of the rule and each row is the step of the one
before. -/
theorem checkTransitions_eq_ok_iff_isChain :
    t.checkTransitions r.transitions = .ok () ↔
      t.width = r.rule.width ∧ t.rows.IsChain fun current next => next = r.rule.next current := by
  have htwo := t.two_le_length
  have hlength := t.length_rows
  rw [TraceTable.checkTransitions_eq_ok_iff, List.isChain_iff_getElem]
  simp only [exists_and_left, transitions_vanish_iff]
  constructor
  · intro h
    have hstep : ∀ i (hi : i + 1 < t.rows.length),
        t.width = r.rule.width ∧ t.rows[i + 1] = r.rule.next t.rows[i] := by
      intro i hi
      obtain ⟨f, hf, hwidth, hnext⟩ := h i (by omega)
      obtain ⟨f', hf', hcurrent', hnext'⟩ := TraceTable.exists_frame_of_lt hi
      cases Except.ok.inj (hf.symm.trans hf')
      exact ⟨TraceTable.width_of_frame hf ▸ hwidth, hcurrent' ▸ hnext' ▸ hnext⟩
    exact ⟨(hstep 0 (by omega)).1, fun i hi => (hstep i hi).2⟩
  · rintro ⟨hwidth, hnext⟩ i hi
    have hi' : i + 1 < t.rows.length := by omega
    obtain ⟨f, hf, hcurrent', hnext'⟩ := TraceTable.exists_frame_of_lt hi'
    refine ⟨f, hf, (TraceTable.width_of_frame hf).trans hwidth, ?_⟩
    rw [hnext', hnext i hi', hcurrent']

/-- So its rows are a run from some row. -/
theorem checkTransitions_eq_ok_iff_run :
    t.checkTransitions r.transitions = .ok () ↔
      t.width = r.rule.width ∧ ∃ first, t.rows = r.rule.run first t.length := by
  obtain ⟨row, rest, hrows⟩ := List.exists_cons_of_ne_nil t.rows_ne_nil
  rw [checkTransitions_eq_ok_iff_isChain, ← t.length_rows, hrows, List.length_cons,
    ← Rule.cons_eq_run_iff]
  refine and_congr_right fun _ => ⟨fun h => ⟨row, h⟩, ?_⟩
  rintro ⟨first, h⟩
  rwa [← (List.cons.inj h).1] at h

/-! ## Assertions and public inputs -/

/-- The assertions that do not depend on public inputs. -/
def fixedAssertions (r : Recurrence) : List (Assertion q) :=
  match r.rule with
  | .affine | .cubic => []
  | .fibonacci => [⟨0, 0, 1⟩, ⟨1, 0, 1⟩]

/-- The cells that are published, by column and row. -/
def publishedCells (r : Recurrence) : List (UInt64 × UInt64) :=
  match r.rule with
  | .affine | .cubic => [(0, 0), (0, r.lastRow)]
  | .fibonacci => [(1, r.lastRow)]

theorem assertions_eq_ok_iff {assertions : List (Assertion q)} :
    r.assertions publicInputs = .ok assertions ↔
      r.publishedCells.length = publicInputs.length ∧
        assertions = r.fixedAssertions ++
          (r.publishedCells.zip publicInputs).map fun (cell, value) => ⟨cell.1, cell.2, value⟩ := by
  obtain ⟨rule, length, _, _⟩ := r
  cases rule with
  | affine | cubic =>
    match publicInputs with
    | [first, last] => exact ⟨by rintro ⟨⟩; exact ⟨rfl, rfl⟩, by rintro ⟨-, rfl⟩; rfl⟩
    | [] | [_] | _ :: _ :: _ :: _ => exact iff_of_false nofun fun h => nomatch h.1
  | fibonacci =>
    match publicInputs with
    | [result] => exact ⟨by rintro ⟨⟩; exact ⟨rfl, rfl⟩, by rintro ⟨-, rfl⟩; rfl⟩
    | [] | _ :: _ :: _ => exact iff_of_false nofun fun h => nomatch h.1

theorem length_publishedCells (r : Recurrence) :
    r.publishedCells.length = r.rule.publicInputCount := by
  rw [publishedCells]
  cases r.rule <;> rfl

/-- Public inputs imply assertions exactly if there are as many as the rule publishes. -/
theorem exists_assertions_iff :
    (∃ assertions, r.assertions publicInputs = .ok assertions) ↔
      publicInputs.length = r.rule.publicInputCount := by
  simp only [assertions_eq_ok_iff, length_publishedCells]
  constructor
  · rintro ⟨_, h, -⟩
    exact h.symm
  · exact fun h => ⟨_, h.symm, rfl⟩

/-- Both ends of the first column, read from the column. -/
theorem publicInputs_affine_iff (hrule : r.rule = .affine) :
    r.publicInputs t = .ok publicInputs ↔
      ∃ first last, t.Holds 0 0 first ∧ t.Holds 0 r.lastRow.toNat last ∧
        publicInputs = [first, last] := by
  unfold Recurrence.publicInputs
  simp only [hrule, bind_eq_ok_iff, List.head?_eq_getElem?]
  constructor
  · rintro ⟨cells, hcells, h⟩
    split at h
    · rename_i first last hfirst hlast
      cases h
      exact ⟨first, last, ⟨cells, hcells, hfirst⟩, ⟨cells, hcells, hlast⟩, rfl⟩
    · cases h
  · rintro ⟨first, last, ⟨cells, hcells, hfirst⟩, ⟨cells', hcells', hlast⟩, rfl⟩
    cases Except.ok.inj (hcells.symm.trans hcells')
    refine ⟨cells, hcells, ?_⟩
    rw [hfirst, hlast]
    rfl

/-- The same cells, read from the rows. -/
theorem publicInputs_cubic_iff (hrule : r.rule = .cubic) :
    r.publicInputs t = .ok publicInputs ↔
      ∃ first last, t.Holds 0 0 first ∧ t.Holds 0 r.lastRow.toNat last ∧
        publicInputs = [first, last] := by
  unfold Recurrence.publicInputs
  simp only [hrule, bind_eq_ok_iff, TraceTable.row_eq_ok_iff, TraceTable.holds_iff_row]
  constructor
  · rintro ⟨firstRow, hfirst, lastRow, hlast, h⟩
    obtain ⟨first, _, rfl⟩ := List.exists_cons_of_ne_nil
      (TraceTable.ne_nil_of_mem_rows (List.mem_of_getElem? hfirst))
    obtain ⟨last, _, rfl⟩ := List.exists_cons_of_ne_nil
      (TraceTable.ne_nil_of_mem_rows (List.mem_of_getElem? hlast))
    cases h
    exact ⟨first, last, ⟨_, hfirst, rfl⟩, ⟨_, hlast, rfl⟩, rfl⟩
  · rintro ⟨first, last, ⟨firstRow, hfirst, hfirstCell⟩, ⟨lastRow, hlast, hlastCell⟩, rfl⟩
    obtain ⟨_, rfl⟩ := List.head?_eq_some_iff.1 (List.head?_eq_getElem?.trans hfirstCell)
    obtain ⟨_, rfl⟩ := List.head?_eq_some_iff.1 (List.head?_eq_getElem?.trans hlastCell)
    exact ⟨_, hfirst, _, hlast, rfl⟩

theorem publicInputs_fibonacci_iff (hrule : r.rule = .fibonacci) :
    r.publicInputs t = .ok publicInputs ↔
      ∃ result, t.Holds 1 r.lastRow.toNat result ∧ publicInputs = [result] := by
  unfold Recurrence.publicInputs
  simp only [hrule, bind_eq_ok_iff, TraceTable.row_eq_ok_iff, TraceTable.holds_iff_row]
  constructor
  · rintro ⟨row, hrow, h⟩
    split at h
    · rename_i result hresult
      cases h
      exact ⟨result, ⟨row, hrow, hresult⟩, rfl⟩
    · cases h
  · rintro ⟨result, ⟨row, hrow, hresult⟩, rfl⟩
    refine ⟨row, hrow, ?_⟩
    rw [hresult]
    rfl

/-- The public inputs of a trace are the values of the published cells. -/
theorem publicInputs_eq_ok_iff :
    r.publicInputs t = .ok publicInputs ↔
      List.Forall₂ (fun cell value => t.Holds cell.1.toNat cell.2.toNat value) r.publishedCells
        publicInputs := by
  cases hrule : r.rule with
  | affine =>
    rw [publicInputs_affine_iff hrule]
    simp [publishedCells, hrule, List.forall₂_cons_left_iff]
  | cubic =>
    rw [publicInputs_cubic_iff hrule]
    simp [publishedCells, hrule, List.forall₂_cons_left_iff]
  | fibonacci =>
    rw [publicInputs_fibonacci_iff hrule]
    simp [publishedCells, hrule, List.forall₂_cons_left_iff]

/-- What public inputs imply about a trace is that they are its own, and the fixed assertions. -/
theorem assertions_hold_iff :
    (∃ assertions, r.assertions publicInputs = .ok assertions ∧
        t.checkAssertions assertions = .ok ()) ↔
      (∀ a ∈ r.fixedAssertions, t.Holds a.column.toNat a.step.toNat a.value) ∧
        r.publicInputs t = .ok publicInputs := by
  simp only [assertions_eq_ok_iff, TraceTable.checkAssertions_eq_ok_iff]
  rw [publicInputs_eq_ok_iff, List.forall₂_iff_zip]
  constructor
  · rintro ⟨_, ⟨hlength, rfl⟩, hholds⟩
    obtain ⟨hfixed, hpublished⟩ := List.forall_mem_append.1 hholds
    exact ⟨hfixed, hlength, fun hmem => List.forall_mem_map.1 hpublished _ hmem⟩
  · rintro ⟨hfixed, hlength, hpublished⟩
    refine ⟨_, ⟨hlength, rfl⟩, List.forall_mem_append.2 ⟨hfixed, ?_⟩⟩
    exact List.forall_mem_map.2 fun _ hmem => hpublished hmem

theorem length_of_publicInputs (h : r.publicInputs t = .ok publicInputs) :
    publicInputs.length = r.rule.publicInputCount := by
  rw [← (publicInputs_eq_ok_iff.1 h).length_eq, length_publishedCells]

theorem exists_head?_of_publicInputs (h : r.publicInputs t = .ok publicInputs) :
    ∃ seed, publicInputs.head? = some seed := by
  have hlength := length_of_publicInputs h
  have hpos : 0 < r.rule.publicInputCount := by cases r.rule <;> decide
  cases publicInputs with
  | nil => exact absurd hlength hpos.ne
  | cons seed _ => exact ⟨seed, rfl⟩

/-- The fixed assertions and the first public input make up the first row. -/
theorem fixedAssertions_hold_iff (hwidth : t.width = r.rule.width)
    (hinputs : r.publicInputs t = .ok publicInputs) {seed : Residue q}
    (hseed : publicInputs.head? = some seed) :
    (∀ a ∈ r.fixedAssertions, t.Holds a.column.toNat a.step.toNat a.value) ↔
      t.rows[0]? = some (r.rule.start seed) := by
  rw [publicInputs_eq_ok_iff] at hinputs
  rw [TraceTable.getElem?_rows_eq_some_iff (by rw [Rule.length_start, hwidth])]
  obtain ⟨rule, length, _, _⟩ := r
  cases rule with
  | affine | cubic =>
    obtain ⟨first, _, hfirst, -, rfl⟩ := List.forall₂_cons_left_iff.1 hinputs
    cases hseed
    refine iff_of_true nofun fun j hj => ?_
    obtain rfl : j = 0 := Nat.lt_one_iff.1 hj
    exact hfirst
  | fibonacci =>
    rw [show (fixedAssertions _ : List (Assertion q)) = [⟨0, 0, 1⟩, ⟨1, 0, 1⟩] from rfl]
    constructor
    · intro h j hj
      match j, hj with
      | 0, _ => exact h ⟨0, 0, 1⟩ (List.mem_cons_self)
      | 1, _ => exact h ⟨1, 0, 1⟩ (List.mem_cons_of_mem _ List.mem_cons_self)
    · intro h a ha
      rcases List.mem_pair.1 ha with rfl | rfl
      · exact h 0 Nat.zero_lt_two
      · exact h 1 Nat.one_lt_two

/-! ## Generated traces -/

theorem trace_eq_ok_iff {seed : Residue q} :
    r.trace seed = .ok t ↔ t.rows = r.rule.run (r.rule.start seed) r.length.toNat :=
  TraceTable.ofRows_eq_ok_iff.trans eq_comm

theorem exists_trace (r : Recurrence) (seed : Residue q) : ∃ t, r.trace seed = .ok t := by
  refine TraceTable.exists_ofRows_iff.2 ?_
  rw [Rule.length_run]
  refine ⟨r.two_le_length, r.isPowerOfTwo_length, r.rule.width, ?_, fun row hrow => ?_⟩
  · cases r.rule <;> decide
  · rw [Rule.length_of_mem_run hrow, Rule.length_start]

theorem getElem?_rows_of_run {first : List (Residue q)} (h : t.rows = r.rule.run first t.length) :
    t.rows[0]? = some first := by
  obtain ⟨n, hn⟩ := Nat.exists_eq_add_of_le' t.two_le_length
  rw [h, hn]
  rfl

theorem width_of_trace {seed : Residue q} (h : r.trace seed = .ok t) : t.width = r.rule.width := by
  rw [trace_eq_ok_iff] at h
  obtain ⟨row, hrow⟩ := List.exists_mem_of_ne_nil _ t.rows_ne_nil
  rw [← TraceTable.length_of_mem_rows hrow, Rule.length_of_mem_run (h ▸ hrow), Rule.length_start]

/-- **The constraints leave one trace.** Over any modulus, a trace of the length of a recurrence
satisfies the transition constraints and the assertions that public inputs imply if and only if it is
the trace that is generated from the first public input, and the public inputs are its own. Every seed
generates a trace. It has the width of the rule, and there are as many public inputs as the rule
publishes. The rule of two cells ignores the seed, and publishes the last value of its second
column. -/
theorem constraints_hold_iff (hlength : t.length = r.length.toNat)
    (publicInputs : List (Residue q)) :
    ((t.checkTransitions r.transitions = .ok () ∧
        ∃ assertions, r.assertions publicInputs = .ok assertions ∧
          t.checkAssertions assertions = .ok ()) ↔
      ∃ seed, publicInputs.head? = some seed ∧ r.trace seed = .ok t ∧
        r.publicInputs t = .ok publicInputs) ∧
    (∀ seed : Residue q, ∃ generated, r.trace seed = .ok generated) ∧
    (∀ seed, r.trace seed = .ok t → t.width = r.rule.width) ∧
    (r.publicInputs t = .ok publicInputs → publicInputs.length = r.rule.publicInputCount) ∧
    (r.rule = .fibonacci →
      (∀ seed seed' : Residue q, r.trace seed = r.trace seed') ∧
      (r.publicInputs t = .ok publicInputs ↔
        ∃ last, t.Holds 1 r.lastRow.toNat last ∧ publicInputs = [last])) := by
  refine ⟨?_, r.exists_trace, fun _ => width_of_trace, length_of_publicInputs,
    fun hrule => ⟨fun _ _ => ?_, publicInputs_fibonacci_iff hrule⟩⟩
  · rw [checkTransitions_eq_ok_iff_run, assertions_hold_iff]
    constructor
    · rintro ⟨⟨hwidth, first, hrun⟩, hfixed, hinputs⟩
      obtain ⟨seed, hseed⟩ := exists_head?_of_publicInputs hinputs
      rw [fixedAssertions_hold_iff hwidth hinputs hseed, getElem?_rows_of_run hrun,
        Option.some_inj] at hfixed
      refine ⟨seed, hseed, trace_eq_ok_iff.2 ?_, hinputs⟩
      rw [← hfixed, ← hlength, hrun]
    · rintro ⟨seed, hseed, htrace, hinputs⟩
      have hwidth := width_of_trace htrace
      rw [trace_eq_ok_iff, ← hlength] at htrace
      have hfirst := getElem?_rows_of_run htrace
      exact ⟨⟨hwidth, _, htrace⟩, (fixedAssertions_hold_iff hwidth hinputs hseed).2 hfirst, hinputs⟩
  · rw [trace, trace, hrule]
    rfl

/-! ## Eight pairs -/

/-- A modulus that is not prime. -/
def ten : Modulus := ⟨10, 3, by decide⟩

/-- Eight rows of the rule of two cells. -/
def eightPairs : Recurrence := ⟨.fibonacci, 8, by decide, by decide⟩

/-- The last digits of the first Fibonacci numbers, each with the next. -/
def eightPairsTrace : TraceTable ten where
  columns :=
    [[1, 1, .ofWord 2, .ofWord 3, .ofWord 5, .ofWord 8, .ofWord 3, 1],
      [1, .ofWord 2, .ofWord 3, .ofWord 5, .ofWord 8, .ofWord 3, 1, .ofWord 4]]
  length := 8
  columns_ne_nil := List.cons_ne_nil _ _
  length_column := by decide
  two_le_length := by decide
  isPowerOfTwo_length := by decide

/-- They satisfy the constraints that end at four. -/
theorem constraints_hold_eightPairs :
    eightPairsTrace.checkTransitions eightPairs.transitions = .ok () ∧
      ∃ assertions, eightPairs.assertions [(.ofWord 4 : Residue ten)] = .ok assertions ∧
        eightPairsTrace.checkAssertions assertions = .ok () :=
  (constraints_hold_iff rfl _).1.2 ⟨.ofWord 4, rfl, by decide +kernel, by decide +kernel⟩

end Recurrence

end OutOfDomain
