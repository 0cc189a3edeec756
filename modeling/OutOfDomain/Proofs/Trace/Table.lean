import OutOfDomain.Proofs.Outcome
import OutOfDomain.Trace.Table

/-!
# What a checked trace satisfies

The two checks of a trace go through its rows and through its assertions, and stop at the first fault.
If they find none, the transition residues vanish on every row but the last
(`TraceTable.checkTransitions_eq_ok_iff`), and every asserted cell is there and holds its value
(`TraceTable.checkAssertions_eq_ok_iff`). A cell is named by its column and its row, and
`TraceTable.Holds` says what it holds.
-/

set_option autoImplicit false

namespace OutOfDomain.TraceTable

variable {q : Modulus} {t : TraceTable q}

/-- The trace has a cell in this column and row, and it holds this value. -/
def Holds (t : TraceTable q) (column row : ℕ) (value : Residue q) : Prop :=
  ∃ cells, t.column column = .ok cells ∧ cells[row]? = some value

theorem column_eq_ok_iff {i : ℕ} {cells : List (Residue q)} :
    t.column i = .ok cells ↔ t.columns[i]? = some cells := by
  unfold column
  cases t.columns[i]? <;> simp

theorem checkTransitions_eq_ok_iff
    {evaluate : Frame q → Except ConstraintError (TransitionEvaluation q)} {u : Unit} :
    t.checkTransitions evaluate = .ok u ↔
      ∀ step < t.length - 1, ∃ f evaluation, t.frame step = .ok f ∧
        evaluate f = .ok evaluation ∧ ∀ residue ∈ evaluation.residues, residue = 0 := by
  unfold checkTransitions
  rw [forM_eq_ok_iff]
  simp only [List.mem_range, bind_eq_ok_iff]
  refine forall₂_congr fun step _ => exists_congr fun f => ?_
  rw [← exists_and_left]
  refine exists_congr fun evaluation => and_congr_right fun _ => and_congr_right fun _ => ?_
  -- The check looks for the first residue that is not zero.
  have hnone : evaluation.residues.findIdx? (· != 0) = none ↔
      ∀ residue ∈ evaluation.residues, residue = 0 := by
    simp only [List.findIdx?_eq_none_iff, bne_eq_false_iff_eq]
  rw [← hnone]
  cases evaluation.residues.findIdx? (· != 0) with
  | none => exact iff_of_true rfl rfl
  | some _ => exact iff_of_false nofun nofun

theorem checkAssertions_eq_ok_iff {assertions : List (Assertion q)} {u : Unit} :
    t.checkAssertions assertions = .ok u ↔
      ∀ a ∈ assertions, t.Holds a.column.toNat a.step.toNat a.value := by
  unfold checkAssertions
  rw [forM_eq_ok_iff]
  apply forall₂_congr
  intro a _
  rw [bind_eq_ok_iff, Holds]
  refine exists_congr fun cells => and_congr_right fun _ => ?_
  cases cells[a.step.toNat]? with
  | none => exact iff_of_false nofun nofun
  | some cell =>
    rw [Option.some_inj]
    dsimp only
    split
    · rename_i h
      exact iff_of_true rfl h
    · rename_i h
      exact iff_of_false nofun h

end OutOfDomain.TraceTable
