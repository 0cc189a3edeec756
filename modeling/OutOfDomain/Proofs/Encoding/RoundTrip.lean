import OutOfDomain.Encoding.Inputs
import OutOfDomain.Encoding.Parameters
import OutOfDomain.Proofs.Json.Record
import OutOfDomain.Proofs.Parameters.Bounds
import OutOfDomain.Proofs.Trace.Rows

/-!
# Written inputs, read back

Every encoding of this library is faithful: it reads exactly the spellings of what it writes. For a
residue that is the canonical representative, for a frame that its rows make one, for parameters that
the draft has no fault; in each case the check accepts what is written and nothing else. For a record
it is a question of its members only, and the way in which they are put together is the way in which
the record is defined, so one pattern proves all of them: `Means` follows the definition, and the rest
is the record's constructor.

What is written is one of its own spellings, so it is read back in either layout.
-/

set_option autoImplicit false

namespace OutOfDomain.Encoding

open Json (Codec)
open Json.Fields (Means)

variable (q : Modulus)

/-! ## Residues and words -/

theorem residue_faithful : (residue q).Faithful := by
  refine (Codec.Faithful.word "u64").refine fun w a => ?_
  rw [← Residue.ofCanonical?_eq_some_iff]
  cases (Residue.ofCanonical? w : Option (Residue q)) with
  | none => exact iff_of_false nofun nofun
  | some b =>
    exact ⟨fun h => congrArg some (Except.ok.inj h), fun h => congrArg _ (Option.some.inj h)⟩

theorem residues_faithful : (residues q).Faithful := (residue_faithful q).list

theorem count_faithful : count.Faithful := .word "usize"

/-! ## Constraints -/

theorem weight_faithful : (weight q).Faithful := by
  have hr := residue_faithful q
  refine .record ⟨by simp, by simp, ?_, by simp [hr.spells]⟩ _
  refine (((Means.field hr _ _).map _).seq (.field hr _ _)).congr fun _ w => ?_
  cases w
  simp

theorem rows_faithful : (rows q).Faithful := by
  have hr := residues_faithful q
  refine .record ⟨by simp, by simp, ?_, by simp [hr.spells]⟩ _
  refine (((Means.field hr _ _).map _).seq (.field hr _ _)).congr fun _ r => ?_
  cases r
  simp

theorem frame_faithful : (frame q).Faithful := by
  refine (rows_faithful q).refine fun r f => ?_
  rw [mapError_eq_ok_iff, Frame.ofRows_eq_ok_iff]
  cases r
  rw [Rows.mk.injEq]

theorem transitionEvaluation_faithful : (transitionEvaluation q).Faithful := by
  have hr := residues_faithful q
  have hc := count_faithful.list
  refine .record ⟨by simp, by simp, ?_, by simp [hr.spells, hc.spells]⟩ _
  refine (((Means.field hr _ _).map _).seq (.field hc _ _)).congr fun _ t => ?_
  cases t
  simp

theorem assertionEvaluation_faithful : (assertionEvaluation q).Faithful := by
  have hr := residue_faithful q
  have hc := count_faithful
  refine .record ⟨by simp, by simp, ?_, by simp [hr.spells, hc.spells]⟩ _
  refine ((((Means.field hr _ _).map _).seq (.field hc _ _)).seq
    (.field hc _ _)).congr fun _ a => ?_
  cases a
  simp [and_assoc]

theorem boundaryEvaluation_faithful : (boundaryEvaluation q).Faithful := by
  have ha := (assertionEvaluation_faithful q).list
  refine .record ⟨by simp, by simp, ?_, by simp [ha.spells]⟩ _
  refine ((Means.field ha _ _).map _).congr fun _ b => ?_
  cases b
  simp

theorem assertion_faithful : (assertion q).Faithful := by
  have hr := residue_faithful q
  have hc := count_faithful
  refine .record ⟨by simp, by simp, ?_, by simp [hr.spells, hc.spells]⟩ _
  refine ((((Means.field hc _ _).map _).seq (.field hc _ _)).seq
    (.field hr _ _)).congr fun _ a => ?_
  cases a
  simp [and_assoc]

/-! ## Inputs -/

theorem evaluatedInputs_faithful : (evaluatedInputs q).Faithful := by
  have hr := residue_faithful q
  have hrs := residues_faithful q
  have hw := (weight_faithful q).list
  have ht := transitionEvaluation_faithful q
  have hb := boundaryEvaluation_faithful q
  refine .record ⟨by simp, by simp, ?_,
    by simp [hr.spells, hrs.spells, hw.spells, ht.spells, hb.spells]⟩ _
  refine ((((((((Means.field hr _ _).map _).seq (.field hr _ _)).seq (.field hw _ _)).seq
    (.field hw _ _)).seq (.field ht _ _)).seq (.field hb _ _)).seq
    (.field hrs _ _)).congr fun _ inputs => ?_
  cases inputs
  simp [and_assoc]

theorem frameInputs_faithful : (frameInputs q).Faithful := by
  have hr := residue_faithful q
  have hrs := residues_faithful q
  have hw := (weight_faithful q).list
  have hf := frame_faithful q
  refine .record ⟨by simp, by simp, ?_,
    by simp [hr.spells, hrs.spells, hw.spells, hf.spells]⟩ _
  refine ((((((((Means.field hr _ _).map _).seq (.field hr _ _)).seq (.field hf _ _)).seq
    (.field hrs _ _)).seq (.field hw _ _)).seq (.field hw _ _)).seq
    (.field hrs _ _)).congr fun _ inputs => ?_
  cases inputs
  simp [and_assoc]

/-- Inputs of a check are read back as they were written, in either layout. -/
theorem ofText_toText_inputs (s : Json.Style) :
    (∀ inputs : EvaluatedInputs q,
      (evaluatedInputs q).ofText ((evaluatedInputs q).toText s inputs) = .ok inputs) ∧
    ∀ inputs : FrameInputs q,
      (frameInputs q).ofText ((frameInputs q).toText s inputs) = .ok inputs :=
  ⟨(evaluatedInputs_faithful q).ofText_toText s, (frameInputs_faithful q).ofText_toText s⟩

/-! ## Parameters -/

theorem draft_faithful : draft.Faithful := by
  have hc := count_faithful
  refine .record ⟨by simp, by simp, ?_, by simp [hc.spells]⟩ _
  refine ((((((Means.field hc _ _).map _).seq (.field hc _ _)).seq (.field hc _ _)).seq
    (.field hc _ _)).seq (.field hc _ _)).congr fun _ d => ?_
  cases d
  simp [and_assoc]

theorem parameters_faithful : parameters.Faithful := by
  refine draft_faithful.refine fun d p => ?_
  rw [mapError_eq_ok_iff, Draft.validate_eq_ok_iff]

/-- A text holds parameters exactly if it holds their draft. -/
theorem ofText_parameters_eq_ok_iff {text : String} {p : Parameters} :
    parameters.ofText text = .ok p ↔ draft.ofText text = .ok p.toDraft :=
  parameters_faithful.ofText_eq_ok_iff.trans draft_faithful.ofText_eq_ok_iff.symm

/-- The other way to read parameters accepts the same texts. -/
theorem parametersOfText_eq_ok_iff {text : String} {p : Parameters} :
    Parameters.ofText text = .ok p ↔ draft.ofText text = .ok p.toDraft := by
  rw [Parameters.ofText, bind_eq_ok_iff]
  simp only [mapError_eq_ok_iff, Draft.validate_eq_ok_iff, exists_eq_right']

/-! ## Choices -/

theorem foldStrategy_faithful : foldStrategy.Faithful := by
  refine .choice (fun s => ?_) fun s s' => ?_
  · cases s <;> decide
  · cases s <;> cases s' <;> decide

theorem schedule_faithful : schedule.Faithful := by
  refine .choice (fun s => ?_) fun s s' => ?_
  · cases s <;> decide
  · cases s <;> cases s' <;> decide

end OutOfDomain.Encoding
