import OutOfDomain.Encoding.Refusal

/-!
# Parameter documents

A draft is written as its five words. Parameters are written like the draft that they are, and there
are two ways to read them. `Encoding.parameters` validates the draft as part of reading it, and only
then looks at what comes after it; `Parameters.ofText` reads a whole text as a draft and validates
that. The two accept the same texts. They differ in the fault they report for a text that has both an
invalid draft and something after it.
-/

set_option autoImplicit false

namespace OutOfDomain

namespace Encoding

open Json.Fields in
/-- Drafts: five words by name. -/
def draft : Encoding Draft :=
  .record "OodParamsBuilder" <|
    Draft.mk
      <$> field "trace_length" Draft.traceLength count
      <*> field "trace_width" Draft.traceWidth count
      <*> field "num_assertions" Draft.assertionCount count
      <*> field "ce_blowup_factor" Draft.blowup count
      <*> field "num_public_inputs" Draft.publicInputCount count

/-- Parameters: a draft that is validated at its closing bracket. -/
def parameters : Encoding Parameters :=
  draft.refine (fun d => d.validate.mapError .parameters) Parameters.toDraft

end Encoding

/-- Why a text holds no parameters. -/
inductive ParameterDocumentError where
  | unreadable (e : DecodeError)
  | invalid (e : ParameterError)
  deriving DecidableEq, Repr

/-- The text that reports why there are no parameters; there is none for a text that is no JSON. -/
def ParameterDocumentError.message? : ParameterDocumentError → Option String
  | unreadable e => (DecodeError.message? e).map fun m => s!"invalid parameter document: {m}"
  | invalid e => some e.message

namespace Parameters

/-- The parameters that a text holds. -/
def ofText (text : String) : Except ParameterDocumentError Parameters := do
  let draft ← (Encoding.draft.ofText text).mapError .unreadable
  draft.validate.mapError .invalid

/-- The document of a parameter set, one field a line. -/
def toText (p : Parameters) : String := Encoding.parameters.toText .pretty p

end Parameters

end OutOfDomain
