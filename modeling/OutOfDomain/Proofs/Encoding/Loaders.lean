import OutOfDomain.Proofs.Encoding.RoundTrip
import OutOfDomain.Proofs.Parameters.Validation

/-!
# Two ways to read parameters

`Encoding.parameters` validates a draft at its closing bracket and looks at what comes after it then;
`Parameters.ofText` reads the whole text first. They accept the same texts, and for a text that they
refuse there is one equation that says what the second reports, given what the first does
(`Parameters.ofText_eq_mapError`): the same, with two exceptions. A refused draft is reported as what is
wrong with it, not as a text that could not be read; and if something comes after a refused draft, the
first has refused it already and the second finds the text malformed.

The equation needs to know where a refusal comes from. A draft's members are plain words, and reading
words and putting records together never refuses anything, so a refusal is always that of validation.
`NeverRefuses` is that property of codecs; each way to build one keeps it.
-/

set_option autoImplicit false

namespace OutOfDomain

namespace Json

variable {ε ρ α β : Type}

/-! ## Texts -/

theorem Codec.ofText_of_decode_eq_error {c : Codec ε α} {text : String} {e : Fault ε}
    (h : c.decode (Content.ofText text).document = .error e) : c.ofText text = .error e := by
  unfold Codec.ofText
  dsimp only
  rw [h]
  rfl

theorem Codec.ofText_of_decode_eq_ok {c : Codec ε α} {text : String} {a : α}
    (h : c.decode (Content.ofText text).document = .ok a) :
    c.ofText text = if (Content.ofText text).trailing then .error .malformed else .ok a := by
  unfold Codec.ofText
  dsimp only
  rw [h]
  rfl

/-! ## Checked values -/

section Refine

variable {c : Codec ε α} {d : Document} {check : α → Except ε β} {forget : β → α}

theorem Codec.decode_refine_of_error {e : Fault ε} (h : c.decode d = .error e) :
    (c.refine check forget).decode d = .error e := by
  unfold Codec.refine
  dsimp only
  rw [h]
  rfl

theorem Codec.decode_refine_of_ok {a : α} (h : c.decode d = .ok a) :
    (c.refine check forget).decode d =
      (check a).mapError fun cause => .mismatch (.refused cause) := by
  unfold Codec.refine
  dsimp only
  rw [h]
  rfl

end Refine

/-! ## Where refusals come from -/

/-- The fault is that of a check, and not of the document. -/
def Fault.IsRefusal : Fault ε → Prop
  | .mismatch (.refused _) => True
  | _ => False

/-- The computation may fail, but it never refuses. -/
abbrev NoRefusal (x : Except (Fault ε) α) : Prop := OnlyRaises (fun e => ¬ e.IsRefusal) x

theorem Document.not_isRefusal_unlike (d : Document) (wanted : String) :
    ¬ (d.unlike wanted : Fault ε).IsRefusal := by
  unfold Document.unlike
  split
  case h_3 n =>
    dsimp only
    split <;> exact id
  all_goals exact id

/-- No document is refused. -/
def Codec.NeverRefuses (c : Codec ε α) : Prop := ∀ d, NoRefusal (c.decode d)

theorem Codec.NeverRefuses.word (wanted : String) :
    (Codec.word wanted : Codec ε UInt64).NeverRefuses := by
  intro d
  unfold Codec.word
  dsimp only
  split
  · split
    · exact .ok _
    · exact .error id
    · exact .error (Document.not_isRefusal_unlike _ _)
  · exact .error (Document.not_isRefusal_unlike _ _)

namespace Fields

/-- No member is refused, and neither are all of them together. -/
structure NeverRefuses (f : Fields ε ρ α) : Prop where
  put : ∀ name d s, NoRefusal (f.put name d s)
  finish : ∀ s, NoRefusal (f.finish s)

theorem NeverRefuses.field {c : Codec ε α} (hc : c.NeverRefuses) (name : String) (get : ρ → α) :
    (Fields.field name get c).NeverRefuses where
  put _ d _ := (hc d).map some
  finish s := by
    cases s with
    | none => exact .error id
    | some a => exact .ok a

theorem NeverRefuses.constant (a : α) : (Fields.constant a : Fields ε ρ α).NeverRefuses where
  put _ _ s := .ok s
  finish _ := .ok a

theorem NeverRefuses.seq {f : Fields ε ρ (α → β)} {g : Fields ε ρ α} (hf : f.NeverRefuses)
    (hg : g.NeverRefuses) : (f <*> g).NeverRefuses where
  put name d (s : f.State × g.State) := by
    change NoRefusal ((append f g).put name d s)
    by_cases hname : name ∈ f.names
    · rw [put_append_of_mem hname]
      exact (hf.put name d s.1).map _
    · rw [put_append_of_not_mem hname]
      exact (hg.put name d s.2).map _
  finish s := (hf.finish s.1).bind fun _ _ => (hg.finish s.2).bind fun _ _ => .ok _

theorem NeverRefuses.map {f : Fields ε ρ α} (h : α → β) (hf : f.NeverRefuses) :
    (h <$> f).NeverRefuses :=
  (NeverRefuses.constant h).seq hf

theorem NeverRefuses.walk {f : Fields ε ρ α} (hf : f.NeverRefuses) (seen : List String)
    (s : f.State) (members : List (Option String × Document)) :
    NoRefusal (f.walk seen s members) := by
  induction members generalizing seen s with
  | nil => exact .ok s
  | cons m members ih =>
    obtain ⟨key, d⟩ := m
    cases key with
    | none => exact .error id
    | some name =>
      rw [Fields.walk]
      split
      · split
        · exact .error id
        · exact (hf.put name d s).bind fun s' _ => ih (name :: seen) s'
      · split
        · exact ih seen s
        · exact .error id

theorem NeverRefuses.fill {f : Fields ε ρ α} (hf : f.NeverRefuses) (s : f.State)
    (names : List String) (items : List Document) : NoRefusal (f.fill s names items) := by
  induction names generalizing s items with
  | nil =>
    cases items <;> exact .ok _
  | cons name names ih =>
    cases items with
    | nil => exact .ok _
    | cons item items => exact (hf.put name item s).bind fun s' _ => ih s' items

end Fields

theorem Codec.NeverRefuses.record {f : Fields ε α α} (hf : f.NeverRefuses) (name : String) :
    (Codec.record name f).NeverRefuses := by
  intro d
  unfold Codec.record
  dsimp only
  split
  · refine (hf.walk [] f.start _).bind fun s _ => ?_
    split
    · exact hf.finish s
    · exact .error id
  · refine (hf.fill f.start _ _).bind fun filled _ => ?_
    split
    · split
      · exact hf.finish filled.1
      · exact .error id
    · split <;> exact .error id
  · exact .error (Document.not_isRefusal_unlike _ _)

end Json

namespace Encoding

open Json.Fields (NeverRefuses)

theorem draft_neverRefuses : draft.NeverRefuses := by
  have hc : count.NeverRefuses := .word "usize"
  exact .record ((((((NeverRefuses.field hc _ _).map _).seq (.field hc _ _)).seq
    (.field hc _ _)).seq (.field hc _ _)).seq (.field hc _ _)) _

end Encoding

/-! ## What the two report -/

/-- What is reported for a text that is read to its end before it is validated, from the fault that is
found when validation comes first. -/
def ParameterDocumentError.ofDecodeError (trailing : Bool) : DecodeError → ParameterDocumentError
  | .mismatch (.refused (.parameters e)) =>
    if trailing then .unreadable .malformed else .invalid e
  | e => .unreadable e

theorem ParameterDocumentError.ofDecodeError_of_not_isRefusal {e : DecodeError}
    (h : ¬ e.IsRefusal) (trailing : Bool) : ofDecodeError trailing e = .unreadable e := by
  unfold ofDecodeError
  split
  · exact absurd trivial h
  · rfl

namespace Parameters

/-- One way to read parameters in terms of the other. -/
theorem ofText_eq_mapError (text : String) :
    ofText text = (Encoding.parameters.ofText text).mapError
      (.ofDecodeError (Json.Content.ofText text).trailing) := by
  unfold ofText
  cases hdraft : Encoding.draft.decode (Json.Content.ofText text).document with
  | error e =>
    have hdirect : Encoding.parameters.decode (Json.Content.ofText text).document = .error e :=
      Json.Codec.decode_refine_of_error hdraft
    have hrefusal := Encoding.draft_neverRefuses _ e hdraft
    rw [Json.Codec.ofText_of_decode_eq_error hdraft, Json.Codec.ofText_of_decode_eq_error hdirect]
    exact congrArg Except.error (ParameterDocumentError.ofDecodeError_of_not_isRefusal hrefusal _).symm
  | ok d =>
    have hdirect : Encoding.parameters.decode (Json.Content.ofText text).document =
        (d.validate.mapError Refusal.parameters).mapError fun cause => .mismatch (.refused cause) :=
      Json.Codec.decode_refine_of_ok hdraft
    rw [Json.Codec.ofText_of_decode_eq_ok hdraft]
    cases hvalid : d.validate with
    | error e =>
      rw [hvalid] at hdirect
      rw [Json.Codec.ofText_of_decode_eq_error hdirect]
      cases (Json.Content.ofText text).trailing with
      | true => rfl
      | false => exact congrArg (Except.mapError ParameterDocumentError.invalid) hvalid
    | ok p =>
      rw [hvalid] at hdirect
      rw [Json.Codec.ofText_of_decode_eq_ok hdirect]
      cases (Json.Content.ofText text).trailing with
      | true => rfl
      | false => exact congrArg (Except.mapError ParameterDocumentError.invalid) hvalid

theorem ofText_eq_invalid_iff {text : String} {e : ParameterError} :
    ofText text = .error (.invalid e) ↔
      ∃ d, Encoding.draft.ofText text = .ok d ∧ d.validate = .error e := by
  unfold ofText
  cases hdraft : Encoding.draft.ofText text with
  | error fault => exact iff_of_false nofun nofun
  | ok d =>
    change d.validate.mapError _ = _ ↔ _
    cases hvalid : d.validate with
    | error e' => simp [Except.mapError, hvalid]
    | ok p => simp [Except.mapError, hvalid]

end Parameters

/-- **The two ways to read parameters agree, and undo writing.** Parameters are read back as they were
written. A text holds parameters for the one exactly if it holds the same for the other. And what a
draft that stands in a text by itself is refused for is what is wrong with it, and nothing else is
reported so. -/
theorem loaders_agree :
    (∀ p : Parameters, Parameters.ofText p.toText = .ok p) ∧
      (∀ (text : String) (p : Parameters),
        Parameters.ofText text = .ok p ↔ Encoding.parameters.ofText text = .ok p) ∧
      ∀ (text : String) (e : ParameterError),
        Parameters.ofText text = .error (.invalid e) ↔
          ∃ d, Encoding.draft.ofText text = .ok d ∧ d.validate = .error e := by
  have hagree (text : String) (p : Parameters) :
      Parameters.ofText text = .ok p ↔ Encoding.parameters.ofText text = .ok p := by
    rw [Parameters.ofText_eq_mapError, mapError_eq_ok_iff]
  refine ⟨fun p => ?_, hagree, fun text e => Parameters.ofText_eq_invalid_iff⟩
  rw [hagree]
  exact Encoding.parameters_faithful.ofText_toText .pretty p

example : Parameters.ofText "[6, 1, 2, 2, 2] 0" = .error (.unreadable .malformed) ∧
    Encoding.parameters.ofText "[6, 1, 2, 2, 2] 0" =
      .error (.mismatch (.refused (.parameters (.traceLengthNotPowerOfTwo 6)))) := by
  decide +kernel

end OutOfDomain
