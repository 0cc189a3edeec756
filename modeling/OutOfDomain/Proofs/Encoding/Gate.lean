import OutOfDomain.Proofs.Check.Acceptance
import OutOfDomain.Proofs.Encoding.RoundTrip

/-!
# What reading lets through

A residue is checked when it is read, and so are the rows of a frame and the words of a draft. A value
that has passed therefore keeps what its type promises. What is less plain is that no *place* in a
document has been forgotten: that wherever in the document of an input an element belongs, there is a
number below the modulus, and it is the number that was read.

Places are described without the codecs. A `Shape` lists the members of the records of a type, and
`Shape.ElementAt` finds the places of a shape in any document, sound or not. What is written for a
value fits the shape of its type, and a document that spells it can have nothing else in those places.
-/

set_option autoImplicit false

namespace OutOfDomain.Encoding

open Json

/-! ## Where the elements stand -/

/-- What the documents of a type hold, and where. -/
inductive Shape where
  | element
  | word
  | list (item : Shape)
  | record (members : List (String × Shape))

/-- The names of the members of a record. -/
def Shape.names : Shape → List String
  | .record members => members.map Prod.fst
  | _ => []

/-- In a document of the shape, an element belongs where this document stands. The members of a
record are found as they are when it is read: by name in an object, however often the name comes, and
by position in a list. -/
inductive Shape.ElementAt : Shape → Document → Document → Prop
  | here (d : Document) : ElementAt .element d d
  | item {s : Shape} {items : List Document} {closed : Bool} {d e : Document} :
    d ∈ items → ElementAt s d e → ElementAt (.list s) (.list items closed) e
  | member {fields : List (String × Shape)} {name : String} {s : Shape} {record d e : Document} :
    (name, s) ∈ fields → (name, d) ∈ record.named (fields.map Prod.fst) → ElementAt s d e →
    ElementAt (.record fields) record e

/-- The document is the plain spelling of a number below the modulus. -/
def IsCanonical (q : Modulus) (d : Document) : Prop :=
  ∃ n k, d = .number n ∧ n.Writes k ∧ k < q.toNat

/-! ## Values of a shape -/

mutual

/-- The value has the shape, and its elements are below the modulus. -/
def Shape.Fits (q : Modulus) : Shape → Value → Prop
  | .element, .number k => k < q.toNat
  | .word, .number _ => True
  | .list s, .list values => ∀ v ∈ values, s.Fits q v
  | .record fields, .object members => fitsMembers q fields members
  | _, _ => False

/-- The members have the shapes, in order. -/
def fitsMembers (q : Modulus) : List (String × Shape) → List (String × Value) → Prop
  | [], [] => True
  | (name, s) :: fields, (name', v) :: members =>
    name = name' ∧ s.Fits q v ∧ fitsMembers q fields members
  | _, _ => False

end

theorem map_fst_of_fitsMembers {q : Modulus} {fields : List (String × Shape)}
    {members : List (String × Value)} (h : fitsMembers q fields members) :
    members.map Prod.fst = fields.map Prod.fst := by
  induction fields generalizing members with
  | nil =>
    cases members with
    | nil => rfl
    | cons => exact False.elim h
  | cons field fields ih =>
    cases members with
    | nil => exact False.elim h
    | cons member members =>
      obtain ⟨hname, -, h⟩ := h
      rw [List.map_cons, List.map_cons, hname, ih h]

theorem exists_of_fitsMembers {q : Modulus} {fields : List (String × Shape)}
    {members : List (String × Value)} (h : fitsMembers q fields members) {name : String}
    {s : Shape} (hs : (name, s) ∈ fields) : ∃ v, (name, v) ∈ members ∧ s.Fits q v := by
  induction fields generalizing members with
  | nil => cases hs
  | cons field fields ih =>
    cases members with
    | nil => exact False.elim h
    | cons member members =>
      obtain ⟨name', v⟩ := member
      obtain ⟨hname, hv, h⟩ := h
      rcases List.mem_cons.1 hs with rfl | hs
      · subst hname
        exact ⟨v, List.mem_cons_self, hv⟩
      · obtain ⟨v, hv, hfits⟩ := ih h hs
        exact ⟨v, List.mem_cons_of_mem _ hv, hfits⟩

theorem exists_mem_of_forall₂ {α β : Type} {R : α → β → Prop} {as : List α} {bs : List β}
    (h : List.Forall₂ R as bs) {a : α} (ha : a ∈ as) : ∃ b ∈ bs, R a b := by
  induction h with
  | nil => cases ha
  | cons hab _ ih =>
    rcases List.mem_cons.1 ha with rfl | ha
    · exact ⟨_, List.mem_cons_self, hab⟩
    · obtain ⟨b, hb, h⟩ := ih ha
      exact ⟨b, List.mem_cons_of_mem _ hb, h⟩

/-- Where a value is spelt that fits, every element's place is taken by a number below the modulus. -/
theorem Shape.ElementAt.isCanonical {q : Modulus} {s : Shape} {d e : Document} (h : s.ElementAt d e)
    {v : Value} (hfits : s.Fits q v) (hspells : d.Spells v) : IsCanonical q e := by
  -- The value is followed along the way to the place, together with the document that spells it.
  induction h generalizing v with
  | here d =>
    cases v with
    | number k =>
      cases hspells with
      | number hn => exact ⟨_, k, rfl, hn, hfits⟩
    | _ => exact False.elim hfits
  | item hd _ ih =>
    cases v with
    | list values =>
      cases hspells with
      | list hitems =>
        obtain ⟨v, hv, hspells⟩ := exists_mem_of_forall₂ hitems hd
        exact ih (hfits v hv) hspells
    | _ => exact False.elim hfits
  | member hs hd _ ih =>
    cases v with
    | object members =>
      cases hspells with
      | record hrecord hspells =>
        obtain ⟨v, hv, hfit⟩ := exists_of_fitsMembers hfits hs
        rw [map_fst_of_fitsMembers hfits] at hspells
        exact ih hfit (hspells _ v _ hv hd)
    | _ => exact False.elim hfits

/-! ## The shapes of the inputs -/

namespace Shape

def weight : Shape := .record [("c0", .element), ("c1", .element)]

def frame : Shape := .record [("current", .list .element), ("next", .list .element)]

def transitionEvaluation : Shape :=
  .record [("residues", .list .element), ("degrees", .list .word)]

def assertionEvaluation : Shape :=
  .record [("residue", .element), ("divisor_degree", .word), ("step", .word)]

def boundaryEvaluation : Shape := .record [("assertions", .list assertionEvaluation)]

def evaluatedInputs : Shape :=
  .record [("z", .element), ("g_trace", .element), ("transition_coeffs", .list weight),
    ("boundary_coeffs", .list weight), ("transition", transitionEvaluation),
    ("boundary", boundaryEvaluation), ("channel_ood_evaluations", .list .element)]

def frameInputs : Shape :=
  .record [("z", .element), ("g_trace", .element), ("frame", frame),
    ("public_inputs", .list .element), ("transition_coeffs", .list weight),
    ("boundary_coeffs", .list weight), ("channel_ood_evaluations", .list .element)]

end Shape

/-! ## What is written fits -/

section Fits

variable {q : Modulus}

theorem fits_residue (r : Residue q) : Shape.element.Fits q ((residue q).encode r) :=
  r.lt

theorem fits_count (w : UInt64) : Shape.word.Fits q (count.encode w) :=
  trivial

theorem fits_list {α : Type} {s : Shape} {c : Encoding α} (h : ∀ a, s.Fits q (c.encode a))
    (l : List α) : (Shape.list s).Fits q (c.list.encode l) :=
  List.forall_mem_map.2 fun a _ => h a

theorem fits_residues (l : List (Residue q)) :
    (Shape.list .element).Fits q ((residues q).encode l) :=
  fits_list fits_residue l

theorem fits_counts (l : List UInt64) : (Shape.list .word).Fits q (count.list.encode l) :=
  fits_list fits_count l

-- A record is gone through member by member: its name is that of the shape, and its value fits.

theorem fits_weight (w : Weight q) : Shape.weight.Fits q ((weight q).encode w) :=
  ⟨rfl, fits_residue _, rfl, fits_residue _, trivial⟩

theorem fits_weights (l : List (Weight q)) :
    (Shape.list .weight).Fits q ((weight q).list.encode l) :=
  fits_list fits_weight l

theorem fits_frame (f : Frame q) : Shape.frame.Fits q ((frame q).encode f) :=
  ⟨rfl, fits_residues _, rfl, fits_residues _, trivial⟩

theorem fits_transitionEvaluation (t : TransitionEvaluation q) :
    Shape.transitionEvaluation.Fits q ((transitionEvaluation q).encode t) :=
  ⟨rfl, fits_residues _, rfl, fits_counts _, trivial⟩

theorem fits_assertionEvaluation (a : AssertionEvaluation q) :
    Shape.assertionEvaluation.Fits q ((assertionEvaluation q).encode a) :=
  ⟨rfl, fits_residue _, rfl, fits_count _, rfl, fits_count _, trivial⟩

theorem fits_boundaryEvaluation (b : BoundaryEvaluation q) :
    Shape.boundaryEvaluation.Fits q ((boundaryEvaluation q).encode b) :=
  ⟨rfl, fits_list fits_assertionEvaluation _, trivial⟩

theorem fits_evaluatedInputs (inputs : EvaluatedInputs q) :
    Shape.evaluatedInputs.Fits q ((evaluatedInputs q).encode inputs) :=
  ⟨rfl, fits_residue _, rfl, fits_residue _, rfl, fits_weights _, rfl, fits_weights _,
    rfl, fits_transitionEvaluation _, rfl, fits_boundaryEvaluation _, rfl, fits_residues _, trivial⟩

theorem fits_frameInputs (inputs : FrameInputs q) :
    Shape.frameInputs.Fits q ((frameInputs q).encode inputs) :=
  ⟨rfl, fits_residue _, rfl, fits_residue _, rfl, fits_frame _, rfl, fits_residues _,
    rfl, fits_weights _, rfl, fits_weights _, rfl, fits_residues _, trivial⟩

end Fits

/-! ## What reading lets through -/

/-- Reading the text with the codec is a gate. Only a text that spells a value is read, and as that
value; its elements are below the modulus, and so is whatever stands in the text where an element
belongs. -/
structure Guards {α : Type} (q : Modulus) (s : Shape) (c : Encoding α) (text : String) : Prop where
  ofText_eq_ok_iff : ∀ a, c.ofText text = .ok a ↔
    (Content.ofText text).trailing = false ∧ (Content.ofText text).document.Spells (c.encode a)
  fits : ∀ a, c.ofText text = .ok a → s.Fits q (c.encode a)
  isCanonical : ∀ a, c.ofText text = .ok a →
    ∀ e, s.ElementAt (Content.ofText text).document e → IsCanonical q e

theorem guards_of_faithful {α : Type} {q : Modulus} {s : Shape} {c : Encoding α} (hc : c.Faithful)
    (hfits : ∀ a, s.Fits q (c.encode a)) (text : String) : Guards q s c text where
  ofText_eq_ok_iff _ := hc.ofText_eq_ok_iff
  fits a _ := hfits a
  isCanonical a h _ he := he.isCanonical (hfits a) (hc.ofText_eq_ok_iff.1 h).2

/-- In a document of inputs, these are the rows of the frame. -/
def HasRows (d : Document) (current next : List Document) : Prop :=
  ∃ frame c c', ("frame", frame) ∈ d.named Shape.frameInputs.names ∧
    ("current", .list current c) ∈ frame.named Shape.frame.names ∧
    ("next", .list next c') ∈ frame.named Shape.frame.names

theorem HasRows.length_eq {q : Modulus} {d : Document} {current next : List Document}
    (h : HasRows d current next) {inputs : FrameInputs q}
    (hspells : d.Spells ((frameInputs q).encode inputs)) :
    current.length = inputs.frame.current.length ∧ next.length = inputs.frame.next.length := by
  obtain ⟨f, c, c', hframe, hcurrent, hnext⟩ := h
  have hspells : f.Spells ((frame q).encode inputs.frame) := by
    cases hspells with
    | record _ hmembers => exact hmembers "frame" _ f (by simp) hframe
  cases hspells with
  | record _ hmembers =>
    have hlength {row : List (Residue q)} {items : List Document} {closed : Bool}
        (h : (Document.list items closed).Spells ((residues q).encode row)) :
        items.length = row.length := by
      cases h with
      | list h => rw [h.length_eq, List.length_map]
    exact ⟨hlength (hmembers "current" _ _ (by simp) hcurrent),
      hlength (hmembers "next" _ _ (by simp) hnext)⟩

/-- **Reading is a gate.** Whatever the text: inputs are read from it if and only if it spells them,
and then the elements are below the modulus, in the inputs and in every place of the text where an
element belongs. The rows of a frame that is read have the same width, and not none, and so have the
rows that stand in the text. Parameters that are read, in either way, are the draft that the text
holds, and the draft meets all the conditions; if it does, they are read in both ways. -/
theorem ofText_sound (q : Modulus) (text : String) :
    Guards q .evaluatedInputs (evaluatedInputs q) text ∧
    Guards q .frameInputs (frameInputs q) text ∧
    (∀ inputs, (frameInputs q).ofText text = .ok inputs →
      0 < inputs.frame.width ∧ inputs.frame.next.length = inputs.frame.width ∧
      ∀ current next, HasRows (Content.ofText text).document current next →
        current.length = inputs.frame.width ∧ next.length = inputs.frame.width) ∧
    (∀ p, parameters.ofText text = .ok p ∨ Parameters.ofText text = .ok p →
      draft.ofText text = .ok p.toDraft ∧ p.toDraft.IsSound) ∧
    ∀ d, draft.ofText text = .ok d → d.IsSound →
      ∃ p : Parameters,
        p.toDraft = d ∧ parameters.ofText text = .ok p ∧ Parameters.ofText text = .ok p := by
  refine ⟨guards_of_faithful (evaluatedInputs_faithful q) fits_evaluatedInputs text,
    guards_of_faithful (frameInputs_faithful q) fits_frameInputs text, ?_, ?_, ?_⟩
  · intro inputs h
    have hspells := ((frameInputs_faithful q).ofText_eq_ok_iff.1 h).2
    refine ⟨List.length_pos_iff.2 inputs.frame.current_ne_nil, inputs.frame.length_next, ?_⟩
    intro current next hrows
    obtain ⟨hcurrent, hnext⟩ := hrows.length_eq hspells
    exact ⟨hcurrent, hnext.trans inputs.frame.length_next⟩
  · intro p h
    rw [ofText_parameters_eq_ok_iff, parametersOfText_eq_ok_iff, or_self] at h
    exact ⟨h, Draft.isSound_iff.2 p.faultless⟩
  · intro d hd hsound
    refine ⟨⟨d, Draft.isSound_iff.1 hsound⟩, rfl, ?_, ?_⟩
    · exact ofText_parameters_eq_ok_iff.2 hd
    · exact parametersOfText_eq_ok_iff.2 hd

/-- Inputs with records as lists. -/
def listText : String := "[5, 96, [[2, 3]], [[1, 1]], [[10], [1]], [[[5, 0, 0]]], [31]]"

/-- Inputs of which the frame is an object. Its rows come in the other order, with a member between
them that is none of a frame. -/
def mixedText : String :=
  "[5, 96, \x7b \"next\": [3], \"note\": -1e9, \"current\": [1] \x7d, [7], [[2, 3]], [], [31]]"

def mixedInputs : FrameInputs Modulus.small where
  z := .ofWord 5
  generator := .ofWord 96
  frame := ⟨[.ofWord 1], [.ofWord 3], List.cons_ne_nil _ _, rfl⟩
  publicInputs := [.ofWord 7]
  transitionWeights := [⟨.ofWord 2, .ofWord 3⟩]
  boundaryWeights := []
  channel := [.ofWord 31]

theorem ofText_sound_mixedText :
    ((evaluatedInputs .small).ofText listText = .ok (workedInputs 31) ∧
      (Content.ofText listText).document.Spells
        ((evaluatedInputs .small).encode (workedInputs 31))) ∧
    ((frameInputs .small).ofText mixedText = .ok mixedInputs ∧
      (Content.ofText mixedText).document.Spells ((frameInputs .small).encode mixedInputs) ∧
      mixedInputs.frame.next.length = mixedInputs.frame.width) ∧
    parameters.ofText "[8, 1, 2, 2, 2]" = .ok ⟨{}, rfl⟩ ∧
      draft.ofText "[8, 1, 2, 2, 2]" = .ok {} := by
  have hlist : (evaluatedInputs .small).ofText listText = .ok (workedInputs 31) := by
    decide +kernel
  have hmixed : (frameInputs .small).ofText mixedText = .ok mixedInputs := by decide +kernel
  have hparameters : parameters.ofText "[8, 1, 2, 2, 2]" = .ok ⟨{}, rfl⟩ := by decide +kernel
  obtain ⟨hevaluated, -⟩ := ofText_sound .small listText
  obtain ⟨-, hframe, hrows, -⟩ := ofText_sound .small mixedText
  obtain ⟨-, -, -, hdraft, -⟩ := ofText_sound .small "[8, 1, 2, 2, 2]"
  exact ⟨⟨hlist, ((hevaluated.ofText_eq_ok_iff _).1 hlist).2⟩,
    ⟨hmixed, ((hframe.ofText_eq_ok_iff _).1 hmixed).2, (hrows _ hmixed).2.1⟩,
    hparameters, (hdraft _ (.inl hparameters)).1⟩

example : (weight .small).ofText "[2, 97]" = .error (.mismatch (.refused .notCanonical)) := by
  decide +kernel

end OutOfDomain.Encoding
