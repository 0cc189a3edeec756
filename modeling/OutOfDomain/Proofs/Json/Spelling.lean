import OutOfDomain.Json.Codec
import OutOfDomain.Proofs.Json.Reading
import OutOfDomain.Proofs.Outcome

/-!
# The documents that spell a value

A value is written in one way per layout, but read from many documents: the members of an object may
come in any order and with strangers between them, and a record may be a list. `Document.Spells` says
which documents those are, without saying anything about how one is read.

That makes it a specification for codecs. A codec is `Faithful` when it reads exactly the spellings of
what it writes. The *only if* is what keeps bad documents out: a number that is not the plain spelling
of what was read, a member that is there twice, an item too many. The *if*, together with the fact
that what is written is a spelling of itself, gives the round trip. Codecs are built from smaller ones,
and each way to build one keeps them faithful.
-/

set_option autoImplicit false

namespace OutOfDomain.Json

variable {ε α β : Type}

/-! ## Numbers -/

/-- The numeral is the plain spelling of a number: no sign, no point and no exponent. -/
structure Numeral.Writes (n : Numeral) (k : ℕ) : Prop where
  negative : n.negative = false
  fraction : n.fraction = []
  exponent : n.exponent = none
  ofDigits : ofDigits n.whole = k

theorem Numeral.writes_ofNat (k : ℕ) : (Numeral.ofNat k).Writes k :=
  ⟨rfl, rfl, rfl, ofDigits_writtenDigits k⟩

/-- A numeral is worth a word exactly if it is the plain spelling of one. -/
theorem Numeral.value?_eq_natural_iff {n : Numeral} {w : UInt64} :
    n.value? = some (.natural w) ↔ n.Writes w.toNat := by
  have hvalue : n.value? = some (.natural w) ↔ n.integer? = some (.natural w) := by
    unfold Numeral.value?
    split
    · rename_i h
      rw [h]
    · rename_i h
      rw [h, Option.map_eq_some_iff]
      exact iff_of_false (fun ⟨_, _, h⟩ => nomatch h) nofun
  rw [hvalue]
  unfold Numeral.integer?
  constructor
  · intro h
    split at h
    · cases h
    · rename_i hplain
      rw [not_or, not_not, not_not] at hplain
      dsimp only at h
      split_ifs at h with hneg _ hsize
      · cases h
      · cases h
        exact ⟨Bool.eq_false_iff.2 hneg, hplain.1, hplain.2,
          (UInt64.toNat_ofNat_of_lt' hsize).symm⟩
  · intro h
    have hsize : ofDigits n.whole < UInt64.size := h.ofDigits ▸ w.toNat_lt
    rw [if_neg (not_or.2 ⟨not_not.2 h.fraction, not_not.2 h.exponent⟩),
      if_neg (by rw [h.negative]; exact Bool.false_ne_true), if_pos hsize, h.ofDigits]
    exact congrArg (some ∘ Number.natural) (UInt64.ofNat_toNat (x := w))

/-! ## Records -/

/-- A member whose key is one of the names. -/
def known (names : List String) (m : Option String × Document) : Option (String × Document) :=
  m.1.bind fun name => if name ∈ names then some (name, m.2) else none

/-- What stands under the names of a record: the members of these names in an object, and the items
in their order in a list. -/
def Document.named (names : List String) : Document → List (String × Document)
  | .object members _ => members.filterMap (known names)
  | .list items _ => names.zip items
  | _ => []

/-- The document has the outer form of a record: each of the names exactly once, and no member that
is not sound. -/
inductive Document.IsRecord (names : List String) : Document → Prop
  | object {members : List (Option String × Document)} :
    (∀ m ∈ members, ∃ name, m.1 = some name ∧ (name ∈ names ∨ m.2.isIntact)) →
    ((members.filterMap (known names)).map Prod.fst).Perm names →
    IsRecord names (.object members true)
  | list {items : List Document} :
    items.length = names.length → IsRecord names (.list items true)

/-! ## Spellings -/

/-- The document spells the value. -/
inductive Document.Spells : Document → Value → Prop
  | number {n : Numeral} {k : ℕ} : n.Writes k → Spells (.number n) (.number k)
  | text (s : String) : Spells (.string (some s)) (.text s)
  /-- A name may also be the key of nothing. -/
  | key (s : String) : Spells (.object [(some s, .null)] true) (.text s)
  | list {items : List Document} {values : List Value} :
    List.Forall₂ Spells items values → Spells (.list items true) (.list values)
  | record {d : Document} {members : List (String × Value)} :
    d.IsRecord (members.map Prod.fst) →
    (∀ name v e, (name, v) ∈ members → (name, e) ∈ d.named (members.map Prod.fst) → Spells e v) →
    Spells d (.object members)

/-! ## Codecs -/

/-- Reading accepts exactly the spellings of what is written, and writing is one of them. -/
structure Codec.Faithful (c : Codec ε α) : Prop where
  decode_eq_ok_iff : ∀ d a, c.decode d = .ok a ↔ d.Spells (c.encode a)
  spells : ∀ a, (c.encode a).document.Spells (c.encode a)

namespace Codec.Faithful

variable {c : Codec ε α}

theorem ofText_eq_ok_iff (hc : c.Faithful) {text : String} {a : α} :
    c.ofText text = .ok a ↔
      (Content.ofText text).trailing = false ∧
        (Content.ofText text).document.Spells (c.encode a) := by
  rw [Codec.ofText, bind_eq_ok_iff]
  constructor
  · rintro ⟨a', ha', h⟩
    split at h
    · cases h
    · cases h
      exact ⟨Bool.eq_false_iff.2 ‹_›, (hc.decode_eq_ok_iff _ _).1 ha'⟩
  · rintro ⟨htrailing, h⟩
    refine ⟨a, (hc.decode_eq_ok_iff _ _).2 h, ?_⟩
    rw [htrailing]
    rfl

theorem ofText_toText (hc : c.Faithful) (s : Style) (a : α) :
    c.ofText (c.toText s a) = .ok a := by
  rw [hc.ofText_eq_ok_iff, Codec.toText, content_toText]
  exact ⟨rfl, hc.spells a⟩

theorem word (wanted : String) : (Codec.word wanted : Codec ε UInt64).Faithful where
  decode_eq_ok_iff d w := by
    constructor
    · intro h
      cases d with
      | number n =>
        simp only [Codec.word] at h
        split at h
        · cases h
          exact .number (Numeral.value?_eq_natural_iff.1 ‹_›)
        · cases h
        · cases h
      | _ => cases h
    · rintro ⟨h⟩
      simp only [Codec.word, Numeral.value?_eq_natural_iff.2 h]
  spells w := .number (Numeral.writes_ofNat w.toNat)

theorem list (hc : c.Faithful) : c.list.Faithful where
  decode_eq_ok_iff d l := by
    constructor
    · intro h
      cases d with
      | list items closed =>
        obtain ⟨l', hl, h⟩ := bind_eq_ok_iff.1 h
        cases closed with
        | false => cases h
        | true =>
          cases h
          refine .list (List.forall₂_map_right_iff.2 ?_)
          exact (mapM_eq_ok_iff.1 hl).imp fun d a => (hc.decode_eq_ok_iff d a).1
      | _ => cases h
    · intro h
      cases h with
      | list h =>
        refine bind_eq_ok_iff.2 ⟨l, mapM_eq_ok_iff.2 ?_, rfl⟩
        exact (List.forall₂_map_right_iff.1 h).imp fun d a => (hc.decode_eq_ok_iff d a).2
  spells l := by
    refine .list ?_
    rw [documents_eq_map, List.forall₂_map_left_iff, List.forall₂_same]
    intro v hv
    obtain ⟨a, -, rfl⟩ := List.mem_map.1 hv
    exact hc.spells a

/-- A check that accepts exactly what is written keeps a codec faithful. -/
theorem refine (hc : c.Faithful) {check : α → Except ε β} {forget : β → α}
    (h : ∀ a b, check a = .ok b ↔ forget b = a) : (c.refine check forget).Faithful where
  decode_eq_ok_iff d b := by
    rw [Codec.refine]
    simp only [bind_eq_ok_iff, mapError_eq_ok_iff, h, exists_eq_right', hc.decode_eq_ok_iff]
  spells b := hc.spells (forget b)

theorem ofName?_eq_ok_iff {all : List α} (hall : ∀ a, a ∈ all) {name : α → String}
    (hname : Function.Injective name) {s : String} {a : α} :
    (ofName? all name s : Except (Fault ε) α) = .ok a ↔ name a = s := by
  have hfind : (all.find? fun a => name a == s) = some a ↔ name a = s := by
    constructor
    · intro h
      have hs := List.find?_some h
      exact beq_iff_eq.1 hs
    · rintro rfl
      cases h : all.find? fun b => name b == name a with
      | none => exact absurd (beq_self_eq_true _) (List.find?_eq_none.1 h a (hall a))
      | some b =>
        have hb := List.find?_some h
        exact congrArg some (hname (beq_iff_eq.1 hb))
  rw [← hfind, ofName?]
  cases all.find? fun a => name a == s with
  | none => exact iff_of_false nofun nofun
  | some b => exact ⟨fun h => by cases h; rfl, fun h => by cases h; rfl⟩

theorem choice {all : List α} (hall : ∀ a, a ∈ all) {name : α → String}
    (hname : Function.Injective name) : (Codec.choice all name : Codec ε α).Faithful where
  decode_eq_ok_iff d a := by
    constructor
    · intro h
      unfold Codec.choice at h ⊢
      dsimp only at h ⊢
      split at h
      · rw [← (ofName?_eq_ok_iff hall hname).1 h]
        exact .text _
      · obtain ⟨b, hb, h⟩ := bind_eq_ok_iff.1 h
        split at h
        · split at h
          · cases h
            rename_i hlast
            rw [Bool.and_eq_true, List.isEmpty_iff] at hlast
            rw [← (ofName?_eq_ok_iff hall hname).1 hb, hlast.1, hlast.2]
            exact .key _
          · cases h
        · cases h
      · cases h
    · intro h
      generalize ha : (Codec.choice all name : Codec ε α).encode a = v at h
      cases h with
      | text s =>
        cases ha
        exact (ofName?_eq_ok_iff hall hname).2 rfl
      | key s =>
        cases ha
        exact bind_eq_ok_iff.2 ⟨a, (ofName?_eq_ok_iff hall hname).2 rfl, rfl⟩
      | _ => cases ha
  spells a := .text (name a)

end Codec.Faithful

end OutOfDomain.Json
