import Mathlib.Data.List.Basic
import OutOfDomain.Json.Number
import OutOfDomain.Json.Value

/-!
# Written texts, cut into tokens

What is written of a number or a text is one token, and what comes after it is left alone. For a
quoted text that needs nothing more: the closing quote is there. A numeral has no end of its own. It
goes on as long as it can, so it is the next character that decides, and everything here about
numerals supposes that this character ends one (`EndsNumeral`).

Escapes are read back one character at a time. Each is a single piece, and that piece spells the
character whatever comes after it (`scanPieces_escape`). A written text never holds half of a pair of
surrogates, since the characters escaped by number are the control characters.
-/

set_option autoImplicit false

namespace OutOfDomain.Json

/-! ## One token off a text -/

theorem tokens_cons_of_isBlank {c : Char} (h : isBlank c) (rest : List Char) :
    tokens (c :: rest) = tokens rest := by
  rw [tokens, if_pos h]

theorem tokens_of_scanToken {c : Char} {cs after : List Char} {t : Token}
    (hblank : isBlank c = false) (h : scanToken (c :: cs) = some (t, after)) :
    tokens (c :: cs) = t :: tokens after := by
  rw [tokens, if_neg (by rw [hblank]; exact Bool.false_ne_true)]
  split
  · rename_i h'
    rw [h] at h'
    cases h'
    rfl
  · rename_i h'
    rw [h] at h'
    cases h'

/-! ## Numbers -/

/-- The decimal digits of a number as it is written. -/
def writtenDigits (n : ℕ) : List ℕ := (Nat.toDigits 10 n).map fun c => c.toNat - '0'.toNat

/-- The numeral that a number is written as. -/
def Numeral.ofNat (n : ℕ) : Numeral := ⟨false, writtenDigits n, [], none⟩

theorem ofDigits_writtenDigits (n : ℕ) : ofDigits (writtenDigits n) = n := by
  have h : ∀ (cs : List Char) (m : ℕ),
      (cs.map fun c => c.toNat - '0'.toNat).foldl (fun n d => n * 10 + d) m =
        Nat.ofDigitChars 10 cs m := by
    intro cs m
    rw [List.foldl_map, Nat.ofDigitChars_eq_foldl]
    simp only [Nat.mul_comm]
  rw [ofDigits, writtenDigits, h, Nat.ofDigitChars_ten_toDigits]

theorem writtenDigits_ne_nil (n : ℕ) : writtenDigits n ≠ [] := by
  simp [writtenDigits]

/-- Only zero is written with a zero in front. -/
theorem head?_writtenDigits_ne {n : ℕ} (hn : n ≠ 0) : (writtenDigits n).head? ≠ some 0 := by
  induction n using Nat.strongRecOn with
  | ind n ih =>
    unfold writtenDigits
    by_cases h : n < 10
    · -- A single digit is the number itself.
      rw [Nat.toDigits_of_lt_base h, List.map_singleton, List.head?_cons]
      rw [show '0'.toNat = 48 from rfl, Nat.toNat_digitChar_sub_48_of_lt_ten h]
      exact fun h => hn (Option.some.inj h)
    · have hdiv : n / 10 ≠ 0 := by omega
      rw [Nat.toDigits_of_base_le (by decide) (by omega), List.map_append,
        List.head?_append_of_ne_nil]
      · exact ih (n / 10) (by omega) hdiv
      · exact writtenDigits_ne_nil (n / 10)

/-- What a text goes on with ends a numeral before it. -/
def EndsNumeral (rest : List Char) : Prop :=
  ∀ c, rest.head? = some c → c.isDigit = false ∧ c ≠ '.' ∧ c ≠ 'e' ∧ c ≠ 'E'

theorem digits_append {cs rest : List Char} (hcs : ∀ c ∈ cs, c.isDigit) (hrest : EndsNumeral rest) :
    digits (cs ++ rest) = (cs.map fun c => c.toNat - '0'.toNat, rest) := by
  induction cs with
  | nil =>
    cases rest with
    | nil => rfl
    | cons c rest => simp [digits, (hrest c rfl).1]
  | cons c cs ih =>
    rw [List.forall_mem_cons] at hcs
    simp [digits, hcs.1, ih hcs.2]

theorem scanFraction_of_endsNumeral {rest : List Char} (h : EndsNumeral rest) :
    scanFraction rest = some ([], rest) := by
  unfold scanFraction
  split
  · exact absurd rfl (h '.' rfl).2.1
  · rfl

theorem scanExponent_of_endsNumeral {rest : List Char} (h : EndsNumeral rest) :
    scanExponent rest = some (none, rest) := by
  unfold scanExponent
  split
  · obtain ⟨-, -, he, hE⟩ := h _ rfl
    exact if_neg (not_or.2 ⟨he, hE⟩)
  · rfl

theorem isDigit_of_mem_toDigits {n : ℕ} {c : Char} (h : c ∈ Nat.toDigits 10 n) : c.isDigit :=
  Nat.isDigit_of_mem_toDigits (by decide) (by decide) h

theorem scanWhole_toDigits (n : ℕ) {rest : List Char} (h : EndsNumeral rest) :
    scanWhole (Nat.toDigits 10 n ++ rest) = some (writtenDigits n, rest) := by
  have hdigits : digits (Nat.toDigits 10 n ++ rest) = (writtenDigits n, rest) :=
    digits_append (fun _ => isDigit_of_mem_toDigits) h
  unfold scanWhole
  rw [hdigits]
  split
  · rename_i heq
    exact absurd (congrArg Prod.fst heq) (writtenDigits_ne_nil n)
  · rename_i heq
    have heq := congrArg Prod.fst heq
    rcases eq_or_ne n 0 with rfl | hn
    · cases heq
    · exact absurd (congrArg List.head? heq) (head?_writtenDigits_ne hn)
  · rename_i heq
    cases heq
    rfl

theorem scanNumeral_of_isDigit {c : Char} (hc : c.isDigit) (cs : List Char) :
    scanNumeral (c :: cs) = do
      let (whole, cs) ← scanWhole (c :: cs)
      let (fraction, cs) ← scanFraction cs
      let (exponent, cs) ← scanExponent cs
      return (⟨false, whole, fraction, exponent⟩, cs) := by
  unfold scanNumeral
  split
  rename_i heq
  split at heq
  · rename_i hminus
    cases hminus
    exact absurd hc (by decide)
  · cases heq
    rfl

theorem scanToken_of_isDigit {c : Char} (hc : c.isDigit) (cs : List Char) :
    scanToken (c :: cs) = (scanNumeral (c :: cs)).map fun (n, after) => (.number n, after) := by
  unfold scanToken
  split
  case h_11 => rfl
  -- All other tokens start with something else than a digit.
  all_goals
    rename_i heq
    cases heq
    exact absurd hc (by decide)

theorem isBlank_of_isDigit {c : Char} (hc : c.isDigit) : isBlank c = false := by
  rw [Bool.eq_false_iff]
  intro h
  simp only [isBlank, Bool.or_eq_true, beq_iff_eq] at h
  obtain ((rfl | rfl) | rfl) | rfl := h <;> exact absurd hc (by decide)

theorem tokens_toDigits (n : ℕ) {rest : List Char} (h : EndsNumeral rest) :
    tokens (Nat.toDigits 10 n ++ rest) = .number (.ofNat n) :: tokens rest := by
  obtain ⟨c, cs, hcs⟩ := List.exists_cons_of_ne_nil (Nat.toDigits_ne_nil (b := 10) (n := n))
  have hc : c.isDigit := isDigit_of_mem_toDigits (n := n) (hcs ▸ List.mem_cons_self)
  have hscan : scanNumeral (c :: (cs ++ rest)) = some (Numeral.ofNat n, rest) := by
    rw [scanNumeral_of_isDigit hc, ← List.cons_append, ← hcs, scanWhole_toDigits n h]
    simp only [Option.bind_eq_bind, Option.bind_some, scanFraction_of_endsNumeral h,
      scanExponent_of_endsNumeral h]
    rfl
  rw [hcs, List.cons_append]
  refine tokens_of_scanToken (isBlank_of_isDigit hc) ?_
  rw [scanToken_of_isDigit hc, hscan]
  rfl

/-! ## Quoted texts -/

theorem hexUnit?_hexDigit {n : ℕ} (h : n < 32) :
    hexUnit? '0' '0' (hexDigit (n / 16)) (hexDigit (n % 16)) = some n := by
  decide +revert

theorem scanPieces_letter {e c : Char} (he : e ≠ 'u') (h : unescape? e = some c)
    (rest : List Char) :
    scanPieces ('\\' :: e :: rest) =
      (scanPieces rest).map fun (ps, after) => (.char c :: ps, after) := by
  rw [scanPieces.eq_4 _ _ fun _ _ _ _ _ h' _ => he h', h]

theorem scanPieces_plain {c : Char} (hquote : c ≠ '"') (hbackslash : c ≠ '\\')
    (h : ¬ c.toNat < 32) (rest : List Char) :
    scanPieces (c :: rest) = (scanPieces rest).map fun (ps, after) => (.char c :: ps, after) := by
  rw [scanPieces.eq_5 _ _ hquote (fun _ _ _ _ _ h' _ => hbackslash h')
    (fun _ _ h' _ => hbackslash h'), if_neg h]

theorem spell_unit_control {c : Char} (h : c.toNat < 32) (ps : List Piece) :
    spell (.unit c.toNat :: ps) = (spell ps).map (c :: ·) := by
  have hhigh : ¬ isHighSurrogate c.toNat = true := by
    simp only [isHighSurrogate, Bool.and_eq_true, decide_eq_true_eq]
    omega
  have hlow : ¬ isLowSurrogate c.toNat = true := by
    simp only [isLowSurrogate, Bool.and_eq_true, decide_eq_true_eq]
    omega
  conv_lhs => unfold spell
  rw [if_neg hhigh, if_neg hlow, Char.ofNat_toNat]

/-- A written character is one piece, and that piece spells it. -/
theorem scanPieces_escape (c : Char) (rest : List Char) :
    ∃ p : Piece, (∀ ps, spell (p :: ps) = (spell ps).map (c :: ·)) ∧
      scanPieces (escape c ++ rest) =
        (scanPieces rest).map fun (ps, after) => (p :: ps, after) := by
  have letter {e : Char} (he : e ≠ 'u') (h : unescape? e = some c) :
      ∃ p : Piece, (∀ ps, spell (p :: ps) = (spell ps).map (c :: ·)) ∧
        scanPieces ('\\' :: e :: rest) =
          (scanPieces rest).map fun (ps, after) => (p :: ps, after) :=
    ⟨.char c, fun _ => rfl, scanPieces_letter he h rest⟩
  unfold escape
  split_ifs with hquote hbackslash hn hr ht hb hf hcontrol
  · exact letter (by decide) (congrArg some hquote.symm)
  · exact letter (by decide) (congrArg some hbackslash.symm)
  · exact letter (by decide) (congrArg some hn.symm)
  · exact letter (by decide) (congrArg some hr.symm)
  · exact letter (by decide) (congrArg some ht.symm)
  · exact letter (by decide) (congrArg some hb.symm)
  · exact letter (by decide) (congrArg some hf.symm)
  · refine ⟨.unit c.toNat, spell_unit_control hcontrol, ?_⟩
    change scanPieces ('\\' :: 'u' :: '0' :: '0' :: _ :: _ :: rest) = _
    rw [scanPieces, hexUnit?_hexDigit hcontrol]
  · exact ⟨.char c, fun _ => rfl, scanPieces_plain hquote hbackslash hcontrol rest⟩

theorem scanPieces_flatMap_escape (cs rest : List Char) :
    ∃ ps, scanPieces (cs.flatMap escape ++ '"' :: rest) = some (ps, rest) ∧ spell ps = some cs := by
  induction cs with
  | nil => exact ⟨[], scanPieces.eq_2 rest, rfl⟩
  | cons c cs ih =>
    obtain ⟨ps, hscan, hspell⟩ := ih
    obtain ⟨p, hp, hscan'⟩ := scanPieces_escape c (cs.flatMap escape ++ '"' :: rest)
    refine ⟨p :: ps, ?_, by rw [hp, hspell, Option.map_some]⟩
    rw [List.flatMap_cons, List.append_assoc, hscan', hscan, Option.map_some]

theorem tokens_quoted (s : String) (rest : List Char) :
    tokens (quoted s ++ rest) = .string (some s) :: tokens rest := by
  obtain ⟨ps, hscan, hspell⟩ := scanPieces_flatMap_escape s.toList rest
  have htoken : scanToken (quoted s ++ rest) = some (.string (some s), rest) := by
    rw [quoted, List.append_assoc, List.cons_append, scanToken, List.singleton_append, hscan]
    simp only [Option.map_some, hspell, String.ofList_toList]
  exact tokens_of_scanToken (by decide) htoken

end OutOfDomain.Json
