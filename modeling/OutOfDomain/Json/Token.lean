/-!
# The tokens of a JSON text

A text is cut into brackets, commas, colons, words, numerals and quoted strings; blanks between them
are dropped. Where no token can be read, the last token is `Token.unreadable`, and nothing after it
is looked at.

Numerals are kept as their digits, because what they are worth is another question, and not always
asked. A quoted string whose escapes leave half of a surrogate pair alone is a token as well, though
one without a text: it is unreadable only to those who want to know what it says.
-/

set_option autoImplicit false

namespace OutOfDomain.Json

/-! ## Numerals -/

/-- The power of ten that a numeral is multiplied with. -/
structure Exponent where
  negative : Bool
  digits : List Nat
  deriving DecidableEq, Repr

/-- A number as it is written. -/
structure Numeral where
  negative : Bool
  /-- The digits before the point: a single zero, or digits that do not start with one. -/
  whole : List Nat
  /-- The digits after the point; none when there is no point. -/
  fraction : List Nat
  exponent : Option Exponent
  deriving DecidableEq, Repr

/-- The leading digits of a text, and what comes after them. -/
def digits : List Char → List Nat × List Char
  | [] => ([], [])
  | c :: rest =>
    if c.isDigit then
      let (ds, after) := digits rest
      ((c.toNat - '0'.toNat) :: ds, after)
    else ([], c :: rest)

theorem length_digits_le (cs : List Char) : (digits cs).2.length ≤ cs.length := by
  induction cs with
  | nil => exact Nat.le_refl _
  | cons c rest ih =>
    unfold digits
    split
    · simp only [List.length_cons]; omega
    · exact Nat.le_refl _

/-- The digits before the point. -/
def scanWhole (cs : List Char) : Option (List Nat × List Char) :=
  match digits cs with
  | ([], _) => none
  | (0 :: _ :: _, _) => none
  | (ds, rest) => some (ds, rest)

/-- The digits after the point, if there is a point. -/
def scanFraction : List Char → Option (List Nat × List Char)
  | '.' :: cs =>
    match digits cs with
    | ([], _) => none
    | (ds, rest) => some (ds, rest)
  | cs => some ([], cs)

/-- The digits of a power of ten. -/
def scanExponentDigits (negative : Bool) (cs : List Char) :
    Option (Option Exponent × List Char) :=
  match digits cs with
  | ([], _) => none
  | (ds, rest) => some (some ⟨negative, ds⟩, rest)

/-- The power of ten, if there is one. -/
def scanExponent : List Char → Option (Option Exponent × List Char)
  | c :: cs =>
    if c = 'e' ∨ c = 'E' then
      match cs with
      | '-' :: rest => scanExponentDigits true rest
      | '+' :: rest => scanExponentDigits false rest
      | rest => scanExponentDigits false rest
    else some (none, c :: cs)
  | [] => some (none, [])

/-- A numeral, as long as it can be. -/
def scanNumeral (cs : List Char) : Option (Numeral × List Char) := do
  let (negative, cs) := match cs with
    | '-' :: rest => (true, rest)
    | cs => (false, cs)
  let (whole, cs) ← scanWhole cs
  let (fraction, cs) ← scanFraction cs
  let (exponent, cs) ← scanExponent cs
  return (⟨negative, whole, fraction, exponent⟩, cs)

/-! ## Strings -/

/-- A part of a quoted string. -/
inductive Piece where
  | char (c : Char)
  /-- An escape by number, of sixteen bits. -/
  | unit (n : Nat)
  deriving DecidableEq, Repr

/-- The number that a hexadecimal digit stands for, in either case. -/
def hexValue? (c : Char) : Option Nat :=
  if c.isDigit then some (c.toNat - '0'.toNat)
  else if 'a' ≤ c ∧ c ≤ 'f' then some (c.toNat - 'a'.toNat + 10)
  else if 'A' ≤ c ∧ c ≤ 'F' then some (c.toNat - 'A'.toNat + 10)
  else none

/-- The number that four hexadecimal digits stand for. -/
def hexUnit? (a b c d : Char) : Option Nat := do
  return (((← hexValue? a) * 16 + (← hexValue? b)) * 16 + (← hexValue? c)) * 16 + (← hexValue? d)

/-- The character that an escape by a letter stands for. -/
def unescape? : Char → Option Char
  | '"' => some '"'
  | '\\' => some '\\'
  | '/' => some '/'
  | 'b' => some '\x08'
  | 'f' => some '\x0c'
  | 'n' => some '\n'
  | 'r' => some '\r'
  | 't' => some '\t'
  | _ => none

/-- The pieces of a quoted string up to the closing quote, and what comes after it. A control
character cannot stand for itself. -/
def scanPieces : List Char → Option (List Piece × List Char)
  | [] => none
  | '"' :: rest => some ([], rest)
  | '\\' :: 'u' :: a :: b :: c :: d :: rest =>
    match hexUnit? a b c d with
    | none => none
    | some n => (scanPieces rest).map fun (pieces, after) => (.unit n :: pieces, after)
  | '\\' :: c :: rest =>
    match unescape? c with
    | none => none
    | some c => (scanPieces rest).map fun (pieces, after) => (.char c :: pieces, after)
  | c :: rest =>
    if c.toNat < 32 then none
    else (scanPieces rest).map fun (pieces, after) => (.char c :: pieces, after)

/-- Whether a number is the first half of a pair of surrogates. -/
def isHighSurrogate (n : Nat) : Bool := 0xD800 ≤ n && n < 0xDC00

/-- Whether a number is the second half of a pair of surrogates. -/
def isLowSurrogate (n : Nat) : Bool := 0xDC00 ≤ n && n < 0xE000

/-- The text that pieces spell. Two halves of a pair, one after the other, are one character; a half
on its own is none. -/
def spell : List Piece → Option (List Char)
  | [] => some []
  | .char c :: rest => (spell rest).map (c :: ·)
  | .unit n :: rest =>
    if isHighSurrogate n then
      match rest with
      | .unit m :: rest =>
        if isLowSurrogate m then
          (spell rest).map (Char.ofNat (0x10000 + (n - 0xD800) * 0x400 + (m - 0xDC00)) :: ·)
        else none
      | _ => none
    else if isLowSurrogate n then none
    else (spell rest).map (Char.ofNat n :: ·)

/-! ## Tokens -/

/-- A token. -/
inductive Token where
  | listOpen
  | listClose
  | objectOpen
  | objectClose
  | comma
  | colon
  | null
  | boolean (b : Bool)
  | number (n : Numeral)
  /-- A quoted string; it has no text when half of a pair of surrogates stands alone in it. -/
  | string (s : Option String)
  /-- Here no token can be read. -/
  | unreadable
  deriving DecidableEq, Repr

/-- The blanks that may stand between tokens. -/
def isBlank (c : Char) : Bool := c == ' ' || c == '\t' || c == '\n' || c == '\r'

/-- The token that a text starts with, and what comes after it. -/
def scanToken : List Char → Option (Token × List Char)
  | '[' :: rest => some (.listOpen, rest)
  | ']' :: rest => some (.listClose, rest)
  | '{' :: rest => some (.objectOpen, rest)
  | '}' :: rest => some (.objectClose, rest)
  | ',' :: rest => some (.comma, rest)
  | ':' :: rest => some (.colon, rest)
  | 'n' :: 'u' :: 'l' :: 'l' :: rest => some (.null, rest)
  | 't' :: 'r' :: 'u' :: 'e' :: rest => some (.boolean true, rest)
  | 'f' :: 'a' :: 'l' :: 's' :: 'e' :: rest => some (.boolean false, rest)
  | '"' :: rest =>
    (scanPieces rest).map fun (pieces, after) => (.string ((spell pieces).map String.ofList), after)
  | cs => (scanNumeral cs).map fun (n, after) => (.number n, after)

/-! ## Every token takes something away -/

private theorem length_digits_lt {cs rest : List Char} {ds : List Nat}
    (h : digits cs = (ds, rest)) (hne : ds ≠ []) : rest.length < cs.length := by
  cases cs with
  | nil => cases h; exact absurd rfl hne
  | cons c cs =>
    have hle := length_digits_le cs
    unfold digits at h
    split at h
    · cases h
      exact Nat.lt_succ_of_le hle
    · cases h
      exact absurd rfl hne

private theorem scanWhole_lt {cs rest : List Char} {ds : List Nat}
    (h : scanWhole cs = some (ds, rest)) : rest.length < cs.length := by
  unfold scanWhole at h
  split at h
  · cases h
  · cases h
  · rename_i hne _ hd
    cases h
    exact length_digits_lt hd hne

private theorem scanFraction_le {cs rest : List Char} {ds : List Nat}
    (h : scanFraction cs = some (ds, rest)) : rest.length ≤ cs.length := by
  unfold scanFraction at h
  split at h
  · rename_i cs
    have hle := length_digits_le cs
    split at h
    · cases h
    · rename_i _ hd
      cases h
      rw [hd] at hle
      exact Nat.le_succ_of_le hle
  · cases h
    exact Nat.le_refl _

private theorem scanExponentDigits_le {negative : Bool} {cs rest : List Char}
    {e : Option Exponent} (h : scanExponentDigits negative cs = some (e, rest)) :
    rest.length ≤ cs.length := by
  have hle := length_digits_le cs
  unfold scanExponentDigits at h
  split at h
  · cases h
  · rename_i _ hd
    cases h
    rw [hd] at hle
    exact hle

private theorem scanExponent_le {cs rest : List Char} {e : Option Exponent}
    (h : scanExponent cs = some (e, rest)) : rest.length ≤ cs.length := by
  unfold scanExponent at h
  split at h
  · split at h
    · split at h
      all_goals
        have hle := scanExponentDigits_le h
        simp only [List.length_cons]
        omega
    · cases h
      exact Nat.le_refl _
  · cases h
    exact Nat.le_refl _

private theorem scanNumeral_lt {cs rest : List Char} {n : Numeral}
    (h : scanNumeral cs = some (n, rest)) : rest.length < cs.length := by
  have key : ∀ (negative : Bool) (cs' : List Char), cs'.length ≤ cs.length →
      (do let (whole, cs) ← scanWhole cs'
          let (fraction, cs) ← scanFraction cs
          let (exponent, cs) ← scanExponent cs
          return ((⟨negative, whole, fraction, exponent⟩ : Numeral), cs)) = some (n, rest) →
      rest.length < cs.length := by
    intro negative cs' hle h
    simp only [Option.bind_eq_bind, Option.bind_eq_some_iff, Prod.exists] at h
    obtain ⟨w, c1, h1, f, c2, h2, e, c3, h3, h4⟩ := h
    have l1 := scanWhole_lt h1
    have l2 := scanFraction_le h2
    have l3 := scanExponent_le h3
    simp only [pure, Option.some.injEq, Prod.mk.injEq] at h4
    obtain ⟨-, rfl⟩ := h4
    omega
  unfold scanNumeral at h
  split at h
  rename_i negative cs' hm
  refine key negative cs' ?_ h
  split at hm <;> simp only [Prod.mk.injEq] at hm <;> obtain ⟨-, rfl⟩ := hm <;> simp

private theorem scanPieces_le {cs rest : List Char} {ps : List Piece}
    (h : scanPieces cs = some (ps, rest)) : rest.length ≤ cs.length := by
  fun_induction scanPieces cs generalizing ps rest with
  | case1 => cases h
  | case2 => cases h; exact Nat.le_succ _
  | case3 => cases h
  | case4 a b c d cs n _ ih =>
    obtain ⟨⟨ps', r⟩, hr, he⟩ := Option.map_eq_some_iff.1 h
    cases he
    have := ih hr
    simp only [List.length_cons]
    omega
  | case5 => cases h
  | case6 c cs _ d _ ih =>
    obtain ⟨⟨ps', r⟩, hr, he⟩ := Option.map_eq_some_iff.1 h
    cases he
    have := ih hr
    simp only [List.length_cons]
    omega
  | case7 => cases h
  | case8 c cs _ _ _ _ ih =>
    obtain ⟨⟨ps', r⟩, hr, he⟩ := Option.map_eq_some_iff.1 h
    cases he
    have := ih hr
    simp only [List.length_cons]
    omega

theorem scanToken_lt {cs rest : List Char} {t : Token} (h : scanToken cs = some (t, rest)) :
    rest.length < cs.length := by
  unfold scanToken at h
  split at h
  case h_10 =>
    obtain ⟨⟨ps, r⟩, hp, he⟩ := Option.map_eq_some_iff.1 h
    cases he
    exact Nat.lt_succ_of_le (scanPieces_le hp)
  case h_11 =>
    obtain ⟨⟨n, r⟩, hn, he⟩ := Option.map_eq_some_iff.1 h
    cases he
    exact scanNumeral_lt hn
  all_goals
    cases h
    simp only [List.length_cons]
    omega

/-- The tokens of a text. -/
def tokens (cs : List Char) : List Token :=
  match cs with
  | [] => []
  | c :: rest =>
    if isBlank c then tokens rest
    else
      match _h : scanToken (c :: rest) with
      | some (t, after) => t :: tokens after
      | none => [.unreadable]
termination_by cs.length
decreasing_by
  · simp
  · exact scanToken_lt _h

end OutOfDomain.Json
