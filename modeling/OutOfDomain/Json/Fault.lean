import OutOfDomain.Json.Document
import OutOfDomain.Json.Number
import OutOfDomain.Text.Quoted

/-!
# Why a document is not what was wanted

A text either is not JSON, or is JSON of the wrong kind, and a fault says which. What is wrong with
the JSON is a `Mismatch`: it names what was found and what was wanted, or the member that is missing
or there twice. A value of the right kind may still be refused by whoever wanted it; that cause is
left to the caller, as the parameter of the types.
-/

set_option autoImplicit false

namespace OutOfDomain.Json

/-! ## What was found -/

/-- A value that was found in place of another, as far as a message shows it. -/
inductive Found where
  | null
  | boolean (b : Bool)
  | number (n : Number)
  | string (s : String)
  | list
  | object
  deriving DecidableEq, Repr

/-- The text that shows what was found. -/
def Found.message : Found → String
  | null => "null"
  | boolean b => s!"boolean `{b}`"
  | number (.natural n) => s!"integer `{n}`"
  | number (.negative n) => s!"integer `-{n}`"
  | number (.double bits) => s!"floating point `{Decimal.ofBits bits}`"
  | string s => "string " ++ Text.quote s
  | list => "sequence"
  | object => "map"

/-! ## Mismatches -/

/-- Why a JSON value is not of the kind that was wanted. -/
inductive Mismatch (ε : Type) where
  | missingField (name : String)
  | duplicateField (name : String)
  | invalidType (found : Found) (wanted : String)
  | negativeInteger (magnitude : Nat) (wanted : String)
  | invalidLength (found : Nat) (record : String) (wanted : Nat)
  | unknownVariant (name : String) (wanted : List String)
  | refused (cause : ε)
  deriving DecidableEq, Repr

/-- Names in backticks, joined by "or". -/
def alternatives (names : List String) : String :=
  String.intercalate " or " (names.map fun n => s!"`{n}`")

/-- The text that reports a mismatch. -/
def Mismatch.message {ε : Type} (refusal : ε → String) : Mismatch ε → String
  | missingField name => s!"missing field `{name}`"
  | duplicateField name => s!"duplicate field `{name}`"
  | invalidType found wanted => s!"invalid type: {found.message}, expected {wanted}"
  | negativeInteger magnitude wanted =>
    s!"invalid value: integer `-{magnitude}`, expected {wanted}"
  | invalidLength found record wanted =>
    let elements := if wanted = 1 then "element" else "elements"
    s!"invalid length {found}, expected struct {record} with {wanted} {elements}"
  | unknownVariant name wanted => s!"unknown variant `{name}`, expected {alternatives wanted}"
  | refused cause => refusal cause

/-! ## Faults -/

/-- Why a text does not hold what was wanted. -/
inductive Fault (ε : Type) where
  | malformed
  | mismatch (m : Mismatch ε)
  deriving DecidableEq, Repr

/-- The fault of a document that is of another kind than the one that was wanted. A document that is
not sound, or holds a number or a text that cannot be read, is at fault for that first; a container
is reported by its first bracket, whatever is in it. -/
def Document.unlike {ε : Type} (d : Document) (wanted : String) : Fault ε :=
  let instead (found : Found) : Fault ε := .mismatch (.invalidType found wanted)
  match d with
  | null => instead .null
  | boolean b => instead (.boolean b)
  | number n =>
    match n.value? with
    | some v => instead (.number v)
    | none => .malformed
  | string (some s) => instead (.string s)
  | string none => .malformed
  | list .. => instead .list
  | object .. => instead .object
  | broken => .malformed

end OutOfDomain.Json
