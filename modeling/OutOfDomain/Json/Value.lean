/-!
# JSON values and how they are written

What this library writes is plain: counts, names, lists and objects. There are two layouts. The
compact one has no blanks at all; the pretty one puts every item on a line of its own, two blanks
deeper than the container, and leaves empty containers on one line. The members of an object are
written in the order in which they are listed.
-/

set_option autoImplicit false

namespace OutOfDomain.Json

/-- A value to be written. -/
inductive Value where
  | number (n : Nat)
  | text (s : String)
  | list (items : List Value)
  | object (members : List (String × Value))

/-- How a value is laid out. -/
inductive Style where
  | compact
  | pretty
  deriving DecidableEq, Repr

/-- What stands between a container's bracket and an item, or between items. -/
def Style.lineBreak : Style → (depth : Nat) → List Char
  | compact, _ => []
  | pretty, depth => '\n' :: List.replicate (2 * depth) ' '

/-- What stands between a key and its value. -/
def Style.colon : Style → List Char
  | compact => [':']
  | pretty => [':', ' ']

/-! ## Texts -/

/-- The digit for a number below sixteen. -/
def hexDigit (n : Nat) : Char := Nat.digitChar n

/-- A character inside quotes. Quotes and backslashes are escaped, and so are control characters:
five of them by a letter, the rest by number. -/
def escape (c : Char) : List Char :=
  if c = '"' then ['\\', '"']
  else if c = '\\' then ['\\', '\\']
  else if c = '\n' then ['\\', 'n']
  else if c = '\r' then ['\\', 'r']
  else if c = '\t' then ['\\', 't']
  else if c = '\x08' then ['\\', 'b']
  else if c = '\x0c' then ['\\', 'f']
  else if c.toNat < 32 then
    ['\\', 'u', '0', '0', hexDigit (c.toNat / 16), hexDigit (c.toNat % 16)]
  else [c]

/-- A text in quotes. -/
def quoted (s : String) : List Char := '"' :: s.toList.flatMap escape ++ ['"']

/-! ## Values -/

mutual

/-- A value, in a container of the given depth. -/
def Value.render (s : Style) (depth : Nat) : Value → List Char
  | .number n => Nat.toDigits 10 n
  | .text t => quoted t
  | .list [] => ['[', ']']
  | .list (item :: rest) =>
    '[' :: s.lineBreak (depth + 1) ++ item.render s (depth + 1) ++ renderItems s depth rest
  | .object [] => ['{', '}']
  | .object ((key, value) :: rest) =>
    '{' :: s.lineBreak (depth + 1) ++ quoted key ++ s.colon ++ value.render s (depth + 1) ++
      renderMembers s depth rest

/-- The items of a list after the first, and the closing bracket. -/
def renderItems (s : Style) (depth : Nat) : List Value → List Char
  | [] => s.lineBreak depth ++ [']']
  | item :: rest =>
    ',' :: s.lineBreak (depth + 1) ++ item.render s (depth + 1) ++ renderItems s depth rest

/-- The members of an object after the first, and the closing bracket. -/
def renderMembers (s : Style) (depth : Nat) : List (String × Value) → List Char
  | [] => s.lineBreak depth ++ ['}']
  | (key, value) :: rest =>
    ',' :: s.lineBreak (depth + 1) ++ quoted key ++ s.colon ++ value.render s (depth + 1) ++
      renderMembers s depth rest

end

/-- The text of a value. -/
def Value.toText (s : Style) (v : Value) : String := String.ofList (v.render s 0)

end OutOfDomain.Json
