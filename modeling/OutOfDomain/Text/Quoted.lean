import OutOfDomain.Text.Shapeless

/-!
# Texts in quotes

How a text that came from outside is shown in a message: between double quotes, with a backslash
before quotes and backslashes, with letters for the four common controls, and with the number of the
code point, in braces, for whatever else has no shape of its own. A single quote stays as it is.
-/

set_option autoImplicit false

namespace OutOfDomain.Text

/-- A code point by its number, without leading zeros. -/
def escapeByNumber (c : Char) : List Char :=
  '\\' :: 'u' :: '\x7b' :: Nat.toDigits 16 c.toNat ++ ['\x7d']

/-- A character as it is shown in quotes. -/
def showChar (c : Char) : List Char :=
  if c = '\x00' then ['\\', '0']
  else if c = '\t' then ['\\', 't']
  else if c = '\r' then ['\\', 'r']
  else if c = '\n' then ['\\', 'n']
  else if c = '"' then ['\\', '"']
  else if c = '\\' then ['\\', '\\']
  else if isShapeless c then escapeByNumber c
  else [c]

/-- A text as it is shown in quotes. -/
def quote (s : String) : String :=
  String.ofList ('"' :: s.toList.flatMap showChar ++ ['"'])

end OutOfDomain.Text
