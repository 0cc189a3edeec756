import OutOfDomain.Json.Token

/-!
# JSON documents, read as far as they go

A document is what is read *before* anyone asks whether it is what was wanted. Since a text may be
faulty in two ways, by not being JSON and by being the wrong JSON, and since the fault that comes
first in the text is the one to report, a text that breaks off is not refused here. It is read up to
the fault: containers say whether they were closed, and `Document.broken` stands where a value should
have been. Whoever walks through the document in its own order meets the first fault of either kind.

Reading is one pass over the tokens with a stack of the containers that are open. At most one
container is cut off at any level, and it is always the last: so a container that is closed is sound
all the way down, and `Document.isIntact` need not look inside.
-/

set_option autoImplicit false

namespace OutOfDomain.Json

/-- What was read of a value. -/
inductive Document where
  | null
  | boolean (b : Bool)
  | number (n : Numeral)
  /-- A string; it has no text when half of a pair of surrogates stands alone in it. -/
  | string (s : Option String)
  | list (items : List Document) (closed : Bool)
  /-- An object. A key may be a string without a text, too. -/
  | object (members : List (Option String × Document)) (closed : Bool)
  /-- Here a value should have been. -/
  | broken

/-- Whether there is a value, and all of it. -/
def Document.isIntact : Document → Bool
  | list _ closed => closed
  | object _ closed => closed
  | broken => false
  | _ => true

/-- The document that one token makes on its own. -/
def Token.scalar? : Token → Option Document
  | null => some .null
  | boolean b => some (.boolean b)
  | number n => some (.number n)
  | string s => some (.string s)
  | _ => none

/-! ## Open containers -/

/-- How far an open list or object has come. -/
inductive Progress where
  | opened
  | filled
  | continued
  deriving DecidableEq, Repr

/-- A container that is still open, with what has come so far, the latest first. -/
inductive Open where
  | list (items : List Document) (progress : Progress)
  | object (members : List (Option String × Document)) (progress : Progress)
  /-- An object in the middle of a member, before or after the colon. -/
  | member (members : List (Option String × Document)) (key : Option String) (colon : Bool)

/-- Where reading is after a token. -/
inductive Reading where
  /-- More must come. The innermost container comes first. -/
  | more (stack : List Open)
  | done (value : Document)
  | stuck (stack : List Open)

/-- Put a complete value where one was expected. -/
def deliver (value : Document) : List Open → Reading
  | [] => .done value
  | .list items _ :: outer => .more (.list (value :: items) .filled :: outer)
  | .member members key _ :: outer => .more (.object ((key, value) :: members) .filled :: outer)
  | stack => .stuck stack

/-- Read a token where a key must come. Only a string is a key. -/
def readKey (members : List (Option String × Document)) (progress : Progress) (outer : List Open) :
    Token → Reading
  | .string s => .more (.member members s false :: outer)
  | _ => .stuck (.object members progress :: outer)

/-- Read a token where a value must come. -/
def readValue (stack : List Open) (t : Token) : Reading :=
  match t with
  | .listOpen => .more (.list [] .opened :: stack)
  | .objectOpen => .more (.object [] .opened :: stack)
  | t =>
    match t.scalar? with
    | some value => deliver value stack
    | none => .stuck stack

/-- Read one token. -/
def readToken (stack : List Open) (t : Token) : Reading :=
  match stack, t with
  | .list items .opened :: outer, .listClose => deliver (.list items.reverse true) outer
  | .list items .filled :: outer, .listClose => deliver (.list items.reverse true) outer
  | .list items .filled :: outer, .comma => .more (.list items .continued :: outer)
  | .list items .filled :: outer, _ => .stuck (.list items .filled :: outer)
  | .object members .opened :: outer, .objectClose =>
    deliver (.object members.reverse true) outer
  | .object members .filled :: outer, .objectClose =>
    deliver (.object members.reverse true) outer
  | .object members .filled :: outer, .comma => .more (.object members .continued :: outer)
  | .object members .filled :: outer, _ => .stuck (.object members .filled :: outer)
  | .object members progress :: outer, t => readKey members progress outer t
  | .member members key false :: outer, .colon => .more (.member members key true :: outer)
  | .member members key false :: outer, _ => .stuck (.member members key false :: outer)
  | stack, t => readValue stack t

/-! ## Documents from texts -/

/-- Leave an open container as it is, with a last value in it. -/
def Open.cutOff (value : Document) : Open → Document
  | list items _ => .list (value :: items).reverse false
  | object members _ => .object members.reverse false
  | member members key _ => .object ((key, value) :: members).reverse false

/-- Leave all open containers as they are. -/
def cutOff : List Open → Document
  | [] => .broken
  | .list items _ :: outer => outer.foldl Open.cutOff (.list items.reverse false)
  | .object members _ :: outer => outer.foldl Open.cutOff (.object members.reverse false)
  | .member members key _ :: outer =>
    outer.foldl Open.cutOff (.object ((key, .broken) :: members).reverse false)

/-- What a text holds. -/
structure Content where
  document : Document
  /-- Whether anything but blanks comes after that value. -/
  trailing : Bool

/-- Read tokens into the open containers until the value is complete or a token is out of place. -/
def readTokens (stack : List Open) : List Token → Content
  | [] => ⟨cutOff stack, false⟩
  | t :: rest =>
    match readToken stack t with
    | .more stack => readTokens stack rest
    | .done value => ⟨value, !rest.isEmpty⟩
    | .stuck stack => ⟨cutOff stack, false⟩

/-- What a text holds. -/
def Content.ofText (text : String) : Content := readTokens [] (tokens text.toList)

end OutOfDomain.Json
