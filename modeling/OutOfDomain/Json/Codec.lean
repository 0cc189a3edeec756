import OutOfDomain.Json.Fault
import OutOfDomain.Json.Value

/-!
# Codecs

A codec says how values of a type are written as JSON and how they are read back. Both directions are
one value, so that the names and the order of a record's members stand in one place.

Reading walks through a document in its own order and ends at the first fault. That is what decides
between two faults, and it shapes everything here: a member of an object is read when it comes, not
when its record asks for it, and what concerns a record as a whole is checked at its closing bracket.
-/

set_option autoImplicit false

namespace OutOfDomain.Json

variable {ε ρ α β : Type}

/-- How values of a type are written and read. -/
structure Codec (ε α : Type) where
  encode : α → Value
  decode : Document → Except (Fault ε) α

/-! ## Simple values -/

namespace Codec

/-- Words, written as numbers. The name of what is wanted is for messages. -/
def word (wanted : String) : Codec ε UInt64 where
  encode w := .number w.toNat
  decode
    | .number n =>
      match n.value? with
      | some (.natural w) => .ok w
      | some (.negative m) => .error (.mismatch (.negativeInteger m wanted))
      | _ => .error ((Document.number n).unlike wanted)
    | d => .error (d.unlike wanted)

/-- Lists of values. -/
def list (c : Codec ε α) : Codec ε (List α) where
  encode l := .list (l.map c.encode)
  decode
    | .list items closed => do
      let l ← items.mapM c.decode
      if closed then return l else throw .malformed
    | d => throw (d.unlike "a sequence")

/-- Values that have to pass a check once they are read. -/
def refine (c : Codec ε α) (check : α → Except ε β) (forget : β → α) : Codec ε β where
  encode b := c.encode (forget b)
  decode d := do
    let a ← c.decode d
    (check a).mapError fun cause => .mismatch (.refused cause)

/-- The value that a name stands for. -/
def ofName? (all : List α) (name : α → String) (s : String) : Except (Fault ε) α :=
  match all.find? fun a => name a == s with
  | some a => .ok a
  | none => .error (.mismatch (.unknownVariant s (all.map name)))

/-- One of finitely many values, written as its name. It is also read from an object whose only
member has that name and no value. Nothing else is tried, so a document of another kind is no JSON
as far as this codec is concerned. -/
def choice (all : List α) (name : α → String) : Codec ε α where
  encode a := .text (name a)
  decode
    | .string (some s) => ofName? all name s
    | .object ((some key, value) :: rest) closed => do
      let a ← ofName? all name key
      match value with
      | .null => if rest.isEmpty && closed then return a else throw .malformed
      | value => throw (value.unlike "unit")
    | _ => throw .malformed

end Codec

/-! ## Records -/

/-- How some of the members of a record are written and read. `ρ` is the record and `α` is what the
members are put together to. Members that have been read are kept in a state until all are there. -/
structure Fields (ε ρ α : Type) : Type 1 where
  names : List String
  write : ρ → List (String × Value)
  State : Type
  start : State
  /-- Read the member of the given name. -/
  put : String → Document → State → Except (Fault ε) State
  finish : State → Except (Fault ε) α

namespace Fields

/-- One member. -/
def field (name : String) (get : ρ → α) (c : Codec ε α) : Fields ε ρ α where
  names := [name]
  write r := [(name, c.encode (get r))]
  State := Option α
  start := none
  put _ d _ := some <$> c.decode d
  finish
    | some a => .ok a
    | none => .error (.mismatch (.missingField name))

/-- No members. -/
def constant (a : α) : Fields ε ρ α where
  names := []
  write _ := []
  State := Unit
  start := ()
  put _ _ s := .ok s
  finish _ := .ok a

/-- The members of two parts, those of the first part first. -/
def append (f : Fields ε ρ (α → β)) (g : Fields ε ρ α) : Fields ε ρ β where
  names := f.names ++ g.names
  write r := f.write r ++ g.write r
  State := f.State × g.State
  start := (f.start, g.start)
  put name d s :=
    if name ∈ f.names then (·, s.2) <$> f.put name d s.1 else (s.1, ·) <$> g.put name d s.2
  finish s := do
    let h ← f.finish s.1
    let a ← g.finish s.2
    return h a

instance : Applicative (Fields ε ρ) where
  pure := constant
  seq f g := append f (g ())

/-- Read the members of an object in the order in which they come. A name is looked at before its
value, and members of unknown names only have to be sound. -/
def walk (f : Fields ε ρ α) (seen : List String) (s : f.State) :
    List (Option String × Document) → Except (Fault ε) f.State
  | [] => .ok s
  | (some name, value) :: rest =>
    if name ∈ f.names then
      if name ∈ seen then .error (.mismatch (.duplicateField name))
      else do f.walk (name :: seen) (← f.put name value s) rest
    else if value.isIntact then f.walk seen s rest
    else .error .malformed
  | (none, _) :: _ => .error .malformed

/-- Read the items of a list as the members, in order. The names that no item is left for are
returned as well. -/
def fill (f : Fields ε ρ α) (s : f.State) :
    List String → List Document → Except (Fault ε) (f.State × List String)
  | name :: names, item :: items => do f.fill (← f.put name item s) names items
  | names, _ => .ok (s, names)

end Fields

/-- Records, written as objects. They are also read from lists of exactly the members. -/
def Codec.record (name : String) (f : Fields ε α α) : Codec ε α where
  encode a := .object (f.write a)
  decode
    | .object members closed => do
      let s ← f.walk [] f.start members
      if closed then f.finish s else throw .malformed
    | .list items closed => do
      let (s, missing) ← f.fill f.start f.names items
      if missing.isEmpty then
        if closed && items.length == f.names.length then f.finish s else throw .malformed
      else if closed then
        throw (.mismatch (.invalidLength items.length name f.names.length))
      else throw .malformed
    | d => throw (d.unlike s!"struct {name}")

/-! ## Texts -/

/-- Read a value from a text that holds nothing else. What comes after the value is looked at last. -/
def Codec.ofText (c : Codec ε α) (text : String) : Except (Fault ε) α := do
  let content := Content.ofText text
  let a ← c.decode content.document
  if content.trailing then throw .malformed else return a

/-- Write a value as a text. -/
def Codec.toText (c : Codec ε α) (style : Style) (a : α) : String := (c.encode a).toText style

end OutOfDomain.Json
