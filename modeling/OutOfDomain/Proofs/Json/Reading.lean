import OutOfDomain.Json.Document
import OutOfDomain.Proofs.Json.Text

/-!
# Written values, read back

Reading is a machine with a stack, and writing is a recursion. The invariant between them is
`readTokens_render`: where a value is awaited, reading a written value is one step, the one that
delivers its document, whatever is on the stack and whatever follows. The rest of a list and the rest
of an object have their own form of it, with what was read before them on top of the stack. The three
are proved together, by the recursion of `Value.render`.

Layouts differ in blanks only, and blanks between tokens are dropped. So the layout does not occur on
the right-hand side, and the text of a value holds the value in either (`content_toText`).
-/

set_option autoImplicit false

namespace OutOfDomain.Json

/-! ## The document of a value -/

mutual

/-- The document that a value is written as. -/
def Value.document : Value → Document
  | .number n => .number (.ofNat n)
  | .text t => .string (some t)
  | .list items => .list (documents items) true
  | .object members => .object (memberDocuments members) true

/-- The documents of items. -/
def documents : List Value → List Document
  | [] => []
  | item :: rest => item.document :: documents rest

/-- The documents of members. -/
def memberDocuments : List (String × Value) → List (Option String × Document)
  | [] => []
  | (key, value) :: rest => (some key, value.document) :: memberDocuments rest

end

theorem documents_eq_map (items : List Value) : documents items = items.map Value.document := by
  induction items with
  | nil => rfl
  | cons item items ih => rw [documents, List.map_cons, ih]

theorem memberDocuments_eq_map (members : List (String × Value)) :
    memberDocuments members = members.map fun (key, value) => (some key, value.document) := by
  induction members with
  | nil => rfl
  | cons member members ih => rw [memberDocuments, List.map_cons, ih]

/-! ## One step of reading -/

/-- Read on after a token. -/
def Reading.proceed : Reading → List Token → Content
  | .more stack, ts => readTokens stack ts
  | .done value, ts => ⟨value, !ts.isEmpty⟩
  | .stuck stack, _ => ⟨cutOff stack, false⟩

theorem readTokens_cons (stack : List Open) (t : Token) (ts : List Token) :
    readTokens stack (t :: ts) = (readToken stack t).proceed ts := by
  rw [readTokens]
  cases readToken stack t <;> rfl

/-- In these containers, a value must come next. -/
inductive AwaitsValue : List Open → Prop
  | nothing : AwaitsValue []
  | first (items : List Document) (outer : List Open) :
    AwaitsValue (.list items .opened :: outer)
  | next (items : List Document) (outer : List Open) :
    AwaitsValue (.list items .continued :: outer)
  | member (members : List (Option String × Document)) (key : Option String)
    (outer : List Open) : AwaitsValue (.member members key true :: outer)

namespace AwaitsValue

variable {stack : List Open}

theorem readTokens_scalar (h : AwaitsValue stack) {t : Token} {d : Document}
    (ht : t.scalar? = some d) (ts : List Token) :
    readTokens stack (t :: ts) = (deliver d stack).proceed ts := by
  have hvalue : readValue stack t = deliver d stack := by
    cases t <;> cases ht <;> rfl
  rw [readTokens_cons, ← hvalue]
  cases h with
  | first =>
    -- Only the bracket that closes a list is read as something else here.
    cases t with
    | listClose => cases ht
    | _ => rfl
  | nothing | next | member => rfl

theorem readTokens_listOpen (h : AwaitsValue stack) (ts : List Token) :
    readTokens stack (.listOpen :: ts) = readTokens (.list [] .opened :: stack) ts := by
  cases h <;> rfl

theorem readTokens_objectOpen (h : AwaitsValue stack) (ts : List Token) :
    readTokens stack (.objectOpen :: ts) = readTokens (.object [] .opened :: stack) ts := by
  cases h <;> rfl

end AwaitsValue

/-- A key and its colon are read where a member may come. -/
theorem readTokens_key (members : List (Option String × Document)) (progress : Progress)
    (h : progress ≠ .filled) (key : String) (outer : List Open) (ts : List Token) :
    readTokens (.object members progress :: outer) (.string (some key) :: .colon :: ts) =
      readTokens (.member members (some key) true :: outer) ts := by
  cases progress with
  | filled => exact absurd rfl h
  | opened | continued => rfl

/-! ## Blanks and brackets -/

theorem tokens_lineBreak (s : Style) (depth : ℕ) (rest : List Char) :
    tokens (s.lineBreak depth ++ rest) = tokens rest := by
  cases s with
  | compact => rfl
  | pretty =>
    have h : ∀ n, tokens (List.replicate n ' ' ++ rest) = tokens rest := by
      intro n
      induction n with
      | zero => rfl
      | succ n ih =>
        rw [List.replicate_succ, List.cons_append, tokens_cons_of_isBlank (by decide), ih]
    rw [Style.lineBreak, List.cons_append, tokens_cons_of_isBlank (by decide), h]

/-- The characters that are tokens by themselves. -/
def marks : List (Char × Token) :=
  [('[', .listOpen), (']', .listClose), ('{', .objectOpen), ('}', .objectClose), (',', .comma),
    (':', .colon)]

theorem tokens_mark {c : Char} {t : Token} (h : (c, t) ∈ marks) (rest : List Char) :
    tokens (c :: rest) = t :: tokens rest := by
  simp only [marks, List.mem_cons, Prod.mk.injEq, List.not_mem_nil, or_false] at h
  obtain ⟨rfl, rfl⟩ | ⟨rfl, rfl⟩ | ⟨rfl, rfl⟩ | ⟨rfl, rfl⟩ | ⟨rfl, rfl⟩ | ⟨rfl, rfl⟩ := h
  all_goals exact tokens_of_scanToken (by decide) rfl

theorem endsNumeral_mark {c : Char} {t : Token} (h : (c, t) ∈ marks) (rest : List Char) :
    EndsNumeral (c :: rest) := by
  rintro _ ⟨⟩
  simp only [marks, List.mem_cons, Prod.mk.injEq, List.not_mem_nil, or_false] at h
  obtain ⟨rfl, -⟩ | ⟨rfl, -⟩ | ⟨rfl, -⟩ | ⟨rfl, -⟩ | ⟨rfl, -⟩ | ⟨rfl, -⟩ := h
  all_goals decide

theorem endsNumeral_lineBreak (s : Style) (depth : ℕ) {rest : List Char} (h : EndsNumeral rest) :
    EndsNumeral (s.lineBreak depth ++ rest) := by
  cases s with
  | compact => exact h
  | pretty =>
    rintro _ ⟨⟩
    decide

theorem tokens_colon (s : Style) (rest : List Char) :
    tokens (s.colon ++ rest) = .colon :: tokens rest := by
  cases s with
  | compact => exact tokens_mark (by decide) rest
  | pretty =>
    change tokens (':' :: ' ' :: rest) = _
    rw [tokens_mark (t := .colon) (by decide), tokens_cons_of_isBlank (by decide)]

/-! ## Whole values -/

theorem endsNumeral_renderItems (s : Style) (depth : ℕ) (items : List Value) (rest : List Char) :
    EndsNumeral (renderItems s depth items ++ rest) := by
  cases items with
  | nil =>
    rw [renderItems, List.append_assoc]
    exact endsNumeral_lineBreak s depth (endsNumeral_mark (t := .listClose) (by decide) rest)
  | cons item items =>
    rw [renderItems, List.append_assoc, List.append_assoc]
    exact endsNumeral_mark (t := .comma) (by decide) _

theorem endsNumeral_renderMembers (s : Style) (depth : ℕ) (members : List (String × Value))
    (rest : List Char) :
    EndsNumeral (renderMembers s depth members ++ rest) := by
  cases members with
  | nil =>
    rw [renderMembers, List.append_assoc]
    exact endsNumeral_lineBreak s depth (endsNumeral_mark (t := .objectClose) (by decide) rest)
  | cons member members =>
    rw [renderMembers]
    simp only [List.append_assoc, List.cons_append]
    exact endsNumeral_mark (t := .comma) (by decide) _

mutual

theorem readTokens_render (s : Style) (depth : ℕ) (v : Value) {stack : List Open}
    {rest : List Char} (hstack : AwaitsValue stack) (hrest : EndsNumeral rest) :
    readTokens stack (tokens (v.render s depth ++ rest)) =
      (deliver v.document stack).proceed (tokens rest) := by
  match v with
  | .number n =>
    rw [Value.render, tokens_toDigits n hrest]
    exact hstack.readTokens_scalar rfl _
  | .text t =>
    rw [Value.render, tokens_quoted]
    exact hstack.readTokens_scalar rfl _
  | .list [] =>
    rw [Value.render, List.cons_append, List.singleton_append,
      tokens_mark (t := .listOpen) (by decide), tokens_mark (t := .listClose) (by decide),
      hstack.readTokens_listOpen]
    exact readTokens_cons _ _ _
  | .list (item :: items) =>
    -- Behind the bracket a value is awaited again: the item, read into the list.
    rw [Value.render, List.append_assoc, List.append_assoc, List.cons_append,
      tokens_mark (t := .listOpen) (by decide), tokens_lineBreak, hstack.readTokens_listOpen,
      readTokens_render s (depth + 1) item (.first [] stack)
        (endsNumeral_renderItems s depth items rest)]
    exact readTokens_renderItems s depth items [item.document] stack rest
  | .object [] =>
    rw [Value.render, List.cons_append, List.singleton_append,
      tokens_mark (t := .objectOpen) (by decide), tokens_mark (t := .objectClose) (by decide),
      hstack.readTokens_objectOpen]
    exact readTokens_cons _ _ _
  | .object ((key, value) :: members) =>
    rw [Value.render]
    simp only [List.append_assoc, List.cons_append]
    rw [tokens_mark (t := .objectOpen) (by decide), tokens_lineBreak, tokens_quoted, tokens_colon,
      hstack.readTokens_objectOpen, readTokens_key [] .opened nofun,
      readTokens_render s (depth + 1) value (.member [] (some key) stack)
        (endsNumeral_renderMembers s depth members rest)]
    exact readTokens_renderMembers s depth members [(some key, value.document)] stack rest

theorem readTokens_renderItems (s : Style) (depth : ℕ) (items : List Value)
    (before : List Document) (stack : List Open) (rest : List Char) :
    readTokens (.list before .filled :: stack) (tokens (renderItems s depth items ++ rest)) =
      (deliver (.list (before.reverse ++ documents items) true) stack).proceed (tokens rest) := by
  match items with
  | [] =>
    rw [renderItems, List.append_assoc, tokens_lineBreak, List.singleton_append,
      tokens_mark (t := .listClose) (by decide), documents, List.append_nil]
    exact readTokens_cons _ _ _
  | item :: items =>
    rw [renderItems, List.append_assoc, List.append_assoc, List.cons_append,
      tokens_mark (t := .comma) (by decide), tokens_lineBreak]
    change readTokens (.list before .continued :: stack) _ = _
    rw [readTokens_render s (depth + 1) item (.next before stack)
      (endsNumeral_renderItems s depth items rest)]
    change readTokens (.list (item.document :: before) .filled :: stack) _ = _
    rw [readTokens_renderItems s depth items, List.reverse_cons, List.append_assoc]
    rfl

theorem readTokens_renderMembers (s : Style) (depth : ℕ) (members : List (String × Value))
    (before : List (Option String × Document)) (stack : List Open) (rest : List Char) :
    readTokens (.object before .filled :: stack)
        (tokens (renderMembers s depth members ++ rest)) =
      (deliver (.object (before.reverse ++ memberDocuments members) true) stack).proceed
        (tokens rest) := by
  match members with
  | [] =>
    rw [renderMembers, List.append_assoc, tokens_lineBreak, List.singleton_append,
      tokens_mark (t := .objectClose) (by decide), memberDocuments, List.append_nil]
    exact readTokens_cons _ _ _
  | (key, value) :: members =>
    rw [renderMembers]
    simp only [List.append_assoc, List.cons_append]
    rw [tokens_mark (t := .comma) (by decide), tokens_lineBreak, tokens_quoted, tokens_colon]
    change readTokens (.object before .continued :: stack) _ = _
    rw [readTokens_key before .continued nofun,
      readTokens_render s (depth + 1) value (.member before (some key) stack)
        (endsNumeral_renderMembers s depth members rest)]
    change readTokens (.object ((some key, value.document) :: before) .filled :: stack) _ = _
    rw [readTokens_renderMembers s depth members, List.reverse_cons, List.append_assoc]
    rfl

end

/-- Whatever the layout, the text of a value holds the value and nothing else. -/
theorem content_toText (s : Style) (v : Value) :
    Content.ofText (v.toText s) = ⟨v.document, false⟩ := by
  have h : readTokens [] (tokens (v.render s 0 ++ [])) =
      (deliver v.document []).proceed (tokens []) :=
    readTokens_render s 0 v .nothing nofun
  rw [Content.ofText, Value.toText, String.toList_ofList, ← List.append_nil (v.render s 0), h,
    tokens]
  rfl

end OutOfDomain.Json
