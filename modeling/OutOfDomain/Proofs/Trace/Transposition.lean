import OutOfDomain.Proofs.Residue.Field
import OutOfDomain.Proofs.Trace.Rows

/-!
# Rows and columns are the same data

A trace can be given by rows and by columns, and it can be read by rows and by columns. Here is what
ties the four together: which lists of rows are a trace at all (`TraceTable.IsRectangle`), and what a
trace then has of them (`TraceTable.Carries`). No cell is dropped and none is moved, so reading a trace
either way and giving what was read gives the trace again.

The rows of a ragged list would be put together to something, since cells are taken off several rows at
a time and stop at the shortest. That such a list is refused is therefore a part of the statement, and
not only a convenience.
-/

set_option autoImplicit false

namespace OutOfDomain

variable {q : Modulus}

/-- A list that is computed place by place. -/
theorem mapM_range_eq_ok {ε α : Type} {f : ℕ → Except ε α} {l : List α}
    (h : ∀ i (hi : i < l.length), f i = .ok l[i]) : (List.range l.length).mapM f = .ok l := by
  apply mapM_eq_ok_iff.2
  apply List.forall₂_iff_get.2
  refine ⟨List.length_range, fun i hi hi' => ?_⟩
  simpa using h i hi'

namespace TraceTable

/-! ## Which rows are a trace -/

/-- The rows have cells, all of them as many, and their number is that of a trace. -/
structure IsRectangle (rows : List (List (Residue q))) : Prop where
  isPowerOfTwo_length : rows.length.isPowerOfTwo
  two_le_length : 2 ≤ rows.length
  head_ne_nil : ∃ first, rows.head? = some first ∧ first ≠ []
  length_eq : ∀ row ∈ rows, ∀ row' ∈ rows, row.length = row'.length

theorem exists_ofRows_iff_isRectangle {rows : List (List (Residue q))} :
    (∃ t, ofRows rows = .ok t) ↔ IsRectangle rows := by
  rw [exists_ofRows_iff]
  constructor
  · intro ⟨htwo, hpower, width, hpos, hwidth⟩
    obtain ⟨first, rest, rfl⟩ := List.exists_cons_of_length_pos (Nat.zero_lt_of_lt htwo)
    refine ⟨hpower, htwo, ⟨first, rfl, ?_⟩, ?_⟩
    · apply List.ne_nil_of_length_pos
      rwa [hwidth first List.mem_cons_self]
    · intro row hrow row' hrow'
      rw [hwidth row hrow, hwidth row' hrow']
  · intro h
    obtain ⟨first, hfirst, hne⟩ := h.head_ne_nil
    have hmem : first ∈ rows := List.mem_of_head? hfirst
    exact ⟨h.two_le_length, h.isPowerOfTwo_length, first.length, List.length_pos_of_ne_nil hne,
      fun row hrow => h.length_eq row hrow first hmem⟩

/-! ## What a trace has of its rows -/

/-- The trace is the given rows: it has as many rows, each as wide as the trace, every row is read as
it was given and every column is read as the cells under its index, and what is read either way gives
the trace again. -/
structure Carries (t : TraceTable q) (rows : List (List (Residue q))) : Prop where
  length_eq : t.length = rows.length
  width_eq : ∀ row ∈ rows, row.length = t.width
  row_eq : ∀ r (hr : r < rows.length), t.row r = .ok rows[r]
  column_eq : ∀ c < t.width, ∃ column, t.column c = .ok column ∧ column.length = rows.length ∧
    ∀ r (hr : r < rows.length), column[r]? = rows[r][c]?
  ofColumns_eq : ((List.range t.width).mapM t.column >>= ofColumns) = .ok t
  ofRows_eq : ((List.range t.length).mapM t.row >>= ofRows) = .ok t

variable (t : TraceTable q)

theorem row_eq_getElem_rows {r : ℕ} (hr : r < t.rows.length) : t.row r = .ok t.rows[r] :=
  row_eq_ok_iff.2 (List.getElem?_eq_getElem hr)

theorem column_eq_getElem_columns {c : ℕ} (hc : c < t.width) : t.column c = .ok t.columns[c] :=
  column_eq_ok_iff.2 (List.getElem?_eq_getElem hc)

theorem mapM_row : (List.range t.length).mapM t.row = .ok t.rows := by
  rw [← t.length_rows]
  apply mapM_range_eq_ok
  intro r hr
  exact t.row_eq_getElem_rows hr

theorem mapM_column : (List.range t.width).mapM t.column = .ok t.columns := by
  apply mapM_range_eq_ok
  intro c hc
  exact t.column_eq_getElem_columns hc

/-- A cell is the same one in its row and in its column. -/
theorem getElem?_columns_getElem {c r : ℕ} (hc : c < t.width) (hr : r < t.rows.length) :
    t.columns[c][r]? = t.rows[r][c]? := by
  have hcell : c < t.rows[r].length := by
    rw [length_of_mem_rows (List.getElem_mem hr)]
    exact hc
  obtain ⟨column, hcolumn, hvalue⟩ := exists_getElem?_transpose (fun _ h => length_of_mem_rows h)
    (List.getElem?_eq_getElem hr) (List.getElem?_eq_getElem hcell)
  rw [t.transpose_rows, List.getElem?_eq_getElem hc, Option.some_inj] at hcolumn
  rw [hcolumn, hvalue, List.getElem?_eq_getElem hcell]

theorem carries_rows : t.Carries t.rows where
  length_eq := t.length_rows.symm
  width_eq _ hrow := length_of_mem_rows hrow
  row_eq _ hr := t.row_eq_getElem_rows hr
  column_eq c hc := by
    refine ⟨t.columns[c], t.column_eq_getElem_columns hc, ?_, ?_⟩
    · rw [t.length_column _ (List.getElem_mem hc), t.length_rows]
    · intro r hr
      exact t.getElem?_columns_getElem hc hr
  ofColumns_eq := by
    rw [mapM_column]
    exact ofColumns_eq_ok_iff.2 rfl
  ofRows_eq := by
    rw [mapM_row]
    exact ofRows_eq_ok_iff.2 rfl

end TraceTable

/-- **Rows and columns are the same data.** A list of rows is accepted exactly if there are a power of
two of them and at least two, the first has a cell, and all are as long; and the trace that it gives has
the same rows, the same cells by columns, and is given again by its columns and by its rows. -/
theorem ofRows_same_data (rows : List (List (Residue q))) :
    ((∃ t, TraceTable.ofRows rows = .ok t) ↔ TraceTable.IsRectangle rows) ∧
      ∀ t, TraceTable.ofRows rows = .ok t → t.Carries rows := by
  refine ⟨TraceTable.exists_ofRows_iff_isRectangle, fun t ht => ?_⟩
  rw [TraceTable.ofRows_eq_ok_iff.1 ht]
  exact t.carries_rows

/-- Three columns, given by two rows. -/
def twoTriples : List (List (Residue Modulus.small)) :=
  [[.ofWord 4, .ofWord 9, 1], [.ofWord 96, 0, .ofWord 7]]

theorem ofRows_same_data_twoTriples :
    (∃ t, TraceTable.ofRows twoTriples = .ok t ∧ t.Carries twoTriples) ∧
      ¬ ∃ t, TraceTable.ofRows ([.ofWord 60] :: twoTriples.tail) = .ok t := by
  have hrectangle : TraceTable.IsRectangle twoTriples :=
    ⟨⟨1, rfl⟩, by decide, ⟨_, rfl, List.cons_ne_nil _ _⟩, by decide⟩
  obtain ⟨t, ht⟩ := (ofRows_same_data twoTriples).1.2 hrectangle
  refine ⟨⟨t, ht, (ofRows_same_data twoTriples).2 t ht⟩, fun hragged => ?_⟩
  have hlength := ((ofRows_same_data _).1.1 hragged).length_eq
  revert hlength
  decide

end OutOfDomain
