import Mathlib.Data.List.GetD
import OutOfDomain.Proofs.Trace.Table

/-!
# The rows of a trace

A trace is stored by columns, and read and often given by rows. `TraceTable.rows` is the same
rectangle on its side: `row` looks a row up there (`row_eq_ok_iff`), a cell can be found either way
(`holds_iff_row`), and a list of rows is the list of the rows of the trace that it gives
(`ofRows_eq_ok_iff`). Nothing is lost between the two because turning a rectangle on its side twice
gives it back (`transpose_transpose`).
-/

set_option autoImplicit false

namespace OutOfDomain

variable {q : Modulus}

theorem Frame.ofRows_eq_ok_iff {current next : List (Residue q)} {f : Frame q} :
    Frame.ofRows current next = .ok f ↔ f.current = current ∧ f.next = next := by
  unfold Frame.ofRows
  constructor
  · intro h
    split at h
    · cases h
    · split at h
      · cases h
        exact ⟨rfl, rfl⟩
      · cases h
  · rintro ⟨rfl, rfl⟩
    rw [dif_neg f.current_ne_nil, dif_pos f.length_next]

namespace TraceTable

/-! ## Turning a rectangle -/

/-- A rectangle of the given width on its side. -/
def transpose (width : ℕ) (rows : List (List (Residue q))) : List (List (Residue q)) :=
  (List.range width).map fun j => rows.map (·.getD j 0)

@[simp] theorem length_transpose (width : ℕ) (rows : List (List (Residue q))) :
    (transpose width rows).length = width := by
  rw [transpose, List.length_map, List.length_range]

theorem length_of_mem_transpose {width : ℕ} {rows : List (List (Residue q))}
    {column : List (Residue q)} (h : column ∈ transpose width rows) :
    column.length = rows.length := by
  obtain ⟨j, -, rfl⟩ := List.mem_map.1 h
  exact List.length_map _

@[simp] theorem getElem_transpose {width : ℕ} {rows : List (List (Residue q))} {j : ℕ}
    (h : j < (transpose width rows).length) :
    (transpose width rows)[j] = rows.map (·.getD j 0) := by
  simp only [transpose, List.getElem_map, List.getElem_range]

theorem map_getD_range {width : ℕ} {row : List (Residue q)} (h : row.length = width) :
    ((List.range width).map fun j => row.getD j 0) = row := by
  refine List.ext_getElem (by rw [List.length_map, List.length_range, h]) fun j _ hj => ?_
  rw [List.getElem_map, List.getElem_range, List.getD_eq_getElem _ _ hj]

theorem transpose_transpose {width : ℕ} {rows : List (List (Residue q))}
    (h : ∀ row ∈ rows, row.length = width) :
    transpose rows.length (transpose width rows) = rows := by
  refine List.ext_getElem (length_transpose _ _) fun i _ hi => ?_
  rw [getElem_transpose, transpose, List.map_map]
  refine Eq.trans (List.map_congr_left fun j _ => ?_) (map_getD_range (h _ (List.getElem_mem hi)))
  have hi' : i < (rows.map (·.getD j 0)).length := by rwa [List.length_map]
  rw [Function.comp_apply, List.getD_eq_getElem _ _ hi', List.getElem_map]

/-- A cell is found under the exchanged indices. -/
theorem exists_getElem?_transpose {width : ℕ} {rows : List (List (Residue q))}
    (h : ∀ row ∈ rows, row.length = width) {i j : ℕ} {row : List (Residue q)} {value : Residue q}
    (hrow : rows[i]? = some row) (hvalue : row[j]? = some value) :
    ∃ column, (transpose width rows)[j]? = some column ∧ column[i]? = some value := by
  obtain ⟨hj, rfl⟩ := List.getElem?_eq_some_iff.1 hvalue
  have hj' : j < (transpose width rows).length := by
    rwa [length_transpose, ← h row (List.mem_of_getElem? hrow)]
  refine ⟨_, List.getElem?_eq_getElem hj', ?_⟩
  rw [getElem_transpose, List.getElem?_map, hrow, Option.map_some, List.getD_eq_getElem _ _ hj]

/-- Rows of one width, put on top of each other one by one. -/
theorem foldr_consRow {width : ℕ} {rows : List (List (Residue q))}
    (h : ∀ row ∈ rows, row.length = width) :
    rows.foldr consRow (List.replicate width []) = transpose width rows := by
  induction rows with
  | nil => simp [transpose]
  | cons row rows ih =>
    rw [List.forall_mem_cons] at h
    rw [List.foldr_cons, ih h.2, consRow, ← map_getD_range h.1, transpose, List.zipWith_map,
      List.zipWith_self, map_getD_range h.1]
    rfl

/-! ## Traces by columns -/

variable {t t' : TraceTable q}

theorem length_ne_zero (t : TraceTable q) : t.length ≠ 0 := by
  have htwo := t.two_le_length
  omega

theorem width_ne_zero (t : TraceTable q) : t.width ≠ 0 :=
  fun h => t.columns_ne_nil (List.length_eq_zero_iff.1 h)

/-- The columns say how many rows there are. -/
theorem eq_of_columns_eq (h : t.columns = t'.columns) : t = t' := by
  have hlength : t.length = t'.length := by
    obtain ⟨column, hcolumn⟩ := List.exists_mem_of_ne_nil _ t.columns_ne_nil
    rw [← t.length_column column hcolumn, t'.length_column column (h ▸ hcolumn)]
  cases t
  cases t'
  cases h
  cases hlength
  rfl

theorem ofColumns_eq_ok_iff {columns : List (List (Residue q))} :
    ofColumns columns = .ok t ↔ columns = t.columns := by
  constructor
  · intro h
    unfold ofColumns at h
    split at h
    · cases h
    · split at h
      · cases h
      · split at h
        · split at h
          · cases h
          · cases h
            rfl
        · cases h
  · rintro rfl
    obtain ⟨first, rest, hcolumns⟩ := List.exists_cons_of_ne_nil t.columns_ne_nil
    have hlength : ∀ column ∈ first :: rest, column.length = t.length := hcolumns ▸ t.length_column
    rw [List.forall_mem_cons] at hlength
    obtain ⟨hfirst, hrest⟩ := hlength
    have htwo : ¬first.length < 2 := hfirst ▸ Nat.not_lt.2 t.two_le_length
    rw [hcolumns]
    unfold ofColumns
    dsimp only
    rw [dif_neg htwo, dif_pos (hfirst ▸ t.isPowerOfTwo_length)]
    split
    · rename_i ragged hragged
      have hne : ragged.length ≠ first.length := by simpa using List.find?_some hragged
      exact absurd ((hrest _ (List.mem_of_find?_eq_some hragged)).trans hfirst.symm) hne
    · exact congrArg _ (eq_of_columns_eq hcolumns.symm)

/-! ## Traces by rows -/

/-- The rows of a trace. -/
def rows (t : TraceTable q) : List (List (Residue q)) := transpose t.length t.columns

@[simp] theorem length_rows (t : TraceTable q) : t.rows.length = t.length := length_transpose _ _

theorem length_of_mem_rows {row : List (Residue q)} (h : row ∈ t.rows) : row.length = t.width :=
  length_of_mem_transpose h

theorem ne_nil_of_mem_rows {row : List (Residue q)} (h : row ∈ t.rows) : row ≠ [] := by
  rintro rfl
  exact t.width_ne_zero (length_of_mem_rows h).symm

theorem rows_ne_nil (t : TraceTable q) : t.rows ≠ [] := by
  intro h
  exact t.length_ne_zero (by rw [← t.length_rows, h, List.length_nil])

theorem transpose_rows (t : TraceTable q) : transpose t.width t.rows = t.columns :=
  transpose_transpose t.length_column

theorem mapM_getElem?_columns (t : TraceTable q) (i : ℕ) :
    (t.columns.mapM fun column => column[i]?) = t.rows[i]? := by
  by_cases hi : i < t.length
  · have hi' : i < (transpose t.length t.columns).length := by rwa [length_transpose]
    rw [rows, List.getElem?_eq_getElem hi', getElem_transpose, mapM_eq_some_iff,
      List.forall₂_map_right_iff, List.forall₂_same]
    intro column hcolumn
    have hcell : i < column.length := by rwa [t.length_column column hcolumn]
    rw [List.getElem?_eq_getElem hcell, List.getD_eq_getElem _ _ hcell]
  · rw [List.getElem?_eq_none (by rw [length_rows]; omega), Option.eq_none_iff_forall_ne_some]
    -- There is a column, and it has no cell there.
    intro cells hcells
    obtain ⟨first, rest, hcolumns⟩ := List.exists_cons_of_ne_nil t.columns_ne_nil
    rw [mapM_eq_some_iff, hcolumns, List.forall₂_cons_left_iff] at hcells
    obtain ⟨cell, _, hcell, -⟩ := hcells
    obtain ⟨hlt, -⟩ := List.getElem?_eq_some_iff.1 hcell
    rw [t.length_column first (hcolumns ▸ List.mem_cons_self)] at hlt
    exact hi hlt

theorem row_eq_ok_iff {i : ℕ} {row : List (Residue q)} :
    t.row i = .ok row ↔ t.rows[i]? = some row := by
  unfold TraceTable.row
  rw [mapM_getElem?_columns]
  cases t.rows[i]? <;> simp

theorem ofRows_eq_ok_iff {rows : List (List (Residue q))} :
    ofRows rows = .ok t ↔ rows = t.rows := by
  constructor
  · intro h
    unfold ofRows at h
    dsimp only at h
    split at h
    · cases h
    · rename_i hnone
      have hwidth : ∀ row ∈ rows, row.length = (rows.head?.map List.length).getD 0 := by
        simpa using hnone
      rw [foldr_consRow hwidth, ofColumns_eq_ok_iff] at h
      obtain ⟨column, hcolumn⟩ := List.exists_mem_of_ne_nil _ t.columns_ne_nil
      have hlength : t.length = rows.length := by
        rw [← t.length_column column hcolumn]
        exact length_of_mem_transpose (h ▸ hcolumn)
      rw [TraceTable.rows, ← h, hlength, transpose_transpose hwidth]
  · rintro rfl
    obtain ⟨first, rest, hfirst⟩ := List.exists_cons_of_ne_nil t.rows_ne_nil
    have hwidth : (t.rows.head?.map List.length).getD 0 = t.width := by
      rw [hfirst]
      exact length_of_mem_rows (hfirst ▸ List.mem_cons_self)
    have hnone : (t.rows.find? fun row => row.length != t.width) = none := by
      rw [List.find?_eq_none]
      intro row hrow
      rw [length_of_mem_rows hrow, bne_self_eq_false]
      exact Bool.false_ne_true
    unfold ofRows
    simp only [hwidth, hnone]
    rw [foldr_consRow fun row hrow => length_of_mem_rows hrow, t.transpose_rows, ofColumns_eq_ok_iff]

theorem exists_ofRows_iff {rows : List (List (Residue q))} :
    (∃ t, ofRows rows = .ok t) ↔
      2 ≤ rows.length ∧ rows.length.isPowerOfTwo ∧
        ∃ width, 0 < width ∧ ∀ row ∈ rows, row.length = width := by
  simp only [ofRows_eq_ok_iff]
  constructor
  · rintro ⟨t, rfl⟩
    rw [length_rows]
    exact ⟨t.two_le_length, t.isPowerOfTwo_length, t.width, Nat.pos_of_ne_zero t.width_ne_zero,
      fun _ => length_of_mem_rows⟩
  · rintro ⟨htwo, hpower, width, hpos, hwidth⟩
    have hne : transpose width rows ≠ [] := List.ne_nil_of_length_pos (by rwa [length_transpose])
    exact ⟨⟨transpose width rows, rows.length, hne, fun _ => length_of_mem_transpose, htwo, hpower⟩,
      (transpose_transpose hwidth).symm⟩

theorem frame_eq_ok_iff {i : ℕ} {f : Frame q} :
    t.frame i = .ok f ↔
      t.rows[i]? = some f.current ∧ t.rows[(i + 1) % t.length]? = some f.next := by
  unfold frame
  simp only [bind_eq_ok_iff, row_eq_ok_iff, Frame.ofRows_eq_ok_iff]
  constructor
  · rintro ⟨_, hcurrent, _, hnext, rfl, rfl⟩
    exact ⟨hcurrent, hnext⟩
  · rintro ⟨hcurrent, hnext⟩
    exact ⟨_, hcurrent, _, hnext, rfl, rfl⟩

theorem width_of_frame {i : ℕ} {f : Frame q} (h : t.frame i = .ok f) : f.width = t.width :=
  length_of_mem_rows (List.mem_of_getElem? (frame_eq_ok_iff.1 h).1)

/-- Before the last row, the frame of a row is the row and the one below it. -/
theorem exists_frame_of_lt {i : ℕ} (h : i + 1 < t.rows.length) :
    ∃ f, t.frame i = .ok f ∧ f.current = t.rows[i] ∧ f.next = t.rows[i + 1] := by
  have hcurrent : t.rows[i].length = t.width := length_of_mem_rows (List.getElem_mem _)
  have hnext : t.rows[i + 1].length = t.width := length_of_mem_rows (List.getElem_mem _)
  have hne : t.rows[i] ≠ [] := ne_nil_of_mem_rows (List.getElem_mem _)
  have hmod : (i + 1) % t.length = i + 1 := Nat.mod_eq_of_lt (t.length_rows ▸ h)
  refine ⟨⟨_, _, hne, hnext.trans hcurrent.symm⟩, frame_eq_ok_iff.2 ⟨?_, ?_⟩, rfl, rfl⟩
  · exact List.getElem?_eq_getElem (Nat.lt_of_succ_lt h)
  · rw [hmod]
    exact List.getElem?_eq_getElem h

/-- A cell is in its column and in its row. -/
theorem holds_iff_row {column i : ℕ} {value : Residue q} :
    t.Holds column i value ↔ ∃ row, t.rows[i]? = some row ∧ row[column]? = some value := by
  simp only [Holds, column_eq_ok_iff]
  constructor
  · rintro ⟨cells, hcells, hvalue⟩
    exact exists_getElem?_transpose t.length_column hcells hvalue
  · rintro ⟨row, hrow, hvalue⟩
    rw [← t.transpose_rows]
    exact exists_getElem?_transpose (fun _ h => length_of_mem_rows h) hrow hvalue

/-- A row is known by its cells. -/
theorem getElem?_rows_eq_some_iff {i : ℕ} {row : List (Residue q)} (h : row.length = t.width) :
    t.rows[i]? = some row ↔ ∀ j (hj : j < row.length), t.Holds j i row[j] := by
  have hpos : 0 < row.length := h ▸ Nat.pos_of_ne_zero t.width_ne_zero
  simp only [holds_iff_row]
  constructor
  · intro hrow j hj
    exact ⟨row, hrow, List.getElem?_eq_getElem hj⟩
  · intro hcells
    obtain ⟨row', hrow', -⟩ := hcells 0 hpos
    have hlength : row'.length = row.length := by
      rw [length_of_mem_rows (List.mem_of_getElem? hrow'), h]
    rw [hrow', Option.some_inj]
    refine List.ext_getElem hlength fun j hj' hj => ?_
    obtain ⟨row'', hrow'', hcell⟩ := hcells j hj
    cases Option.some.inj (hrow'.symm.trans hrow'')
    rwa [List.getElem?_eq_getElem hj', Option.some_inj] at hcell

end TraceTable

end OutOfDomain
