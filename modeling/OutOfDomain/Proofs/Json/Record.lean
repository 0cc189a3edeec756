import Mathlib.Data.List.Nodup
import OutOfDomain.Proofs.Json.Spelling

/-!
# Records, read in any order

A record is put together from its members in the order in which its definition names them, and read
in the order in which they come. To bring the two together, reading is first stripped of what does not
depend on the members: `walk_eq_ok_iff` and `fill_eq_ok_iff` reduce an object and a list to the members
that are gathered from them.

What is gathered from members of different names depends on what stands under each name and not on
the order. This is not proved by permuting members. `Fields.Means` says it outright, for any order at
once, and it passes from the parts of a record to the whole, because the whole gathers for each part
the members of that part in the order in which they come (`gather_append_eq_ok_iff`).
-/

set_option autoImplicit false

namespace OutOfDomain.Json

variable {ε ρ α β : Type}

namespace Fields

/-! ## Names and written members -/

@[simp] theorem names_field (name : String) (get : ρ → α) (c : Codec ε α) :
    (field name get c).names = [name] := rfl

@[simp] theorem names_map (h : α → β) (f : Fields ε ρ α) : (h <$> f).names = f.names := rfl

@[simp] theorem names_seq (f : Fields ε ρ (α → β)) (g : Fields ε ρ α) :
    (f <*> g).names = f.names ++ g.names := rfl

@[simp] theorem write_field (name : String) (get : ρ → α) (c : Codec ε α) (r : ρ) :
    (field name get c).write r = [(name, c.encode (get r))] := rfl

@[simp] theorem write_map (h : α → β) (f : Fields ε ρ α) (r : ρ) :
    (h <$> f).write r = f.write r := rfl

@[simp] theorem write_seq (f : Fields ε ρ (α → β)) (g : Fields ε ρ α) (r : ρ) :
    (f <*> g).write r = f.write r ++ g.write r := rfl

/-! ## Members, one after the other -/

/-- Read named members in the order in which they come. -/
def gather (f : Fields ε ρ α) (s : f.State) :
    List (String × Document) → Except (Fault ε) f.State
  | [] => .ok s
  | (name, d) :: rest => do f.gather (← f.put name d s) rest

theorem gather_cons_eq_ok_iff {f : Fields ε ρ α} {s t : f.State} {name : String} {d : Document}
    {rest : List (String × Document)} :
    f.gather s ((name, d) :: rest) = .ok t ↔
      ∃ s', f.put name d s = .ok s' ∧ f.gather s' rest = .ok t :=
  bind_eq_ok_iff

/-- An object is walked through to its end exactly if its keys are texts, its unknown members are
sound, and no known one comes twice. -/
theorem walk_eq_ok_iff {f : Fields ε ρ α} {seen : List String} {s t : f.State}
    {members : List (Option String × Document)} :
    f.walk seen s members = .ok t ↔
      (∀ m ∈ members, ∃ name, m.1 = some name ∧ (name ∈ f.names ∨ m.2.isIntact)) ∧
        ((members.filterMap (known f.names)).map Prod.fst).Nodup ∧
        (∀ name ∈ (members.filterMap (known f.names)).map Prod.fst, name ∉ seen) ∧
        f.gather s (members.filterMap (known f.names)) = .ok t := by
  induction members generalizing seen s with
  | nil => simp [walk, gather]
  | cons m members ih =>
    obtain ⟨key, d⟩ := m
    rw [List.forall_mem_cons]
    cases key with
    | none => exact iff_of_false nofun fun ⟨⟨⟨_, h, _⟩, _⟩, _⟩ => nomatch h
    | some name =>
      by_cases hname : name ∈ f.names
      · -- A known member is new or a fault, and it is read before those after it.
        have hknown : known f.names (some name, d) = some (name, d) := if_pos hname
        rw [walk, if_pos hname, List.filterMap_cons_some hknown, List.map_cons, List.nodup_cons,
          List.forall_mem_cons, gather_cons_eq_ok_iff]
        split
        · rename_i hseen
          exact iff_of_false nofun fun ⟨_, _, h, _⟩ => h.1 hseen
        · rename_i hseen
          rw [bind_eq_ok_iff]
          simp only [ih, List.mem_cons, not_or]
          constructor
          · rintro ⟨s', hput, hsound, hnodup, hfresh, hgather⟩
            exact ⟨⟨⟨name, rfl, .inl hname⟩, hsound⟩, ⟨fun h => (hfresh name h).1 rfl, hnodup⟩,
              ⟨hseen, fun n hn => (hfresh n hn).2⟩, s', hput, hgather⟩
          · rintro ⟨⟨-, hsound⟩, ⟨hnew, hnodup⟩, ⟨-, hfresh⟩, s', hput, hgather⟩
            exact ⟨s', hput, hsound, hnodup,
              fun n hn => ⟨fun h => hnew (h ▸ hn), hfresh n hn⟩, hgather⟩
      · -- A stranger only has to be sound.
        have hknown : known f.names (some name, d) = none := if_neg hname
        rw [walk, if_neg hname, List.filterMap_cons_none hknown]
        split
        · rename_i hintact
          rw [ih]
          exact and_congr_left fun _ => (and_iff_right ⟨name, rfl, .inr hintact⟩).symm
        · rename_i hintact
          refine iff_of_false nofun fun ⟨⟨⟨_, h, h'⟩, _⟩, _⟩ => ?_
          cases h
          exact h'.elim hname hintact

/-- The items of a list are the members in order, up to the end of the list or of the names. -/
theorem fill_eq_ok_iff {f : Fields ε ρ α} {s t : f.State} {names missing : List String}
    {items : List Document} :
    f.fill s names items = .ok (t, missing) ↔
      f.gather s (names.zip items) = .ok t ∧ names.drop items.length = missing := by
  induction names generalizing s items with
  | nil =>
    rw [List.zip_nil_left, List.drop_nil, gather]
    simp only [fill, Except.ok.injEq, Prod.mk.injEq]
  | cons name names ih =>
    cases items with
    | nil =>
      rw [List.zip_nil_right, gather]
      simp only [fill, Except.ok.injEq, Prod.mk.injEq]
      rfl
    | cons item items =>
      rw [fill, bind_eq_ok_iff, List.zip_cons_cons, gather_cons_eq_ok_iff, List.length_cons,
        List.drop_succ_cons]
      simp only [ih]
      exact ⟨fun ⟨s', hput, hgather, h⟩ => ⟨⟨s', hput, hgather⟩, h⟩,
        fun ⟨⟨s', hput, hgather⟩, h⟩ => ⟨s', hput, hgather, h⟩⟩

/-! ## What members put together to -/

/-- The members of the given names. -/
def among (names : List String) (named : List (String × Document)) : List (String × Document) :=
  named.filter (·.1 ∈ names)

/-- The members of other names. -/
def others (names : List String) (named : List (String × Document)) : List (String × Document) :=
  named.filter (·.1 ∉ names)

theorem mem_among {names : List String} {named : List (String × Document)}
    {m : String × Document} : m ∈ among names named ↔ m ∈ named ∧ m.1 ∈ names := by
  rw [among, List.mem_filter, decide_eq_true_iff]

theorem mem_others {names : List String} {named : List (String × Document)}
    {m : String × Document} : m ∈ others names named ↔ m ∈ named ∧ m.1 ∉ names := by
  rw [others, List.mem_filter, decide_eq_true_iff]

section Append

variable {f : Fields ε ρ (α → β)} {g : Fields ε ρ α} {name : String}

theorem put_append_of_mem (h : name ∈ f.names) (d : Document) (s : f.State × g.State) :
    (append f g).put name d s = (·, s.2) <$> f.put name d s.1 :=
  if_pos h

theorem put_append_of_not_mem (h : name ∉ f.names) (d : Document) (s : f.State × g.State) :
    (append f g).put name d s = (s.1, ·) <$> g.put name d s.2 :=
  if_neg h

end Append

/-- Two parts of a record gather their own members, each in the order in which they come. -/
theorem gather_append_eq_ok_iff {f : Fields ε ρ (α → β)} {g : Fields ε ρ α}
    {s t : f.State × g.State} {named : List (String × Document)} :
    (append f g).gather s named = .ok t ↔
      f.gather s.1 (among f.names named) = .ok t.1 ∧
        g.gather s.2 (others f.names named) = .ok t.2 := by
  induction named generalizing s with
  | nil =>
    constructor
    · rintro ⟨⟩
      exact ⟨rfl, rfl⟩
    · rintro ⟨h₁, h₂⟩
      exact congrArg Except.ok (Prod.ext (Except.ok.inj h₁) (Except.ok.inj h₂))
  | cons m named ih =>
    obtain ⟨name, d⟩ := m
    refine gather_cons_eq_ok_iff.trans ?_
    by_cases hname : name ∈ f.names
    · have hmine : among f.names ((name, d) :: named) = (name, d) :: among f.names named :=
        List.filter_cons_of_pos (decide_eq_true hname)
      have hothers : others f.names ((name, d) :: named) = others f.names named :=
        List.filter_cons_of_neg (by simpa using hname)
      have hput := put_append_of_mem hname d s
      rw [hmine, hothers, gather_cons_eq_ok_iff]
      constructor
      · rintro ⟨_, h, hgather⟩
        obtain ⟨s₁, hs₁, rfl⟩ := map_eq_ok_iff.1 (hput.symm.trans h)
        exact ⟨⟨s₁, hs₁, (ih.1 hgather).1⟩, (ih.1 hgather).2⟩
      · rintro ⟨⟨s₁, hs₁, h₁⟩, h₂⟩
        exact ⟨_, hput.trans (map_eq_ok_iff.2 ⟨s₁, hs₁, rfl⟩), ih.2 ⟨h₁, h₂⟩⟩
    · have hmine : among f.names ((name, d) :: named) = among f.names named :=
        List.filter_cons_of_neg (by simpa using hname)
      have hothers : others f.names ((name, d) :: named) = (name, d) :: others f.names named :=
        List.filter_cons_of_pos (decide_eq_true hname)
      have hput := put_append_of_not_mem hname d s
      rw [hmine, hothers, gather_cons_eq_ok_iff]
      constructor
      · rintro ⟨_, h, hgather⟩
        obtain ⟨s₂, hs₂, rfl⟩ := map_eq_ok_iff.1 (hput.symm.trans h)
        exact ⟨(ih.1 hgather).1, s₂, hs₂, (ih.1 hgather).2⟩
      · rintro ⟨h₁, s₂, hs₂, h₂⟩
        exact ⟨_, hput.trans (map_eq_ok_iff.2 ⟨s₂, hs₂, rfl⟩), ih.2 ⟨h₁, h₂⟩⟩

/-- Members of the given names, each at most once. -/
structure AtMostOnce (names : List String) (named : List (String × Document)) : Prop where
  nodup : (named.map Prod.fst).Nodup
  mem_names : ∀ m ∈ named, m.1 ∈ names

theorem AtMostOnce.among {names names' : List String} {named : List (String × Document)}
    (h : AtMostOnce (names ++ names') named) : AtMostOnce names (among names named) where
  nodup := h.nodup.sublist (List.filter_sublist.map _)
  mem_names _ hm := (mem_among.1 hm).2

theorem AtMostOnce.others {names names' : List String} {named : List (String × Document)}
    (h : AtMostOnce (names ++ names') named) : AtMostOnce names' (others names named) where
  nodup := h.nodup.sublist (List.filter_sublist.map _)
  mem_names _ hm :=
    (List.mem_append.1 (h.mem_names _ (mem_others.1 hm).1)).resolve_left (mem_others.1 hm).2

/-- Members of different names, in any order, put together to exactly the values that `P` relates to
what stands under the names. What stands under other names is not looked at. -/
def Means (f : Fields ε ρ α) (P : (String → Document → Prop) → α → Prop) : Prop :=
  f.names.Nodup → ∀ named, AtMostOnce f.names named →
    ∀ under : String → Document → Prop,
      (∀ name ∈ f.names, ∀ d, under name d ↔ (name, d) ∈ named) →
      ∀ a, (∃ t, f.gather f.start named = .ok t ∧ f.finish t = .ok a) ↔ P under a

theorem Means.congr {f : Fields ε ρ α} {P Q : (String → Document → Prop) → α → Prop}
    (hf : f.Means P) (h : ∀ under a, P under a ↔ Q under a) : f.Means Q :=
  fun hnodup named honce under hunder a => (hf hnodup named honce under hunder a).trans (h under a)

theorem Means.constant (a : α) :
    (Fields.constant a : Fields ε ρ α).Means fun _ b => a = b := by
  intro _ named honce _ _ b
  have hnil : named = [] :=
    List.eq_nil_iff_forall_not_mem.2 fun m hm => nomatch honce.mem_names m hm
  subst hnil
  exact ⟨fun ⟨_, _, h⟩ => Except.ok.inj h, fun h => ⟨(), rfl, congrArg Except.ok h⟩⟩

theorem Means.field {c : Codec ε α} (hc : c.Faithful) (name : String) (get : ρ → α) :
    (Fields.field name get c).Means fun under a => ∃ d, under name d ∧ d.Spells (c.encode a) := by
  intro _ named honce under hunder a
  simp only [hunder name (List.mem_singleton_self name), ← hc.decode_eq_ok_iff]
  match named, honce with
  | [], _ => exact iff_of_false (fun ⟨_, h, h'⟩ => by cases h; cases h') nofun
  | [(name', d)], ⟨_, hnames⟩ =>
    obtain rfl : name' = name := List.mem_singleton.1 (hnames _ List.mem_cons_self)
    simp only [List.mem_singleton, Prod.mk.injEq, true_and, exists_eq_left]
    constructor
    · rintro ⟨_, hgather, hfinish⟩
      obtain ⟨_, hput, h⟩ := gather_cons_eq_ok_iff.1 hgather
      obtain ⟨a', ha', rfl⟩ := map_eq_ok_iff.1 hput
      cases h
      cases hfinish
      exact ha'
    · intro h
      exact ⟨some a, gather_cons_eq_ok_iff.2 ⟨some a, map_eq_ok_iff.2 ⟨a, h, rfl⟩, rfl⟩, rfl⟩
  | m :: m' :: _, ⟨hnodup, hnames⟩ =>
    have hm := List.mem_singleton.1 (hnames m List.mem_cons_self)
    have hm' := List.mem_singleton.1 (hnames m' (List.mem_cons_of_mem _ List.mem_cons_self))
    refine absurd (hm.trans hm'.symm) fun h => ?_
    rw [List.map_cons, List.map_cons, h] at hnodup
    exact (List.nodup_cons.1 hnodup).1 List.mem_cons_self

section Parts

variable {f : Fields ε ρ (α → β)} {g : Fields ε ρ α}
variable {P : (String → Document → Prop) → (α → β) → Prop}
variable {Q : (String → Document → Prop) → α → Prop}

theorem Means.seq (hf : f.Means P) (hg : g.Means Q) :
    (f <*> g).Means fun under b => ∃ h a, P under h ∧ Q under a ∧ h a = b := by
  intro hnodup named honce under hunder b
  obtain ⟨hfnodup, hgnodup, hdisjoint⟩ := List.nodup_append.1 hnodup
  -- Each part sees what stands under its own names, and the names of one are not of the other.
  have hf := hf hfnodup _ honce.among under fun name hname d => by
    rw [mem_among, and_iff_left hname]
    exact hunder name (List.mem_append_left _ hname) d
  have hg := hg hgnodup _ honce.others under fun name hname d => by
    rw [mem_others, and_iff_left fun h => hdisjoint name h name hname rfl]
    exact hunder name (List.mem_append_right _ hname) d
  simp only [← hf, ← hg]
  constructor
  · rintro ⟨⟨s₁, s₂⟩, hgather, hfinish⟩
    obtain ⟨h₁, h₂⟩ := gather_append_eq_ok_iff.1 hgather
    obtain ⟨h, hh, hfinish⟩ := bind_eq_ok_iff.1 hfinish
    obtain ⟨a, ha, hfinish⟩ := bind_eq_ok_iff.1 hfinish
    exact ⟨h, a, ⟨s₁, h₁, hh⟩, ⟨s₂, h₂, ha⟩, Except.ok.inj hfinish⟩
  · rintro ⟨h, a, ⟨s₁, h₁, hh⟩, ⟨s₂, h₂, ha⟩, rfl⟩
    refine ⟨(s₁, s₂), gather_append_eq_ok_iff.2 ⟨h₁, h₂⟩, ?_⟩
    exact bind_eq_ok_iff.2 ⟨h, hh, bind_eq_ok_iff.2 ⟨a, ha, rfl⟩⟩

theorem Means.map (h : α → β) (hg : g.Means Q) :
    (h <$> g).Means fun under b => ∃ a, Q under a ∧ h a = b := by
  intro hnodup named honce under hunder b
  refine ((Means.constant h).seq hg hnodup named honce under hunder b).trans ?_
  simp only [exists_and_left, exists_eq_left']

end Parts

end Fields

/-! ## Records -/

/-- The members are those of a whole record: each is written by a faithful codec under a name of its
own, and together they put the record together again. -/
structure Fields.Faithful (f : Fields ε α α) : Prop where
  nodup_names : f.names.Nodup
  map_fst_write : ∀ a, (f.write a).map Prod.fst = f.names
  means : f.Means fun under a => ∀ m ∈ f.write a, ∃ d, under m.1 d ∧ d.Spells m.2
  spells : ∀ a, ∀ m ∈ f.write a, m.2.document.Spells m.2

namespace Fields.Faithful

variable {f : Fields ε α α}

/-- Members of different names put together to a record exactly if they are all of its members and
each spells what is written. -/
theorem gather_iff (hf : f.Faithful) {named : List (String × Document)}
    (honce : AtMostOnce f.names named) (a : α) :
    (∃ t, f.gather f.start named = .ok t ∧ f.finish t = .ok a) ↔
      (named.map Prod.fst).Perm f.names ∧
        ∀ name v d, (name, v) ∈ f.write a → (name, d) ∈ named → d.Spells v := by
  rw [hf.means hf.nodup_names named honce (fun name d => (name, d) ∈ named)
    (fun _ _ _ => Iff.rfl) a]
  have hunique : ∀ {name d d'}, (name, d) ∈ named → (name, d') ∈ named → d = d' :=
    fun h h' => congrArg Prod.snd (List.inj_on_of_nodup_map honce.nodup h h' rfl)
  constructor
  · intro h
    constructor
    · refine (List.perm_ext_iff_of_nodup honce.nodup hf.nodup_names).2 fun name => ⟨?_, ?_⟩
      · rw [List.mem_map]
        rintro ⟨m, hm, rfl⟩
        exact honce.mem_names m hm
      · rw [← hf.map_fst_write a, List.mem_map]
        rintro ⟨m, hm, rfl⟩
        obtain ⟨d, hd, -⟩ := h m hm
        exact List.mem_map_of_mem hd
    · intro name v d hv hd
      obtain ⟨d', hd', h⟩ := h (name, v) hv
      rwa [hunique hd hd']
  · rintro ⟨hperm, h⟩ ⟨name, v⟩ hv
    have hname : name ∈ f.names := hf.map_fst_write a ▸ List.mem_map_of_mem hv
    obtain ⟨⟨_, d⟩, hd, rfl⟩ := List.mem_map.1 (hperm.mem_iff.2 hname)
    exact ⟨d, hd, h _ v d hv hd⟩

end Fields.Faithful

/-! ## Objects and lists -/

theorem mem_names_of_mem_known {names : List String} {members : List (Option String × Document)}
    {m : String × Document} (h : m ∈ members.filterMap (known names)) : m.1 ∈ names := by
  obtain ⟨⟨key, d⟩, -, h⟩ := List.mem_filterMap.1 h
  obtain ⟨name, -, h⟩ := Option.bind_eq_some_iff.1 h
  split at h
  · cases h
    assumption
  · cases h

theorem filterMap_known_memberDocuments {names : List String} {members : List (String × Value)}
    (h : members.map Prod.fst = names) :
    (memberDocuments members).filterMap (known names) =
      members.map fun (name, v) => (name, v.document) := by
  rw [memberDocuments_eq_map, List.filterMap_map, ← List.filterMap_eq_map]
  exact List.filterMap_congr fun m hm => if_pos (h ▸ List.mem_map_of_mem hm)

/-- The document has the form of the record, and what stands under the names spells its members. -/
def Fields.SpellsMembers (f : Fields ε α α) (d : Document) (a : α) : Prop :=
  d.IsRecord f.names ∧
    ∀ name v e, (name, v) ∈ f.write a → (name, e) ∈ d.named f.names → e.Spells v

namespace Fields.Faithful

variable {f : Fields ε α α}

theorem spells_iff (hf : f.Faithful) {d : Document} {a : α} :
    d.Spells (.object (f.write a)) ↔ f.SpellsMembers d a := by
  rw [SpellsMembers, ← hf.map_fst_write a]
  constructor
  · intro h
    cases h with
    | record hrecord h => exact ⟨hrecord, h⟩
  · exact fun h => .record h.1 h.2

theorem decode_object_iff (hf : f.Faithful) (name : String)
    (members : List (Option String × Document)) (closed : Bool) (a : α) :
    (Codec.record name f).decode (.object members closed) = .ok a ↔
      f.SpellsMembers (.object members closed) a := by
  have hgather_iff (hnodup : ((members.filterMap (known f.names)).map Prod.fst).Nodup) :=
    hf.gather_iff ⟨hnodup, fun _ => mem_names_of_mem_known⟩ a
  refine bind_eq_ok_iff.trans ?_
  simp only [walk_eq_ok_iff]
  constructor
  · rintro ⟨t, ⟨hsound, hnodup, -, hgather⟩, hfinish⟩
    split at hfinish
    · rename_i hclosed
      obtain ⟨hperm, h⟩ := (hgather_iff hnodup).1 ⟨t, hgather, hfinish⟩
      rw [hclosed]
      exact ⟨.object hsound hperm, h⟩
    · cases hfinish
  · rintro ⟨⟨hsound, hperm⟩, h⟩
    have hnodup := hperm.nodup_iff.2 hf.nodup_names
    obtain ⟨t, hgather, hfinish⟩ := (hgather_iff hnodup).2 ⟨hperm, h⟩
    exact ⟨t, ⟨hsound, hnodup, fun _ _ => List.not_mem_nil, hgather⟩, hfinish⟩

theorem decode_list_iff (hf : f.Faithful) (name : String) (items : List Document) (closed : Bool)
    (a : α) :
    (Codec.record name f).decode (.list items closed) = .ok a ↔
      f.SpellsMembers (.list items closed) a := by
  -- In a list of the right length there is each name once, so the members can be gathered.
  have hnamed (h : items.length = f.names.length) :
      ((f.names.zip items).map Prod.fst).Perm f.names :=
    .of_eq (List.map_fst_zip (Nat.le_of_eq h.symm))
  have hgather_iff (h : items.length = f.names.length) :=
    hf.gather_iff ⟨(hnamed h).nodup_iff.2 hf.nodup_names,
      fun m hm => (hnamed h).mem_iff.1 (List.mem_map_of_mem hm)⟩ a
  refine bind_eq_ok_iff.trans ?_
  simp only [Prod.exists, fill_eq_ok_iff]
  constructor
  · rintro ⟨t, _, ⟨hgather, rfl⟩, h⟩
    split at h
    · split at h
      · rename_i hclosed
        obtain ⟨rfl, hlength⟩ : closed = true ∧ items.length = f.names.length := by
          simpa using hclosed
        exact ⟨.list hlength, ((hgather_iff hlength).1 ⟨t, hgather, h⟩).2⟩
      · cases h
    · split at h
      · cases h
      · cases h
  · rintro ⟨hrecord, h⟩
    cases hrecord with
    | list hlength =>
      obtain ⟨t, hgather, hfinish⟩ := (hgather_iff hlength).2 ⟨hnamed hlength, h⟩
      refine ⟨t, _, ⟨hgather, rfl⟩, ?_⟩
      rw [hlength, List.drop_length]
      simpa using hfinish

theorem spellsMembers_write (hf : f.Faithful) (a : α) :
    f.SpellsMembers (Value.object (f.write a)).document a := by
  have hmembers := filterMap_known_memberDocuments (hf.map_fst_write a)
  have hname : ∀ m ∈ f.write a, m.1 ∈ f.names :=
    fun m hm => hf.map_fst_write a ▸ List.mem_map_of_mem hm
  refine ⟨.object ?_ ?_, ?_⟩
  · rw [memberDocuments_eq_map, List.forall_mem_map]
    exact fun m hm => ⟨m.1, rfl, .inl (hname m hm)⟩
  · rw [hmembers, List.map_map]
    exact .of_eq (hf.map_fst_write a)
  · intro name v d hv hd
    change (name, d) ∈ (memberDocuments (f.write a)).filterMap (known f.names) at hd
    rw [hmembers] at hd
    obtain ⟨⟨_, v'⟩, hm, hd⟩ := List.mem_map.1 hd
    cases hd
    have hnodup : ((f.write a).map Prod.fst).Nodup := hf.map_fst_write a ▸ hf.nodup_names
    obtain rfl : v' = v := congrArg Prod.snd (List.inj_on_of_nodup_map hnodup hm hv rfl)
    exact hf.spells a _ hm

end Fields.Faithful

theorem Codec.Faithful.record {f : Fields ε α α} (hf : f.Faithful) (name : String) :
    (Codec.record name f).Faithful where
  decode_eq_ok_iff d a := by
    refine Iff.trans ?_ hf.spells_iff.symm
    cases d with
    | object members closed => exact hf.decode_object_iff name members closed a
    | list items closed => exact hf.decode_list_iff name items closed a
    | _ => exact iff_of_false nofun fun h => nomatch h.1
  spells a := hf.spells_iff.2 (hf.spellsMembers_write a)

end OutOfDomain.Json
