import Mathlib.Data.List.Forall2
import OutOfDomain.Check.Error

/-!
# Reading a computation back from its outcome

Every computation of a check ends in a value or in its first error, and is put together from smaller
ones by `do`. The lemmas here take an outcome apart again: a sequence ended in a value exactly if
its parts did, a list of computations exactly if each of them did, one value for each. They are all
that the other modules know about `do`.

An error is taken apart more coarsely. `OnlyRaises P x` bounds the errors that `x` may end in, and a
sequence keeps to a bound that its parts keep to, each after the parts before it have succeeded.
-/

set_option autoImplicit false

namespace OutOfDomain

variable {ε ε' α β : Type}

theorem bind_eq_ok_iff {x : Except ε α} {f : α → Except ε β} {b : β} :
    (x >>= f) = .ok b ↔ ∃ a, x = .ok a ∧ f a = .ok b := by
  cases x with
  | error e => exact iff_of_false nofun fun ⟨_, h, _⟩ => nomatch h
  | ok a =>
    refine ⟨fun h => ⟨a, rfl, h⟩, ?_⟩
    rintro ⟨_, ⟨⟩, h⟩
    exact h

theorem map_eq_ok_iff {x : Except ε α} {f : α → β} {b : β} :
    f <$> x = .ok b ↔ ∃ a, x = .ok a ∧ f a = b := by
  cases x with
  | error e => exact iff_of_false nofun fun ⟨_, h, _⟩ => nomatch h
  | ok a =>
    constructor
    · rintro ⟨⟩
      exact ⟨a, rfl, rfl⟩
    · rintro ⟨_, ⟨⟩, rfl⟩
      rfl

@[simp] theorem mapError_eq_ok_iff {x : Except ε α} {f : ε → ε'} {a : α} :
    x.mapError f = .ok a ↔ x = .ok a := by
  cases x with
  | error e => exact iff_of_false nofun nofun
  | ok a' =>
    constructor
    · rintro ⟨⟩
      rfl
    · rintro ⟨⟩
      rfl

@[simp] theorem ofConstraint_eq_ok_iff {x : Except ConstraintError α} {a : α} :
    CheckError.ofConstraint x = .ok a ↔ x = .ok a :=
  mapError_eq_ok_iff

/-- A list of computations has values exactly if each has one, and they are its values in order. -/
theorem mapM_eq_ok_iff {f : α → Except ε β} {as : List α} {bs : List β} :
    as.mapM f = .ok bs ↔ List.Forall₂ (fun a b => f a = .ok b) as bs := by
  induction as generalizing bs with
  | nil =>
    rw [List.mapM_nil, List.forall₂_nil_left_iff]
    exact ⟨fun h => by cases h; rfl, fun h => by rw [h]; rfl⟩
  | cons a as ih =>
    rw [List.mapM_cons, bind_eq_ok_iff, List.forall₂_cons_left_iff]
    constructor
    · rintro ⟨b, hb, h⟩
      obtain ⟨bs', hbs, h'⟩ := bind_eq_ok_iff.1 h
      cases h'
      exact ⟨b, bs', hb, ih.1 hbs, rfl⟩
    · rintro ⟨b, bs', hb, hbs, rfl⟩
      exact ⟨b, hb, bind_eq_ok_iff.2 ⟨bs', ih.2 hbs, rfl⟩⟩

theorem forM_eq_ok_iff {f : α → Except ε Unit} {as : List α} {u : Unit} :
    as.forM f = .ok u ↔ ∀ a ∈ as, f a = .ok () := by
  induction as with
  | nil => exact iff_of_true rfl nofun
  | cons a as ih =>
    change (f a >>= fun _ => as.forM f) = _ ↔ _
    rw [bind_eq_ok_iff, List.forall_mem_cons]
    simp only [ih]
    exact exists_and_right.trans (and_congr_left fun _ => ⟨fun ⟨_, h⟩ => h, fun h => ⟨_, h⟩⟩)

theorem mapM_eq_some_iff {f : α → Option β} {as : List α} {bs : List β} :
    as.mapM f = some bs ↔ List.Forall₂ (fun a b => f a = some b) as bs := by
  induction as generalizing bs with
  | nil =>
    rw [List.mapM_nil, List.forall₂_nil_left_iff]
    exact ⟨fun h => by cases h; rfl, fun h => by rw [h]; rfl⟩
  | cons a as ih =>
    rw [List.mapM_cons, Option.bind_eq_bind, Option.bind_eq_some_iff, List.forall₂_cons_left_iff]
    constructor
    · rintro ⟨b, hb, h⟩
      obtain ⟨bs', hbs, h'⟩ := Option.bind_eq_some_iff.1 h
      cases h'
      exact ⟨b, bs', hb, ih.1 hbs, rfl⟩
    · rintro ⟨b, bs', hb, hbs, rfl⟩
      exact ⟨b, hb, Option.bind_eq_some_iff.2 ⟨bs', ih.2 hbs, rfl⟩⟩

/-! ## Errors -/

/-- Every error that the computation may end in is one that `P` describes. -/
def OnlyRaises (P : ε → Prop) (x : Except ε α) : Prop := ∀ e, x = .error e → P e

namespace OnlyRaises

variable {P : ε → Prop}

theorem ok (a : α) : OnlyRaises P (.ok a) := nofun

theorem error {e : ε} (h : P e) : OnlyRaises P (.error e : Except ε α) := by
  rintro _ ⟨⟩
  exact h

theorem bind {x : Except ε α} {f : α → Except ε β} (hx : OnlyRaises P x)
    (hf : ∀ a, x = .ok a → OnlyRaises P (f a)) : OnlyRaises P (x >>= f) := by
  intro e h
  cases x with
  | error e' =>
    cases h
    exact hx _ rfl
  | ok a => exact hf a rfl e h

theorem map {x : Except ε α} (f : α → β) (hx : OnlyRaises P x) : OnlyRaises P (f <$> x) := by
  intro e h
  cases x with
  | error e' =>
    cases h
    exact hx _ rfl
  | ok a => cases h

theorem mapM {f : α → Except ε β} {as : List α} (hf : ∀ a ∈ as, OnlyRaises P (f a)) :
    OnlyRaises P (as.mapM f) := by
  induction as with
  | nil => exact ok []
  | cons a as ih =>
    rw [List.mapM_cons]
    refine bind (hf a List.mem_cons_self) fun b _ => bind (ih fun a' ha' => ?_) fun bs _ => ok _
    exact hf a' (List.mem_cons_of_mem _ ha')

end OnlyRaises

/-! ## Other errors in their place -/

theorem mapError_eq_self {x : Except ε α} {h : ε → ε} (hx : OnlyRaises (fun e => h e = e) x) :
    x.mapError h = x := by
  cases x with
  | error e => exact congrArg Except.error (hx e rfl)
  | ok a => rfl

theorem mapError_id (x : Except ε α) : x.mapError id = x :=
  mapError_eq_self fun _ _ => rfl

/-- A sequence reports other errors if its parts do. -/
theorem bind_eq_mapError {x x' : Except ε α} {f f' : α → Except ε β} {h : ε → ε}
    (hx : x' = x.mapError h) (hf : ∀ a, f' a = (f a).mapError h) :
    (x' >>= f') = (x >>= f).mapError h := by
  subst hx
  cases x with
  | error e => rfl
  | ok a => exact hf a

/-- A list of computations reports other errors if each of them does. -/
theorem mapM_eq_mapError {f f' : α → Except ε β} {h : ε → ε} {as : List α}
    (hf : ∀ a ∈ as, f' a = (f a).mapError h) : as.mapM f' = (as.mapM f).mapError h := by
  induction as with
  | nil => rfl
  | cons a as ih =>
    rw [List.mapM_cons, List.mapM_cons]
    have hrest : as.mapM f' = (as.mapM f).mapError h :=
      ih fun a' ha' => hf a' (List.mem_cons_of_mem _ ha')
    exact bind_eq_mapError (hf a List.mem_cons_self) fun b =>
      bind_eq_mapError hrest fun bs => rfl

end OutOfDomain
