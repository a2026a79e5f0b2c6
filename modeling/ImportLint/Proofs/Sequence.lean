import Mathlib.Data.List.Forall2
import Mathlib.Tactic.Common

/-!
# Checks in a row

What a check fails with (`errorOf?`) when it is made of smaller ones. If every part fails with the first of some faults
and succeeds where there are none, then so does the whole with the faults of its parts in order: for two parts
(`errorOf?_bind`) and for a list of parts (`errorOf?_mapM`). A list of parts succeeds if and only if each of them does
(`mapM_eq_ok_iff`), and what it gives is told item by item.
-/

namespace ImportLint

variable {ε α β : Type}

/-- What a check fails with. -/
def errorOf? : Except ε α → Option ε
  | .ok _ => none
  | .error e => some e

@[simp] theorem errorOf?_ok (a : α) : errorOf? (.ok a : Except ε α) = none := rfl

@[simp] theorem errorOf?_error (e : ε) : errorOf? (.error e : Except ε α) = some e := rfl

theorem errorOf?_eq_none_iff {x : Except ε α} : errorOf? x = none ↔ ∃ a, x = .ok a := by
  cases x <;> simp

theorem errorOf?_eq_some_iff {x : Except ε α} {e : ε} : errorOf? x = some e ↔ x = .error e := by
  cases x <;> simp

@[simp] theorem errorOf?_map (f : α → β) (x : Except ε α) : errorOf? (f <$> x) = errorOf? x := by
  cases x <;> rfl

theorem bind_eq_ok_iff {x : Except ε α} {f : α → Except ε β} {b : β} :
    x >>= f = .ok b ↔ ∃ a, x = .ok a ∧ f a = .ok b := by
  cases x <;> simp [bind, Except.bind]

theorem map_eq_ok_iff {f : α → β} {x : Except ε α} {b : β} : f <$> x = .ok b ↔ ∃ a, x = .ok a ∧ f a = b := by
  cases x <;> simp [Functor.map, Except.map]

/-- Of two checks in a row the faults of the first come first. -/
theorem errorOf?_bind {x : Except ε α} {f : α → Except ε β} {fs gs : List ε} (hx : errorOf? x = fs.head?)
    (hf : ∀ a, x = .ok a → errorOf? (f a) = gs.head?) : errorOf? (x >>= f) = (fs ++ gs).head? := by
  rw [List.head?_append, ← hx]
  cases x with
  | ok a => exact hf a rfl
  | error e => rfl

theorem errorOf?_mapM {f : α → Except ε β} {faults : α → List ε} (h : ∀ x, errorOf? (f x) = (faults x).head?)
    (xs : List α) : errorOf? (xs.mapM f) = (xs.flatMap faults).head? := by
  induction xs with
  | nil => rfl
  | cons x xs ih =>
    rw [List.mapM_cons, List.flatMap_cons]
    refine errorOf?_bind (h x) fun y _ => ?_
    rw [bind_pure_comp, errorOf?_map]
    exact ih

/-- A list of checks succeeds if and only if each of them does. -/
theorem mapM_eq_ok_iff {f : α → Except ε β} {xs : List α} {ys : List β} :
    xs.mapM f = .ok ys ↔ List.Forall₂ (fun x y => f x = .ok y) xs ys := by
  induction xs generalizing ys with
  | nil =>
    rw [List.mapM_nil, List.forall₂_nil_left_iff]
    exact ⟨fun h => (Except.ok.inj h).symm, fun h => congrArg _ h.symm⟩
  | cons x xs ih =>
    simp only [List.mapM_cons, bind_eq_ok_iff, ih, List.forall₂_cons_left_iff]
    constructor
    · rintro ⟨y, hy, zs, hzs, he⟩
      exact ⟨y, zs, hy, hzs, (Except.ok.inj he).symm⟩
    · rintro ⟨y, zs, hy, hzs, rfl⟩
      exact ⟨y, hy, zs, hzs, rfl⟩

/-- If every item has a partner, so has the list. -/
theorem exists_forall₂ {R : α → β → Prop} {xs : List α} (h : ∀ x ∈ xs, ∃ y, R x y) : ∃ ys, List.Forall₂ R xs ys := by
  induction xs with
  | nil => exact ⟨[], .nil⟩
  | cons x xs ih =>
    obtain ⟨y, hy⟩ := h x List.mem_cons_self
    obtain ⟨ys, hys⟩ := ih fun z hz => h z (List.mem_cons_of_mem x hz)
    exact ⟨y :: ys, .cons hy hys⟩

/-- Where the list on the left is split at an item, so is the list on the right. -/
theorem forall₂_split {R : α → β → Prop} {before behind : List α} {x : α} {ys : List β}
    (h : List.Forall₂ R (before ++ x :: behind) ys) :
    ∃ ys₁ y ys₂, ys = ys₁ ++ y :: ys₂ ∧ List.Forall₂ R before ys₁ ∧ R x y ∧ List.Forall₂ R behind ys₂ := by
  induction before generalizing ys with
  | nil =>
    obtain ⟨y, ys₂, hy, hbehind, rfl⟩ := List.forall₂_cons_left_iff.mp h
    exact ⟨[], y, ys₂, rfl, .nil, hy, hbehind⟩
  | cons a before ih =>
    obtain ⟨b, ys, hab, hys, rfl⟩ := List.forall₂_cons_left_iff.mp h
    obtain ⟨ys₁, y, ys₂, rfl, hbefore, hy, hbehind⟩ := ih hys
    exact ⟨b :: ys₁, y, ys₂, rfl, .cons hab hbefore, hy, hbehind⟩

/-- Items that are told by what they are made from are told as a list. -/
theorem forall₂_iff_map_eq {f : β → α} {xs : List α} {ys : List β} :
    List.Forall₂ (fun x y => f y = x) xs ys ↔ ys.map f = xs := by
  induction ys generalizing xs with
  | nil => simp [eq_comm]
  | cons y ys ih => cases xs <;> simp [ih]

end ImportLint
