import Mathlib.Data.Option.Basic
import Mathlib.Logic.Equiv.Defs
import Mathlib.Tactic.Common

/-!
# Formats

A format says how values are written as lists of bytes, and reads them back from the front of a
list.  What is read is what was written, and nothing else is read: `Format.read_eq_some_iff`.  So
two lists that begin with written values begin with the same value (`Format.write_append_inj`).
Formats are put together from those of single entries by `Format.prod` and `Format.map`;
`Format.readWithRest` takes what stands behind a value as the rest of the message.
-/

/-- A way to write values of `α` as lists over `β`. -/
structure Format (β α : Type*) where
  write : α → List β
  /-- The value at the front of a list, and what stands behind it. -/
  read : List β → Option (α × List β)
  read_write : ∀ a rest, read (write a ++ rest) = some (a, rest)
  write_of_read : ∀ bs a rest, read bs = some (a, rest) → bs = write a ++ rest

namespace Format

variable {α β γ : Type*} (f : Format β α)

/-- **What is read** is what was written, wherever it ends. -/
theorem read_eq_some_iff {bs rest : List β} {a : α} :
    f.read bs = some (a, rest) ↔ bs = f.write a ++ rest := by
  constructor
  · exact f.write_of_read bs a rest
  · rintro rfl
    exact f.read_write a rest

/-- Where one value ends and what stands behind it cannot be taken for anything else. -/
theorem write_append_inj {a b : α} {rest rest' : List β}
    (h : f.write a ++ rest = f.write b ++ rest') : a = b ∧ rest = rest' := by
  have hread := f.read_write a rest
  rw [h, f.read_write] at hread
  obtain ⟨rfl, rfl⟩ := Prod.mk.inj (Option.some.inj hread)
  exact ⟨rfl, rfl⟩

theorem write_injective : Function.Injective f.write := by
  intro a b h
  exact (f.write_append_inj (congrArg (· ++ []) h)).1

/-! ### Whole lists -/

/-- The value that the whole list is. -/
def decode (bs : List β) : Option α :=
  match f.read bs with
  | some (a, []) => some a
  | _ => none

theorem decode_eq_some_iff {bs : List β} {a : α} : f.decode bs = some a ↔ bs = f.write a := by
  constructor
  · intro h
    unfold decode at h
    split at h
    · rename_i b hread
      obtain rfl := Option.some.inj h
      rw [f.write_of_read bs b [] hread, List.append_nil]
    · exact nomatch h
  · rintro rfl
    have hread := f.read_write a []
    rw [List.append_nil] at hread
    rw [decode, hread]

/-! ### Formats from formats -/

/-- One entry. -/
def one (β : Type*) : Format β β where
  write b := [b]
  read
    | [] => none
    | b :: rest => some (b, rest)
  read_write _ _ := rfl
  write_of_read bs a rest h := by
    cases bs with
    | nil => exact nomatch h
    | cons b bs =>
      obtain ⟨rfl, rfl⟩ := Prod.mk.inj (Option.some.inj h)
      rfl

/-- One value after another. -/
def prod (f : Format β α) (g : Format β γ) : Format β (α × γ) where
  write x := f.write x.1 ++ g.write x.2
  read bs := (f.read bs).bind fun x => (g.read x.2).map fun y => ((x.1, y.1), y.2)
  read_write x rest := by
    rw [List.append_assoc, f.read_write, Option.bind_some, g.read_write, Option.map_some]
  write_of_read bs x rest h := by
    obtain ⟨⟨a, bs₁⟩, hf, h⟩ := Option.bind_eq_some_iff.mp h
    obtain ⟨⟨c, bs₂⟩, hg, h⟩ := Option.map_eq_some_iff.mp h
    obtain ⟨rfl, rfl⟩ := Prod.mk.inj h
    rw [f.write_of_read _ _ _ hf, g.write_of_read bs₁ c bs₂ hg, List.append_assoc]

/-- The same format, for the values in another form. -/
def map (e : α ≃ γ) : Format β γ where
  write c := f.write (e.symm c)
  read bs := (f.read bs).map fun x => (e x.1, x.2)
  read_write c rest := by
    rw [f.read_write, Option.map_some, e.apply_symm_apply]
  write_of_read bs c rest h := by
    obtain ⟨⟨a, bs'⟩, hf, h⟩ := Option.map_eq_some_iff.mp h
    obtain ⟨rfl, rfl⟩ := Prod.mk.inj h
    rw [f.write_of_read _ _ _ hf, e.symm_apply_apply]

/-- A value, and behind it everything up to the end, which must satisfy `P`. -/
def readWithRest {P : List β → Prop} [DecidablePred P] (bs : List β) : Option (α × Subtype P) :=
  match f.read bs with
  | some (a, rest) => if h : P rest then some (a, ⟨rest, h⟩) else none
  | none => none

theorem readWithRest_eq_some_iff {P : List β → Prop} [DecidablePred P] {bs : List β} {a : α}
    {rest : Subtype P} : f.readWithRest bs = some (a, rest) ↔ bs = f.write a ++ rest.val := by
  unfold readWithRest
  rw [← f.read_eq_some_iff]
  cases hread : f.read bs with
  | none => simp
  | some x =>
    obtain ⟨b, rest'⟩ := x
    obtain ⟨rest, hP⟩ := rest
    simp only [Option.some.injEq, Prod.mk.injEq]
    by_cases hP' : P rest'
    · simp [hP']
    · refine iff_of_false (by simp [hP']) ?_
      rintro ⟨-, rfl⟩
      exact hP' hP

end Format
