import Mathlib.Data.List.Range
import Mathlib.Logic.Function.Basic
import Mathlib.Tactic.Common

/-!
# Memory behind a pointer

A region is what a pointer points to: the entry at every offset from it.  `store` writes a list
of entries from an offset on, as `memcpy` and `recv` do, and `load` reads one back.  Writes one
after another are one write of the concatenation (`store_store`), which is how a loop that fills a
buffer piece by piece is shown to have filled it with the whole (`load_store_self`), and nothing
outside the written range changes (`store_of_lt`, `store_of_le`).  `ChangesOnly` says that of a
family of regions, for any number of writes.
-/

namespace Region

variable {α : Type*}

/-- The region `r` with the entries `bs` written from offset `off` on. -/
def store (r : ℕ → α) (off : ℕ) (bs : List α) : ℕ → α := fun i =>
  if _h : off ≤ i ∧ i - off < bs.length then bs[i - off] else r i

/-- The `n` entries of `r` from offset `off` on. -/
def load (r : ℕ → α) (off n : ℕ) : List α := (List.range n).map fun i => r (off + i)

@[simp] theorem length_load (r : ℕ → α) (off n : ℕ) : (load r off n).length = n := by
  simp [load]

@[simp] theorem load_zero (r : ℕ → α) (off : ℕ) : load r off 0 = [] := rfl

@[simp] theorem store_nil (r : ℕ → α) (off : ℕ) : store r off [] = r := by
  funext i
  simp [store]

/-! ### What a write leaves alone -/

theorem store_of_lt {r : ℕ → α} {off i : ℕ} (bs : List α) (h : i < off) :
    store r off bs i = r i := by
  rw [store, dif_neg (by omega)]

theorem store_of_le {r : ℕ → α} {off i : ℕ} {bs : List α} (h : off + bs.length ≤ i) :
    store r off bs i = r i := by
  rw [store, dif_neg (by omega)]

/-! ### What a write puts there -/

theorem store_add {r : ℕ → α} {off i : ℕ} {bs : List α} (h : i < bs.length) :
    store r off bs (off + i) = bs[i] := by
  rw [store, dif_pos (by omega)]
  simp

theorem store_zero_apply {r : ℕ → α} {i : ℕ} {bs : List α} (h : i < bs.length) :
    store r 0 bs i = bs[i] := by
  rw [store, dif_pos (by omega)]
  simp

/-- Writing `ys` right behind `xs` writes `xs ++ ys`. -/
theorem store_store (r : ℕ → α) (off : ℕ) (xs ys : List α) :
    store (store r off xs) (off + xs.length) ys = store r off (xs ++ ys) := by
  funext i
  rcases lt_or_ge i off with hlt | hge
  · rw [store_of_lt _ (by omega), store_of_lt _ hlt, store_of_lt _ hlt]
  obtain ⟨j, rfl⟩ := Nat.exists_eq_add_of_le hge
  rcases lt_or_ge j xs.length with hj | hj
  · rw [store_of_lt _ (by omega), store_add hj, store_add (by simp; omega),
      List.getElem_append_left hj]
  obtain ⟨k, rfl⟩ := Nat.exists_eq_add_of_le hj
  rcases lt_or_ge k ys.length with hk | hk
  · rw [← Nat.add_assoc, store_add hk, Nat.add_assoc, store_add (by simp; omega)]
    simp [List.getElem_append_right]
  · rw [store_of_le (by omega), store_of_le (by omega),
      store_of_le (by simp; omega)]

/-- Writing `ys` over the front of `xs` leaves what `xs` has behind it. -/
theorem store_over (r : ℕ → α) (off : ℕ) (xs ys : List α) :
    store (store r off xs) off ys = store r off (ys ++ xs.drop ys.length) := by
  funext i
  rcases lt_or_ge i off with hlt | hge
  · rw [store_of_lt _ hlt, store_of_lt _ hlt, store_of_lt _ hlt]
  obtain ⟨j, rfl⟩ := Nat.exists_eq_add_of_le hge
  rcases lt_or_ge j ys.length with hj | hj
  · rw [store_add hj, store_add (by simp; omega), List.getElem_append_left hj]
  · rw [store_of_le (by omega)]
    rcases lt_or_ge j xs.length with hk | hk
    · rw [store_add hk, store_add (by simp; omega)]
      simp [List.getElem_append_right, hj, Nat.add_sub_cancel' hj]
    · rw [store_of_le (by omega), store_of_le (by simp; omega)]

/-! ### Reading back -/

theorem load_add (r : ℕ → α) (off m n : ℕ) :
    load r off (m + n) = load r off m ++ load r (off + m) n := by
  simp [load, List.range_add, Nat.add_assoc]

theorem load_congr {r r' : ℕ → α} {off n : ℕ} (h : ∀ i < n, r (off + i) = r' (off + i)) :
    load r off n = load r' off n := by
  apply List.map_congr_left
  intro i hi
  exact h i (List.mem_range.mp hi)

/-- What was written is read back. -/
theorem load_store_self (r : ℕ → α) (off : ℕ) (bs : List α) :
    load (store r off bs) off bs.length = bs := by
  apply List.ext_getElem
  · simp
  · intro i hi _
    rw [length_load] at hi
    simp [load, store_add hi]

/-- What is read from the front of a region, entry by entry. -/
theorem load_eq_iff (r : ℕ → α) (bs : List α) :
    load r 0 bs.length = bs ↔ ∀ i (h : i < bs.length), r i = bs[i] := by
  constructor
  · intro heq i h
    have hi : (load r 0 bs.length)[i]? = bs[i]? := by rw [heq]
    simpa [load, h] using hi
  · intro hall
    apply List.ext_getElem
    · simp
    · intro i hi hi'
      simpa [load] using hall i hi'

/-- Writing what is there already changes nothing. -/
theorem store_eq_self {r : ℕ → α} {bs : List α} (h : ∀ i (hi : i < bs.length), r i = bs[i]) :
    store r 0 bs = r := by
  funext i
  rcases lt_or_ge i bs.length with hlt | hge
  · rw [store_zero_apply hlt, h i hlt]
  · rw [store_of_le (by omega)]

/-- The first entries of what was written are read back. -/
theorem load_store_take (r : ℕ → α) (off : ℕ) {bs : List α} {n : ℕ} (h : n ≤ bs.length) :
    load (store r off bs) off n = bs.take n := by
  have hall := load_store_self r off bs
  rw [← Nat.add_sub_cancel' h, load_add] at hall
  conv_rhs => rw [← hall, List.take_left' (length_load _ _ _)]

/-! ### Several regions -/

variable {ι : Type*} {V W : ι → ℕ → Prop} {m m' m'' : ι → ℕ → α}

/-- No entry but those in `W` changes from `m` to `m'`. -/
def ChangesOnly (W : ι → ℕ → Prop) (m m' : ι → ℕ → α) : Prop :=
  ∀ p i, ¬ W p i → m' p i = m p i

theorem ChangesOnly.refl (W : ι → ℕ → Prop) (m : ι → ℕ → α) : ChangesOnly W m m := fun _ _ _ => rfl

theorem ChangesOnly.trans (h : ChangesOnly W m m') (h' : ChangesOnly W m' m'') :
    ChangesOnly W m m'' := fun p i hp => (h' p i hp).trans (h p i hp)

end Region
