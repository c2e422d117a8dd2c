import Mathlib.Data.List.Range
import Mathlib.Data.List.Rotate
import Mathlib.Data.Nat.ModEq
import Mathlib.Logic.Function.Basic
import Mathlib.Tactic.Common

/-!
# Circular buffers as lists

An array of `n` slots, read cyclically from a head position: `view n slots head k` is the list of
the `k` entries from `head` on.  Pushing writes the slot after the last entry and leaves the rest
of the view (`view_push`); popping moves the head by one (`view_pop`).

`Queued n slots head tail items` says that the two cursors `head` and `tail` delimit exactly the
list `items`, and `Held` that in addition every slot outside is empty.  With `n` items the two
cursors coincide, as they do with none; a buffer that never holds more than `n - 1` items can tell
full from empty by its cursors alone (`Queued.head_eq_tail_iff`), one that clears its slots can
tell by the slot under a cursor (`Held.slot_head_eq_none_iff`, `Held.slot_tail_eq_none_iff`).  As
long as the cursors are apart, the slots taken are those between them (`Held.slot_ne_none_iff`).
-/

namespace CyclicBuffer

variable {α : Type*}

/-! ### Positions -/

/-- The position after `i` in a ring of `n`: incremented, and back to `0` past the end. -/
def succ (n i : ℕ) : ℕ := if n ≤ i + 1 then 0 else i + 1

theorem succ_eq_mod {n i : ℕ} (hi : i < n) : succ n i = (i + 1) % n := by
  unfold succ
  split_ifs with h
  · rw [show i + 1 = n by omega, Nat.mod_self]
  · rw [Nat.mod_eq_of_lt (by omega)]

theorem succ_lt {n i : ℕ} (hi : i < n) : succ n i < n := by
  unfold succ
  split_ifs <;> omega

/-- Offsets below `n` from one head are different positions. -/
theorem offset_inj {n head i j : ℕ} (hi : i < n) (hj : j < n)
    (h : (head + i) % n = (head + j) % n) : i = j := by
  have hij : i ≡ j [MOD n] := Nat.ModEq.add_left_cancel' head h
  unfold Nat.ModEq at hij
  rwa [Nat.mod_eq_of_lt hi, Nat.mod_eq_of_lt hj] at hij

theorem succ_offset {n head i : ℕ} (hn : 0 < n) :
    succ n ((head + i) % n) = (head + (i + 1)) % n := by
  rw [succ_eq_mod (Nat.mod_lt _ hn), Nat.mod_add_mod, Nat.add_assoc]

theorem offset_succ {n head i : ℕ} (hh : head < n) :
    (succ n head + i) % n = (head + (i + 1)) % n := by
  rw [succ_eq_mod hh, Nat.mod_add_mod, Nat.add_right_comm, Nat.add_assoc]

/-- An offset of at most `n` passes the end once or not at all. -/
theorem offset_eq {n head k : ℕ} (hh : head < n) (hk : k ≤ n) :
    (head + k) % n = if head + k < n then head + k else head + k - n := by
  split_ifs with h
  · exact Nat.mod_eq_of_lt h
  · rw [Nat.mod_eq_sub_mod (by omega), Nat.mod_eq_of_lt (by omega)]

/-- Every position is at an offset below `n` from the head. -/
theorem exists_offset {n head i : ℕ} (hh : head < n) (hi : i < n) :
    ∃ k < n, (head + k) % n = i := by
  rcases Nat.lt_or_ge i head with h | h
  · refine ⟨i + n - head, by omega, ?_⟩
    rw [offset_eq hh (by omega), if_neg (by omega)]
    omega
  · refine ⟨i - head, by omega, ?_⟩
    rw [Nat.add_sub_cancel' h, Nat.mod_eq_of_lt hi]

/-- The positions from `head` up to but not including `tail`, cyclically. -/
def IsBetween (head tail i : ℕ) : Prop :=
  if head ≤ tail then head ≤ i ∧ i < tail else head ≤ i ∨ i < tail

instance (head tail i : ℕ) : Decidable (IsBetween head tail i) := by
  unfold IsBetween
  infer_instance

/-! ### The view -/

/-- The `k` entries of a ring of `n` slots from position `head` on. -/
def view (n : ℕ) (slots : ℕ → α) (head k : ℕ) : List α :=
  (List.range k).map fun i => slots ((head + i) % n)

@[simp] theorem length_view (n : ℕ) (slots : ℕ → α) (head k : ℕ) :
    (view n slots head k).length = k := by
  simp [view]

theorem getElem?_view {n : ℕ} {slots : ℕ → α} {head k i : ℕ} (hi : i < k) :
    (view n slots head k)[i]? = some (slots ((head + i) % n)) := by
  simp [view, hi]

/-- A write to a slot outside the view is not seen. -/
theorem view_update_of_ne {n : ℕ} {slots : ℕ → α} {head k p : ℕ} (x : α)
    (h : ∀ i < k, (head + i) % n ≠ p) :
    view n (Function.update slots p x) head k = view n slots head k := by
  unfold view
  apply List.map_congr_left
  intro i hi
  rw [Function.update_of_ne (h i (List.mem_range.mp hi))]

/-- Writing the slot after the last entry appends to the view. -/
theorem view_push {n : ℕ} {slots : ℕ → α} {head k : ℕ} (x : α) (hk : k < n) :
    view n (Function.update slots ((head + k) % n) x) head (k + 1)
      = view n slots head k ++ [x] := by
  conv_lhs => rw [view, List.range_succ, List.map_append]
  rw [← view, view_update_of_ne x]
  · simp
  · intro i hi he
    have := offset_inj (by omega) hk he
    omega

/-- Moving the head on drops the first entry. -/
theorem view_pop {n : ℕ} {slots : ℕ → α} {head k : ℕ} (hh : head < n) :
    view n slots head (k + 1) = slots head :: view n slots (succ n head) k := by
  unfold view
  rw [List.range_succ_eq_map, List.map_cons, List.map_map, Nat.add_zero, Nat.mod_eq_of_lt hh]
  congr 1
  apply List.map_congr_left
  intro i _
  rw [Function.comp, offset_succ hh]

/-- Once around the ring is a rotation of the array. -/
theorem view_eq_rotate (n : ℕ) (slots : ℕ → α) (head : ℕ) :
    view n slots head n = ((List.range n).map slots).rotate head := by
  apply List.ext_getElem
  · simp
  · intro i hi _
    rw [List.getElem_rotate]
    simp [view, Nat.add_comm]

/-! ### Two cursors around a list -/

/-- The entries from `head` up to `tail` are `items`, in order. -/
structure Queued (n : ℕ) (slots : ℕ → Option α) (head tail : ℕ) (items : List α) : Prop where
  head_lt : head < n
  length_le : items.length ≤ n
  tail_eq : tail = (head + items.length) % n
  view_eq : view n slots head items.length = items.map some

/-- The entries from `head` up to `tail` are `items`, and all other slots are empty. -/
structure Held (n : ℕ) (slots : ℕ → Option α) (head tail : ℕ) (items : List α) : Prop
    extends Queued n slots head tail items where
  slot_outside : ∀ i, items.length ≤ i → i < n → slots ((head + i) % n) = none

namespace Queued

variable {n : ℕ} {slots : ℕ → Option α} {head tail : ℕ} {items : List α} {x : α}

theorem empty (slots : ℕ → Option α) (hh : head < n) : Queued n slots head head [] :=
  ⟨hh, by simp, by simp [Nat.mod_eq_of_lt hh], by simp [view]⟩

theorem tail_lt (h : Queued n slots head tail items) : tail < n := by
  rw [h.tail_eq]
  exact Nat.mod_lt _ (by have := h.head_lt; omega)

/-- The slot at every occupied offset. -/
theorem slot_eq (h : Queued n slots head tail items) {i : ℕ} (hi : i < items.length) :
    slots ((head + i) % n) = some items[i] := by
  have hv : (view n slots head items.length)[i]? = (items.map some)[i]? := by rw [h.view_eq]
  rw [getElem?_view hi] at hv
  simpa [hi] using hv

/-- The cursors meet exactly when the ring is empty or completely full. -/
theorem head_eq_tail_iff' (h : Queued n slots head tail items) :
    head = tail ↔ items = [] ∨ items.length = n := by
  have hh := h.head_lt
  have hl := h.length_le
  rw [h.tail_eq]
  constructor
  · intro he
    by_contra hne
    rw [not_or, ← List.length_eq_zero_iff] at hne
    have hoff : (head + 0) % n = (head + items.length) % n := by
      rw [Nat.add_zero, ← he, Nat.mod_eq_of_lt hh]
    have := offset_inj (by omega) (by omega) hoff
    omega
  · rintro (rfl | hn)
    · simp [Nat.mod_eq_of_lt hh]
    · rw [hn, Nat.add_mod_right, Nat.mod_eq_of_lt hh]

/-- Below `n` items the cursors meet exactly when there are none. -/
theorem head_eq_tail_iff (h : Queued n slots head tail items) (hl : items.length < n) :
    head = tail ↔ items = [] := by
  rw [h.head_eq_tail_iff']
  constructor
  · rintro (h | h)
    · exact h
    · omega
  · exact Or.inl

/-- Storing at the tail and moving it on appends. -/
theorem push (h : Queued n slots head tail items) (hl : items.length < n) (x : α) :
    Queued n (Function.update slots tail (some x)) head (succ n tail) (items ++ [x]) where
  head_lt := h.head_lt
  length_le := by
    rw [List.length_append, List.length_singleton]
    omega
  tail_eq := by
    rw [h.tail_eq, succ_offset (by omega)]
    simp
  view_eq := by
    rw [h.tail_eq, List.length_append, List.length_singleton, view_push _ hl, h.view_eq]
    simp

/-- The head slot holds the first item, and moving the head on removes it. -/
theorem pop (h : Queued n slots head tail (x :: items)) :
    slots head = some x ∧ Queued n slots (succ n head) tail items := by
  have hv := h.view_eq
  rw [List.length_cons, view_pop h.head_lt, List.map_cons, List.cons.injEq] at hv
  refine ⟨hv.1, succ_lt h.head_lt, ?_, ?_, hv.2⟩
  · have := h.length_le
    simp at this
    omega
  · rw [h.tail_eq, offset_succ h.head_lt, List.length_cons]

end Queued

namespace Held

variable {n : ℕ} {slots : ℕ → Option α} {head tail : ℕ} {items : List α} {x : α}

/-- The slot under the tail is empty exactly when there is room. -/
theorem slot_tail_eq_none_iff (h : Held n slots head tail items) :
    slots tail = none ↔ items.length < n := by
  constructor
  · intro hs
    by_contra hge
    have hn : items.length = n := by have := h.length_le; omega
    have hh := h.head_lt
    have htail : tail = (head + 0) % n := by
      rw [h.tail_eq, hn, Nat.add_mod_right, Nat.add_zero]
    rw [htail, h.slot_eq (by omega)] at hs
    exact Option.some_ne_none _ hs
  · intro hl
    rw [h.tail_eq]
    exact h.slot_outside _ le_rfl hl

/-- The slot under the head is empty exactly when there is no item. -/
theorem slot_head_eq_none_iff (h : Held n slots head tail items) :
    slots head = none ↔ items = [] := by
  have hh := h.head_lt
  have h0 : head = (head + 0) % n := by rw [Nat.add_zero, Nat.mod_eq_of_lt hh]
  constructor
  · intro hs
    cases items with
    | nil => rfl
    | cons x items =>
      rw [h0, h.slot_eq (by simp)] at hs
      exact absurd hs (Option.some_ne_none _)
  · rintro rfl
    rw [h0]
    exact h.slot_outside 0 (by simp) (by omega)

theorem push (h : Held n slots head tail items) (hl : items.length < n) (x : α) :
    Held n (Function.update slots tail (some x)) head (succ n tail) (items ++ [x]) where
  toQueued := h.toQueued.push hl x
  slot_outside := by
    intro i hi hin
    rw [List.length_append, List.length_singleton] at hi
    rw [h.tail_eq, Function.update_of_ne]
    · exact h.slot_outside i (by omega) hin
    · intro he
      have := offset_inj hin hl he
      omega

/-- Taking the first item clears its slot. -/
theorem pop (h : Held n slots head tail (x :: items)) :
    slots head = some x ∧ Held n (Function.update slots head none) (succ n head) tail items := by
  obtain ⟨hx, hq⟩ := h.toQueued.pop
  have hh := h.head_lt
  have hlen := h.length_le
  rw [List.length_cons] at hlen
  -- Seen from the new head, the cleared slot is the last one.
  have hlast : (succ n head + (n - 1)) % n = head := by
    rw [offset_succ hh, show n - 1 + 1 = n by omega, Nat.add_mod_right, Nat.mod_eq_of_lt hh]
  have hview : view n (Function.update slots head none) (succ n head) items.length
      = view n slots (succ n head) items.length := by
    apply view_update_of_ne none
    intro i hi he
    have := offset_inj (by omega) (by omega) (he.trans hlast.symm)
    omega
  refine ⟨hx, ⟨hq.head_lt, hq.length_le, hq.tail_eq, hview.trans hq.view_eq⟩, ?_⟩
  intro i hi hin
  by_cases hi' : i = n - 1
  · rw [hi', hlast, Function.update_self]
  · rw [Function.update_of_ne, offset_succ hh]
    · exact h.slot_outside (i + 1) (by simpa using hi) (by omega)
    · intro he
      exact hi' (offset_inj hin (by omega) (he.trans hlast.symm))

/-- With all slots taken there are as many items as slots. -/
theorem forall_slot_ne_none_iff (h : Held n slots head tail items) :
    (∀ i < n, slots i ≠ none) ↔ items.length = n := by
  have hle := h.length_le
  constructor
  · intro hall
    have hlt := mt h.slot_tail_eq_none_iff.mpr (hall tail h.tail_lt)
    omega
  · intro hlen i hi
    obtain ⟨k, hk, rfl⟩ := exists_offset h.head_lt hi
    rw [h.slot_eq (by omega)]
    exact Option.some_ne_none _

/-- Cursors apart delimit the slots that are taken. -/
theorem slot_ne_none_iff (h : Held n slots head tail items) (hne : head ≠ tail) {i : ℕ}
    (hi : i < n) : slots i ≠ none ↔ IsBetween head tail i := by
  have hh := h.head_lt
  have hle := h.length_le
  have htail := h.tail_eq
  obtain ⟨k, hk, hik⟩ := exists_offset hh hi
  -- A slot is taken when its offset from the head is below the number of items.
  have htaken : slots i ≠ none ↔ k < items.length := by
    rw [← hik]
    constructor
    · intro hs
      by_contra hge
      exact hs (h.slot_outside k (Nat.not_lt.mp hge) hk)
    · intro hlt
      rw [h.slot_eq hlt]
      exact Option.some_ne_none _
  rw [htaken]
  rw [offset_eq hh hk.le] at hik
  rw [offset_eq hh hle] at htail
  unfold IsBetween
  split_ifs at hik htail ⊢ <;> omega

/-- Cursors that meet delimit all slots or none. -/
theorem slots_of_head_eq_tail (h : Held n slots head tail items) (heq : head = tail) :
    (∀ i < n, slots i ≠ none) ∨ ∀ i < n, slots i = none := by
  rcases h.head_eq_tail_iff'.mp heq with rfl | hlen
  · right
    intro i hi
    obtain ⟨k, hk, rfl⟩ := exists_offset h.head_lt hi
    exact h.slot_outside k (Nat.zero_le k) hk
  · exact Or.inl (h.forall_slot_ne_none_iff.mpr hlen)

/-- Once around the ring from the head: the items, then empty slots. -/
theorem view_full (h : Held n slots head tail items) :
    view n slots head n = items.map some ++ List.replicate (n - items.length) none := by
  have hsplit : n = items.length + (n - items.length) := by have := h.length_le; omega
  have hview : view n slots head n = view n slots head items.length
      ++ (List.range (n - items.length)).map fun i =>
        slots ((head + (items.length + i)) % n) := by
    conv_lhs => rw [view, hsplit, List.range_add, List.map_append, List.map_map]
    rw [← hsplit]
    rfl
  rw [hview, h.view_eq]
  congr 1
  apply List.eq_replicate_iff.mpr
  constructor
  · simp
  · intro x hx
    obtain ⟨i, hi, rfl⟩ := List.mem_map.mp hx
    rw [List.mem_range] at hi
    exact h.slot_outside _ (by omega) (by omega)

/-- The entries of the array are the items, in some order. -/
theorem entries_perm (h : Held n slots head tail items) :
    ((List.range n).filterMap slots).Perm items := by
  have hentries : (view n slots head n).filterMap id = items := by
    rw [h.view_full, List.filterMap_append]
    simp
  have hperm : (view n slots head n).Perm ((List.range n).map slots) := by
    rw [view_eq_rotate]
    exact List.rotate_perm _ _
  have := hperm.filterMap id
  rw [hentries, List.filterMap_map] at this
  exact this.symm

end Held

end CyclicBuffer
