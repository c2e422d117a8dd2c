import TestDomApp.Transition.Run

/-!
# A bounded first-in first-out queue

The abstract queue of capacity `cap` is the list of what it holds.  It accepts an element at the
back while there is room and hands out the one at the front; a step that does neither is `skip`.
Whatever the order of the steps, what was in the queue and what was pushed since, in order, is
what was popped followed by what is still there (`pushed_eq_popped_append`).
-/

namespace BoundedFifo

open Transition

variable {α : Type*} {cap : ℕ}

/-- What a step does to the queue. -/
inductive Label (α : Type*)
  | push (x : α)
  | pop (x : α)
  | skip

namespace Label

/-- The element a step puts in. -/
def pushed? : Label α → Option α
  | .push x => some x
  | _ => none

/-- The element a step takes out. -/
def popped? : Label α → Option α
  | .pop x => some x
  | _ => none

end Label

/-- The steps of a queue of capacity `cap`. -/
inductive Next (cap : ℕ) : List α → Label α → List α → Prop
  | push {q : List α} (x : α) (h : q.length < cap) : Next cap q (.push x) (q ++ [x])
  | pop {q : List α} (x : α) : Next cap (x :: q) (.pop x) q
  | skip {q : List α} : Next cap q .skip q

/-- The elements put in by a list of steps, in order. -/
def pushed (ls : List (Label α)) : List α := ls.filterMap Label.pushed?

/-- The elements taken out by a list of steps, in order. -/
def popped (ls : List (Label α)) : List α := ls.filterMap Label.popped?

@[simp] theorem pushed_nil : pushed ([] : List (Label α)) = [] := rfl
@[simp] theorem popped_nil : popped ([] : List (Label α)) = [] := rfl

@[simp] theorem pushed_append (ls ms : List (Label α)) :
    pushed (ls ++ ms) = pushed ls ++ pushed ms :=
  List.filterMap_append

@[simp] theorem popped_append (ls ms : List (Label α)) :
    popped (ls ++ ms) = popped ls ++ popped ms :=
  List.filterMap_append

@[simp] theorem pushed_singleton (l : Label α) : pushed [l] = l.pushed?.toList := by
  cases l <;> rfl

@[simp] theorem popped_singleton (l : Label α) : popped [l] = l.popped?.toList := by
  cases l <;> rfl

/-- **Nothing is lost, duplicated or reordered.** -/
theorem pushed_eq_popped_append {q q' : List α} {tr : List (Step (List α) (Label α))}
    (h : Run (Next cap) q tr q') :
    q ++ pushed (tr.map Step.label) = popped (tr.map Step.label) ++ q' := by
  induction h with
  | nil => simp
  | snoc _ hn ih =>
    rw [List.map_append, pushed_append, popped_append, ← List.append_assoc, ih]
    cases hn with
    | push x _ => simp [Label.pushed?, Label.popped?]
    | pop x => simp [Label.pushed?, Label.popped?]
    | skip => simp [Label.pushed?, Label.popped?]

end BoundedFifo
