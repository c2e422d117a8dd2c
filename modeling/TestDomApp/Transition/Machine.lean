import Mathlib.Data.List.Basic

/-!
# Machines that answer

A machine gives one answer to every input and goes on in the next state.  Two states are
*indistinguishable* if every sequence of inputs is answered alike from both, and an input is
*answered always* in one way if no inputs before it make a difference.

* `Machine.Bisimulation.indist`: states related by a bisimulation cannot be told apart.
* `Machine.forall_mem_answers`: what the answers to these inputs have in every state.
-/

namespace Transition

/-- A deterministic machine with states `σ`, inputs `ι` and answers `ο`. -/
structure Machine (σ ι ο : Type*) where
  /-- The state an input leads to. -/
  next : σ → ι → σ
  /-- The answer given to an input. -/
  answer : σ → ι → ο

namespace Machine

variable {σ ι ο : Type*} (M : Machine σ ι ο) {s t : σ} {xs ys : List ι}

/-- The state after a sequence of inputs. -/
def after (s : σ) (xs : List ι) : σ := xs.foldl M.next s

/-- The answers given to a sequence of inputs, in order. -/
def answers : σ → List ι → List ο
  | _, [] => []
  | s, x :: xs => M.answer s x :: answers (M.next s x) xs

@[simp] theorem after_nil (s : σ) : M.after s [] = s := rfl

@[simp] theorem after_cons (s : σ) (x : ι) (xs : List ι) :
    M.after s (x :: xs) = M.after (M.next s x) xs := rfl

@[simp] theorem answers_nil (s : σ) : M.answers s [] = [] := rfl

@[simp] theorem answers_cons (s : σ) (x : ι) (xs : List ι) :
    M.answers s (x :: xs) = M.answer s x :: M.answers (M.next s x) xs := rfl

theorem after_append (s : σ) (xs ys : List ι) :
    M.after s (xs ++ ys) = M.after (M.after s xs) ys :=
  List.foldl_append

theorem answers_append (s : σ) (xs ys : List ι) :
    M.answers s (xs ++ ys) = M.answers s xs ++ M.answers (M.after s xs) ys := by
  induction xs generalizing s with
  | nil => rfl
  | cons x xs ih => rw [List.cons_append, answers_cons, ih, answers_cons, after_cons,
      List.cons_append]

@[simp] theorem length_answers (s : σ) (xs : List ι) : (M.answers s xs).length = xs.length := by
  induction xs generalizing s with
  | nil => rfl
  | cons x xs ih => rw [answers_cons, List.length_cons, ih, List.length_cons]

variable {M}

/-- What every answer to these inputs has, whatever the state, their answers have one after another.
-/
theorem forall_mem_answers {P : ο → Prop} (hP : ∀ t, ∀ x ∈ xs, P (M.answer t x)) :
    ∀ y ∈ M.answers s xs, P y := by
  induction xs generalizing s with
  | nil => nofun
  | cons x xs ih =>
    rw [answers_cons, List.forall_mem_cons]
    exact ⟨hP s x List.mem_cons_self, ih fun t y hy => hP t y (List.mem_cons_of_mem _ hy)⟩

/-! ### Telling states apart -/

/-- No sequence of inputs tells the states apart. -/
def Indist (M : Machine σ ι ο) (s t : σ) : Prop := ∀ xs, M.answers s xs = M.answers t xs

/-- Related states answer alike, and stay related. -/
structure Bisimulation (M : Machine σ ι ο) (R : σ → σ → Prop) : Prop where
  answer : ∀ s t x, R s t → M.answer s x = M.answer t x
  next : ∀ s t x, R s t → R (M.next s x) (M.next t x)

/-- States related by a bisimulation cannot be told apart. -/
theorem Bisimulation.indist {R : σ → σ → Prop} (h : M.Bisimulation R) (hst : R s t) :
    M.Indist s t := by
  intro xs
  induction xs generalizing s t with
  | nil => rfl
  | cons x xs ih => rw [answers_cons, answers_cons, h.answer s t x hst, ih (h.next s t x hst)]

theorem Indist.answer_eq (h : M.Indist s t) (x : ι) : M.answer s x = M.answer t x :=
  (List.cons.inj (h [x])).1

/-! ### Answers that never change -/

end Machine

end Transition
