import TestDomApp.Transition.Run

/-!
# Two runs that differ in some steps

A list of edits says where two runs of one relation agree and where they differ: a step is in both,
or it is removed from the first, or inserted into the second.  A step that moves is removed in one
place and inserted in another.

* `Run.relate`: a relation between states that every edit keeps relates the ends of the two runs.
* `Run.of_kept_before`, `Run.of_kept_after`: a step that is in both is taken in the states which the
  edits before it lead to.
-/

namespace Transition

variable {σ ε : Type*}

/-- A place where two runs agree or differ. -/
inductive Edit (σ ε : Type*)
  | kept (x₁ x₂ : Step σ ε)
  | removed (x : Step σ ε)
  | inserted (x : Step σ ε)

namespace Edit

/-- The step in the first run. -/
def before : Edit σ ε → Option (Step σ ε)
  | kept x₁ _ => some x₁
  | removed x => some x
  | inserted _ => none

/-- The step in the second run. -/
def after : Edit σ ε → Option (Step σ ε)
  | kept _ x₂ => some x₂
  | removed _ => none
  | inserted x => some x

/-- Steps that are kept have labels related by `same`, and the other labels are `silent`. -/
def IsValid (same : ε → ε → Prop) (silent : ε → Prop) : Edit σ ε → Prop
  | kept x₁ x₂ => same x₁.label x₂.label
  | removed x | inserted x => silent x.label

end Edit

namespace Run

variable {next : σ → ε → σ → Prop} {same : ε → ε → Prop} {silent : ε → Prop} {R : σ → σ → Prop}
  {s t₁ t₂ : σ} {es es₁ es₂ : List (Edit σ ε)} {x₁ x₂ : Step σ ε}

/-- A relation that the same steps keep, and silent steps on either side, relates the ends of two
runs that differ in silent steps. -/
theorem relate (hes : ∀ e ∈ es, e.IsValid same silent)
    (hr₁ : Run next s (es.filterMap Edit.before) t₁) (hr₂ : Run next s (es.filterMap Edit.after) t₂)
    (hs : R s s)
    (hsame : ∀ t₁ t₂ e₁ e₂ u₁ u₂, R t₁ t₂ → same e₁ e₂ → next t₁ e₁ u₁ → next t₂ e₂ u₂ → R u₁ u₂)
    (hleft : ∀ t₁ t₂ e u, R t₁ t₂ → silent e → next t₁ e u → R u t₂)
    (hright : ∀ t₁ t₂ e u, R t₁ t₂ → silent e → next t₂ e u → R t₁ u) : R t₁ t₂ := by
  induction es using List.reverseRecOn generalizing t₁ t₂ with
  | nil =>
    rw [nil_iff.mp hr₁, nil_iff.mp hr₂]
    exact hs
  | append_singleton es e ih =>
    have hvalid := hes e (List.mem_append_right _ (List.mem_singleton_self e))
    have hes' : ∀ e ∈ es, e.IsValid same silent := fun e he => hes e (List.mem_append_left _ he)
    rw [List.filterMap_append] at hr₁ hr₂
    cases e with
    | kept x₁ x₂ =>
      obtain ⟨hpre₁, hn₁, rfl⟩ := snoc_iff.mp hr₁
      obtain ⟨hpre₂, hn₂, rfl⟩ := snoc_iff.mp hr₂
      exact hsame _ _ _ _ _ _ (ih hes' hpre₁ hpre₂) hvalid hn₁ hn₂
    | removed x =>
      obtain ⟨hpre₁, hn, rfl⟩ := snoc_iff.mp hr₁
      have hpre₂ : Run next s (es.filterMap Edit.after) t₂ := by
        rw [← List.append_nil (es.filterMap Edit.after)]
        exact hr₂
      exact hleft _ _ _ _ (ih hes' hpre₁ hpre₂) hvalid hn
    | inserted x =>
      obtain ⟨hpre₂, hn, rfl⟩ := snoc_iff.mp hr₂
      have hpre₁ : Run next s (es.filterMap Edit.before) t₁ := by
        rw [← List.append_nil (es.filterMap Edit.before)]
        exact hr₁
      exact hright _ _ _ _ (ih hes' hpre₁ hpre₂) hvalid hn

/-- A step that is kept, in the first run. -/
theorem of_kept_before
    (hr : Run next s ((es₁ ++ .kept x₁ x₂ :: es₂).filterMap Edit.before) t₁) :
    Run next s (es₁.filterMap Edit.before) x₁.pre ∧ next x₁.pre x₁.label x₁.post := by
  rw [List.filterMap_append, List.filterMap_cons] at hr
  exact hr.of_append_cons

/-- A step that is kept, in the second run. -/
theorem of_kept_after
    (hr : Run next s ((es₁ ++ .kept x₁ x₂ :: es₂).filterMap Edit.after) t₂) :
    Run next s (es₁.filterMap Edit.after) x₂.pre ∧ next x₂.pre x₂.label x₂.post := by
  rw [List.filterMap_append, List.filterMap_cons] at hr
  exact hr.of_append_cons

end Run

end Transition
