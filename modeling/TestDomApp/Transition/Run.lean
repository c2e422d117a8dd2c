import Mathlib.Data.List.Basic
import Mathlib.Data.List.Infix

/-!
# Runs of a labelled transition relation

`next s e t` says that a step labelled `e` leads from state `s` to state `t`.  A run is recorded
as the list of its steps, each with the states on either side, so a property of a run can speak
about the state every step was taken in.  `Run next s tr t` grows at the right end: the induction
on a run is the induction on how long the system has been running, and a history (what has
happened up to now) is a function of `tr`.

* `Run.invariant`: what every step keeps holds at the end of every run; `Run.invariant_of_mem` asks
  it of the steps of the run alone.
* `Run.exists_step`: what comes to hold in a run is brought about by one of its steps.
* `Run.of_mem`: a step of a run was taken in a state that the run before it reaches.
* `Run.between`: what happens between two steps of a run is a run.
* `Run.forall_iff`: two properties of a step that agree on every step from a reachable state hold
  of all steps of the same runs.
* `Run.forall_prefix_iff`: a property that a step keeps exactly under a condition holds all along the
  runs whose steps all meet it, and no others.
* `Run.eq_of_labels`: where a label leaves no choice, the labels of a run determine its end.
* `Run.run_project`: a run, looked at through a part of the state, is a run of that part.
* `Run.simulate`: a run is matched step by step by a run of another relation;
  `Run.simulate_of_mem` asks for it of the steps of the run alone.
-/

namespace Transition

variable {σ ε τ η : Type*}

/-- A step of a run: the state before it, its label and the state after it. -/
structure Step (σ ε : Type*) where
  /-- The state the step is taken in. -/
  pre : σ
  /-- What the step does. -/
  label : ε
  /-- The state the step leads to. -/
  post : σ

/-- `Run next s tr t`: the steps `tr`, taken one after another from `s`, end in `t`. -/
inductive Run (next : σ → ε → σ → Prop) (s : σ) : List (Step σ ε) → σ → Prop
  | nil : Run next s [] s
  | snoc {tr : List (Step σ ε)} {t u : σ} {e : ε} (hr : Run next s tr t) (hn : next t e u) :
      Run next s (tr ++ [⟨t, e, u⟩]) u

namespace Run

variable {next : σ → ε → σ → Prop} {s t u : σ} {tr tr₁ tr₂ : List (Step σ ε)} {x : Step σ ε}

theorem nil_iff : Run next s [] t ↔ t = s := by
  constructor
  · intro h
    generalize hl : ([] : List (Step σ ε)) = l at h
    cases h with
    | nil => rfl
    | snoc hr hn => simp at hl
  · rintro rfl
    exact .nil

/-- The last step of a run, taken off. -/
theorem snoc_iff : Run next s (tr ++ [x]) t ↔
    Run next s tr x.pre ∧ next x.pre x.label x.post ∧ t = x.post := by
  constructor
  · intro h
    generalize hl : tr ++ [x] = l at h
    cases h with
    | nil => simp at hl
    | snoc hr hn =>
      obtain ⟨rfl, hx⟩ := List.append_inj' hl rfl
      obtain rfl := List.cons.inj hx |>.1
      exact ⟨hr, hn, rfl⟩
  · rintro ⟨hr, hn, rfl⟩
    exact .snoc hr hn

/-- A run splits at every point of its list of steps. -/
theorem of_append (h : Run next s (tr₁ ++ tr₂) u) :
    ∃ t, Run next s tr₁ t ∧ Run next t tr₂ u := by
  induction tr₂ using List.reverseRecOn generalizing u with
  | nil => exact ⟨u, by simpa using h, .nil⟩
  | append_singleton tr₂ x ih =>
    rw [← List.append_assoc, snoc_iff] at h
    obtain ⟨hr, hn, rfl⟩ := h
    obtain ⟨t, h₁, h₂⟩ := ih hr
    exact ⟨t, h₁, .snoc h₂ hn⟩

/-- A step of a run was taken in the state reached by the steps before it. -/
theorem of_append_cons (h : Run next s (tr₁ ++ x :: tr₂) t) :
    Run next s tr₁ x.pre ∧ next x.pre x.label x.post := by
  rw [List.append_cons] at h
  obtain ⟨_, h₁, -⟩ := of_append h
  obtain ⟨hr, hn, -⟩ := snoc_iff.mp h₁
  exact ⟨hr, hn⟩

/-- The steps between two steps of a run lead from after the one to before the other. -/
theorem between {tr₃ : List (Step σ ε)} {y : Step σ ε}
    (h : Run next s (tr₁ ++ x :: (tr₂ ++ y :: tr₃)) t) : Run next x.post tr₂ y.pre := by
  rw [List.append_cons] at h
  obtain ⟨u, h₁, h₂⟩ := of_append h
  obtain ⟨-, -, rfl⟩ := snoc_iff.mp h₁
  exact h₂.of_append_cons.1

/-- Every step of a run was taken in a state reached by the steps before it. -/
theorem of_mem (h : Run next s tr t) (hx : x ∈ tr) :
    ∃ tr₁, tr₁ ++ [x] <+: tr ∧ Run next s tr₁ x.pre ∧ next x.pre x.label x.post := by
  obtain ⟨tr₁, tr₂, rfl⟩ := List.append_of_mem hx
  rw [List.append_cons]
  exact ⟨tr₁, List.prefix_append _ _, h.of_append_cons⟩

/-- What holds at the start and is kept by every step holds at the end. -/
theorem invariant {I : σ → Prop} (h : Run next s tr t) (hs : I s)
    (hstep : ∀ t e u, I t → next t e u → I u) : I t := by
  induction h with
  | nil => exact hs
  | snoc _ hn ih => exact hstep _ _ _ ih hn

/-- What holds at the start and is kept by the steps of the run holds at the end. -/
theorem invariant_of_mem {I : σ → Prop} (h : Run next s tr t) (hs : I s)
    (hstep : ∀ x ∈ tr, next x.pre x.label x.post → I x.pre → I x.post) : I t := by
  induction h with
  | nil => exact hs
  | snoc _ hn ih =>
    have hpre := ih fun x hx => hstep x (List.mem_append_left _ hx)
    exact hstep _ (List.mem_append_right _ (List.mem_singleton_self _)) hn hpre

/-- What does not hold at the start and holds at the end was brought about by a step. -/
theorem exists_step {P : σ → Prop} (h : Run next s tr t) (hs : ¬ P s) (ht : P t) :
    ∃ x ∈ tr, ¬ P x.pre ∧ P x.post := by
  by_contra hnone
  have hnot : ¬ P t := by
    apply h.invariant_of_mem (I := fun s => ¬ P s) hs
    intro x hx _ hpre hpost
    exact hnone ⟨x, hx, hpre, hpost⟩
  exact hnot ht

/-- If two properties of a step agree wherever a run can get to, all steps of a run have the one
exactly when all have the other. -/
theorem forall_iff {P C : Step σ ε → Prop} (h : Run next s tr t)
    (hPC : ∀ tr x, Run next s tr x.pre → next x.pre x.label x.post → (P x ↔ C x)) :
    (∀ x ∈ tr, P x) ↔ ∀ x ∈ tr, C x := by
  constructor
  · intro hP x hx
    obtain ⟨tr₁, _, hr, hn⟩ := h.of_mem hx
    exact (hPC tr₁ x hr hn).mp (hP x hx)
  · intro hC x hx
    obtain ⟨tr₁, _, hr, hn⟩ := h.of_mem hx
    exact (hPC tr₁ x hr hn).mpr (hC x hx)

/-- If every step keeps a property of the history and the state exactly when it meets a condition,
the property holds all along a run exactly when all its steps meet the condition. -/
theorem forall_prefix_iff {P : List (Step σ ε) → σ → Prop} {C : Step σ ε → Prop}
    (h : Run next s tr t) (hs : P [] s)
    (hstep : ∀ tr₁ x, tr₁ ++ [x] <+: tr → Run next s tr₁ x.pre → next x.pre x.label x.post →
      P tr₁ x.pre → (P (tr₁ ++ [x]) x.post ↔ C x)) :
    (∀ tr₁ t₁, tr₁ <+: tr → Run next s tr₁ t₁ → P tr₁ t₁) ↔ ∀ x ∈ tr, C x := by
  constructor
  · intro hP x hx
    obtain ⟨tr₁, hpfx, hr, hn⟩ := h.of_mem hx
    have hpre := hP tr₁ x.pre ((List.prefix_append _ _).trans hpfx) hr
    have hpost := hP (tr₁ ++ [x]) x.post hpfx (snoc_iff.mpr ⟨hr, hn, rfl⟩)
    exact (hstep tr₁ x hpfx hr hn hpre).mp hpost
  · intro hC tr₁ t₁ hpfx hr
    induction hr with
    | nil => exact hs
    | snoc hr hn ih =>
      have hpre := ih ((List.prefix_append _ _).trans hpfx)
      have hlast := hC _ (hpfx.subset (List.mem_append_right _ (List.mem_singleton_self _)))
      exact (hstep _ _ hpfx hr hn hpre).mpr hlast

/-- If a label leaves no choice, runs with the same labels from the same state end in the same
state. -/
theorem eq_of_labels (hdet : ∀ t e u v, next t e u → next t e v → u = v)
    (h₁ : Run next s tr₁ t) (h₂ : Run next s tr₂ u)
    (hl : tr₁.map Step.label = tr₂.map Step.label) : t = u := by
  induction h₁ generalizing tr₂ u with
  | nil =>
    obtain rfl := List.map_eq_nil_iff.mp hl.symm
    exact (nil_iff.mp h₂).symm
  | snoc hr hn ih =>
    rw [List.map_append] at hl
    obtain ⟨tr₂, tr₃, rfl, hl₂, hl₃⟩ := List.map_eq_append_iff.mp hl.symm
    obtain ⟨x, rfl, hx⟩ := List.map_eq_singleton_iff.mp hl₃
    obtain ⟨hr₂, hn₂, rfl⟩ := snoc_iff.mp h₂
    have hpre := ih hr₂ hl₂.symm
    rw [← hpre, hx] at hn₂
    exact hdet _ _ _ _ hn hn₂

/-- The steps that `sel` selects, as steps of the part of the state that `view` shows. -/
def project (view : σ → τ) (sel : ε → Option η) (tr : List (Step σ ε)) : List (Step τ η) :=
  tr.filterMap fun x => (sel x.label).map fun f => ⟨view x.pre, f, view x.post⟩

/-- If the steps of a run that are selected are steps of a part of the state, and the others leave
that part alone, the run is one of that part. -/
theorem run_project {next' : τ → η → τ → Prop} {view : σ → τ} {sel : ε → Option η}
    (h : Run next s tr t)
    (hmove : ∀ x ∈ tr, ∀ f, next x.pre x.label x.post → sel x.label = some f →
      next' (view x.pre) f (view x.post))
    (hstay : ∀ x ∈ tr, next x.pre x.label x.post → sel x.label = none →
      view x.post = view x.pre) : Run next' (view s) (project view sel tr) (view t) := by
  induction h with
  | nil => exact .nil
  | @snoc tr t u e hr hn ih =>
    have hlast : (⟨t, e, u⟩ : Step σ ε) ∈ tr ++ [⟨t, e, u⟩] :=
      List.mem_append_right _ (List.mem_singleton_self _)
    have hpre := ih (fun x hx => hmove x (List.mem_append_left _ hx))
      fun x hx => hstay x (List.mem_append_left _ hx)
    rw [project, List.filterMap_append, ← project]
    cases hsel : sel e with
    | none =>
      have hsame : view u = view t := hstay _ hlast hn hsel
      simpa [hsel, hsame] using hpre
    | some f =>
      have hstep : next' (view t) f (view u) := hmove _ hlast f hn hsel
      simpa [hsel] using hpre.snoc hstep

/-- A relation `R` between two systems that the steps of a run keep carries the whole run over: the
second system makes the same steps, under the names `f` gives their labels. -/
theorem simulate_of_mem {next' : τ → η → τ → Prop} {R : σ → τ → Prop} {f : ε → η} {s' : τ}
    (h : Run next s tr t) (hs : R s s')
    (hstep : ∀ x ∈ tr, ∀ t', R x.pre t' → next x.pre x.label x.post →
      ∃ u', next' t' (f x.label) u' ∧ R x.post u') :
    ∃ tr' t', Run next' s' tr' t' ∧ R t t' ∧
      tr'.map Step.label = tr.map fun x => f x.label := by
  induction h with
  | nil => exact ⟨[], s', .nil, hs, rfl⟩
  | snoc _ hn ih =>
    obtain ⟨tr', t', hr', hR, hl⟩ := ih fun x hx => hstep x (List.mem_append_left _ hx)
    obtain ⟨u', hn', hR'⟩ :=
      hstep _ (List.mem_append_right _ (List.mem_singleton_self _)) t' hR hn
    exact ⟨_, u', .snoc hr' hn', hR', by simp [hl]⟩

/-- A relation `R` between two systems that every step keeps carries a whole run over. -/
theorem simulate {next' : τ → η → τ → Prop} {R : σ → τ → Prop} {f : ε → η} {s' : τ}
    (h : Run next s tr t) (hs : R s s')
    (hstep : ∀ t e u t', R t t' → next t e u → ∃ u', next' t' (f e) u' ∧ R u u') :
    ∃ tr' t', Run next' s' tr' t' ∧ R t t' ∧
      tr'.map Step.label = tr.map fun x => f x.label :=
  h.simulate_of_mem hs fun x _ t' hR hn => hstep x.pre x.label x.post t' hR hn

end Run

end Transition
