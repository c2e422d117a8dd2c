import TestDomApp.Message.Equiv.History
import TestDomApp.Message.QueueList

/-!
# Queues do not interfere

A step on one queue of the list is a step of that queue and its threads (`Next.on`), and leaves the
others alone (`Next.view_of_ne`).  So the history of the list, from the creation of a queue on, is
for this queue a history of a created queue, and what is known of one queue holds of each
(`created_queue`).
-/

namespace TestDomApp

open Transition

variable {τ α : Type*}

/-- The step of a thread on the queue `q`, if the step is one. -/
def stepOn (q : Fin numMessageQueues) :
    ListOp τ α × ListResult α → Option (QueueOp τ α × QueueResult α)
  | (.on q' op, .result res) => if q' = q then some (op, res) else none
  | _ => none

namespace QueueList

variable {s s' : QueueList τ α} {q q' : Fin numMessageQueues} {u : QueueSystem τ α}

@[simp] theorem view_setView (s : QueueList τ α) (q : Fin numMessageQueues)
    (u : QueueSystem τ α) : (s.setView q u).view q = u := by
  obtain ⟨mq, inWait⟩ := u
  unfold view setView
  congr 1
  · exact Function.update_self _ _ _
  · funext t
    by_cases ht : inWait t = true
    · simp [ht]
    · by_cases hq : s.waitsOn t = some q <;> simp [ht, hq]

/-- Another queue is left alone, if threads that wait on `q` have not waited there. -/
theorem view_setView_of_ne (hne : q' ≠ q)
    (hwait : ∀ t, u.inWait t = true → s.waitsOn t = none ∨ s.waitsOn t = some q) :
    (s.setView q u).view q' = s.view q' := by
  unfold view setView
  congr 1
  · exact Function.update_of_ne hne _ _
  · funext t
    have hne' : some q ≠ some q' := fun h => hne (Option.some.inj h).symm
    by_cases ht : u.inWait t = true
    · rcases hwait t ht with h | h <;> simp [ht, h, hne.symm]
    · by_cases hq : s.waitsOn t = some q <;> simp [ht, hq, hne.symm]

end QueueList

/-- A step makes nobody wait but the thread that takes it. -/
theorem QueueSystem.inWait_of_next [DecidableEq τ] {s s' : QueueSystem τ α}
    {l : QueueOp τ α × QueueResult α} (hn : s.Next l s') {t : τ} (ht : s'.inWait t = true) :
    s.inWait t = true ∨ t = l.1.thread := by
  cases hn.effect with
  | @takes op u hop hne =>
    left
    by_cases htu : t = u
    · subst htu
      simp at ht
    · simpa [htu] using ht
  | @parks op u hop heq =>
    by_cases htu : t = u
    · right
      rcases hop with rfl | rfl
      · exact htu
      · exact htu
    · left
      simpa [htu] using ht
  | _ => exact Or.inl ht

namespace QueueList

variable [DecidableEq τ] {s₀ s s' : QueueList τ α} {q q' : Fin numMessageQueues}
  {l : ListOp τ α × ListResult α}

/-- A step on a queue is one of the queue and its threads, by a thread that waits nowhere else. -/
theorem next_on_iff {op : QueueOp τ α} {res : QueueResult α} :
    s.Next (.on q op, .result res) s' ↔
      (s.waitsOn op.thread = none ∨ s.waitsOn op.thread = some q) ∧
      ∃ u, (s.view q).Next (op, res) u ∧ s' = s.setView q u := by
  unfold Next QueueSystem.Next
  simp only [Allows, step, true_and, Option.ite_none_right_eq_some, Option.map_eq_some_iff,
    Prod.exists, Prod.mk.injEq, ListResult.result.injEq]
  constructor
  · rintro ⟨hwait, res', u, hstep, rfl, rfl⟩
    exact ⟨hwait, u, hstep, rfl⟩
  · rintro ⟨hwait, u, hstep, rfl⟩
    exact ⟨hwait, res, u, hstep, rfl, rfl⟩

/-- A step on a queue has a result of that queue. -/
theorem Next.exists_result {op : QueueOp τ α} {r : ListResult α} (hn : s.Next (.on q op, r) s') :
    ∃ res, r = .result res := by
  obtain ⟨-, hn⟩ := hn
  simp only [step, Option.ite_none_right_eq_some, Option.map_eq_some_iff, Prod.mk.injEq] at hn
  obtain ⟨-, r', -, rfl, -⟩ := hn
  exact ⟨_, rfl⟩

/-- The steps that are not on `q` and do not create it leave `q` alone. -/
theorem Next.view_of_ne (hn : s.Next l s') (hsel : stepOn q l = none)
    (hno : ∀ mutexInit condInit, l.1 ≠ .create q mutexInit condInit) : s'.view q = s.view q := by
  obtain ⟨op, r⟩ := l
  cases op with
  | on q' op =>
    obtain ⟨res, rfl⟩ := hn.exists_result
    have hne : q ≠ q' := by
      rintro rfl
      simp [stepOn] at hsel
    obtain ⟨hwait, u, hu, rfl⟩ := next_on_iff.mp hn
    apply view_setView_of_ne hne
    intro t ht
    rcases QueueSystem.inWait_of_next hu ht with h | rfl
    · exact Or.inr (of_decide_eq_true h)
    · exact hwait
  | create k mutexInit condInit =>
    obtain ⟨-, hn⟩ := hn
    simp only [step] at hn
    split_ifs at hn with hk
    · obtain ⟨-, rfl⟩ := Prod.mk.inj (Option.some.inj hn)
      have hne : q ≠ ⟨k, hk⟩ := by
        rintro rfl
        exact hno mutexInit condInit rfl
      simp [view, Function.update_of_ne hne]
    · obtain ⟨-, rfl⟩ := Prod.mk.inj (Option.some.inj hn)
      rfl

/-- A queue whose creation has succeeded is a created queue. -/
theorem Next.created {mutexInit condInit : ℤ}
    (hn : s.Next (.create q mutexInit condInit, .created q) s') : (s'.view q).Created := by
  obtain ⟨hallows, hn⟩ := hn
  unfold step at hn
  dsimp only at hn
  rw [dif_pos q.isLt] at hn
  obtain ⟨hret, rfl⟩ := Prod.mk.inj (Option.some.inj hn)
  refine ⟨⟨q, mutexInit, condInit, s.queues q, ?_⟩, ?_⟩
  · refine Prod.ext (ListResult.created.inj hret) ?_
    show _ = Function.update s.queues q _ q
    rw [Function.update_self]
  · intro t
    have hnot := (hallows q.isLt).2 t
    simpa [view] using hnot

/-! ### Histories -/

/-- The steps of a history on the queue `q`. -/
def historyOf (q : Fin numMessageQueues)
    (tr : List (Step (QueueList τ α) (ListOp τ α × ListResult α))) :
    List (Step (QueueSystem τ α) (QueueOp τ α × QueueResult α)) :=
  Run.project (view q) (stepOn q) tr

/-- **A history of the list is one of each queue**, as long as the queue is not created again. -/
theorem run_historyOf {tr : List (Step (QueueList τ α) (ListOp τ α × ListResult α))}
    (hr : Run Next s₀ tr s)
    (hno : ∀ y ∈ tr, ∀ mutexInit condInit, y.label.1 ≠ .create q mutexInit condInit) :
    Run QueueSystem.Next (s₀.view q) (historyOf q tr) (s.view q) := by
  apply hr.run_project
  · rintro ⟨t, ⟨op, r⟩, u⟩ - f hn hsel
    cases op with
    | create k mutexInit condInit => exact nomatch hsel
    | on q' op =>
      obtain ⟨res, rfl⟩ := Next.exists_result hn
      obtain ⟨rfl, rfl⟩ : q' = q ∧ (op, res) = f := by
        simpa [stepOn] using hsel
      obtain ⟨-, v, hv, hu⟩ := next_on_iff.mp hn
      rw [hu, view_setView]
      exact hv
  · intro x hx hn hsel
    exact hn.view_of_ne hsel (hno x hx)

/-- **The queues of the list do not interfere.**  From its creation on, and until it is created
again, every queue delivers what it has accepted, in order; its results follow from what has
happened on it alone; nobody is parked on it while it holds a message; and a thread at the right
point can take its step unless it waits elsewhere, or a send on this very queue has fallen off. -/
theorem created_queue {tr₁ tr₂ : List (Step (QueueList τ α) (ListOp τ α × ListResult α))}
    {x : Step (QueueList τ α) (ListOp τ α × ListResult α)} {mutexInit condInit : ℤ}
    (hr : Run Next s₀ (tr₁ ++ x :: tr₂) s)
    (hx : x.label = (.create q mutexInit condInit, .created q))
    (hno : ∀ y ∈ tr₂, ∀ mutexInit condInit, y.label.1 ≠ .create q mutexInit condInit) :
    let tr := historyOf q tr₂
    (QueueSystem.accepted tr).map some = QueueSystem.handed tr ++ (s.queues q).waiting ∧
    (∀ tr₃ y, tr₃ ++ [y] <+: tr → y.label.2 =
      resultAfter (QueueSystem.pending tr₃) (QueueSystem.delivered tr₃).length y.label.1) ∧
    (∀ t, (s.queues q).queueCV t = true →
      s.waitsOn t = some q ∧ (s.queues q).nextElemGet = (s.queues q).nextElemPut) ∧
    ∀ op : QueueOp τ α, (∃ res s', s.Next (.on q op, .result res) s') ↔
      (s.waitsOn op.thread = none ∨ s.waitsOn op.thread = some q) ∧ op.Ready (s.view q) ∧
        (op.IsWake ∨ ∀ y ∈ tr, y.label.2 ≠ .fellOff) := by
  intro tr
  obtain ⟨u, hr₁, hr₂⟩ := (List.append_cons tr₁ x tr₂ ▸ hr).of_append
  obtain ⟨-, hn, rfl⟩ := Run.snoc_iff.mp hr₁
  rw [hx] at hn
  have hc := hn.created
  have hq := run_historyOf hr₂ hno
  refine ⟨?_, ?_, ?_, ?_⟩
  · obtain ⟨items, hring, hlaw⟩ := QueueSystem.run_fifo hc hq
    have hwaiting : (s.queues q).waiting = items.map some := hring.waiting_eq
    rw [QueueSystem.handed_eq hc hq, hwaiting, ← List.map_append, hlaw]
  · rintro tr₃ y ⟨tr₄, htr⟩
    rw [← List.append_cons] at htr
    have hq' := hq
    rw [show historyOf q tr₂ = tr₃ ++ y :: tr₄ from htr.symm] at hq'
    obtain ⟨hq₃, hy⟩ := hq'.of_append_cons
    exact QueueSystem.result_of_ring (QueueSystem.ring_pending hc hq₃)
      (QueueSystem.nextElemGet_eq hc hq₃) hy
  · intro t ht
    have hparked : (s.view q).ParkedEmpty := by
      apply hq.invariant (I := QueueSystem.ParkedEmpty) hc.parkedEmpty
      intro v l v' h hv
      exact h.step hv
    obtain ⟨hwait, -, hcursors⟩ := hparked t ht
    exact ⟨of_decide_eq_true hwait, hcursors⟩
  · intro op
    rw [← QueueSystem.queueInfo_eq_none_iff hc hq, ← QueueSystem.enabled_iff]
    simp only [next_on_iff]
    constructor
    · rintro ⟨res, s', hwait, v, hv, -⟩
      exact ⟨hwait, res, v, hv⟩
    · rintro ⟨hwait, res, v, hv⟩
      exact ⟨res, _, hwait, v, hv, rfl⟩

/-- `msgQueueList` before the program has touched it. -/
def static : QueueList τ α :=
  ⟨fun _ => ⟨none, fun _ => false, 0, fun _ => none, 0, 0⟩, fun _ => none⟩

/-- A queue is created, and a message is sent to it. -/
theorem created_queue_send :
    ∃ (s₀ s₁ s : QueueList ℕ ℕ) (q : Fin numMessageQueues)
      (x : Step (QueueList ℕ ℕ) (ListOp ℕ ℕ × ListResult ℕ)),
      Run Next s₀ [⟨s₀, (.create q 0 0, .created q), s₁⟩, x] s ∧
      (QueueSystem.accepted (historyOf q [x])).map some =
        QueueSystem.handed (historyOf q [x]) ++ (s.queues q).waiting := by
  let q : Fin numMessageQueues := ⟨1, by decide⟩
  let s₁ : QueueList ℕ ℕ :=
    ⟨Function.update static.queues q QueueSystem.fresh.mq, fun _ => none⟩
  have h₁ : Next static (.create q 0 0, .created q) s₁ := ⟨fun _ => ⟨rfl, nofun⟩, rfl⟩
  obtain ⟨s₂, h₂⟩ : ∃ s₂, s₁.Next (.on q (.send 8 10), .result (.returned memSuccess none)) s₂ :=
    ⟨_, trivial, rfl⟩
  have hr : Run Next static ([] ++ _ :: [_]) s₂ := (Run.nil.snoc h₁).snoc h₂
  have hq := created_queue hr rfl (by simp)
  exact ⟨_, _, _, q, _, hr, hq.1⟩

end QueueList

end TestDomApp
