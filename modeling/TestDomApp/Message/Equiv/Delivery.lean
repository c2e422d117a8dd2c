import TestDomApp.Message.Equiv.Queue

/-!
# Delivery and waking

What any number of threads can rely on, whatever the order of their steps.  The pointers handed to
receivers are those stored by successful sends, each once and in order, as far as they have come;
the rest is in the slots between the cursors (`queue_conserves`).  And a receiver that is parked has
nothing to receive: `receiverWaiting` is one flag for all who wait, but it is cleared only by a
receiver that found a message, and then nobody is parked (`no_lost_wakeup`).
-/

namespace TestDomApp

open Transition CyclicBuffer

variable {τ α : Type*}

/-- The slots from `nextElemGet` up to `nextElemPut`, around the ring. -/
def MessageQueue.waiting (mq : MessageQueue τ α) : List (Option α) :=
  view messageQueueSize mq.queue mq.nextElemGet
    ((mq.nextElemPut + messageQueueSize - mq.nextElemGet) % messageQueueSize)

/-- What a receiving call that returns `MEM_SUCCESS` leaves in `*msg`. -/
def handed? : QueueOp τ α × QueueResult α → Option (Option α)
  | (.receive _, .returned ret msg) => if ret = memSuccess then some msg else none
  | (.resume _, .returned ret msg) => if ret = memSuccess then some msg else none
  | (.receiveNonblock _, .returned ret msg) => if ret = memSuccess then some msg else none
  | _ => none

/-- A send that does not succeed, or a nonblocking receive that returns `MEM_ERROR`. -/
def Rejected (l : QueueOp τ α × QueueResult α) : Prop :=
  (∃ t msg, l.1.IsSend t msg ∧ l.2 ≠ .returned memSuccess none) ∨
    ∃ t, l = (.receiveNonblock t, .returned memError none)

namespace QueueSystem

/-- The pointers handed to receivers in a history, in order. -/
def handed (tr : List (Step (QueueSystem τ α) (QueueOp τ α × QueueResult α))) : List (Option α) :=
  tr.filterMap fun x => handed? x.label

theorem Ring.waiting_eq {s : QueueSystem τ α} {items : List α} (h : s.Ring items) :
    s.mq.waiting = items.map some := by
  have hlen : (s.mq.nextElemPut + messageQueueSize - s.mq.nextElemGet) % messageQueueSize
      = items.length := by
    have hput := h.queued.tail_eq
    have hget := h.queued.head_lt
    have hle := h.le_one
    unfold messageQueueSize at *
    omega
  rw [MessageQueue.waiting, hlen]
  exact h.queued.view_eq

variable [DecidableEq τ] {s₀ s s' : QueueSystem τ α} {l : QueueOp τ α × QueueResult α}
  {tr : List (Step (QueueSystem τ α) (QueueOp τ α × QueueResult α))}

/-! ### Delivery -/

/-- What a step hands out is what it takes from the queue, and never an empty slot. -/
theorem handed?_eq {items : List α} (h : s.Ring items) (hn : s.Next l s') :
    handed? l = (fifoLabel l).popped?.map some := by
  cases hn.effect with
  | stores hop heq => rcases hop with rfl | rfl <;> rfl
  | refuses hop hne => rcases hop with rfl | rfl <;> rfl
  | fallsOff hop hne => rcases hop with rfl | rfl <;> rfl
  | takes hop hne =>
    obtain ⟨msg, items', -, hslot, -⟩ := h.exists_cons hne
    rw [hslot]
    rcases hop with rfl | rfl <;> rfl
  | parks hop heq => rcases hop with rfl | rfl <;> rfl
  | takesNow t hne =>
    obtain ⟨msg, items', -, hslot, -⟩ := h.exists_cons hne
    rw [hslot]
    rfl
  | findsNone t heq => rfl
  | wakes t => rfl

theorem handed_eq (hc : s₀.Created) (hr : Run Next s₀ tr s) :
    handed tr = (delivered tr).map some := by
  induction hr with
  | nil => rfl
  | @snoc tr s s' l hr hn ih =>
    obtain ⟨items, hring, -⟩ := run_fifo hc hr
    have hstep := handed?_eq hring hn
    rw [handed, List.filterMap_append, ← handed, ih, delivered, delivered, List.map_append,
      BoundedFifo.popped_append, List.map_append, List.map_singleton, BoundedFifo.popped_singleton,
      List.append_cancel_left_eq, List.filterMap_cons, List.filterMap_nil, hstep]
    cases (fifoLabel l).popped? <;> rfl

/-- A call that is rejected leaves the indices and the slots as they are. -/
theorem unchanged_of_rejected (hn : s.Next l s') (hrej : Rejected l) :
    s'.mq.queue = s.mq.queue ∧ s'.mq.nextElemPut = s.mq.nextElemPut ∧
      s'.mq.nextElemGet = s.mq.nextElemGet := by
  rcases hrej with ⟨t, msg, hop, hres⟩ | ⟨t, rfl⟩
  · cases hn.effect with
    | stores hop' heq => exact absurd rfl hres
    | takes hop' hne => rcases hop with rfl | rfl <;> simp at hop'
    | takesNow t hne => rcases hop with h | h <;> cases h
    | _ => exact ⟨rfl, rfl, rfl⟩
  · generalize hl : (QueueOp.receiveNonblock t, QueueResult.returned memError (none : Option α)) = l
      at hn
    cases hn.effect with
    | stores hop heq => rcases hop with rfl | rfl <;> simp at hl
    | takes hop hne => rcases hop with rfl | rfl <;> simp at hl
    | takesNow t hne => simp [memError, memSuccess] at hl
    | _ => exact ⟨rfl, rfl, rfl⟩

/-- **Nothing is lost, duplicated, reordered or altered.**  In every history of a created queue the
pointers stored by successful sends are, in order, those handed to receivers and then those in the
slots from the get index up to the put index.  Both indices stay inside the ring, and a call that is
rejected changes neither them nor the slots. -/
theorem queue_conserves (hc : s₀.Created) (hr : Run Next s₀ tr s) :
    (accepted tr).map some = handed tr ++ s.mq.waiting ∧
    s.mq.nextElemPut < messageQueueSize ∧ s.mq.nextElemGet < messageQueueSize ∧
    ∀ x ∈ tr, Rejected x.label →
      x.post.mq.queue = x.pre.mq.queue ∧ x.post.mq.nextElemPut = x.pre.mq.nextElemPut ∧
        x.post.mq.nextElemGet = x.pre.mq.nextElemGet := by
  obtain ⟨items, hring, hlaw⟩ := run_fifo hc hr
  refine ⟨?_, hring.queued.tail_lt, hring.queued.head_lt, ?_⟩
  · rw [handed_eq hc hr, hring.waiting_eq, ← List.map_append, hlaw]
  · intro x hx hrej
    obtain ⟨_, -, -, hn⟩ := hr.of_mem hx
    exact unchanged_of_rejected hn hrej

/-- A message is stored and taken, and another is stored. -/
theorem queue_conserves_three :
    ∃ (tr : List (Step (QueueSystem ℕ ℕ) (QueueOp ℕ ℕ × QueueResult ℕ))) (s : QueueSystem ℕ ℕ),
      Run Next fresh tr s ∧ tr.length = 3 ∧
      (accepted tr).map some = handed tr ++ s.mq.waiting := by
  let slots₁ : ℕ → Option ℕ := Function.update (fun _ => none) 0 (some 10)
  let slots₂ : ℕ → Option ℕ := Function.update slots₁ 1 (some 11)
  have h₁ : Next (fresh : QueueSystem ℕ ℕ) (.send 0 10, .returned memSuccess none)
    (idle none slots₁ 1 0) := rfl
  have h₂ : Next (idle none slots₁ 1 0) (.receiveNonblock 1, .returned memSuccess (some 10))
    (idle none slots₁ 1 1) := rfl
  have h₃ : Next (idle none slots₁ 1 1) (.send 0 11, .returned memSuccess none)
    (idle none slots₂ 2 1) := rfl
  have hr := ((Run.nil.snoc h₁).snoc h₂).snoc h₃
  exact ⟨_, _, hr, rfl, (queue_conserves fresh_created hr).1⟩

/-! ### Waking -/

/-- Who is parked waits, has set the flag, and finds the queue empty. -/
def ParkedEmpty (s : QueueSystem τ α) : Prop :=
  ∀ t, s.mq.queueCV t = true →
    s.inWait t = true ∧ s.mq.receiverWaiting = receiverIsWaiting ∧
      s.mq.nextElemGet = s.mq.nextElemPut

omit [DecidableEq τ] in
theorem Created.parkedEmpty (hc : s.Created) : s.ParkedEmpty := by
  obtain ⟨slots, hmq⟩ := hc.mq_eq
  intro t ht
  rw [hmq] at ht
  exact absurd ht Bool.false_ne_true

/-- **One step.**  A send that stores a message finds the flag set if anybody is parked, and wakes
them all; the flag is cleared where a message was found, and nobody is parked there. -/
theorem ParkedEmpty.step (h : s.ParkedEmpty) (hn : s.Next l s') : s'.ParkedEmpty := by
  intro t ht
  cases hn.effect with
  | stores hop heq =>
    dsimp only at ht
    split_ifs at ht with hflag
    exact absurd (h t ht).2.1 hflag
  | refuses hop hne => exact h t ht
  | fallsOff hop hne => exact h t ht
  | takes hop hne => exact absurd (h t ht).2.2 hne
  | @parks op u hop heq =>
    refine ⟨?_, rfl, heq⟩
    show Function.update s.inWait u true t = true
    by_cases htu : t = u
    · rw [htu, Function.update_self]
    · rw [Function.update_of_ne htu]
      have hold : Function.update s.mq.queueCV u true t = true := ht
      rw [Function.update_of_ne htu] at hold
      exact (h t hold).1
  | takesNow u hne => exact absurd (h t ht).2.2 hne
  | findsNone u heq => exact h t ht
  | wakes u =>
    have hold : Function.update s.mq.queueCV u false t = true := ht
    have htu : t ≠ u := by
      rintro rfl
      rw [Function.update_self] at hold
      exact Bool.false_ne_true hold
    rw [Function.update_of_ne htu] at hold
    exact h t hold

/-- **No wake-up is lost.**  In every reachable state of a created queue, a receiver that is parked
and not yet woken finds the flag `receiverWaiting` set and the queue empty; so nobody is parked
while there is a message. -/
theorem no_lost_wakeup (hc : s₀.Created) (hr : Run Next s₀ tr s) :
    (∀ t, s.mq.queueCV t = true → s.inWait t = true ∧
      s.mq.receiverWaiting = receiverIsWaiting ∧ s.mq.nextElemGet = s.mq.nextElemPut) ∧
    (s.mq.nextElemGet ≠ s.mq.nextElemPut → ∀ t, s.mq.queueCV t = false) := by
  have hinv : s.ParkedEmpty := by
    apply hr.invariant (I := ParkedEmpty) hc.parkedEmpty
    intro s l s' h hn
    exact h.step hn
  refine ⟨hinv, ?_⟩
  intro hne t
  by_contra hparked
  exact hne (hinv t (Bool.not_eq_false _ ▸ hparked)).2.2

/-- A receiver parks on the empty queue. -/
theorem no_lost_wakeup_parked :
    ∃ (tr : List (Step (QueueSystem ℕ ℕ) (QueueOp ℕ ℕ × QueueResult ℕ))) (s : QueueSystem ℕ ℕ),
      Run Next fresh tr s ∧ s.mq.queueCV 1 = true ∧ s.mq.receiverWaiting = receiverIsWaiting := by
  have h₁ : Next (fresh : QueueSystem ℕ ℕ) (.receive 1, .waits)
    ⟨⟨none, Function.update (fun _ => false) 1 true, receiverIsWaiting, fun _ => none, 0, 0⟩,
      Function.update (fun _ => false) 1 true⟩ := rfl
  have hr := Run.nil.snoc h₁
  have hparked : Function.update (fun _ => false) 1 true 1 = true := Function.update_self _ _ _
  exact ⟨_, _, hr, hparked, ((no_lost_wakeup fresh_created hr).1 1 hparked).2.1⟩

end QueueSystem

end TestDomApp
