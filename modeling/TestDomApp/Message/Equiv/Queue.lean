import TestDomApp.BoundedFifo.Basic
import TestDomApp.CyclicBuffer.View
import TestDomApp.Message.Queue

/-!
# What the message queue does

Every function of the queue is described by one equation for each of the cases the cursors
distinguish, and every step of a thread is one of these cases (`Effect`).  So every step keeps the
ring (`Ring`): the slots between the cursors hold a list of messages, and this list has at most one
element, since `Message_send` stores only while the cursors are equal.  The queue is therefore a
first-in first-out queue of capacity one (`run_fifo`).

Histories of a created queue are runs of its threads.  `send_returns_iff` says in which states a
call of `Message_send` returns and unlocks: when the queue is empty, or its one message lies in the
first or in the last slot.  `send_bounded_fifo_iff` says when a call treats the queue as one of
`MESSAGE_QUEUE_SIZE - 1` elements: when it is empty.
-/

namespace TestDomApp

open Transition CyclicBuffer

variable {τ α : Type*}

namespace MessageQueue

/-! ### One equation for each case -/

/-- `Message_send` on an empty queue stores the message and wakes who waits. -/
theorem send_of_eq {mq : MessageQueue τ α} (h : mq.nextElemPut = mq.nextElemGet) (t : τ)
    (msg : α) :
    mq.send t msg = (some memSuccess, { mq with
      queueInfo := none
      queueCV := if mq.receiverWaiting = receiverIsWaiting then fun _ => false else mq.queueCV
      queue := Function.update mq.queue mq.nextElemPut (some msg)
      nextElemPut := succ messageQueueSize mq.nextElemPut }) := by
  unfold send succ
  dsimp only [lock]
  rw [if_neg (by omega), if_neg (by omega)]
  dsimp only [unlock, broadcast]
  split_ifs <;> simp_all

/-- On a queue that is not empty `Message_send` changes nothing: it refuses the message, or runs
off its end with the mutex held. -/
theorem send_of_ne {mq : MessageQueue τ α} (h : mq.nextElemPut ≠ mq.nextElemGet) (t : τ)
    (msg : α) :
    mq.send t msg =
      if mq.nextElemPut < mq.nextElemGet ∨
          mq.nextElemPut ≠ messageQueueSize - 1 ∧ mq.nextElemGet = 0 then
        (some memError, { mq with queueInfo := none })
      else (none, { mq with queueInfo := some t }) := by
  unfold send
  dsimp only [lock, unlock]
  rcases Nat.lt_or_gt_of_ne h with hlt | hgt
  · rw [if_neg (by omega), if_pos hlt, if_pos (by omega), if_pos (Or.inl hlt)]
  · rw [if_pos hgt]
    have hnlt : ¬ mq.nextElemPut < mq.nextElemGet := by omega
    by_cases hlast : mq.nextElemPut = messageQueueSize - 1
    · rw [if_neg (by simpa using hlast), if_neg]
      rintro (hlt | ⟨hne, -⟩)
      · exact hnlt hlt
      · exact hne hlast
    · rw [if_pos hlast]
      by_cases hget : mq.nextElemGet = 0
      · rw [if_pos hget, if_pos (Or.inr ⟨hlast, hget⟩)]
      · rw [if_neg hget, if_neg (by simp [hnlt, hget])]

theorem takeElem_eq (mq : MessageQueue τ α) :
    mq.takeElem = (mq.queue mq.nextElemGet,
      { mq with nextElemGet := succ messageQueueSize mq.nextElemGet }) := by
  unfold takeElem succ
  dsimp only
  split_ifs <;> rfl

theorem receiveLoop_of_eq [DecidableEq τ] {mq : MessageQueue τ α}
    (h : mq.nextElemGet = mq.nextElemPut) (t : τ) :
    mq.receiveLoop t = (none, { mq with
      queueInfo := none
      queueCV := Function.update mq.queueCV t true
      receiverWaiting := receiverIsWaiting }) := by
  unfold receiveLoop
  dsimp only [lock]
  rw [if_pos h]

theorem receiveLoop_of_ne [DecidableEq τ] {mq : MessageQueue τ α}
    (h : mq.nextElemGet ≠ mq.nextElemPut) (t : τ) :
    mq.receiveLoop t = (some (memSuccess, mq.queue mq.nextElemGet), { mq with
      queueInfo := none
      receiverWaiting := noReceiverWaiting
      nextElemGet := succ messageQueueSize mq.nextElemGet }) := by
  unfold receiveLoop
  dsimp only [lock]
  rw [if_neg h, takeElem_eq]
  rfl

theorem receiveNonblock_of_eq {mq : MessageQueue τ α} (h : mq.nextElemGet = mq.nextElemPut)
    (t : τ) : mq.receiveNonblock t = (memError, none, { mq with queueInfo := none }) := by
  unfold receiveNonblock
  dsimp only [lock]
  rw [if_pos h]
  rfl

theorem receiveNonblock_of_ne {mq : MessageQueue τ α} (h : mq.nextElemGet ≠ mq.nextElemPut)
    (t : τ) :
    mq.receiveNonblock t = (memSuccess, mq.queue mq.nextElemGet, { mq with
      queueInfo := none
      nextElemGet := succ messageQueueSize mq.nextElemGet }) := by
  unfold receiveNonblock
  dsimp only [lock]
  rw [if_neg h, takeElem_eq]
  rfl

end MessageQueue

/-! ### Steps as steps of a queue -/

/-- A step is a call of `Message_send` or `Message_forward` by `t` with `msg`. -/
def QueueOp.IsSend (op : QueueOp τ α) (t : τ) (msg : α) : Prop :=
  op = .send t msg ∨ op = .forward t msg

/-- The message a call accepts. -/
def QueueOp.sent? : QueueOp τ α → Option α
  | .send _ msg => some msg
  | .forward _ msg => some msg
  | _ => none

/-- What an operation with its result does to the messages in the queue. -/
def fifoLabel (l : QueueOp τ α × QueueResult α) : BoundedFifo.Label α :=
  match l.2 with
  | .returned ret out =>
    if ret = memSuccess then
      match l.1.sent?, out with
      | some msg, _ => .push msg
      | none, some msg => .pop msg
      | none, none => .skip
    else .skip
  | _ => .skip

/-- What a step can do to the queue and its threads, case by case. -/
inductive QueueSystem.Effect [DecidableEq τ] (s : QueueSystem τ α) :
    QueueOp τ α × QueueResult α → QueueSystem τ α → Prop
  | stores {op : QueueOp τ α} {t : τ} {msg : α} (hop : op.IsSend t msg)
      (heq : s.mq.nextElemPut = s.mq.nextElemGet) :
      Effect s (op, .returned memSuccess none) { s with mq := { s.mq with
        queueInfo := none
        queueCV :=
          if s.mq.receiverWaiting = receiverIsWaiting then fun _ => false else s.mq.queueCV
        queue := Function.update s.mq.queue s.mq.nextElemPut (some msg)
        nextElemPut := succ messageQueueSize s.mq.nextElemPut } }
  | refuses {op : QueueOp τ α} {t : τ} {msg : α} (hop : op.IsSend t msg)
      (hne : s.mq.nextElemPut ≠ s.mq.nextElemGet) :
      Effect s (op, .returned memError none) { s with mq := { s.mq with queueInfo := none } }
  | fallsOff {op : QueueOp τ α} {t : τ} {msg : α} (hop : op.IsSend t msg)
      (hne : s.mq.nextElemPut ≠ s.mq.nextElemGet) :
      Effect s (op, .fellOff) { s with mq := { s.mq with queueInfo := some t } }
  | takes {op : QueueOp τ α} {t : τ} (hop : op = .receive t ∨ op = .resume t)
      (hne : s.mq.nextElemGet ≠ s.mq.nextElemPut) :
      Effect s (op, .returned memSuccess (s.mq.queue s.mq.nextElemGet))
        { mq := { s.mq with
            queueInfo := none
            receiverWaiting := noReceiverWaiting
            nextElemGet := succ messageQueueSize s.mq.nextElemGet }
          inWait := Function.update s.inWait t false }
  | parks {op : QueueOp τ α} {t : τ} (hop : op = .receive t ∨ op = .resume t)
      (heq : s.mq.nextElemGet = s.mq.nextElemPut) :
      Effect s (op, .waits)
        { mq := { s.mq with
            queueInfo := none
            queueCV := Function.update s.mq.queueCV t true
            receiverWaiting := receiverIsWaiting }
          inWait := Function.update s.inWait t true }
  | takesNow (t : τ) (hne : s.mq.nextElemGet ≠ s.mq.nextElemPut) :
      Effect s (.receiveNonblock t, .returned memSuccess (s.mq.queue s.mq.nextElemGet))
        { s with mq := { s.mq with
            queueInfo := none
            nextElemGet := succ messageQueueSize s.mq.nextElemGet } }
  | findsNone (t : τ) (heq : s.mq.nextElemGet = s.mq.nextElemPut) :
      Effect s (.receiveNonblock t, .returned memError none)
        { s with mq := { s.mq with queueInfo := none } }
  | wakes (t : τ) :
      Effect s (.wake t, .woken)
        { s with mq := { s.mq with queueCV := Function.update s.mq.queueCV t false } }

theorem fifoLabel_accepted {op : QueueOp τ α} {msg : α} (hop : op.sent? = some msg) :
    fifoLabel (op, .returned memSuccess none) = .push msg := by
  simp [fifoLabel, hop]

theorem fifoLabel_delivered {op : QueueOp τ α} (hop : op.sent? = none) (msg : α) :
    fifoLabel (op, .returned memSuccess (some msg)) = .pop msg := by
  simp [fifoLabel, hop]

namespace QueueSystem

/-- The messages in the queue are `items`, at most one. -/
structure Ring (s : QueueSystem τ α) (items : List α) : Prop where
  queued : Queued messageQueueSize s.mq.queue s.mq.nextElemGet s.mq.nextElemPut items
  le_one : items.length ≤ 1

theorem Ring.get_eq_put_iff {s : QueueSystem τ α} {items : List α} (h : s.Ring items) :
    s.mq.nextElemGet = s.mq.nextElemPut ↔ items = [] :=
  h.queued.head_eq_tail_iff (by have := h.le_one; unfold messageQueueSize; omega)

/-- A created queue is empty, and nobody holds its mutex or waits on it. -/
theorem Created.mq_eq {s : QueueSystem τ α} (h : s.Created) :
    ∃ slots, s.mq = ⟨none, fun _ => false, noReceiverWaiting, slots, 0, 0⟩ := by
  obtain ⟨⟨q, mutexInit, condInit, mq, hc⟩, -⟩ := h
  unfold MessageQueue.createQueue at hc
  split_ifs at hc
  · simp [memCreateError] at hc
  · simp [memCreateError] at hc
  · simp [memCreateError] at hc
  · exact ⟨mq.queue, (Prod.mk.inj hc).2.symm⟩

theorem Created.ring {s : QueueSystem τ α} (h : s.Created) : s.Ring [] := by
  obtain ⟨slots, hmq⟩ := h.mq_eq
  refine ⟨?_, by simp⟩
  rw [hmq]
  exact Queued.empty _ (show 0 < messageQueueSize by decide)

/-- A queue whose cursors differ has a first message, under `nextElemGet`. -/
theorem Ring.exists_cons {s : QueueSystem τ α} {items : List α} (h : s.Ring items)
    (hne : s.mq.nextElemGet ≠ s.mq.nextElemPut) :
    ∃ msg items', items = msg :: items' ∧ s.mq.queue s.mq.nextElemGet = some msg ∧
      Queued messageQueueSize s.mq.queue (succ messageQueueSize s.mq.nextElemGet)
        s.mq.nextElemPut items' ∧ items'.length ≤ 1 := by
  cases items with
  | nil => exact absurd (h.get_eq_put_iff.mpr rfl) hne
  | cons msg items' =>
    obtain ⟨hslot, hpop⟩ := h.queued.pop
    exact ⟨msg, items', rfl, hslot, hpop, le_trans (Nat.le_succ _) h.le_one⟩

variable [DecidableEq τ]

/-! ### One step -/

theorem effect_of_sent {s s' : QueueSystem τ α} {op : QueueOp τ α} {t : τ} {msg : α}
    (hop : op.IsSend t msg) {res : QueueResult α} (hs : s.sent (s.mq.send t msg) = (res, s')) :
    Effect s (op, res) s' := by
  by_cases heq : s.mq.nextElemPut = s.mq.nextElemGet
  · rw [MessageQueue.send_of_eq heq, QueueSystem.sent] at hs
    obtain ⟨rfl, rfl⟩ := Prod.mk.inj hs
    exact .stores hop heq
  · rw [MessageQueue.send_of_ne heq] at hs
    split_ifs at hs
    · obtain ⟨rfl, rfl⟩ := Prod.mk.inj hs
      exact .refuses hop heq
    · obtain ⟨rfl, rfl⟩ := Prod.mk.inj hs
      exact .fallsOff hop heq

theorem effect_of_received {s s' : QueueSystem τ α} {op : QueueOp τ α} {t : τ}
    (hop : op = .receive t ∨ op = .resume t) {res : QueueResult α}
    (hs : s.received t (s.mq.receiveLoop t) = (res, s')) : Effect s (op, res) s' := by
  by_cases heq : s.mq.nextElemGet = s.mq.nextElemPut
  · rw [MessageQueue.receiveLoop_of_eq heq, QueueSystem.received] at hs
    obtain ⟨rfl, rfl⟩ := Prod.mk.inj hs
    exact .parks hop heq
  · rw [MessageQueue.receiveLoop_of_ne heq, QueueSystem.received] at hs
    obtain ⟨rfl, rfl⟩ := Prod.mk.inj hs
    exact .takes hop heq

/-- Every step is one of the cases of `Effect`. -/
theorem Next.effect {s s' : QueueSystem τ α} {l : QueueOp τ α × QueueResult α}
    (hn : s.Next l s') : Effect s l s' := by
  obtain ⟨op, res⟩ := l
  unfold Next at hn
  cases op with
  | send t msg =>
    simp only [QueueSystem.step, Option.ite_none_right_eq_some, Option.some.injEq] at hn
    exact effect_of_sent (Or.inl rfl) hn.2
  | forward t msg =>
    simp only [QueueSystem.step, Option.ite_none_right_eq_some, Option.some.injEq] at hn
    exact effect_of_sent (Or.inr rfl) hn.2
  | receive t =>
    simp only [QueueSystem.step, Option.ite_none_right_eq_some, Option.some.injEq] at hn
    exact effect_of_received (Or.inl rfl) hn.2
  | resume t =>
    simp only [QueueSystem.step, Option.ite_none_right_eq_some, Option.some.injEq] at hn
    exact effect_of_received (Or.inr rfl) hn.2
  | receiveNonblock t =>
    simp only [QueueSystem.step, Option.ite_none_right_eq_some, Option.some.injEq] at hn
    obtain ⟨-, hn⟩ := hn
    by_cases heq : s.mq.nextElemGet = s.mq.nextElemPut
    · rw [MessageQueue.receiveNonblock_of_eq heq] at hn
      obtain ⟨rfl, rfl⟩ := Prod.mk.inj hn
      exact .findsNone t heq
    · rw [MessageQueue.receiveNonblock_of_ne heq] at hn
      obtain ⟨rfl, rfl⟩ := Prod.mk.inj hn
      exact .takesNow t heq
  | wake t =>
    simp only [QueueSystem.step, Option.ite_none_right_eq_some, Option.some.injEq] at hn
    obtain ⟨rfl, rfl⟩ := Prod.mk.inj hn.2
    exact .wakes t

/-- **Every step is a step of a bounded queue of capacity one.** -/
theorem Ring.step {s s' : QueueSystem τ α} {items : List α} {l : QueueOp τ α × QueueResult α}
    (h : s.Ring items) (hn : s.Next l s') :
    ∃ items', BoundedFifo.Next 1 items (fifoLabel l) items' ∧ s'.Ring items' := by
  cases hn.effect with
  | @stores op t msg hop heq =>
    obtain rfl := h.get_eq_put_iff.mp heq.symm
    have hsent : op.sent? = some msg := by
      rcases hop with rfl | rfl <;> rfl
    refine ⟨[msg], ?_, ?_, by simp⟩
    · rw [fifoLabel_accepted hsent]
      exact .push msg (by simp)
    · exact h.queued.push (by simp [messageQueueSize]) msg
  | refuses hop hne => exact ⟨items, .skip, h.queued, h.le_one⟩
  | fallsOff hop hne => exact ⟨items, .skip, h.queued, h.le_one⟩
  | @takes op t hop hne =>
    obtain ⟨msg, items', rfl, hslot, hpop, hle⟩ := h.exists_cons hne
    have hsent : op.sent? = none := by
      rcases hop with rfl | rfl <;> rfl
    refine ⟨items', ?_, hpop, hle⟩
    rw [hslot, fifoLabel_delivered hsent]
    exact .pop msg
  | parks hop heq => exact ⟨items, .skip, h.queued, h.le_one⟩
  | takesNow t hne =>
    obtain ⟨msg, items', rfl, hslot, hpop, hle⟩ := h.exists_cons hne
    refine ⟨items', ?_, hpop, hle⟩
    rw [hslot]
    exact .pop msg
  | findsNone t heq => exact ⟨items, .skip, h.queued, h.le_one⟩
  | wakes t => exact ⟨items, .skip, h.queued, h.le_one⟩

/-! ### Histories -/

/-- A queue nobody waits on, by the holder of its mutex, its slots and its cursors. -/
def idle (owner : Option τ) (slots : ℕ → Option α) (put get : ℕ) : QueueSystem τ α :=
  ⟨⟨owner, fun _ => false, noReceiverWaiting, slots, put, get⟩, fun _ => false⟩

/-- A queue just created in zeroed memory. -/
def fresh : QueueSystem τ α := idle none (fun _ => none) 0 0

omit [DecidableEq τ] in
theorem fresh_created : (fresh : QueueSystem τ α).Created :=
  ⟨⟨0, 0, 0, fresh.mq, rfl⟩, fun _ => rfl⟩

/-- The messages accepted by the sends of a history, in order. -/
def accepted (tr : List (Step (QueueSystem τ α) (QueueOp τ α × QueueResult α))) : List α :=
  BoundedFifo.pushed (tr.map fun x => fifoLabel x.label)

/-- The messages delivered to receivers, in order. -/
def delivered (tr : List (Step (QueueSystem τ α) (QueueOp τ α × QueueResult α))) : List α :=
  BoundedFifo.popped (tr.map fun x => fifoLabel x.label)

/-- The number of messages accepted and not yet received. -/
def queuedCount (tr : List (Step (QueueSystem τ α) (QueueOp τ α × QueueResult α))) : ℕ :=
  (accepted tr).length - (delivered tr).length

variable {s₀ s : QueueSystem τ α}
  {tr : List (Step (QueueSystem τ α) (QueueOp τ α × QueueResult α))}

/-- **Every history is one of a bounded queue of capacity one**, and what the ring holds is what
was accepted and not yet delivered. -/
theorem run_fifo (hc : s₀.Created) (hr : Run Next s₀ tr s) :
    ∃ items, s.Ring items ∧ accepted tr = delivered tr ++ items := by
  obtain ⟨tr', items, hr', hring, hlabel⟩ :=
    hr.simulate (R := Ring) hc.ring fun _ _ _ _ h hn => h.step hn
  have hlaw := BoundedFifo.pushed_eq_popped_append hr'
  rw [hlabel, List.nil_append] at hlaw
  exact ⟨items, hring, hlaw⟩

theorem queuedCount_eq (hc : s₀.Created) (hr : Run Next s₀ tr s) :
    ∃ items, s.Ring items ∧ queuedCount tr = items.length := by
  obtain ⟨items, hring, hlaw⟩ := run_fifo hc hr
  refine ⟨items, hring, ?_⟩
  rw [queuedCount, hlaw, List.length_append, Nat.add_sub_cancel_left]

/-- A step that calls `Message_send` is one evaluation of it. -/
theorem next_send {s s' : QueueSystem τ α} {l : QueueOp τ α × QueueResult α} {t : τ} {msg : α}
    (hop : l.1.IsSend t msg) (hn : s.Next l s') : s.sent (s.mq.send t msg) = (l.2, s') := by
  obtain ⟨op, res⟩ := l
  unfold Next at hn
  rcases hop with rfl | rfl
  · simp only [QueueSystem.step, Option.ite_none_right_eq_some, Option.some.injEq] at hn
    exact hn.2
  · simp only [QueueSystem.step, Option.ite_none_right_eq_some, Option.some.injEq] at hn
    exact hn.2

/-! ### Does a send return? -/

/-- The call has returned one of its two values, and the mutex is free. -/
def Returns (x : Step (QueueSystem τ α) (QueueOp τ α × QueueResult α)) : Prop :=
  (x.label.2 = .returned memSuccess none ∨ x.label.2 = .returned memError none) ∧
    x.post.mq.queueInfo = none

/-- The queue is empty, or its message lies in the first or the last slot. -/
def CanSend (s : QueueSystem τ α) : Prop :=
  s.mq.nextElemPut = s.mq.nextElemGet ∨ s.mq.nextElemGet = 0 ∨
    s.mq.nextElemGet = messageQueueSize - 1

theorem returns_iff {s s' : QueueSystem τ α} {items : List α} (h : s.Ring items)
    {l : QueueOp τ α × QueueResult α} {t : τ} {msg : α} (hop : l.1.IsSend t msg)
    (hn : s.Next l s') : Returns ⟨s, l, s'⟩ ↔ s.CanSend := by
  have hs := next_send hop hn
  unfold Returns CanSend
  by_cases heq : s.mq.nextElemPut = s.mq.nextElemGet
  · rw [MessageQueue.send_of_eq heq, QueueSystem.sent] at hs
    obtain ⟨hres, rfl⟩ := Prod.mk.inj hs
    exact ⟨fun _ => Or.inl heq, fun _ => ⟨Or.inl hres.symm, rfl⟩⟩
  -- The cursors of a queue with one message are neighbours.
  have hlen : items.length = 1 := by
    have hne : items ≠ [] := fun he => heq (h.get_eq_put_iff.mpr he).symm
    have := List.length_pos_iff.mpr hne
    have := h.le_one
    omega
  have hput := h.queued.tail_eq
  have hget := h.queued.head_lt
  rw [hlen] at hput
  rw [MessageQueue.send_of_ne heq] at hs
  unfold messageQueueSize at *
  split_ifs at hs with hcase
  · obtain ⟨hres, rfl⟩ := Prod.mk.inj hs
    exact ⟨fun _ => by omega, fun _ => ⟨Or.inr hres.symm, rfl⟩⟩
  · obtain ⟨hres, rfl⟩ := Prod.mk.inj hs
    constructor
    · rintro ⟨-, hfree⟩
      simp at hfree
    · intro hcan
      omega

/-- What every step but a send leaves of a free mutex. -/
theorem queueInfo_of_not_send {s s' : QueueSystem τ α} {l : QueueOp τ α × QueueResult α}
    (hop : ∀ t msg, ¬ l.1.IsSend t msg) (hn : s.Next l s') (hfree : s.mq.queueInfo = none) :
    s'.mq.queueInfo = none := by
  cases hn.effect with
  | stores h _ => exact absurd h (hop _ _)
  | refuses h _ => exact absurd h (hop _ _)
  | fallsOff h _ => exact absurd h (hop _ _)
  | wakes t => exact hfree
  | _ => rfl

/-- **When every send returns.**  In a history of a created queue, every call of `Message_send`
returns `MEM_SUCCESS` or `MEM_ERROR` with the mutex released exactly when each is made while the
queue is empty or its message lies in the first or the last slot; the mutex is then free after the
history. -/
theorem send_returns_iff (hc : s₀.Created) (hr : Run Next s₀ tr s) :
    ((∀ x ∈ tr, ∀ t msg, x.label.1.IsSend t msg → Returns x) ↔
      ∀ x ∈ tr, ∀ t msg, x.label.1.IsSend t msg → x.pre.CanSend) ∧
    ((∀ x ∈ tr, ∀ t msg, x.label.1.IsSend t msg → x.pre.CanSend) → s.mq.queueInfo = none) := by
  have hiff : (∀ x ∈ tr, ∀ t msg, x.label.1.IsSend t msg → Returns x) ↔
      ∀ x ∈ tr, ∀ t msg, x.label.1.IsSend t msg → x.pre.CanSend := by
    refine hr.forall_iff fun tr x hx hn => ?_
    obtain ⟨items, hring, -⟩ := run_fifo hc hx
    exact forall₂_congr fun t msg => imp_congr_right fun hop => returns_iff hring hop hn
  refine ⟨hiff, fun hcan => ?_⟩
  have hret := hiff.mpr hcan
  apply hr.invariant_of_mem (I := fun s => s.mq.queueInfo = none)
  · obtain ⟨slots, hmq⟩ := hc.mq_eq
    rw [hmq]
  · intro x hx hn hfree
    by_cases hop : ∃ t msg, x.label.1.IsSend t msg
    · obtain ⟨t, msg, hop⟩ := hop
      exact (hret x hx t msg hop).2
    · exact queueInfo_of_not_send (fun t msg h => hop ⟨t, msg, h⟩) hn hfree

/-- A send to the fresh queue satisfies the condition, and returns. -/
theorem send_returns_iff_fresh :
    ∃ (tr : List (Step (QueueSystem ℕ ℕ) (QueueOp ℕ ℕ × QueueResult ℕ))) (s : QueueSystem ℕ ℕ),
      Run Next fresh tr s ∧ tr ≠ [] ∧ s.mq.queueInfo = none ∧
      ∀ x ∈ tr, ∀ t msg, x.label.1.IsSend t msg → Returns x := by
  have h₁ : Next (fresh : QueueSystem ℕ ℕ) (.send 0 10, .returned memSuccess none) _ := rfl
  have hr := Run.nil.snoc h₁
  have hcan := send_returns_iff fresh_created hr
  refine ⟨_, _, hr, by simp, hcan.2 ?_, hcan.1.mpr ?_⟩
  · intro x hx t msg _
    obtain rfl := List.mem_singleton.mp hx
    exact Or.inl rfl
  · intro x hx t msg _
    obtain rfl := List.mem_singleton.mp hx
    exact Or.inl rfl

/-- After a send and a receive the next message lies in slot 1, and a further send runs off the end
of `Message_send`: no value, and the mutex is held. -/
theorem send_falls_off :
    ¬ ∀ (s₀ s : QueueSystem ℕ ℕ) (tr : List (Step (QueueSystem ℕ ℕ) (QueueOp ℕ ℕ × QueueResult ℕ))),
      s₀.Created → Run Next s₀ tr s →
        ∀ x ∈ tr, ∀ t msg, x.label.1.IsSend t msg → Returns x := by
  intro h
  let slots₁ : ℕ → Option ℕ := Function.update (fun _ => none) 0 (some 10)
  let slots₂ : ℕ → Option ℕ := Function.update slots₁ 1 (some 11)
  have h₁ : Next (fresh : QueueSystem ℕ ℕ) (.send 0 10, .returned memSuccess none)
    (idle none slots₁ 1 0) := rfl
  have h₂ : Next (idle none slots₁ 1 0) (.receiveNonblock 1, .returned memSuccess (some 10))
    (idle none slots₁ 1 1) := rfl
  have h₃ : Next (idle none slots₁ 1 1) (.send 0 11, .returned memSuccess none)
    (idle none slots₂ 2 1) := rfl
  have h₄ : Next (idle none slots₂ 2 1) (.send 0 12, .fellOff) (idle (some 0) slots₂ 2 1) := rfl
  have hr := (((Run.nil.snoc h₁).snoc h₂).snoc h₃).snoc h₄
  have hlast := h _ _ _ fresh_created hr _ (List.mem_append_right _ (List.mem_singleton_self _))
    0 12 (Or.inl rfl)
  simp [Returns] at hlast

/-! ### Does a send treat the queue as bounded by `MESSAGE_QUEUE_SIZE - 1`? -/

/-- With `k` messages queued, the call stores `msg` and returns `MEM_SUCCESS` whenever fewer than
`MESSAGE_QUEUE_SIZE - 1` are queued, and returns `MEM_ERROR` without changing the queue exactly
when `MESSAGE_QUEUE_SIZE - 1` are. -/
def StoresWhileRoom (k : ℕ) (msg : α)
    (x : Step (QueueSystem τ α) (QueueOp τ α × QueueResult α)) : Prop :=
  (k < messageQueueSize - 1 →
    x.label.2 = .returned memSuccess none ∧
    x.post.mq.queue = Function.update x.pre.mq.queue x.pre.mq.nextElemPut (some msg) ∧
    x.post.mq.nextElemPut = succ messageQueueSize x.pre.mq.nextElemPut ∧
    x.post.mq.nextElemGet = x.pre.mq.nextElemGet) ∧
  ((x.label.2 = .returned memError none ∧ x.post.mq.queue = x.pre.mq.queue ∧
    x.post.mq.nextElemPut = x.pre.mq.nextElemPut ∧
    x.post.mq.nextElemGet = x.pre.mq.nextElemGet) ↔ k = messageQueueSize - 1)

theorem storesWhileRoom_iff {s s' : QueueSystem τ α} {items : List α} (h : s.Ring items)
    {l : QueueOp τ α × QueueResult α} {t : τ} {msg : α} (hop : l.1.IsSend t msg)
    (hn : s.Next l s') : StoresWhileRoom items.length msg ⟨s, l, s'⟩ ↔ items.length = 0 := by
  have hs := next_send hop hn
  have hle := h.le_one
  have hlast : messageQueueSize - 1 = 31 := rfl
  unfold StoresWhileRoom
  rw [hlast]
  by_cases heq : s.mq.nextElemPut = s.mq.nextElemGet
  · have hitems := h.get_eq_put_iff.mp heq.symm
    rw [MessageQueue.send_of_eq heq, QueueSystem.sent] at hs
    obtain ⟨hres, rfl⟩ := Prod.mk.inj hs
    constructor
    · intro _
      rw [hitems, List.length_nil]
    · intro _
      refine ⟨fun _ => ⟨hres.symm, rfl, rfl, rfl⟩, ?_⟩
      rw [← hres, hitems]
      simp [memSuccess, memError]
  · -- With one message queued the call should store, and does not.
    have hne : items ≠ [] := fun he => heq (h.get_eq_put_iff.mpr he).symm
    constructor
    · rintro ⟨hstore, -⟩
      obtain ⟨-, -, hput, -⟩ := hstore (by omega)
      exfalso
      have hmoved := succ_eq_mod h.queued.tail_lt
      rw [MessageQueue.send_of_ne heq] at hs
      unfold messageQueueSize at *
      split_ifs at hs
      · obtain ⟨-, rfl⟩ := Prod.mk.inj hs
        dsimp only at hput
        omega
      · obtain ⟨-, rfl⟩ := Prod.mk.inj hs
        dsimp only at hput
        omega
    · intro hzero
      exact absurd (List.length_eq_zero_iff.mp hzero) hne

/-- **When the queue is the bounded one.**  In a history of a created queue, every call of
`Message_send` stores while fewer than `MESSAGE_QUEUE_SIZE - 1` messages are queued, and refuses
exactly when so many are, if and only if every call is made while no message is queued. -/
theorem send_bounded_fifo_iff (hc : s₀.Created) (hr : Run Next s₀ tr s) :
    (∀ tr₁ x, tr₁ ++ [x] <+: tr → ∀ t msg, x.label.1.IsSend t msg →
      StoresWhileRoom (queuedCount tr₁) msg x) ↔
    ∀ tr₁ x, tr₁ ++ [x] <+: tr → ∀ t msg, x.label.1.IsSend t msg → queuedCount tr₁ = 0 := by
  apply forall₂_congr
  intro tr₁ x
  -- The two sides differ in what they say of a call after `tr₁`.
  refine forall_congr' fun hpfx => forall₂_congr fun t msg => imp_congr_right fun hop => ?_
  obtain ⟨tr₂, rfl⟩ := hpfx
  rw [← List.append_cons] at hr
  obtain ⟨hr₁, hn⟩ := hr.of_append_cons
  obtain ⟨items, hring, hcount⟩ := queuedCount_eq hc hr₁
  rw [hcount]
  exact storesWhileRoom_iff hring hop hn

/-- A send to the fresh queue satisfies the condition, and stores. -/
theorem send_bounded_fifo_iff_fresh :
    ∃ (tr : List (Step (QueueSystem ℕ ℕ) (QueueOp ℕ ℕ × QueueResult ℕ))) (s : QueueSystem ℕ ℕ),
      Run Next fresh tr s ∧ tr ≠ [] ∧
      ∀ tr₁ x, tr₁ ++ [x] <+: tr → ∀ t msg, x.label.1.IsSend t msg →
        StoresWhileRoom (queuedCount tr₁) msg x := by
  have h₁ : Next (fresh : QueueSystem ℕ ℕ) (.send 0 10, .returned memSuccess none) _ := rfl
  have hr := Run.nil.snoc h₁
  refine ⟨_, _, hr, by simp, (send_bounded_fifo_iff fresh_created hr).mpr ?_⟩
  intro tr₁ x hx t msg _
  have hlen := hx.length_le
  obtain rfl : tr₁ = [] := by
    simpa using hlen
  rfl

/-- With one message queued, and room for thirty more, a send is refused. -/
theorem send_refuses_early :
    ¬ ∀ (s₀ s : QueueSystem ℕ ℕ) (tr : List (Step (QueueSystem ℕ ℕ) (QueueOp ℕ ℕ × QueueResult ℕ))),
      s₀.Created → Run Next s₀ tr s →
        ∀ tr₁ x, tr₁ ++ [x] <+: tr → ∀ t msg, x.label.1.IsSend t msg →
          StoresWhileRoom (queuedCount tr₁) msg x := by
  intro h
  let slots₁ : ℕ → Option ℕ := Function.update (fun _ => none) 0 (some 10)
  have h₁ : Next (fresh : QueueSystem ℕ ℕ) (.send 0 10, .returned memSuccess none)
    (idle none slots₁ 1 0) := rfl
  have h₂ : Next (idle none slots₁ 1 0) (.send 0 11, .returned memError none)
    (idle none slots₁ 1 0) := rfl
  have hr := (Run.nil.snoc h₁).snoc h₂
  have hlast := h _ _ _ fresh_created hr _ _ (List.prefix_refl _) 0 11 (Or.inl rfl)
  have hroom : (1 : ℕ) < messageQueueSize - 1 := by decide
  obtain ⟨hres, -⟩ := hlast.1 hroom
  simp [memSuccess, memError] at hres

end QueueSystem

end TestDomApp
