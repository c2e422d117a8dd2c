import Mathlib.Logic.Function.Basic
import Mathlib.Data.Int.Notation
import Mathlib.Tactic.Common

/-!
# The message queue

The queue of message pointers in `private/message/message.c`, for any number of threads `τ`.  A
queue is a ring of `MESSAGE_QUEUE_SIZE` slots with the cursors `nextElemPut` and `nextElemGet`,
a mutex and a condition variable; it is empty when the cursors are equal.

`Message_send` and `Message_receive_nonblock` hold the mutex from beginning to end.
`Message_receive` gives it up in `pthread_cond_wait` while the queue is empty: `receiveLoop` is
what it does from one acquisition of the mutex to the next release.

Threads interleave in `QueueSystem.step`.  A thread that waits is parked until a broadcast, or
nothing at all, wakes it; it then competes for the mutex like any other.
-/

namespace TestDomApp

/-- `MESSAGE_QUEUE_SIZE` -/
def messageQueueSize : ℕ := 32

/-- `NUM_MESSAGE_QUEUES` -/
def numMessageQueues : ℕ := 16

/-- `RECEIVER_WAITING` -/
def receiverIsWaiting : ℤ := 1

/-- `NO_RECEIVER_WAITING` -/
def noReceiverWaiting : ℤ := 0

/-- `MEM_ERROR` -/
def memError : ℤ := 0

/-- `MEM_CREATE_ERROR` -/
def memCreateError : ℤ := -1

/-- `MEM_SUCCESS` -/
def memSuccess : ℤ := 1

/-- `MESSAGE_QUEUE_LIST`: one queue, holding pointers of type `α`. -/
structure MessageQueue (τ α : Type*) where
  /-- The mutex: the thread that holds it. -/
  queueInfo : Option τ
  /-- The condition variable: the threads parked on it and not yet woken. -/
  queueCV : τ → Bool
  receiverWaiting : ℤ
  queue : ℕ → Option α
  nextElemPut : ℕ
  nextElemGet : ℕ

namespace MessageQueue

variable {τ α : Type*}

/-- `Message_createQueue(q)`, with the results of `pthread_mutex_init` and `pthread_cond_init`:
what it returns, and the queue `q` it leaves. -/
def createQueue (q : ℕ) (mutexInit condInit : ℤ) (mq : MessageQueue τ α) :
    ℤ × MessageQueue τ α :=
  if q ≥ numMessageQueues then (memCreateError, mq)
  else if mutexInit ≠ 0 then (memCreateError, mq)
  else
    let mq := { mq with queueInfo := none }
    if condInit ≠ 0 then (memCreateError, mq)
    else
      let mq := { mq with queueCV := fun _ => false }
      (q, { mq with nextElemPut := 0, nextElemGet := 0, receiverWaiting := noReceiverWaiting })

/-- `pthread_mutex_lock`, for a mutex that is free. -/
def lock (t : τ) (mq : MessageQueue τ α) : MessageQueue τ α := { mq with queueInfo := some t }

/-- `pthread_mutex_unlock` -/
def unlock (mq : MessageQueue τ α) : MessageQueue τ α := { mq with queueInfo := none }

/-- `pthread_cond_broadcast`: every parked thread is woken. -/
def broadcast (mq : MessageQueue τ α) : MessageQueue τ α := { mq with queueCV := fun _ => false }

/-- `Message_send`, called by a thread `t` that finds the mutex free: the value returned and the
queue left.  The two inner conditions have no `else` in the source: where they fail, control
reaches the end of the function, which returns no value (`none`) and has not unlocked. -/
def send (t : τ) (msg : α) (mq : MessageQueue τ α) : Option ℤ × MessageQueue τ α :=
  let mq := mq.lock t
  if mq.nextElemPut > mq.nextElemGet then
    if mq.nextElemPut ≠ messageQueueSize - 1 then
      if mq.nextElemGet = 0 then (some memError, mq.unlock)
      else (none, mq)
    else (none, mq)
  else if mq.nextElemPut < mq.nextElemGet then
    if mq.nextElemGet - mq.nextElemPut ≥ 1 then (some memError, mq.unlock)
    else (none, mq)
  else
    let mq := { mq with queue := Function.update mq.queue mq.nextElemPut (some msg) }
    let mq := { mq with nextElemPut := mq.nextElemPut + 1 }
    let mq := if mq.nextElemPut ≥ messageQueueSize then { mq with nextElemPut := 0 } else mq
    let mq := if mq.receiverWaiting = receiverIsWaiting then mq.broadcast else mq
    (some memSuccess, mq.unlock)

/-- `Message_forward` -/
def forward (t : τ) (msg : α) (mq : MessageQueue τ α) : Option ℤ × MessageQueue τ α :=
  send t msg mq

/-- The end of both receiving functions: the pointer under `nextElemGet`, and the cursor moved
on. -/
def takeElem (mq : MessageQueue τ α) : Option α × MessageQueue τ α :=
  let msg := mq.queue mq.nextElemGet
  let mq := { mq with nextElemGet := mq.nextElemGet + 1 }
  (msg, if mq.nextElemGet ≥ messageQueueSize then { mq with nextElemGet := 0 } else mq)

/-- What `Message_receive` does once it holds the mutex, entering the function or coming back from
`pthread_cond_wait`: it returns `MEM_SUCCESS` and a pointer, or (`none`) it finds the queue empty
and waits, parked and without the mutex. -/
def receiveLoop [DecidableEq τ] (t : τ) (mq : MessageQueue τ α) :
    Option (ℤ × Option α) × MessageQueue τ α :=
  let mq := mq.lock t
  if mq.nextElemGet = mq.nextElemPut then
    let mq := { mq with receiverWaiting := receiverIsWaiting }
    (none, { mq with queueCV := Function.update mq.queueCV t true, queueInfo := none })
  else
    let (msg, mq) := mq.takeElem
    let mq := { mq with receiverWaiting := noReceiverWaiting }
    (some (memSuccess, msg), mq.unlock)

/-- `Message_receive_nonblock`: the value returned, and the pointer delivered if there is one. -/
def receiveNonblock (t : τ) (mq : MessageQueue τ α) : ℤ × Option α × MessageQueue τ α :=
  let mq := mq.lock t
  if mq.nextElemGet = mq.nextElemPut then (memError, none, mq.unlock)
  else
    let (msg, mq) := mq.takeElem
    (memSuccess, msg, mq.unlock)

end MessageQueue

/-! ### Threads -/

/-- What a thread does next on the queue. -/
inductive QueueOp (τ α : Type*)
  | send (t : τ) (msg : α)
  | forward (t : τ) (msg : α)
  /-- Enter `Message_receive`. -/
  | receive (t : τ)
  /-- Come back from `pthread_cond_wait`, woken before. -/
  | resume (t : τ)
  | receiveNonblock (t : τ)
  /-- A parked thread is woken without a broadcast. -/
  | wake (t : τ)

/-- What comes of it. -/
inductive QueueResult (α : Type*)
  /-- The call returns this value, and this pointer if it delivers one. -/
  | returned (ret : ℤ) (msg : Option α)
  /-- The call comes back without having returned a value. -/
  | fellOff
  /-- The call is parked in `pthread_cond_wait`. -/
  | waits
  | woken

/-- One queue and the threads on it. -/
structure QueueSystem (τ α : Type*) where
  mq : MessageQueue τ α
  /-- The thread is inside `pthread_cond_wait`, parked or woken. -/
  inWait : τ → Bool

namespace QueueSystem

variable {τ α : Type*} [DecidableEq τ]

/-- The system after a call of `Message_send` or `Message_forward`. -/
def sent (s : QueueSystem τ α) (r : Option ℤ × MessageQueue τ α) :
    QueueResult α × QueueSystem τ α :=
  match r with
  | (some ret, mq) => (.returned ret none, { s with mq := mq })
  | (none, mq) => (.fellOff, { s with mq := mq })

/-- The system after thread `t` ran the loop of `Message_receive`. -/
def received (s : QueueSystem τ α) (t : τ) (r : Option (ℤ × Option α) × MessageQueue τ α) :
    QueueResult α × QueueSystem τ α :=
  match r with
  | (some (ret, msg), mq) =>
    (.returned ret msg, { mq := mq, inWait := Function.update s.inWait t false })
  | (none, mq) => (.waits, { mq := mq, inWait := Function.update s.inWait t true })

/-- One step of one thread; `none` where the thread is not at that point or the mutex is taken. -/
def step (s : QueueSystem τ α) : QueueOp τ α → Option (QueueResult α × QueueSystem τ α)
  | .send t msg =>
    if s.mq.queueInfo.isNone ∧ s.inWait t = false then some (s.sent (s.mq.send t msg)) else none
  | .forward t msg =>
    if s.mq.queueInfo.isNone ∧ s.inWait t = false then some (s.sent (s.mq.forward t msg)) else none
  | .receive t =>
    if s.mq.queueInfo.isNone ∧ s.inWait t = false then some (s.received t (s.mq.receiveLoop t))
    else none
  | .resume t =>
    if s.mq.queueInfo.isNone ∧ s.inWait t = true ∧ s.mq.queueCV t = false then
      some (s.received t (s.mq.receiveLoop t))
    else none
  | .receiveNonblock t =>
    if s.mq.queueInfo.isNone ∧ s.inWait t = false then
      let (ret, msg, mq) := s.mq.receiveNonblock t
      some (.returned ret msg, { s with mq := mq })
    else none
  | .wake t =>
    if s.mq.queueCV t = true then
      some (.woken, { s with mq := { s.mq with queueCV := Function.update s.mq.queueCV t false } })
    else none

/-- `step` as a relation: the label is the operation with its result. -/
def Next (s : QueueSystem τ α) (l : QueueOp τ α × QueueResult α) (s' : QueueSystem τ α) : Prop :=
  s.step l.1 = some (l.2, s')

/-- A queue that `Message_createQueue` has just made, with no thread waiting on it. -/
def Created (s : QueueSystem τ α) : Prop :=
  (∃ (q : ℕ) (mutexInit condInit : ℤ) (mq : MessageQueue τ α),
    MessageQueue.createQueue q mutexInit condInit mq = ((q : ℤ), s.mq)) ∧
  ∀ t, s.inWait t = false

end QueueSystem

end TestDomApp
