import TestDomApp.Message.Queue

/-!
# The list of queues

`msgQueueList` in `private/message/message.c`: `NUM_MESSAGE_QUEUES` queues, and threads that use any
of them.  A thread is in one call at a time, so one that waits on a queue does nothing elsewhere.
A queue may be created again; `pthread_mutex_init` and `pthread_cond_init` have no defined behaviour
on a mutex or a condition variable in use, so a queue is created while nobody holds its mutex or
waits on it (`QueueList.Allows`).
-/

namespace TestDomApp

/-- The thread that takes a step, or is woken. -/
def QueueOp.thread {τ α : Type*} : QueueOp τ α → τ
  | .send t _ | .forward t _ | .receive t | .resume t | .receiveNonblock t | .wake t => t

/-- `msgQueueList`, and the queue in whose `pthread_cond_wait` a thread is. -/
structure QueueList (τ α : Type*) where
  queues : Fin numMessageQueues → MessageQueue τ α
  waitsOn : τ → Option (Fin numMessageQueues)

/-- What happens on the list. -/
inductive ListOp (τ α : Type*)
  /-- `Message_createQueue(q)`, with the results of the two initialisations. -/
  | create (q : ℕ) (mutexInit condInit : ℤ)
  /-- A step of a thread on one of the queues. -/
  | on (q : Fin numMessageQueues) (op : QueueOp τ α)

/-- What comes of it. -/
inductive ListResult (α : Type*)
  /-- `Message_createQueue` returns this value. -/
  | created (ret : ℤ)
  | result (res : QueueResult α)

namespace QueueList

variable {τ α : Type*}

/-- One of the queues, with the threads that wait on it. -/
def view (q : Fin numMessageQueues) (s : QueueList τ α) : QueueSystem τ α where
  mq := s.queues q
  inWait t := s.waitsOn t = some q

/-- The list with one of the queues, and the threads on it, as in `u`. -/
def setView (q : Fin numMessageQueues) (u : QueueSystem τ α) (s : QueueList τ α) :
    QueueList τ α where
  queues := Function.update s.queues q u.mq
  waitsOn t :=
    if u.inWait t then some q else if s.waitsOn t = some q then none else s.waitsOn t

/-- One step; `none` where it cannot be taken. -/
def step [DecidableEq τ] (s : QueueList τ α) : ListOp τ α → Option (ListResult α × QueueList τ α)
  | .create q mutexInit condInit =>
    if h : q < numMessageQueues then
      let (ret, mq) := (s.queues ⟨q, h⟩).createQueue q mutexInit condInit
      some (.created ret, { s with queues := Function.update s.queues ⟨q, h⟩ mq })
    else some (.created memCreateError, s)
  | .on q op =>
    if s.waitsOn op.thread = none ∨ s.waitsOn op.thread = some q then
      ((s.view q).step op).map fun r => (.result r.1, s.setView q r.2)
    else none

/-- Nobody holds the mutex of a queue that is created, or waits on it. -/
def Allows (s : QueueList τ α) : ListOp τ α → Prop
  | .create q _ _ => ∀ h : q < numMessageQueues,
    (s.queues ⟨q, h⟩).queueInfo = none ∧ ∀ t, s.waitsOn t ≠ some ⟨q, h⟩
  | .on _ _ => True

/-- `step` as a relation: the label is the operation with its result. -/
def Next [DecidableEq τ] (s : QueueList τ α) (l : ListOp τ α × ListResult α)
    (s' : QueueList τ α) : Prop :=
  s.Allows l.1 ∧ s.step l.1 = some (l.2, s')

end QueueList

end TestDomApp
