import Mathlib.Algebra.Order.Ring.Int
import TestDomApp.Message.Basic

/-!
# The message buffer pool

`private/message/messageBuffers.c`: `MAX_MSG` message headers, each linked to a data array of its
own, and a circular list of the free ones.  `nextMsgFree` is where the next buffer is taken from,
`lastMsgFree` where the next one released is put; a slot without a buffer is null.  Every function
holds `msgBuffersMutex` from beginning to end, so a call is one step of `MessageBuffers.Next`,
whichever thread makes it.  `PoolUse` adds who holds which buffer.
-/

namespace TestDomApp

/-- `MAX_MSG`: the message headers and data arrays of the pool. -/
def maxMsg : ℕ := 16

/-- A `MESSAGE_STRUCT *` that is not null; the null pointer is `none`. -/
inductive MsgPtr
  /-- `&msgHdr[i]` -/
  | msgHdr (i : ℕ)
  /-- Any other message. -/
  | other (a : ℕ)
  deriving DecidableEq, Repr

/-- The static variables of the pool, with the messages its pointers lead to. -/
structure MessageBuffers where
  msgFreeList : ℕ → Option MsgPtr
  /-- Every `MESSAGE_STRUCT` in memory, the array `msgHdr` among them. -/
  msgHdr : MsgPtr → MessageStruct
  nextMsgFree : ℕ
  lastMsgFree : ℕ
  freeListCorrupt : ℤ

namespace MessageBuffers

/-- The static variables before `messageBuffers_init`, with the messages in memory. -/
def static (msgHdr : MsgPtr → MessageStruct) : MessageBuffers := ⟨fun _ => none, msgHdr, 0, 0, 0⟩

/-- The body of the loop of `messageBuffers_init`. -/
def initSlot (b : MessageBuffers) (i : ℕ) : MessageBuffers :=
  { b with
    msgFreeList := Function.update b.msgFreeList i (some (.msgHdr i))
    msgHdr := Function.update b.msgHdr (.msgHdr i) { b.msgHdr (.msgHdr i) with data := .msgData i } }

/-- `messageBuffers_init`; it leaves `freeListCorrupt` alone. -/
def init (b : MessageBuffers) : MessageBuffers :=
  { (List.range maxMsg).foldl initSlot b with nextMsgFree := 0, lastMsgFree := 0 }

/-- `messageBuffers_allocate`: the buffer under `nextMsgFree`, with its length set to zero, or null
if there is none. -/
def allocate (b : MessageBuffers) : Option MsgPtr × MessageBuffers :=
  match b.msgFreeList b.nextMsgFree with
  | none => (none, b)
  | some m =>
    (some m,
      { b with
        msgHdr := Function.update b.msgHdr m
          { b.msgHdr m with head := { (b.msgHdr m).head with dlenHI := 0, dlenLO := 0 } }
        msgFreeList := Function.update b.msgFreeList b.nextMsgFree none
        nextMsgFree := if b.nextMsgFree + 1 ≥ maxMsg then 0 else b.nextMsgFree + 1 })

/-- `messageBuffers_release`: put under `lastMsgFree` if that slot is null, else count a corrupt
free list (an `int`, here wrapping). -/
def release (m : Option MsgPtr) (b : MessageBuffers) : MessageBuffers :=
  if b.msgFreeList b.lastMsgFree = none then
    { b with
      msgFreeList := Function.update b.msgFreeList b.lastMsgFree m
      lastMsgFree := if b.lastMsgFree + 1 ≥ maxMsg then 0 else b.lastMsgFree + 1 }
  else
    { b with freeListCorrupt := Int.bmod (b.freeListCorrupt + 1) (2 ^ 32) }

/-- `messageBuffers_freeCnt`: from the cursors alone, and from the slot under them when they
meet. -/
def freeCnt (b : MessageBuffers) : ℤ :=
  if b.nextMsgFree < b.lastMsgFree then b.lastMsgFree - b.nextMsgFree
  else if b.nextMsgFree > b.lastMsgFree then maxMsg - b.nextMsgFree + b.lastMsgFree
  else if b.msgFreeList b.nextMsgFree = none then 0
  else maxMsg

/-- `messageBuffers_totalCnt` -/
def totalCnt : ℤ := maxMsg

end MessageBuffers

/-! ### Callers -/

/-- What happens to the pool next. -/
inductive PoolOp
  | allocate
  | release (m : Option MsgPtr)
  /-- The program writes to the message `m`. -/
  | write (m : MsgPtr) (msg : MessageStruct)

namespace PoolOp

/-- Nothing but a message is released. -/
def NonNull : PoolOp → Prop
  | .release none => False
  | _ => True

/-- Nothing but a buffer of the pool is released, whoever holds it. -/
def OfPool : PoolOp → Prop
  | .release m => ∃ i < maxMsg, m = some (.msgHdr i)
  | _ => True

theorem OfPool.nonNull {op : PoolOp} (h : op.OfPool) : op.NonNull := by
  cases op with
  | release m =>
    obtain ⟨i, -, rfl⟩ := h
    trivial
  | _ => trivial

def isRelease : PoolOp → Bool
  | .release _ => true
  | _ => false

theorem NonNull.exists_of_isRelease {op : PoolOp} (h : op.NonNull) (hrel : op.isRelease = true) :
    ∃ m, op = .release (some m) := by
  cases op with
  | release m =>
    cases m with
    | none => exact h.elim
    | some m => exact ⟨m, rfl⟩
  | _ => exact absurd hrel Bool.false_ne_true

end PoolOp

namespace MessageBuffers

/-- The pointer a call delivers, and the pool after it. -/
def call (b : MessageBuffers) : PoolOp → Option MsgPtr × MessageBuffers
  | .allocate => b.allocate
  | .release m => (none, b.release m)
  | .write m msg => (none, { b with msgHdr := Function.update b.msgHdr m msg })

/-- `call` as a relation: the label is the call with its result. -/
def Next (b : MessageBuffers) (l : PoolOp × Option MsgPtr) (b' : MessageBuffers) : Prop :=
  b.call l.1 = (l.2, b')

theorem next_call (b : MessageBuffers) (op : PoolOp) :
    b.Next (op, (b.call op).1) (b.call op).2 := rfl

end MessageBuffers

/-- The pool, and the buffers handed out and not yet released, each with its holder. -/
structure PoolUse (τ : Type*) where
  pool : MessageBuffers
  outstanding : List (τ × MsgPtr)

namespace PoolUse

variable {τ : Type*}

/-- The steps of threads that release only what they hold, once. -/
inductive Next : PoolUse τ → PoolOp × Option MsgPtr → PoolUse τ → Prop
  /-- Thread `t` is given a buffer. -/
  | allocate {s : PoolUse τ} {b : MessageBuffers} (t : τ) (m : MsgPtr)
      (h : s.pool.Next (.allocate, some m) b) :
      Next s (.allocate, some m) ⟨b, s.outstanding ++ [(t, m)]⟩
  /-- There is no buffer to give. -/
  | refuse {s : PoolUse τ} {b : MessageBuffers} (h : s.pool.Next (.allocate, none) b) :
      Next s (.allocate, none) { s with pool := b }
  /-- A buffer held by `t` is released. -/
  | release {s : PoolUse τ} {b : MessageBuffers} (t : τ) (m : MsgPtr) (xs ys : List (τ × MsgPtr))
      (hm : s.outstanding = xs ++ (t, m) :: ys) (h : s.pool.Next (.release (some m), none) b) :
      Next s (.release (some m), none) ⟨b, xs ++ ys⟩
  | write {s : PoolUse τ} {b : MessageBuffers} (m : MsgPtr) (msg : MessageStruct)
      (h : s.pool.Next (.write m msg, none) b) :
      Next s (.write m msg, none) { s with pool := b }

end PoolUse

end TestDomApp
