import TestDomApp.BoundedFifo.Basic
import TestDomApp.CyclicBuffer.View
import TestDomApp.Message.Buffers

/-!
# What the buffer pool does

The free list is a circular buffer that keeps its empty slots null (`Held`), so `b.Free free` says
which buffers are free and in what order they will be handed out.  `messageBuffers_init` frees all
of them in the order of the array (`free_init`); each function is described once in terms of
`free` (`allocate_nil`, `allocate_cons`, `release_of_lt`, `release_of_full`, `freeCnt_eq`).

When threads release only what they hold, the free buffers and the outstanding ones are together
the whole pool (`Owned`), every step is a step of a first-in first-out queue, and
`pool_ownership` collects what follows for every run.
-/

namespace TestDomApp

open Transition CyclicBuffer

/-- The message headers of the pool, in the order of the array. -/
def allHdrs : List MsgPtr := (List.range maxMsg).map .msgHdr

@[simp] theorem length_allHdrs : allHdrs.length = maxMsg := by
  simp [allHdrs]

theorem nodup_allHdrs : allHdrs.Nodup :=
  List.nodup_range.map fun _ _ h => MsgPtr.msgHdr.inj h

namespace MessageBuffers

variable {b : MessageBuffers} {m : MsgPtr} {free : List MsgPtr}

/-- The free buffers, the next one to be handed out first. -/
def Free (b : MessageBuffers) (free : List MsgPtr) : Prop :=
  Held maxMsg b.msgFreeList b.nextMsgFree b.lastMsgFree free

/-! ### `messageBuffers_init` -/

/-- The loop after `k` rounds: the first `k` headers are linked and listed, and nothing else has
changed. -/
theorem foldl_initSlot (b : MessageBuffers) (k : ℕ) :
    (List.range k).foldl initSlot b =
      { b with
        msgFreeList := fun i => if i < k then some (.msgHdr i) else b.msgFreeList i
        msgHdr := fun m =>
          match m with
          | .msgHdr i =>
            if i < k then { b.msgHdr (.msgHdr i) with data := .msgData i } else b.msgHdr (.msgHdr i)
          | .other a => b.msgHdr (.other a) } := by
  induction k with
  | zero =>
    have hhdr : (fun m => match m with
        | .msgHdr i => b.msgHdr (.msgHdr i)
        | .other a => b.msgHdr (.other a)) = b.msgHdr := by
      funext m
      cases m <;> rfl
    simp [hhdr]
  | succ k ih =>
    rw [List.range_succ, List.foldl_append, ih]
    simp only [List.foldl_cons, List.foldl_nil, initSlot]
    congr 1
    · funext i
      rcases Nat.lt_trichotomy i k with h | rfl | h
      · simp [Function.update_of_ne (Nat.ne_of_lt h), h, Nat.lt_succ_of_lt h]
      · simp
      · simp [Function.update_of_ne (Nat.ne_of_gt h), Nat.not_lt_of_gt h,
          show ¬ i < k + 1 by omega]
    · funext m
      cases m with
      | other a => simp
      | msgHdr i =>
        rcases Nat.lt_trichotomy i k with h | rfl | h
        · simp [Nat.ne_of_lt h, h, Nat.lt_succ_of_lt h]
        · simp
        · simp [Nat.ne_of_gt h, Nat.not_lt_of_gt h, show ¬ i < k + 1 by omega]

/-- After `messageBuffers_init` every header is free, in the order of the array. -/
theorem free_init (b : MessageBuffers) : b.init.Free allHdrs := by
  have hlen : allHdrs.length = maxMsg := length_allHdrs
  unfold Free init
  rw [foldl_initSlot]
  refine ⟨⟨(by decide : 0 < maxMsg), hlen.le, by simp, ?_⟩, ?_⟩
  · rw [hlen, view, allHdrs, List.map_map]
    apply List.map_congr_left
    intro i hi
    have hi' := List.mem_range.mp hi
    simp [Nat.mod_eq_of_lt hi', hi']
  · -- No slot is outside of the list.
    intro i hi hin
    omega

@[simp] theorem freeListCorrupt_init (b : MessageBuffers) :
    b.init.freeListCorrupt = b.freeListCorrupt := by
  rw [init, foldl_initSlot]

/-- Every header is linked to a data array of its own. -/
theorem data_init (b : MessageBuffers) {i : ℕ} (hi : i < maxMsg) :
    (b.init.msgHdr (.msgHdr i)).data = .msgData i := by
  rw [init, foldl_initSlot]
  simp [hi]

/-! ### One equation for each case -/

theorem allocate_nil (h : b.Free []) : b.allocate = (none, b) := by
  rw [allocate, h.slot_head_eq_none_iff.mpr rfl]

/-- The first free buffer is handed out, with length zero. -/
theorem allocate_cons (h : b.Free (m :: free)) :
    ∃ b', b.allocate = (some m, b') ∧ b'.Free free ∧
      b'.msgHdr = Function.update b.msgHdr m
        { b.msgHdr m with head := { (b.msgHdr m).head with dlenHI := 0, dlenLO := 0 } } ∧
      b'.freeListCorrupt = b.freeListCorrupt := by
  obtain ⟨hslot, hheld⟩ := h.pop
  rw [allocate, hslot]
  exact ⟨_, rfl, hheld, rfl, rfl⟩

/-- After `messageBuffers_init` there is a free buffer. -/
theorem init_allocate (b : MessageBuffers) : ∃ b', b.init.allocate = (some (.msgHdr 0), b') := by
  obtain ⟨b', halloc, -⟩ := allocate_cons (m := .msgHdr 0) b.free_init
  exact ⟨b', halloc⟩

theorem dataLen_allocated (msg : MessageStruct) :
    Message.dataLen { msg with head := { msg.head with dlenHI := 0, dlenLO := 0 } } = 0 := rfl

/-- With a buffer missing, the one released is put last. -/
theorem release_of_lt (h : b.Free free) (hlt : free.length < maxMsg) (m : MsgPtr) :
    ∃ b', b.release (some m) = b' ∧ b'.Free (free ++ [m]) ∧ b'.msgHdr = b.msgHdr ∧
      b'.freeListCorrupt = b.freeListCorrupt := by
  rw [release, if_pos (h.slot_tail_eq_none_iff.mpr hlt)]
  exact ⟨_, rfl, h.push hlt m, rfl, rfl⟩

/-- With no buffer missing, a release is refused and counted. -/
theorem release_of_full (h : b.Free free) (hfull : free.length = maxMsg) (m : Option MsgPtr) :
    b.release m = { b with freeListCorrupt := Int.bmod (b.freeListCorrupt + 1) (2 ^ 32) } := by
  rw [release, if_neg]
  rw [h.slot_tail_eq_none_iff]
  omega

/-- `messageBuffers_freeCnt` counts the free buffers. -/
theorem freeCnt_eq (h : b.Free free) : b.freeCnt = free.length := by
  have hhead := h.head_lt
  have hle := h.length_le
  have htail := h.tail_eq
  rw [offset_eq hhead hle] at htail
  -- Where the cursors meet, the slot tells whether the list is empty or full.
  have hslot : b.msgFreeList b.nextMsgFree = none ↔ free.length = 0 := by
    rw [h.slot_head_eq_none_iff, List.length_eq_zero_iff]
  unfold freeCnt
  simp only [hslot]
  split_ifs at htail ⊢ <;> omega

/-! ### One call -/

/-- What a call does to the pool `b` with the free buffers `free`: the pool and the free buffers
after it. -/
inductive Effect (b : MessageBuffers) :
    List MsgPtr → PoolOp × Option MsgPtr → MessageBuffers → List MsgPtr → Prop
  /-- There is no buffer to give. -/
  | exhausted : Effect b [] (.allocate, none) b []
  /-- The first free buffer is handed out. -/
  | handedOut {b' : MessageBuffers} (m : MsgPtr) (free : List MsgPtr)
      (hcorrupt : b'.freeListCorrupt = b.freeListCorrupt) :
      Effect b (m :: free) (.allocate, some m) b' free
  /-- With a buffer missing, the one released is put last. -/
  | putBack {b' : MessageBuffers} (m : MsgPtr) (free : List MsgPtr) (hlt : free.length < maxMsg)
      (hcorrupt : b'.freeListCorrupt = b.freeListCorrupt) :
      Effect b free (.release (some m), none) b' (free ++ [m])
  /-- With no buffer missing, the release is refused. -/
  | refused (m : MsgPtr) (free : List MsgPtr) (hfull : free.length = maxMsg) :
      Effect b free (.release (some m), none)
        { b with freeListCorrupt := Int.bmod (b.freeListCorrupt + 1) (2 ^ 32) } free
  /-- A message is written, and the pool is as it was. -/
  | written (m : MsgPtr) (msg : MessageStruct) (free : List MsgPtr) :
      Effect b free (.write m msg, none)
        { b with msgHdr := Function.update b.msgHdr m msg } free

/-- **What a call does**, as long as nothing but messages is released. -/
theorem Free.effect (h : b.Free free) {l : PoolOp × Option MsgPtr} {b' : MessageBuffers}
    (hn : b.Next l b') (hl : l.1.NonNull) : ∃ free', b.Effect free l b' free' ∧ b'.Free free' := by
  obtain ⟨op, r⟩ := l
  cases op with
  | allocate =>
    cases free with
    | nil =>
      obtain ⟨rfl, rfl⟩ := Prod.mk.inj ((allocate_nil h).symm.trans hn)
      exact ⟨[], .exhausted, h⟩
    | cons m free =>
      obtain ⟨b₁, halloc, hfree, -, hcorrupt⟩ := allocate_cons h
      obtain ⟨rfl, rfl⟩ := Prod.mk.inj (halloc.symm.trans hn)
      exact ⟨free, .handedOut m free hcorrupt, hfree⟩
  | release m =>
    obtain ⟨rfl, rfl⟩ := Prod.mk.inj hn
    cases m with
    | none => exact hl.elim
    | some m =>
      rcases Nat.lt_or_eq_of_le h.length_le with hlt | hfull
      · obtain ⟨b₁, rfl, hfree, -, hcorrupt⟩ := release_of_lt h hlt m
        exact ⟨free ++ [m], .putBack m free hlt hcorrupt, hfree⟩
      · rw [release_of_full h hfull]
        exact ⟨free, .refused m free hfull, h⟩
  | write m msg =>
    obtain ⟨rfl, rfl⟩ := Prod.mk.inj hn
    exact ⟨free, .written m msg free, h⟩

end MessageBuffers

namespace PoolUse

variable {τ : Type*} {s s' : PoolUse τ} {free : List MsgPtr} {l : PoolOp × Option MsgPtr}

/-! ### Buffers that are released once -/

/-- What a call does to the free list as a queue. -/
def freeLabel : PoolOp × Option MsgPtr → BoundedFifo.Label MsgPtr
  | (.allocate, some m) => .pop m
  | (.release (some m), _) => .push m
  | _ => .skip

/-- `free` is free, everything else is outstanding, and nothing went wrong. -/
structure Owned (s : PoolUse τ) (free : List MsgPtr) : Prop where
  held : s.pool.Free free
  perm : (free ++ s.outstanding.map Prod.snd).Perm allHdrs
  corrupt : s.pool.freeListCorrupt = 0

theorem Owned.length_add (h : s.Owned free) : free.length + s.outstanding.length = maxMsg := by
  have := h.perm.length_eq
  rwa [List.length_append, List.length_map, length_allHdrs] at this

/-- Every step is one of a first-in first-out queue of the free buffers. -/
theorem Owned.step (h : s.Owned free) (hn : s.Next l s') :
    ∃ free', BoundedFifo.Next maxMsg free (freeLabel l) free' ∧ s'.Owned free' := by
  cases hn with
  | @allocate b t m hcall =>
    obtain ⟨free', heff, hfree⟩ := h.held.effect hcall trivial
    cases heff with
    | handedOut m free' hcorrupt =>
      refine ⟨free', .pop m, hfree, ?_, hcorrupt.trans h.corrupt⟩
      have hperm := h.perm
      rw [List.map_append, ← List.append_assoc, List.map_singleton]
      exact (List.perm_append_singleton _ _).trans hperm
  | @refuse b hcall =>
    obtain ⟨free', heff, hfree⟩ := h.held.effect hcall trivial
    cases heff with
    | exhausted => exact ⟨[], .skip, h⟩
  | @release b t m xs ys hm hcall =>
    have hlen := h.length_add
    rw [hm, List.length_append, List.length_cons] at hlen
    obtain ⟨free', heff, hfree⟩ := h.held.effect hcall trivial
    cases heff with
    | refused m free hfull => omega
    | putBack m free hlt hcorrupt =>
      refine ⟨free ++ [m], .push m hlt, hfree, ?_, hcorrupt.trans h.corrupt⟩
      have hperm := h.perm
      rw [hm, List.map_append, List.map_cons] at hperm
      have hmid : (xs.map Prod.snd ++ m :: ys.map Prod.snd).Perm
          (m :: (xs.map Prod.snd ++ ys.map Prod.snd)) := List.perm_middle
      rw [List.map_append, List.append_assoc, List.singleton_append]
      exact (hmid.symm.append_left free).trans hperm
  | write m msg hcall =>
    obtain ⟨-, rfl⟩ := Prod.mk.inj hcall
    exact ⟨free, .skip, h.held, h.perm, h.corrupt⟩

/-- The buffers handed out by the calls of a run, in order. -/
def handedOut (tr : List (Step (PoolUse τ) (PoolOp × Option MsgPtr))) : List MsgPtr :=
  BoundedFifo.popped (tr.map fun x => freeLabel x.label)

/-- The buffers released in a run, in order. -/
def released (tr : List (Step (PoolUse τ) (PoolOp × Option MsgPtr))) : List MsgPtr :=
  BoundedFifo.pushed (tr.map fun x => freeLabel x.label)

/-- The pool after `messageBuffers_init`, with no buffer handed out. -/
def start (b : MessageBuffers) : PoolUse τ := ⟨b.init, []⟩

theorem owned_start {b : MessageBuffers} (hb : b.freeListCorrupt = 0) :
    (start b : PoolUse τ).Owned allHdrs :=
  ⟨b.free_init, by simp [start], by simpa [start] using hb⟩

/-- What is free at the end of a run are the buffers that were free or became free and have not
been handed out since, in that order. -/
theorem run_owned {b : MessageBuffers} (hb : b.freeListCorrupt = 0)
    {tr : List (Step (PoolUse τ) (PoolOp × Option MsgPtr))} (hr : Run Next (start b) tr s) :
    ∃ free, s.Owned free ∧ allHdrs ++ released tr = handedOut tr ++ free := by
  obtain ⟨tr', free, hr', howned, hlabel⟩ :=
    hr.simulate (R := Owned) (owned_start hb) fun _ _ _ _ h hn => h.step hn
  have hlaw := BoundedFifo.pushed_eq_popped_append hr'
  rw [hlabel] at hlaw
  exact ⟨free, howned, hlaw⟩

/-- **Ownership of the pool.**  In every run of threads that release only what they hold, no buffer
has two holders; the entries of the free list and the outstanding buffers are together the
`MAX_MSG` headers, each once; `messageBuffers_allocate` fails exactly when all are outstanding, and
delivers a message of length zero; buffers are handed out in the order in which they became free;
`messageBuffers_freeCnt` counts those not outstanding; and the free list is never found corrupt. -/
theorem pool_ownership {b : MessageBuffers} (hb : b.freeListCorrupt = 0)
    {tr : List (Step (PoolUse τ) (PoolOp × Option MsgPtr))} (hr : Run Next (start b) tr s) :
    (s.outstanding.map Prod.snd).Nodup ∧
    ((List.range maxMsg).filterMap s.pool.msgFreeList ++ s.outstanding.map Prod.snd).Perm
      ((List.range maxMsg).map .msgHdr) ∧
    (s.pool.allocate.1 = none ↔ s.outstanding.length = maxMsg) ∧
    (∀ m, s.pool.allocate.1 = some m →
      Message.dataLen (s.pool.allocate.2.msgHdr m) = 0 ∧
      (handedOut tr ++ [m]) <+: (List.range maxMsg).map .msgHdr ++ released tr) ∧
    handedOut tr <+: (List.range maxMsg).map .msgHdr ++ released tr ∧
    s.pool.freeCnt = maxMsg - s.outstanding.length ∧
    s.pool.freeListCorrupt = 0 := by
  obtain ⟨free, howned, hlaw⟩ := run_owned hb hr
  have hlen := howned.length_add
  have hnodup : (free ++ s.outstanding.map Prod.snd).Nodup :=
    howned.perm.nodup_iff.mpr nodup_allHdrs
  refine ⟨hnodup.of_append_right, ?_, ?_, ?_, ?_, ?_, howned.corrupt⟩
  · exact (howned.held.entries_perm.append_right _).trans howned.perm
  · cases free with
    | nil =>
      rw [MessageBuffers.allocate_nil howned.held]
      simpa using hlen
    | cons m free =>
      obtain ⟨b', halloc, -⟩ := MessageBuffers.allocate_cons howned.held
      rw [halloc]
      rw [List.length_cons] at hlen
      constructor
      · intro h
        exact absurd h (Option.some_ne_none m)
      · intro h
        omega
  · intro m hm
    cases free with
    | nil =>
      rw [MessageBuffers.allocate_nil howned.held] at hm
      exact absurd hm (Option.some_ne_none m).symm
    | cons m' free =>
      obtain ⟨b', halloc, -, hhdr, -⟩ := MessageBuffers.allocate_cons howned.held
      rw [halloc] at hm ⊢
      obtain rfl := Option.some.inj hm
      refine ⟨?_, free, ?_⟩
      · rw [hhdr, Function.update_self]
        exact MessageBuffers.dataLen_allocated _
      · rw [List.append_assoc, List.singleton_append, ← hlaw, allHdrs]
  · exact ⟨free, hlaw.symm⟩
  · rw [MessageBuffers.freeCnt_eq howned.held]
    omega

/-- The static variables before `messageBuffers_init`, and a run that takes a buffer and gives it
back. -/
theorem pool_ownership_once :
    ∃ (b : MessageBuffers) (tr : List (Step (PoolUse ℕ) (PoolOp × Option MsgPtr)))
      (s : PoolUse ℕ),
      Run Next (start b) tr s ∧ released tr = [.msgHdr 0] ∧
      s.pool.freeCnt = 16 ∧ s.pool.freeListCorrupt = 0 := by
  let b := MessageBuffers.static fun _ => ⟨default, .null⟩
  let s₁ : PoolUse ℕ := ⟨b.init.allocate.2, [(7, .msgHdr 0)]⟩
  have h₁ : Next (start b) (.allocate, some (.msgHdr 0)) s₁ := .allocate 7 (.msgHdr 0) rfl
  have h₂ : Next s₁ (.release (some (.msgHdr 0)), none) ⟨s₁.pool.release (some (.msgHdr 0)), []⟩ :=
    .release 7 (.msgHdr 0) [] [] rfl rfl
  have hr := (Run.nil.snoc h₁).snoc h₂
  obtain ⟨-, -, -, -, -, hcnt, hcorrupt⟩ := pool_ownership (b := b) rfl hr
  exact ⟨b, _, _, hr, rfl, hcnt, hcorrupt⟩

end PoolUse

end TestDomApp
