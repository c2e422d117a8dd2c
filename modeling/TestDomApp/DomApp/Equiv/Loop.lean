import TestDomApp.DomApp.Equiv.RecvMsg
import TestDomApp.MsgHandler.Equiv.Outcome
import TestDomApp.Transition.Run

/-!
# The buffers of the request loop

Every iteration takes the first free buffer and, however it ends, gives it back as the last one.
So at the head of the loop the free list is the whole pool, rotated by one place for each iteration
(`AtHead`), and the same holds when `main` returns.  `buffers_returned` states what follows for
every run.
-/

namespace TestDomApp

open Transition

variable {hal : Hal}

/-- After `k` iterations the buffers are free in this order. -/
def freeOrder (k : ℕ) : List MsgPtr := allHdrs.rotate k

theorem freeOrder_perm (k : ℕ) : (freeOrder k).Perm allHdrs := List.rotate_perm _ _

/-- The next iteration takes buffer `k mod MAX_MSG` and puts it at the end. -/
theorem freeOrder_eq_cons (k : ℕ) :
    ∃ free, freeOrder k = .msgHdr (k % maxMsg) :: free ∧
      free ++ [.msgHdr (k % maxMsg)] = freeOrder (k + 1) := by
  have hlen : (freeOrder k).length = maxMsg := by rw [freeOrder, List.length_rotate, length_allHdrs]
  obtain ⟨m, free, heq⟩ : ∃ m free, freeOrder k = m :: free :=
    List.exists_cons_of_length_pos (by rw [hlen]; decide)
  have hm : m = .msgHdr (k % maxMsg) := by
    have hhead : (freeOrder k)[0]? = some m := by rw [heq]; rfl
    -- The head of the rotated list is the entry at the offset of the rotation.
    rw [freeOrder, List.getElem?_rotate (by rw [length_allHdrs]; decide), length_allHdrs,
      Nat.zero_add, allHdrs, List.getElem?_map, List.getElem?_range (Nat.mod_lt _ (by decide))]
      at hhead
    exact (Option.some.inj hhead).symm
  subst hm
  refine ⟨free, heq, ?_⟩
  rw [freeOrder, ← List.rotate_rotate, ← freeOrder, heq, List.rotate_cons_succ, List.rotate_zero]

theorem length_lt_of_append_eq {free : List MsgPtr} {m : MsgPtr} {k : ℕ}
    (h : free ++ [m] = freeOrder k) : free.length < maxMsg := by
  have hlen := congrArg List.length h
  rw [freeOrder, List.length_rotate, length_allHdrs, List.length_append,
    List.length_singleton] at hlen
  omega

namespace MessageBuffers

/-- The buffers `free` are free, every header is linked to its own data, and nothing went wrong. -/
structure InOrder (b : MessageBuffers) (free : List MsgPtr) : Prop where
  free : b.Free free
  corrupt : b.freeListCorrupt = 0
  data : ∀ i < maxMsg, (b.msgHdr (.msgHdr i)).data = .msgData i

variable {b : MessageBuffers} {free : List MsgPtr} {m : MsgPtr}

/-- Writing to a message is harmless as long as its data pointer stays. -/
theorem InOrder.write (h : b.InOrder free) (m : MsgPtr) (msg : MessageStruct)
    (hmsg : msg.data = (b.msgHdr m).data) :
    InOrder { b with msgHdr := Function.update b.msgHdr m msg } free where
  free := h.free
  corrupt := h.corrupt
  data := by
    intro i hi
    show (Function.update b.msgHdr m msg (.msgHdr i)).data = .msgData i
    by_cases hm : MsgPtr.msgHdr i = m
    · rw [hm, Function.update_self, hmsg, ← hm, h.data i hi]
    · rw [Function.update_of_ne hm, h.data i hi]

theorem InOrder.allocate (h : b.InOrder (m :: free)) :
    ∃ b', b.allocate = (some m, b') ∧ b'.InOrder free := by
  obtain ⟨b', halloc, hfree, hhdr, hcorrupt⟩ := allocate_cons h.free
  refine ⟨b', halloc, hfree, hcorrupt.trans h.corrupt, ?_⟩
  intro i hi
  rw [hhdr]
  exact (h.write m { b.msgHdr m with
    head := { (b.msgHdr m).head with dlenHI := 0, dlenLO := 0 } } rfl).data i hi

theorem InOrder.release (h : b.InOrder free) (hlt : free.length < maxMsg) (m : MsgPtr) :
    (b.release (some m)).InOrder (free ++ [m]) := by
  obtain ⟨b', hrel, hfree, hhdr, hcorrupt⟩ := release_of_lt h.free hlt m
  rw [hrel]
  refine ⟨hfree, hcorrupt.trans h.corrupt, ?_⟩
  intro i hi
  rw [hhdr, h.data i hi]

end MessageBuffers

namespace DomApp

variable {d d' : DomApp} {k : ℕ}

/-- At the head of the loop after `k` iterations all buffers are free, in turn. -/
def AtHead (k : ℕ) (d : DomApp) : Prop := d.pool.InOrder (freeOrder k)

/-- Between `recvMsg` and `sendMsg` one buffer is in use, the one that was next. -/
structure Holding (k : ℕ) (d : DomApp) : Prop where
  messageBuffer : d.messageBuffer = some (.msgHdr (k % maxMsg))
  inOrder : ∃ free, free ++ [.msgHdr (k % maxMsg)] = freeOrder (k + 1) ∧ d.pool.InOrder free

theorem atHead_start (msgHdr : MsgPtr → MessageStruct) (mem : Memory) (fd : Filedes) :
    (start msgHdr mem fd).AtHead 0 where
  free := by
    rw [freeOrder, List.rotate_zero]
    exact MessageBuffers.free_init _
  corrupt := MessageBuffers.freeListCorrupt_init _
  data _ hi := MessageBuffers.data_init _ hi

theorem AtHead.allocate (h : d.AtHead k) :
    ∃ pool free, d.pool.allocate = (some (.msgHdr (k % maxMsg)), pool) ∧
      free ++ [.msgHdr (k % maxMsg)] = freeOrder (k + 1) ∧ pool.InOrder free := by
  obtain ⟨free, heq, hrot⟩ := freeOrder_eq_cons k
  unfold AtHead at h
  rw [heq] at h
  obtain ⟨pool, halloc, horder⟩ := h.allocate
  exact ⟨pool, free, halloc, hrot, horder⟩

/-- The receivers keep the data pointer, when they are given the array the message is linked to. -/
theorem receive_data (fstatFails : Bool) (d : DomApp) (pool : MessageBuffers) (m : MsgPtr) :
    (d.receive fstatFails pool m).1.recvBuffer.data = (pool.msgHdr m).data := by
  unfold receive
  cases (if fstatFails then Filedes.other else d.domInputFile) with
  | other => rfl
  | chr reads =>
    simp only [gmsrRecvMessageGeneric, gmsrRecvMessageFromFile]
    cases reads 0 with
    | fail e => rfl
    | frame bs hpos hle => rfl
  | sock s =>
    simp only [gmsrRecvMessageGeneric, gmsrRecvMessageFromSocket]
    split
    · rfl
    · split_ifs
      · rfl
      · split <;> rfl

/-- **`recvMsg`** takes the next buffer, and keeps it exactly when it succeeds. -/
theorem AtHead.recvMsg (h : d.AtHead k) (fstatFails : Bool) :
    (0 < (d.recvMsg fstatFails).1 → (d.recvMsg fstatFails).2.Holding k) ∧
    ((d.recvMsg fstatFails).1 ≤ 0 → (d.recvMsg fstatFails).2.AtHead (k + 1)) ∧
    (d.recvMsg fstatFails).2.messageBuffer = some (.msgHdr (k % maxMsg)) := by
  obtain ⟨pool, free, halloc, hrot, horder⟩ := h.allocate
  have hdata := receive_data fstatFails d pool (.msgHdr (k % maxMsg))
  have hiff := recvMsg_nonpos_iff halloc fstatFails
  rcases lt_or_ge 0 (d.receive fstatFails pool (.msgHdr (k % maxMsg))).1.ret with hpos | hnonpos
  · rw [recvMsg_of_pos halloc hpos]
    refine ⟨fun _ => ⟨rfl, free, hrot, horder.write _ _ hdata⟩, fun h => ?_, rfl⟩
    have h : (1 : ℤ) ≤ 0 := h
    omega
  · -- The message is patched up, which keeps its data pointer, and released.
    have hle := hiff.mpr hnonpos
    rw [recvMsg_of_nonpos halloc hnonpos] at hle ⊢
    refine ⟨fun h => absurd h (not_lt.mpr hle), fun _ => ?_, rfl⟩
    have hpatched := horder.write (.msgHdr (k % maxMsg)) (Message.setData
      ((d.afterReceive fstatFails pool (.msgHdr (k % maxMsg))).pool.msgHdr (.msgHdr (k % maxMsg)))
      (pool.msgHdr (.msgHdr (k % maxMsg))).data maxdataValue) rfl
    have hrel := hpatched.release (length_lt_of_append_eq hrot) (.msgHdr (k % maxMsg))
    rw [hrot] at hrel
    exact hrel

/-- **`sendMsg`** gives the buffer back, whatever comes of the `write`. -/
theorem Holding.sendMsg (h : d.Holding k) {tx : WriteResult} {sts : ℤ}
    (hs : d.sendMsg tx = some (sts, d')) : d'.AtHead (k + 1) := by
  obtain ⟨hbuf, free, hrot, horder⟩ := h
  unfold DomApp.sendMsg at hs
  rw [hbuf] at hs
  split at hs
  · exact absurd hs.symm (Option.some_ne_none _)
  · obtain ⟨-, rfl⟩ := Prod.mk.inj (Option.some.inj hs)
    have hrel := horder.release (length_lt_of_append_eq hrot) (.msgHdr (k % maxMsg))
    rw [hrot] at hrel
    exact hrel

end DomApp

namespace Main

open DomApp

variable {d d' : DomApp} {k : ℕ} {ev : LoopEvent}

/-- Up to `sendMsg` an iteration ends with the buffer in use, or `main` has returned after giving it
back. -/
theorem beforeSend_spec (h : d.AtHead k) (hal : Hal) (ev : LoopEvent) :
    (∃ d', beforeSend hal ev d = .ok d' ∧ d'.Holding k) ∨
    (∃ d', beforeSend hal ev d = .error (.exited comError d') ∧ d'.AtHead (k + 1)) ∨
    beforeSend hal ev d = .error .undefined := by
  obtain ⟨hheld, hback, hbuf⟩ := h.recvMsg ev.fstatFails
  unfold beforeSend
  dsimp only
  rw [hbuf]
  by_cases hle : (d.recvMsg ev.fstatFails).1 ≤ 0
  · rw [if_pos hle]
    exact Or.inr (Or.inl ⟨_, rfl, hback hle⟩)
  rw [if_neg hle]
  dsimp only
  split_ifs with hfits
  · refine Or.inl ⟨_, rfl, ?_⟩
    obtain ⟨-, free, hrot, horder⟩ := hheld (not_le.mp hle)
    refine ⟨rfl, free, hrot, horder.write _ _ ?_⟩
    exact (msgHandler_spec hal ev.svc _ _ _).2.data_eq
  · exact Or.inr (Or.inr rfl)

/-- Wherever `main` is after `k` iterations, all buffers are back. -/
def Returned (k : ℕ) : Main → Prop
  | .loopHead d => d.AtHead k
  | .exited _ d => d.AtHead k
  | .undefined => True

/-- **One iteration** gives back the buffer it takes. -/
theorem iterate_returned (h : d.AtHead k) (hal : Hal) (ev : LoopEvent) :
    Returned (k + 1) (iterate hal ev d) := by
  unfold iterate
  rcases beforeSend_spec h hal ev with ⟨d', heq, hheld⟩ | ⟨d', heq, hback⟩ | heq
  · rw [heq]
    dsimp only
    split
    · trivial
    · rename_i sts d'' hs
      have hback := hheld.sendMsg hs
      split_ifs
      · exact hback
      · exact hback
  · rw [heq]
    exact hback
  · rw [heq]
    trivial

variable {d₀ : DomApp} {s : Main} {tr : List (Step Main LoopEvent)}

/-- **Every run** gives back the buffers it takes. -/
theorem run_returned (h₀ : d₀.AtHead 0) (hr : Run (Next hal) (.loopHead d₀) tr s) :
    Returned tr.length s := by
  induction hr with
  | nil => exact h₀
  | snoc hr hn ih =>
    obtain ⟨d, rfl, rfl⟩ := hn
    rw [List.length_append, List.length_singleton]
    exact iterate_returned ih hal _

/-- The iteration number `k` of a run starts at the head of the loop after `k` iterations. -/
theorem atHead_of_getElem? (h₀ : d₀.AtHead 0) (hr : Run (Next hal) (.loopHead d₀) tr s) {k : ℕ}
    {x : Step Main LoopEvent} (hx : tr[k]? = some x) : ∃ d, x.pre = .loopHead d ∧ d.AtHead k ∧
      x.post = iterate hal x.label d := by
  obtain ⟨hk, rfl⟩ := List.getElem?_eq_some_iff.mp hx
  -- Cut the run at the iteration.
  have hsplit : tr = tr.take k ++ tr[k] :: tr.drop (k + 1) := by simp
  rw [hsplit] at hr
  obtain ⟨hr₁, hn⟩ := hr.of_append_cons
  have hret := run_returned h₀ hr₁
  rw [List.length_take, Nat.min_eq_left (by omega)] at hret
  obtain ⟨d, hpre, hpost⟩ := hn
  rw [hpre] at hret
  exact ⟨d, hpre, hret, hpost⟩

/-- Two properties of an iteration that agree wherever the buffers are all back hold of the same
iterations of every run. -/
theorem forall_iteration_congr {msgHdr : MsgPtr → MessageStruct} {mem : Memory} {fd : Filedes}
    (hr : Run (Next hal) (.loopHead (start msgHdr mem fd)) tr s) {P Q : LoopEvent → DomApp → Prop}
    (hPQ : ∀ x ∈ tr, ∀ k d, AtHead k d → (P x.label d ↔ Q x.label d)) :
    (∀ x ∈ tr, ∀ d, x.pre = .loopHead d → P x.label d) ↔
      ∀ x ∈ tr, ∀ d, x.pre = .loopHead d → Q x.label d := by
  refine forall₂_congr fun x hx => forall₂_congr fun d hd => ?_
  obtain ⟨tr₁, -, hr₁, -⟩ := hr.of_mem hx
  have hhead := run_returned (atHead_start _ _ _) hr₁
  rw [hd] at hhead
  exact hPQ x hx _ d hhead

/-- **The buffers of the loop.**  In every run of `main`, at the head of the loop and when `main`
has returned, the free list holds the `MAX_MSG` buffers, each once, was never found corrupt, and
every header is linked to its own data array.  `recvMsg` always gets a buffer, and the request
number `k` is received in the buffer `k mod MAX_MSG`. -/
theorem buffers_returned {msgHdr : MsgPtr → MessageStruct} {mem : Memory} {fd : Filedes}
    (hr : Run (Next hal) (.loopHead (start msgHdr mem fd)) tr s) :
    (∀ d, s = .loopHead d ∨ (∃ ret, s = .exited ret d) →
      ((List.range maxMsg).filterMap d.pool.msgFreeList).Perm ((List.range maxMsg).map .msgHdr) ∧
      d.pool.freeListCorrupt = 0 ∧
      ∀ i < maxMsg, (d.pool.msgHdr (.msgHdr i)).data = .msgData i) ∧
    ∀ (k : ℕ) (d : DomApp) (ev : LoopEvent) (s' : Main), tr[k]? = some ⟨.loopHead d, ev, s'⟩ →
      d.pool.allocate.1 ≠ none ∧
      (d.recvMsg ev.fstatFails).2.messageBuffer = some (.msgHdr (k % maxMsg)) := by
  constructor
  · intro d hd
    have hret := run_returned (atHead_start _ _ _) hr
    have horder : d.AtHead tr.length := by
      rcases hd with rfl | ⟨ret, rfl⟩
      · exact hret
      · exact hret
    refine ⟨?_, horder.corrupt, horder.data⟩
    exact horder.free.entries_perm.trans (freeOrder_perm _)
  · intro k d ev s' hx
    obtain ⟨d', hpre, horder, -⟩ := atHead_of_getElem? (atHead_start _ _ _) hr hx
    obtain rfl := Main.loopHead.inj hpre
    obtain ⟨pool, free, halloc, -, -⟩ := horder.allocate
    refine ⟨?_, (horder.recvMsg ev.fstatFails).2.2⟩
    rw [halloc]
    exact Option.some_ne_none _

/-- A socket that delivers an echo request with one byte of data. -/
def byteSock : Filedes := .sock ⟨[1, 18, 0, 1, 0, 0, 0, 0, 65], .eof, fun _ => 0⟩

/-- An iteration that receives the request, in the first buffer. -/
theorem buffers_returned_byte :
    ∃ (s : Main) (ev : LoopEvent), Run (Next .default) (.loopHead (boot byteSock))
        [⟨.loopHead (boot byteSock), ev, s⟩] s ∧
      ((boot byteSock).recvMsg ev.fstatFails).1 = 1 ∧
      ((boot byteSock).recvMsg ev.fstatFails).2.messageBuffer = some (.msgHdr 0) := by
  let ev : LoopEvent := ⟨false, .blank, .all⟩
  let f : Frame := ⟨⟨1, 18, 0, 1, 0, 0, 0, 0⟩, [65], rfl, by decide⟩
  obtain ⟨s, hn⟩ := exists_next .default ev (boot byteSock)
  have hr := Run.nil.snoc hn
  obtain ⟨pool, halloc⟩ : ∃ pool, (boot byteSock).pool.allocate = (some (.msgHdr 0), pool) :=
    start_allocate _ _ _
  obtain ⟨sched, hrecv⟩ := recvMsg_sock_frame (f := f) halloc rfl (List.append_nil _).symm
    (List.cons_ne_nil _ _)
  exact ⟨s, ev, hr, congrArg Prod.fst hrecv,
    ((buffers_returned hr).2 0 (boot byteSock) ev s rfl).2⟩

end Main

end TestDomApp
