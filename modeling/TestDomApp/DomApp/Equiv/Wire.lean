import TestDomApp.DomApp.Equiv.ReplyLength

/-!
# The bytes on the wire

`gmsr_sendMessageGeneric` makes one `write` and returns its result; `sendMsg` looks only at its
sign.  A `write` that accepts a part of the reply therefore counts as a success, and the next reply
follows in the middle of a frame.  `sent_whole_iff` says that this is the only way in which the
framing is lost: without such a `write` the wire carries complete frames, and a reply that was not
written completely is the last one.
-/

namespace TestDomApp

open Transition

variable {hal : Hal} {d d' : DomApp} {ev : LoopEvent} {k : ℕ} {m : MsgPtr}

namespace DomApp

/-- Sending a message that fits is one `write` of its bytes. -/
theorem sendMsg_of_le (hbuf : d.messageBuffer = some m)
    (hle : Message.dataLen (d.pool.msgHdr m) ≤ maxdataValue) (tx : WriteResult) :
    d.sendMsg tx =
      some (if (write tx (txbuf (d.pool.msgHdr m) d.mem)).1 < 0
          then (write tx (txbuf (d.pool.msgHdr m) d.mem)).1 else 0,
        { d with
          pool := d.pool.release (some m)
          wire := d.wire ++ (write tx (txbuf (d.pool.msgHdr m) d.mem)).2 }) := by
  unfold sendMsg
  rw [hbuf, Option.map_some, gmsrSendMessageGeneric_of_le hle]

/-- A message that does not fit overruns the transmit buffer. -/
theorem sendMsg_of_lt (hbuf : d.messageBuffer = some m)
    (hlt : maxdataValue < Message.dataLen (d.pool.msgHdr m)) (tx : WriteResult) :
    d.sendMsg tx = none := by
  unfold sendMsg
  rw [hbuf, Option.map_some, gmsrSendMessageGeneric, if_pos (by omega)]

theorem exists_frame_txbuf {msg : MessageStruct} (hle : Message.dataLen msg ≤ maxdataValue)
    (mem : Memory) : ∃ f : Frame, txbuf msg mem = f.bytes :=
  ⟨Outgoing.frame ⟨msg, mem, hle⟩, Outgoing.txbuf_eq_bytes ⟨msg, mem, hle⟩⟩

end DomApp

/-! ### One reply -/

theorem write_all (bs : List UInt8) : write .all bs = ((bs.length : ℤ), bs) := rfl

theorem write_fail (bs : List UInt8) : write .fail bs = (-1, []) := rfl

/-- A short `write` succeeds, and leaves something out. -/
theorem write_short {bs : List UInt8} (hne : bs ≠ []) (missing : ℕ) :
    0 ≤ (write (.short missing) bs).1 ∧ (write (.short missing) bs).2.length < bs.length := by
  have := List.length_pos_iff.mpr hne
  refine ⟨Int.natCast_nonneg _, ?_⟩
  rw [write, List.length_take]
  omega

namespace Main

open DomApp

/-- `sendMsg` returns `0` only when the whole reply was written. -/
def SendsWhole (hal : Hal) (ev : LoopEvent) (d : DomApp) : Prop :=
  ∀ d' d'' m, beforeSend hal ev d = .ok d' → d'.sendMsg ev.tx = some (0, d'') →
    d'.messageBuffer = some m → d''.wire = d'.wire ++ txbuf (d'.pool.msgHdr m) d'.mem

/-- The iteration makes a `write` that accepts only a part of the bytes. -/
def WritesShort (hal : Hal) (ev : LoopEvent) (d : DomApp) : Prop :=
  (∃ missing, ev.tx = .short missing) ∧
    ∃ d' r, beforeSend hal ev d = .ok d' ∧ d'.sendMsg ev.tx = some r

/-- An iteration without a `write`. -/
theorem sendsWhole_iff_of_no_write
    (hno : ∀ d' r, beforeSend hal ev d = .ok d' → d'.sendMsg ev.tx ≠ some r) :
    SendsWhole hal ev d ↔ ¬ WritesShort hal ev d := by
  refine iff_of_true ?_ ?_
  · intro d' d'' m hd hs
    exact absurd hs (hno d' _ hd)
  · rintro ⟨-, d', r, hd, hs⟩
    exact hno d' r hd hs

/-- **One iteration**: the whole reply is written, or the send fails, exactly when the `write` is
not short. -/
theorem sendsWhole_iff (h : d.AtHead k) (hal : Hal) (ev : LoopEvent) :
    SendsWhole hal ev d ↔ ¬ WritesShort hal ev d := by
  rcases beforeSend_spec h hal ev with ⟨d', heq, hheld⟩ | ⟨d', heq, -⟩ | heq
  rotate_left
  · exact sendsWhole_iff_of_no_write fun _ _ hd => nomatch heq.symm.trans hd
  · exact sendsWhole_iff_of_no_write fun _ _ hd => nomatch heq.symm.trans hd
  have hbuf := hheld.messageBuffer
  generalize MsgPtr.msgHdr (k % maxMsg) = m at hbuf
  rcases lt_or_ge maxdataValue (Message.dataLen (d'.pool.msgHdr m)) with hlt | hle
  · -- The reply overruns the transmit buffer.
    refine sendsWhole_iff_of_no_write fun d₁ r hd => ?_
    obtain rfl := Except.ok.inj (heq.symm.trans hd)
    rw [sendMsg_of_lt hbuf hlt]
    exact (Option.some_ne_none r).symm
  have hsend := sendMsg_of_le hbuf hle ev.tx
  obtain ⟨f, hf⟩ := exists_frame_txbuf hle d'.mem
  constructor
  · rintro hall ⟨⟨missing, htx⟩, -⟩
    obtain ⟨hnonneg, hlt⟩ := write_short f.bytes_ne_nil missing
    -- The call returns `0`, with fewer bytes on the wire than the frame has.
    rw [htx, hf, if_neg (not_lt.mpr hnonneg)] at hsend
    have hwire := hall d' _ m heq (htx ▸ hsend) hbuf
    rw [hf, htx] at hwire
    have := congrArg List.length (List.append_cancel_left hwire)
    omega
  · intro hnot d₁ d₂ m' hd hs hm'
    obtain rfl := Except.ok.inj (heq.symm.trans hd)
    obtain rfl := Option.some.inj (hbuf.symm.trans hm')
    rw [hsend] at hs
    obtain ⟨hsts, rfl⟩ := Prod.mk.inj (Option.some.inj hs)
    cases htx : ev.tx with
    | all => rfl
    | short missing => exact absurd ⟨⟨missing, htx⟩, _, _, heq, hsend⟩ hnot
    | fail =>
      rw [htx, write_fail] at hsts
      exact absurd hsts (by decide)

/-! ### The wire -/

theorem beforeSend_wire (h : d.AtHead k) (hal : Hal) (ev : LoopEvent) :
    (∀ d', beforeSend hal ev d = .ok d' → d'.wire = d.wire) ∧
    ∀ ret d', beforeSend hal ev d = .error (.exited ret d') → d'.wire = d.wire := by
  obtain ⟨pool, free, halloc, -, -⟩ := h.allocate
  rcases lt_or_ge 0 (d.receive ev.fstatFails pool (.msgHdr (k % maxMsg))).1.ret with hpos | hnonpos
  · rw [beforeSend_of_pos halloc hpos]
    constructor
    · intro d' hd
      split_ifs at hd
      obtain rfl := Except.ok.inj hd
      rfl
    · intro ret d' hd
      split_ifs at hd
      exact nomatch hd
  · rw [beforeSend_of_nonpos halloc hnonpos]
    constructor
    · intro d' hd
      exact nomatch hd
    · intro ret d' hd
      obtain ⟨-, rfl⟩ := Main.exited.inj (Except.error.inj hd)
      rfl

/-- What the wire carries at the head of the loop: complete frames.  After `main` has returned the
last one may be incomplete.  Runs that get to something undefined (`reply_fits_iff`) are left out:
nothing is said about their wire. -/
def WireFramed : Main → Prop
  | .loopHead d => ∃ fs : List Frame, d.wire = fs.flatMap Frame.bytes
  | .exited _ d => ∃ (fs : List Frame) (f : Frame) (part : List UInt8), part <+: f.bytes ∧
      d.wire = fs.flatMap Frame.bytes ++ part
  | .undefined => True

/-- The wire when `main` returns with nothing more sent. -/
theorem wireFramed_exited {ret : ℤ} {fs : List Frame} (hwire : d.wire = fs.flatMap Frame.bytes) :
    WireFramed (.exited ret d) := by
  let f : Frame := ⟨default, [], rfl, Nat.zero_le _⟩
  exact ⟨fs, f, [], List.nil_prefix, by rw [hwire, List.append_nil]⟩

/-- **One iteration** adds a complete frame to the wire, if the reply is written as a whole. -/
theorem iterate_wireFramed (h : d.AtHead k) (hwhole : SendsWhole hal ev d)
    (hframed : WireFramed (.loopHead d)) : WireFramed (iterate hal ev d) := by
  obtain ⟨fs, hfs⟩ := hframed
  have hwire := beforeSend_wire h hal ev
  unfold iterate
  rcases beforeSend_spec h hal ev with ⟨d', heq, hheld⟩ | ⟨d', heq, -⟩ | heq
  rotate_left
  · rw [heq]
    exact wireFramed_exited ((hwire.2 _ _ heq).trans hfs)
  · rw [heq]
    trivial
  rw [heq]
  have hfs' := (hwire.1 _ heq).trans hfs
  have hbuf := hheld.messageBuffer
  generalize MsgPtr.msgHdr (k % maxMsg) = m at hbuf
  dsimp only
  rcases lt_or_ge maxdataValue (Message.dataLen (d'.pool.msgHdr m)) with hlt | hle
  · rw [sendMsg_of_lt hbuf hlt]
    trivial
  obtain ⟨f, hf⟩ := exists_frame_txbuf hle d'.mem
  have hsend := sendMsg_of_le hbuf hle ev.tx
  rw [hf] at hsend
  by_cases hsts : (write ev.tx f.bytes).1 < 0
  · -- A failed `write` puts nothing on the wire.
    rw [if_pos hsts] at hsend
    rw [hsend]
    dsimp only
    rw [if_pos hsts]
    have hfail : (write ev.tx f.bytes).2 = [] := by
      cases htx : ev.tx with
      | fail => rfl
      | all => rw [htx, write_all] at hsts; omega
      | short missing =>
        rw [htx] at hsts
        exact absurd hsts (not_lt.mpr (write_short f.bytes_ne_nil missing).1)
    exact wireFramed_exited (by rw [hfail, List.append_nil]; exact hfs')
  · rw [if_neg hsts] at hsend
    rw [hsend]
    dsimp only
    rw [if_neg (lt_irrefl _)]
    -- The iteration gets back to the head of the loop with one more frame.
    have hnew := hwhole d' _ m heq hsend hbuf
    refine ⟨fs ++ [f], ?_⟩
    rw [hnew, hf, hfs', List.flatMap_append, List.flatMap_singleton]

/-! ### Every run -/

/-- `sendMsg` returns an error or `0`. -/
theorem sendMsg_sts {tx : WriteResult} {sts : ℤ} (h : d.sendMsg tx = some (sts, d')) :
    sts < 0 ∨ sts = 0 := by
  unfold sendMsg at h
  split at h
  · exact absurd h.symm (Option.some_ne_none _)
  · obtain ⟨rfl, -⟩ := Prod.mk.inj (Option.some.inj h)
    split_ifs with hneg
    · exact Or.inl hneg
    · exact Or.inr rfl

/-- If the iteration puts a reply on the wire, it puts all of it there. -/
def WritesWhole (hal : Hal) (ev : LoopEvent) (d : DomApp) : Prop :=
  ∀ d' r m, beforeSend hal ev d = .ok d' → d'.sendMsg ev.tx = some r →
    d'.messageBuffer = some m → r.2.wire = d'.wire ++ txbuf (d'.pool.msgHdr m) d'.mem

/-- An iteration that gets back to the head of the loop has written the whole reply. -/
theorem writesWhole_of_loopHead {d₁ : DomApp} (hwhole : SendsWhole hal ev d)
    (hback : iterate hal ev d = .loopHead d₁) : WritesWhole hal ev d := by
  rintro d' ⟨sts, d''⟩ m hd hs hm
  have hzero : sts = 0 := by
    rcases sendMsg_sts hs with hneg | hzero
    · unfold iterate at hback
      rw [hd] at hback
      dsimp only at hback
      rw [hs] at hback
      dsimp only at hback
      rw [if_pos hneg] at hback
      exact nomatch hback
    · exact hzero
  subst hzero
  exact hwhole d' d'' m hd hs hm

variable {s t : Main} {tr : List (Step Main LoopEvent)}

/-- A run goes on only from the head of the loop. -/
theorem exists_loopHead_of_run (hr : Run (Next hal) t tr s) (hne : tr ≠ []) :
    ∃ d, t = .loopHead d := by
  obtain ⟨y, tr, rfl⟩ := List.exists_cons_of_ne_nil hne
  rw [← List.singleton_append] at hr
  obtain ⟨_, hr, -⟩ := hr.of_append
  rw [← List.nil_append [y], Run.snoc_iff] at hr
  obtain ⟨hnil, ⟨d, hpre, -⟩, -⟩ := hr
  exact ⟨d, (Run.nil_iff.mp hnil).symm.trans hpre⟩

theorem run_wireFramed {d₀ : DomApp} (h₀ : d₀.AtHead 0) (hwire : d₀.wire = [])
    (hr : Run (Next hal) (.loopHead d₀) tr s)
    (hwhole : ∀ x ∈ tr, ∀ d, x.pre = .loopHead d → SendsWhole hal x.label d) : WireFramed s := by
  induction hr with
  | nil => exact ⟨[], hwire⟩
  | snoc hr hn ih =>
    obtain ⟨d, rfl, rfl⟩ := hn
    have hlast := hwhole _ (List.mem_append_right _ (List.mem_singleton_self _)) d rfl
    have hbefore := ih fun x hx => hwhole x (List.mem_append_left _ hx)
    exact iterate_wireFramed (run_returned h₀ hr) hlast hbefore

/-- **When the wire carries whole replies.**  In a run of `main`, `sendMsg` returns `0` only for a
reply that was written as a whole, the wire carries complete frames, up to the last one if `main`
has returned, unless something undefined has happened, and a reply that was not written as a whole
is followed by nothing, if and only if no `write` accepts only a part of a reply. -/
theorem sent_whole_iff {msgHdr : MsgPtr → MessageStruct} {mem : Memory} {fd : Filedes}
    (hr : Run (Next hal) (.loopHead (start msgHdr mem fd)) tr s) :
    ((∀ x ∈ tr, ∀ d, x.pre = .loopHead d → SendsWhole hal x.label d) ∧ WireFramed s ∧
      ∀ tr₁ x tr₂, tr = tr₁ ++ [x] ++ tr₂ → tr₂ ≠ [] →
        ∀ d, x.pre = .loopHead d → WritesWhole hal x.label d) ↔
    ∀ x ∈ tr, ∀ d, x.pre = .loopHead d → ¬ WritesShort hal x.label d := by
  have h₀ := atHead_start msgHdr mem fd
  have hiff : (∀ x ∈ tr, ∀ d, x.pre = .loopHead d → SendsWhole hal x.label d) ↔
      ∀ x ∈ tr, ∀ d, x.pre = .loopHead d → ¬ WritesShort hal x.label d := by
    apply forall_iteration_congr hr (P := SendsWhole hal) (Q := fun ev d => ¬ WritesShort hal ev d)
    intro x _ k d hhead
    exact sendsWhole_iff hhead hal x.label
  constructor
  · rintro ⟨hwhole, -⟩
    exact hiff.mp hwhole
  · intro hshort
    have hwhole := hiff.mpr hshort
    refine ⟨hwhole, run_wireFramed h₀ rfl hr hwhole, ?_⟩
    rintro tr₁ x tr₂ rfl hne d hd
    -- What follows starts where this iteration ended, so that was the head of the loop.
    obtain ⟨t, hr₁, hr₂⟩ := hr.of_append
    obtain ⟨-, ⟨d', hpre, hpost⟩, rfl⟩ := Run.snoc_iff.mp hr₁
    obtain rfl := Main.loopHead.inj (hpre.symm.trans hd)
    obtain ⟨d₁, hback⟩ := exists_loopHead_of_run hr₂ hne
    exact writesWhole_of_loopHead (hwhole x (by simp) d' hd) (hpost.symm.trans hback)

/-- A device that delivers echo requests, and a `write` that accepts the reply. -/
theorem sent_whole_iff_echo :
    ∃ (reads : ℕ → DeviceRead) (ev : LoopEvent) (s : Main),
      Run (Next .default) (.loopHead (boot (.chr reads)))
        [⟨.loopHead (boot (.chr reads)), ev, s⟩] s ∧ WireFramed s := by
  let reads : ℕ → DeviceRead :=
    fun _ => .frame [1, 18, 0, 1, 0, 0, 0, 0, 65] (by simp) (by decide)
  let ev : LoopEvent := ⟨false, .blank, .all⟩
  obtain ⟨s, hn⟩ := exists_next .default ev (boot (.chr reads))
  have hr := Run.nil.snoc hn
  obtain ⟨-, hframed, -⟩ := (sent_whole_iff hr).mpr <| by
    rintro x hx d - ⟨⟨missing, htx⟩, -⟩
    obtain rfl := List.mem_singleton.mp hx
    exact nomatch htx
  exact ⟨reads, ev, s, hr, hframed⟩

/-- The same device, and a `write` that accepts all but the last byte of the reply: `sendMsg` returns
`0`. -/
theorem sends_part :
    ¬ ∀ (hal : Hal) (msgHdr : MsgPtr → MessageStruct) (mem : Memory) (fd : Filedes)
      (tr : List (Step Main LoopEvent)) (s : Main),
      Run (Next hal) (.loopHead (start msgHdr mem fd)) tr s →
      (∀ x ∈ tr, ∀ d, x.pre = .loopHead d → SendsWhole hal x.label d) ∧ WireFramed s ∧
        ∀ tr₁ x tr₂, tr = tr₁ ++ [x] ++ tr₂ → tr₂ ≠ [] →
          ∀ d, x.pre = .loopHead d → WritesWhole hal x.label d := by
  intro hall
  let bs : List UInt8 := [1, 18, 0, 1, 0, 0, 0, 0, 65]
  let reads : ℕ → DeviceRead := fun _ => .frame bs (by simp [bs]) (by decide)
  let ev : LoopEvent := ⟨false, .blank, .short 0⟩
  obtain ⟨s, hn⟩ := exists_next .default ev (boot (.chr reads))
  obtain ⟨hwhole, -⟩ := hall _ _ _ _ _ _ (Run.nil.snoc hn)
  refine (sendsWhole_iff (atHead_start _ _ _) .default ev).mp
    (hwhole _ (List.mem_singleton_self _) _ rfl) ⟨⟨0, rfl⟩, ?_⟩
  -- The request is received and answered, so that a `write` is made.
  obtain ⟨pool, halloc⟩ : ∃ pool, (boot (.chr reads)).pool.allocate = (some (.msgHdr 0), pool) :=
    start_allocate _ _ _
  obtain ⟨hret, hmsg⟩ : ((boot (.chr reads)).receive false pool (.msgHdr 0)).1.ret = bs.length ∧ _ :=
    receive_chr rfl rfl pool (.msgHdr 0)
  have hpos : 0 < ((boot (.chr reads)).receive ev.fstatFails pool (.msgHdr 0)).1.ret := by
    rw [hret]
    decide
  have hsend := beforeSend_of_pos halloc hpos .default
  rw [hmsg, if_pos (by rfl)] at hsend
  have ho : outcome ((boot (.chr reads)).receive false pool (.msgHdr 0)).1.recvBuffer
      = .fulfilled .msghandEchoMsg := by
    rw [hmsg]
    rfl
  have hle := (msgHandler_spec .default ev.svc (boot (.chr reads)).handler
    ((boot (.chr reads)).receive ev.fstatFails pool (.msgHdr 0)).1.recvBuffer
    ((boot (.chr reads)).afterReceive ev.fstatFails pool (.msgHdr 0)).mem).2.dataLen_le_iff
    Services.fitsData_blank
  rw [ho, ← afterHandler_msgHdr] at hle
  exact ⟨_, _, hsend, sendMsg_of_le rfl (hle.mpr nofun) _⟩

end Main

end TestDomApp
