import TestDomApp.DomApp.Equiv.Loop

/-!
# The length of a reply

`gmsr_sendMessageGeneric` copies as many bytes as the header of the reply announces, into an array
that holds `MAXDATA_VALUE` of them.  The receivers bound the length of a request, except that a
device may deliver fewer bytes than a header: the length is then negative, and wraps around
(`receive_dataLen_le_iff`).  The handler announces at most `MAXDATA_VALUE` bytes, except that a
request with an unknown subtype keeps its length (`ReplyFollows.dataLen_le_iff`).  Where both come
together the reply overruns the arrays, and only there (`reply_fits_iff`).
-/

namespace TestDomApp

open Transition Region

/-- The services leave a length that fits the data buffer. -/
def Services.FitsData (svc : Services) : Prop :=
  ∀ m mem, (svc.domSControl m mem).1.dataLen ≤ maxdataValue ∧
    (svc.expControl m mem).1.dataLen ≤ maxdataValue

theorem Services.fitsData_blank : Services.blank.FitsData := fun _ _ =>
  ⟨Nat.zero_le _, Nat.zero_le _⟩

/-! ### Requests -/

namespace DomApp

variable {d : DomApp} {pool : MessageBuffers} {m : MsgPtr}

/-- A device delivers a frame. -/
theorem receive_chr {reads : ℕ → DeviceRead} (hfd : d.domInputFile = .chr reads) {bs : List UInt8}
    {hpos : bs ≠ []} {hle : bs.length ≤ maxdataValue + msgHdrLen}
    (hread : reads 0 = .frame bs hpos hle) (pool : MessageBuffers) (m : MsgPtr) :
    (d.receive false pool m).1.ret = bs.length ∧
    (d.receive false pool m).1.recvBuffer = Message.setData
      ⟨Head.ofRegion (store d.tmpbuf 0 bs), (pool.msgHdr m).data⟩ (pool.msgHdr m).data
      (bs.length - msgHdrLen) := by
  rw [receive, if_neg (by decide), hfd]
  simp only [gmsrRecvMessageGeneric, hread, gmsrRecvMessageFromFile]
  trivial

/-- `read` delivers a frame that is shorter than a header. -/
def ReadsShort (fstatFails : Bool) (d : DomApp) (bs : List UInt8) : Prop :=
  fstatFails = false ∧ bs.length < msgHdrLen ∧
    ∃ reads hpos hle, d.domInputFile = .chr reads ∧ reads 0 = .frame bs hpos hle

/-- Type and subtype of a frame that is too short. -/
theorem receive_of_readsShort {fstatFails : Bool} {bs : List UInt8}
    (h : d.ReadsShort fstatFails bs) (pool : MessageBuffers) (m : MsgPtr) :
    (d.receive fstatFails pool m).1.ret = bs.length ∧ bs ≠ [] ∧
    Message.getType (d.receive fstatFails pool m).1.recvBuffer
      = (Head.ofRegion (store d.tmpbuf 0 bs)).mt ∧
    Message.getSubtype (d.receive fstatFails pool m).1.recvBuffer
      = (Head.ofRegion (store d.tmpbuf 0 bs)).mst := by
  obtain ⟨rfl, -, reads, hpos, hle, hfd, hread⟩ := h
  obtain ⟨hret, hmsg⟩ := receive_chr hfd hread pool m
  rw [hmsg]
  exact ⟨hret, hpos, rfl, rfl⟩

/-- The length of a request that was received fits, unless the frame was too short. -/
theorem receive_dataLen_le_iff {fstatFails : Bool}
    (hret : 0 < (d.receive fstatFails pool m).1.ret) :
    Message.dataLen (d.receive fstatFails pool m).1.recvBuffer ≤ maxdataValue ↔
      ∀ bs, ¬ d.ReadsShort fstatFails bs := by
  cases fstatFails with
  | true =>
    have hfail : (d.receive true pool m).1.ret = gmsrFderr := rfl
    rw [hfail] at hret
    exact absurd hret (by decide)
  | false =>
  cases hfd : d.domInputFile with
  | other =>
    have hfail : (d.receive false pool m).1.ret = gmsrFderr := by
      rw [receive, if_neg (by decide), hfd]
      rfl
    rw [hfail] at hret
    exact absurd hret (by decide)
  | sock s =>
    -- Only a complete frame gives a positive value.
    rw [receive_sock hfd] at hret
    obtain ⟨f, rest, hs⟩ := exists_frame_of_recv_nonneg s _ _ _ (Int.le_of_lt hret)
    obtain ⟨sched, heq⟩ := receive_sock_frame hfd hs pool m
    rw [heq, f.dataLen_mk]
    refine iff_of_true f.len_le ?_
    rintro bs ⟨-, -, reads, hpos, hle, hfd', -⟩
    rw [hfd] at hfd'
    cases hfd'
  | chr reads =>
    cases hread : reads 0 with
    | fail e =>
      have hfail : (d.receive false pool m).1.ret = gmsrShortrd := by
        rw [receive, if_neg (by decide), hfd]
        simp only [gmsrRecvMessageGeneric, hread, gmsrRecvMessageFromFile]
      rw [hfail] at hret
      exact absurd hret (by decide)
    | frame bs hpos hle =>
      obtain ⟨-, hmsg⟩ := receive_chr hfd hread pool m
      have hlen := List.length_pos_iff.mpr hpos
      have hmax : maxdataValue = 4088 := rfl
      have hhdr : msgHdrLen = 8 := rfl
      rw [hmsg, Message.dataLen_setData]
      -- `nread - MSG_HDR_LEN` modulo `2^16`: out of range exactly when it is negative.
      constructor
      · rintro hfits bs' ⟨-, hshort, reads', hpos', hle', hfd', hread'⟩
        obtain rfl := Filedes.chr.inj (hfd.symm.trans hfd')
        obtain rfl := (DeviceRead.frame.inj (hread.symm.trans hread'))
        omega
      · intro hnone
        have hlong : ¬ bs.length < msgHdrLen := fun hshort =>
          hnone bs ⟨rfl, hshort, reads, hpos, hle, hfd, hread⟩
        omega

end DomApp

/-! ### Replies -/

/-- The length of a reply fits, unless the request has an unknown subtype and a length that does
not. -/
theorem ReplyFollows.dataLen_le_iff {svc : Services} {m : MessageStruct} {mem : Memory} {o : Outcome}
    {reply : MessageStruct} {mem' : Memory} (hr : ReplyFollows svc m mem o reply mem')
    (hsvc : svc.FitsData) :
    Message.dataLen reply ≤ maxdataValue ↔
      (o = .failed .badMsgSubtype → Message.dataLen m ≤ maxdataValue) := by
  cases hr with
  | forwarded head mem' hs =>
    obtain ⟨hslow, hexp⟩ := hsvc m mem
    refine iff_of_true ?_ nofun
    rcases hs with hs | hs
    · rw [hs] at hslow
      exact hslow
    · rw [hs] at hexp
      exact hexp
  | fulfilled s bs len =>
    refine iff_of_true ?_ nofun
    rw [dataLen_answer]
    exact min_le_right _ _
  | failed e he =>
    refine iff_of_true (Nat.zero_le _) fun hbad => ?_
    exact absurd (Outcome.failed.inj hbad) he
  | badMsgSubtype =>
    rw [Message.dataLen_setStatus]
    exact ⟨fun hle _ => hle, fun hle => hle rfl⟩

/-! ### The message given to `gmsr_sendMessageGeneric` -/

namespace Main

open DomApp

variable {hal : Hal} {d : DomApp} {ev : LoopEvent} {k : ℕ}

/-- If the iteration gets as far as sending a reply, its length fits the data buffer, and the copy
of header and data fits the transmit buffer. -/
def ReplyFits (hal : Hal) (ev : LoopEvent) (d : DomApp) : Prop :=
  ∀ d', beforeSend hal ev d = .ok d' → ∀ m, d'.messageBuffer = some m →
    Message.dataLen (d'.pool.msgHdr m) ≤ maxdataValue ∧
    msgHdrLen + Message.dataLen (d'.pool.msgHdr m) ≤ maxdataValue + msgHdrLen

/-- The iteration reads a frame shorter than a header from a device, which, laid over the frame
before it, is a request to the handler with an unknown subtype. -/
def ReadsShortUnknown (ev : LoopEvent) (d : DomApp) : Prop :=
  ∃ bs, d.ReadsShort ev.fstatFails bs ∧
    MsgType.ofByte? (Head.ofRegion (store d.tmpbuf 0 bs)).mt = some .messageHandler ∧
    MsghandSubtype.ofByte? (Head.ofRegion (store d.tmpbuf 0 bs)).mst = none

/-- The program with the reply to the request received into the buffer `m`. -/
def afterHandler (hal : Hal) (ev : LoopEvent) (d : DomApp) (pool : MessageBuffers) (m : MsgPtr) :
    DomApp :=
  let d' := d.afterReceive ev.fstatFails pool m
  let r := msgHandler hal ev.svc d.handler (d.receive ev.fstatFails pool m).1.recvBuffer d'.mem
  { d' with handler := r.1, mem := r.2.2 }.setMsg m r.2.1

theorem afterHandler_msgHdr (hal : Hal) (ev : LoopEvent) (d : DomApp) (pool : MessageBuffers)
    (m : MsgPtr) :
    (afterHandler hal ev d pool m).pool.msgHdr m = (msgHandler hal ev.svc d.handler
      (d.receive ev.fstatFails pool m).1.recvBuffer
      (d.afterReceive ev.fstatFails pool m).mem).2.1 :=
  Function.update_self _ _ _

theorem beforeSend_of_pos {pool : MessageBuffers} {m : MsgPtr}
    (halloc : d.pool.allocate = (some m, pool))
    (hret : 0 < (d.receive ev.fstatFails pool m).1.ret) (hal : Hal) :
    beforeSend hal ev d =
      if strcpyFits hal (d.receive ev.fstatFails pool m).1.recvBuffer then
        .ok (afterHandler hal ev d pool m)
      else .error .undefined := by
  have hreq : (d.afterReceive ev.fstatFails pool m).pool.msgHdr m
      = (d.receive ev.fstatFails pool m).1.recvBuffer := Function.update_self _ _ _
  have hbuf : (d.afterReceive ev.fstatFails pool m).messageBuffer = some m := rfl
  unfold beforeSend
  rw [recvMsg_of_pos halloc hret]
  dsimp only
  rw [if_neg (by decide), hbuf]
  dsimp only
  simp only [hreq]
  rfl

theorem beforeSend_of_nonpos {pool : MessageBuffers} {m : MsgPtr}
    (halloc : d.pool.allocate = (some m, pool))
    (hret : (d.receive ev.fstatFails pool m).1.ret ≤ 0) (hal : Hal) :
    beforeSend hal ev d = .error (.exited comError (d.afterFailure ev.fstatFails pool m)) := by
  have hle := (recvMsg_nonpos_iff halloc ev.fstatFails).mpr hret
  unfold beforeSend
  rw [recvMsg_of_nonpos halloc hret] at hle ⊢
  exact if_pos hle

theorem strcpyFits_of_unknown {m : MessageStruct} (h : outcome m = .failed .badMsgSubtype)
    (hal : Hal) : strcpyFits hal m = true := by
  rcases outcome_cases m with ⟨-, ho⟩ | ⟨-, ho⟩ | ⟨-, ho⟩ | ⟨ht, hs, -⟩ | ⟨-, -, ho⟩ |
    ⟨s, -, -, -, ho⟩
  · simp [ho] at h
  · simp [ho] at h
  · simp [ho] at h
  · simp [strcpyFits, ht, hs]
  · simp [ho] at h
  · simp [ho] at h

theorem outcome_badMsgSubtype_iff (m : MessageStruct) :
    outcome m = .failed .badMsgSubtype ↔
      MsgType.ofByte? (Message.getType m) = some .messageHandler ∧
      MsghandSubtype.ofByte? (Message.getSubtype m) = none := by
  rcases outcome_cases m with ⟨ht | ht, ho⟩ | ⟨ht, ho⟩ | ⟨ht | ht, ho⟩ | ⟨ht, hs, ho⟩ |
    ⟨ht, hs, ho⟩ | ⟨s, ht, hs, -, ho⟩ <;> simp [*]

/-- **One iteration**: the reply fits exactly when no frame shorter than a header is taken for a
request with an unknown subtype. -/
theorem replyFits_iff (h : d.AtHead k) (hsvc : ev.svc.FitsData) (hal : Hal) :
    ReplyFits hal ev d ↔ ¬ ReadsShortUnknown ev d := by
  obtain ⟨pool, free, halloc, -, -⟩ := h.allocate
  generalize MsgPtr.msgHdr (k % maxMsg) = m at halloc
  rcases lt_or_ge 0 (d.receive ev.fstatFails pool m).1.ret with hpos | hnonpos
  swap
  · -- Nothing was received, so nothing is sent.
    refine iff_of_true ?_ ?_
    · intro d' hd'
      rw [beforeSend_of_nonpos halloc hnonpos] at hd'
      exact nomatch hd'
    · rintro ⟨bs, hshort, -⟩
      obtain ⟨hret, hne, -⟩ := receive_of_readsShort hshort pool m
      have := List.length_pos_iff.mpr hne
      omega
  -- Type and subtype of the request are those of the short frame.
  have hunknown : ReadsShortUnknown ev d ↔
      outcome (d.receive ev.fstatFails pool m).1.recvBuffer = .failed .badMsgSubtype ∧
        ∃ bs, d.ReadsShort ev.fstatFails bs := by
    rw [outcome_badMsgSubtype_iff]
    constructor
    · rintro ⟨bs, hshort, ht, hs⟩
      obtain ⟨-, -, hmt, hmst⟩ := receive_of_readsShort hshort pool m
      exact ⟨⟨hmt ▸ ht, hmst ▸ hs⟩, bs, hshort⟩
    · rintro ⟨⟨ht, hs⟩, bs, hshort⟩
      obtain ⟨-, -, hmt, hmst⟩ := receive_of_readsShort hshort pool m
      exact ⟨bs, hshort, hmt ▸ ht, hmst ▸ hs⟩
  have hlen := receive_dataLen_le_iff hpos
  have hreply := (msgHandler_spec hal ev.svc d.handler
    (d.receive ev.fstatFails pool m).1.recvBuffer
    (d.afterReceive ev.fstatFails pool m).mem).2.dataLen_le_iff hsvc
  rw [hunknown, ← not_forall_not, ← hlen, not_and, not_not, ← hreply]
  unfold ReplyFits
  rw [beforeSend_of_pos halloc hpos]
  by_cases hfits : strcpyFits hal (d.receive ev.fstatFails pool m).1.recvBuffer = true
  · rw [if_pos hfits]
    have hmsg := afterHandler_msgHdr hal ev d pool m
    constructor
    · intro hall
      have := (hall _ rfl m rfl).1
      rwa [hmsg] at this
    · intro hle d' hd' m' hm'
      obtain rfl := Except.ok.inj hd'
      obtain rfl := Option.some.inj hm'
      rw [hmsg]
      exact ⟨hle, by omega⟩
  · -- An unknown subtype does not copy a string, so this is not one.
    rw [if_neg hfits]
    refine iff_of_true (fun d' hd' => nomatch hd') (hreply.mpr fun ho => ?_)
    exact absurd (strcpyFits_of_unknown ho hal) hfits

variable {s : Main} {tr : List (Step Main LoopEvent)}

/-- **When every reply fits.**  In a run of `main` with services that leave a length of at most
`MAXDATA_VALUE`, so does every message given to `gmsr_sendMessageGeneric`, if and only if no
iteration reads, from a device, a frame shorter than a header that is taken for a request to the
handler with an unknown subtype. -/
theorem reply_fits_iff {msgHdr : MsgPtr → MessageStruct} {mem : Memory} {fd : Filedes}
    (hr : Run (Next hal) (.loopHead (start msgHdr mem fd)) tr s)
    (hsvc : ∀ x ∈ tr, x.label.svc.FitsData) :
    (∀ x ∈ tr, ∀ d, x.pre = .loopHead d → ReplyFits hal x.label d) ↔
      ∀ x ∈ tr, ∀ d, x.pre = .loopHead d → ¬ ReadsShortUnknown x.label d := by
  apply forall_iteration_congr hr (P := ReplyFits hal) (Q := fun ev d => ¬ ReadsShortUnknown ev d)
  intro x hx k d hhead
  exact replyFits_iff hhead (hsvc x hx) hal

/-- A device that delivers an echo request satisfies the condition. -/
theorem reply_fits_iff_echo :
    ∃ (reads : ℕ → DeviceRead) (ev : LoopEvent) (s : Main),
      Run (Next .default) (.loopHead (boot (.chr reads)))
        [⟨.loopHead (boot (.chr reads)), ev, s⟩] s ∧ ReplyFits .default ev (boot (.chr reads)) := by
  let reads : ℕ → DeviceRead :=
    fun _ => .frame [1, 18, 0, 1, 0, 0, 0, 0, 65] (by simp) (by decide)
  let ev : LoopEvent := ⟨false, .blank, .all⟩
  obtain ⟨s, hn⟩ := exists_next .default ev (boot (.chr reads))
  have hr := Run.nil.snoc hn
  refine ⟨reads, ev, s, hr, (reply_fits_iff hr ?_).mpr ?_ _ (List.mem_singleton_self _) _ rfl⟩
  · intro x hx
    obtain rfl := List.mem_singleton.mp hx
    exact Services.fitsData_blank
  · rintro x hx d hd ⟨bs, ⟨-, hshort, reads', hpos, hle, hfd, hread⟩, -⟩
    obtain rfl := List.mem_singleton.mp hx
    obtain rfl := Main.loopHead.inj hd
    obtain rfl := Filedes.chr.inj hfd
    obtain rfl := DeviceRead.frame.inj hread
    exact absurd hshort (by decide)

/-- A device that delivers the two bytes `1, 0`: a request with an unknown subtype, whose reply
announces 65530 bytes. -/
theorem reply_overruns :
    ¬ ∀ (hal : Hal) (msgHdr : MsgPtr → MessageStruct) (mem : Memory) (fd : Filedes)
      (tr : List (Step Main LoopEvent)) (s : Main),
      Run (Next hal) (.loopHead (start msgHdr mem fd)) tr s →
      (∀ x ∈ tr, x.label.svc.FitsData) →
      ∀ x ∈ tr, ∀ d, x.pre = .loopHead d → ReplyFits hal x.label d := by
  intro hall
  let reads : ℕ → DeviceRead := fun _ => .frame [1, 0] (by simp) (by decide)
  let ev : LoopEvent := ⟨false, .blank, .all⟩
  obtain ⟨s, hn⟩ := exists_next .default ev (boot (.chr reads))
  have hr := Run.nil.snoc hn
  have hfits := hall _ _ _ _ _ _ hr (fun x hx => by
    obtain rfl := List.mem_singleton.mp hx
    exact Services.fitsData_blank) _ (List.mem_singleton_self _) _ rfl
  refine (replyFits_iff (atHead_start _ _ _) Services.fitsData_blank .default).mp hfits ?_
  exact ⟨[1, 0], ⟨rfl, by decide, reads, by simp, by decide, rfl, rfl⟩, rfl, rfl⟩

end Main

end TestDomApp
