import TestDomApp.DomApp.Equiv.EchoClient

/-!
# What the echo client checks

The client compares the payload of a reply with the one it has sent, by length and byte by byte, and
looks at nothing else of it.  So a reply is reported as correct exactly when it carries the payload
and is shorter than `MAXDATA_VALUE` (`round_correct_iff`): an error reply that keeps the data of the
request passes the check.
-/

namespace TestDomApp

open Region

theorem Payload.compareEchoMessage_apply (p : Payload) {i : ℕ} (hi : i < p.bytes.length) :
    p.compareEchoMessage i = p.bytes[i] := by
  simp [compareEchoMessage, hi]

namespace EchoClient

variable {c c' : EchoClient} {p : Payload} {m : MessageStruct} {tx : WriteResult}

/-- The request has been sent, and `c'` is the client when a reply has been delivered. -/
def Delivered (tx : WriteResult) (m : MessageStruct) (p : Payload) (c c' : EchoClient) : Prop :=
  ∃ sent out recvd, (c.setRequest m p).send tx = some (sent, out) ∧ 0 < sent ∧
    (c.setRequest m p).receive = (recvd, c') ∧ 0 ≤ recvd

/-- The reply has as many data bytes as the request, and they are the payload. -/
structure SamePayload (p : Payload) (c : EchoClient) : Prop where
  dataLen : Message.dataLen c.upMessage = Message.dataLen c.downMessage
  data : (content c.upMessage c.mem).2 = p.bytes

/-- The reply is the one an echo request should get. -/
structure RightReply (p : Payload) (c : EchoClient) : Prop extends SamePayload p c where
  type : Message.getType c.upMessage = Message.getType c.downMessage
  subtype : Message.getSubtype c.upMessage = Message.getSubtype c.downMessage
  status : Message.getStatus c.upMessage = Status.success.code

/-! ### The comparison -/

/-- The loop finds no disagreement when there is none. -/
theorem compareLoop_eq_none_iff (compareMsg upBody : ByteRegion) (len i : ℕ) :
    compareLoop compareMsg upBody len i = none ↔
      ∀ j, i ≤ j → j < len → j < maxdataValue → compareMsg j = upBody j := by
  induction hk : len - i generalizing i with
  | zero =>
    rw [compareLoop, dif_neg (by omega)]
    exact iff_of_true rfl fun j hij hj _ => by omega
  | succ k ih =>
    rw [compareLoop]
    by_cases hi : i < maxdataValue
    · rw [dif_pos ⟨by omega, hi⟩]
      by_cases heq : compareMsg i = upBody i
      · rw [if_neg (not_not.mpr heq), ih (i + 1) (by omega)]
        constructor
        · intro hall j hij hj hjmax
          rcases Nat.eq_or_lt_of_le hij with rfl | hlt
          · exact heq
          · exact hall j hlt hj hjmax
        · intro hall j hij
          exact hall j (by omega)
      · rw [if_pos heq]
        refine iff_of_false (Option.some_ne_none i) ?_
        intro hall
        exact heq (hall i le_rfl (by omega) hi)
    · rw [dif_neg (by omega)]
      exact iff_of_true rfl fun j hij _ hjmax => by omega

/-- With the request in `downMessage` and a reply linked to `up_message_body`, the check accepts a
reply with the payload, if it is shorter than `MAXDATA_VALUE`. -/
theorem check_correct_iff (hdown : Message.dataLen c.downMessage = p.bytes.length)
    (hup : c.upMessage.data = upMessageBody) :
    c.check p = .correct ↔ Message.dataLen c.upMessage < maxdataValue ∧ SamePayload p c := by
  unfold check
  dsimp only
  by_cases hmax : Message.dataLen c.upMessage ≥ maxdataValue
  · rw [if_pos hmax]
    exact iff_of_false nofun fun h => absurd h.1 (by omega)
  rw [if_neg hmax]
  by_cases hlen : Message.dataLen c.downMessage = Message.dataLen c.upMessage
  · rw [if_neg (not_not.mpr hlen)]
    -- The lengths agree, and the loop compares the payloads to their end.
    have hloop : compareLoop p.compareEchoMessage (c.mem upMessageBody)
        (Message.dataLen c.downMessage) 0 = none ↔ (content c.upMessage c.mem).2 = p.bytes := by
      rw [compareLoop_eq_none_iff, content, hup, ← hlen, hdown, load_eq_iff]
      constructor
      · intro hall i hi
        rw [← hall i (Nat.zero_le i) hi (by omega), p.compareEchoMessage_apply hi]
      · intro hall i _ hi _
        rw [hall i hi, p.compareEchoMessage_apply hi]
    cases hcmp : compareLoop p.compareEchoMessage (c.mem upMessageBody)
        (Message.dataLen c.downMessage) 0 with
    | some i =>
      refine iff_of_false nofun ?_
      rintro ⟨-, hsame⟩
      exact absurd (hloop.mpr hsame.data) (hcmp ▸ Option.some_ne_none i)
    | none => exact iff_of_true rfl ⟨by omega, hlen.symm, hloop.mp hcmp⟩
  · rw [if_pos hlen]
    exact iff_of_false nofun fun h => hlen h.2.dataLen.symm

/-! ### A round -/

/-- What the client holds when a reply has been delivered, and what it reports. -/
theorem Delivered.round_eq (h : c.Delivered tx m p c') :
    Message.dataLen c'.downMessage = p.bytes.length ∧ c'.upMessage.data = upMessageBody ∧
    (c.round tx m p = some (c'.check p, c') ∨
      c.round tx m p = some (.recvFailed 0, c') ∧ Message.dataLen c'.upMessage = 0) := by
  obtain ⟨sent, out, recvd, hsend, hsent, hrecv, hret⟩ := h
  have hround : c.round tx m p =
      if recvd ≤ 0 then some (.recvFailed recvd, c') else some (c'.check p, c') := by
    unfold round
    dsimp only
    rw [hsend]
    dsimp only
    rw [if_neg (Int.not_le.mpr hsent), hrecv]
  obtain ⟨rfl, rfl⟩ := Prod.mk.inj hrecv
  obtain ⟨hdata, hzero⟩ := recvMessageGeneric_delivered _ _ _ _ _ hret
  refine ⟨dataLen_setRequest m p c, hdata, ?_⟩
  rw [hround]
  split_ifs with hle
  · have h0 := Int.le_antisymm hle hret
    exact Or.inr ⟨by rw [h0], hzero h0⟩
  · exact Or.inl rfl

/-- **When a reply is reported as correct**: when it carries the payload and is not as long as a
message can be. -/
theorem round_correct_iff (h : c.Delivered tx m p c') :
    c.round tx m p = some (.correct, c') ↔
      Message.dataLen c'.upMessage < maxdataValue ∧ SamePayload p c' := by
  obtain ⟨hdown, hup, hround | ⟨hround, hzero⟩⟩ := h.round_eq
  · rw [hround, ← check_correct_iff hdown hup]
    simp
  · rw [hround]
    refine iff_of_false nofun ?_
    rintro ⟨-, hsame⟩
    have hpos := List.length_pos_iff.mpr p.ne_nil
    have hlen := hsame.dataLen
    omega

/-- A reply that the peer has sent in full is delivered. -/
theorem delivered_of_frame {s : Sock} {f : Frame} (m : MessageStruct) (p : Payload)
    (hfile : c.iofile = .sock s) (hs : s.stream = f.bytes) :
    ∃ c', c.Delivered .all m p c' ∧ c'.upMessage = ⟨f.head, upMessageBody⟩ ∧
      (f.data = p.bytes → SamePayload p c') := by
  obtain ⟨sched, hrecv⟩ := (c.setRequest m p).receive_frame hfile hs
  refine ⟨_, ⟨_, _, _, send_setRequest m p c, ?_, hrecv, Int.natCast_nonneg _⟩, rfl, ?_⟩
  · exact Int.natCast_pos.mpr (List.length_pos_iff.mpr (Frame.bytes_ne_nil _))
  · intro hdata
    refine ⟨?_, ?_⟩
    · show Message.dataLen ⟨f.head, upMessageBody⟩ = _
      rw [f.dataLen_mk, hdata]
      exact (dataLen_setRequest m p c).symm
    · exact (congrArg Prod.snd (content_store f upMessageBody _)).trans hdata

/-- **The check is about the payload.**  Whatever reply is delivered, it is reported as correct only
if it has the data length and the data bytes of the request; and if it has, and the payload is
shorter than `MAXDATA_VALUE`, it is. -/
theorem reported_payload (h : c.Delivered tx m p c') :
    (c.round tx m p = some (.correct, c') → SamePayload p c') ∧
    (p.bytes.length < maxdataValue → SamePayload p c' → c.round tx m p = some (.correct, c')) := by
  rw [round_correct_iff h]
  refine ⟨fun hcorrect => hcorrect.2, fun hlt hsame => ⟨?_, hsame⟩⟩
  rw [hsame.dataLen, h.round_eq.1]
  exact hlt

/-- A client whose peer has sent the frame `f`. -/
def awaiting (f : Frame) : EchoClient where
  downMessage := ⟨default, .null⟩
  upMessage := ⟨default, .null⟩
  mem := fun _ _ => 0
  tmpbuf := fun _ => 0
  iofile := .sock ⟨f.bytes, .eof, fun _ => 0⟩

/-- A reply to an echo request with the data `[104, 105]`. -/
def replyFrame (status : UInt8) : Frame :=
  ⟨⟨1, 18, 0, 2, 0, 0, 0, status⟩, [104, 105], rfl, by decide⟩

/-- The reply with the status `SUCCESS` is reported as correct. -/
theorem reported_payload_success :
    ∃ c', (awaiting (replyFrame 1)).round .all ⟨default, .null⟩ ⟨[104, 105], by simp, by decide⟩ =
      some (.correct, c') := by
  obtain ⟨c', hdelivered, -, hsame⟩ := delivered_of_frame (c := awaiting (replyFrame 1))
    ⟨default, .null⟩ ⟨[104, 105], by simp, by decide⟩ rfl rfl
  exact ⟨c', (reported_payload hdelivered).2 (by show 2 < maxdataValue; decide) (hsame rfl)⟩

/-- The reply with the status of an unknown subtype is reported as correct too. -/
theorem reported_error :
    ¬ ∀ (c c' : EchoClient) (tx : WriteResult) (m : MessageStruct) (p : Payload),
      c.Delivered tx m p c' → (c.round tx m p = some (.correct, c') ↔ RightReply p c') := by
  intro hall
  obtain ⟨c', hdelivered, hup, hsame⟩ := delivered_of_frame
    (c := awaiting (replyFrame Failure.badMsgSubtype.status)) ⟨default, .null⟩
    ⟨[104, 105], by simp, by decide⟩ rfl rfl
  have hright := (hall _ _ _ _ _ hdelivered).mp ((round_correct_iff hdelivered).mpr
    ⟨by rw [hup]; decide, hsame rfl⟩)
  have hstatus := hright.status
  rw [hup] at hstatus
  revert hstatus
  decide

end EchoClient

/-! ### The client and `domapp` -/

namespace EchoSystem

/-- The client of the source sends its requests with the status `SUCCESS`. -/
theorem setStatus_setRequest (m : MessageStruct) (p : Payload) (c : EchoClient) :
    (c.setRequest m p).setStatus Status.success.code = c.setRequest m p := rfl

/-- The client's part of an exchange is a round in which the reply of `domapp` is delivered. -/
theorem Next.delivered {hal : Hal} {s s' : EchoSystem} {x : Exchange}
    (hstatus : x.status = Status.success.code) (hn : s.Next hal x s') :
    ∃ fd, { s.client with iofile := fd }.Delivered .all x.message x.payload s'.client := by
  unfold Next exchange at hn
  rw [hstatus, setStatus_setRequest] at hn
  dsimp only at hn
  cases hsend : (s.client.setRequest x.message x.payload).send .all with
  | none =>
    rw [hsend] at hn
    exact nomatch hn
  | some r =>
    obtain ⟨sent, bs⟩ := r
    rw [hsend] at hn
    dsimp only at hn
    split_ifs at hn with hsent
    cases hiterate : Main.iterate hal ⟨false, x.svc, .all⟩
        { s.server with domInputFile := s.server.domInputFile.deliver bs x.down } with
    | exited ret d =>
      rw [hiterate] at hn
      exact nomatch hn
    | undefined =>
      rw [hiterate] at hn
      exact nomatch hn
    | loopHead d =>
      rw [hiterate] at hn
      dsimp only at hn
      split_ifs at hn with hrecvd
      obtain rfl := Option.some.inj hn
      refine ⟨s.client.iofile.deliver (d.wire.drop s.server.wire.length) x.up, sent, bs, _, hsend,
        by omega, rfl, ?_⟩
      exact Int.le_of_lt (Int.not_le.mp hrecvd)

/-- **What `domapp` echoes is reported as correct**, unless it is as long as a message can be. -/
theorem Echoed.reported {hal : Hal} {s s' : EchoSystem} {x : Exchange}
    (hstatus : x.status = Status.success.code) (hn : s.Next hal x s') (h : s'.Echoed x)
    (hlt : x.payload.bytes.length < maxdataValue) :
    ∃ fd, { s.client with iofile := fd }.round .all x.message x.payload =
      some (.correct, s'.client) := by
  obtain ⟨fd, hdelivered⟩ := hn.delivered hstatus
  refine ⟨fd, (EchoClient.round_correct_iff hdelivered).mpr ?_⟩
  have hlen : Message.dataLen s'.client.upMessage = Message.dataLen s'.client.downMessage := by
    rw [Message.dataLen, h.head]
    rfl
  refine ⟨?_, hlen, h.data⟩
  rw [hlen, hdelivered.round_eq.1]
  exact hlt

end EchoSystem

end TestDomApp
