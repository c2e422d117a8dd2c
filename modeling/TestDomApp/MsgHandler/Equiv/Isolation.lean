import TestDomApp.Message.Equiv.Buffers
import TestDomApp.MsgHandler.Equiv.Answer

/-!
# Requests are isolated from each other

The buffers of the pool are used again and again and never cleared.  Still a reply consists of
nothing but bytes that were received or written for it: it depends on the request and the state of
the handler, and not on what the pool and the data arrays hold from earlier messages
(`serve_isolated`).
-/

namespace TestDomApp

open Region

variable {hal : Hal} {h : HandlerState}

/-- One request from a socket, without the loop around it: `messageBuffers_allocate`,
`gmsr_recvMessageFromSocket`, `msgHandler` and `gmsr_sendMessageGeneric`.  The state of the handler
and what comes of the `write`; `none` if there is no buffer, or no behaviour is defined. -/
def serve (hal : Hal) (svc : Services) (h : HandlerState) (b : MessageBuffers) (mem : Memory)
    (s : Sock) (tx : WriteResult) : Option (HandlerState × ℤ × List UInt8) :=
  match b.allocate with
  | (none, _) => none
  | (some m, b) =>
    let (_, msg, mem, _) :=
      gmsrRecvMessageFromSocket s (b.msgHdr m) (Message.getData (b.msgHdr m)) mem
    if strcpyFits hal msg then
      let (h, reply, mem) := msgHandler hal svc h msg mem
      (gmsrSendMessageGeneric tx (some reply) mem).map fun r => (h, r)
    else none

/-- The handler announces no more than fits, if the request did not. -/
theorem dataLen_reply_le {svc : Services} {m : MessageStruct} {mem : Memory}
    (hown : isOwn m = true) (hle : Message.dataLen m ≤ maxdataValue) :
    Message.dataLen (msgHandler hal svc h m mem).2.1 ≤ maxdataValue := by
  rw [isOwn_eq, decide_eq_true_eq] at hown
  cases ho : outcome m with
  | forwarded => exact absurd ho hown
  | fulfilled s =>
    obtain ⟨hm, hs⟩ := outcome_eq_fulfilled_iff.mp ho
    rw [msgHandler_fulfilled hm hs, dataLen_answer]
    exact Nat.min_le_right _ _
  | failed e =>
    rw [msgHandler_failed ho, Message.dataLen_setStatus]
    split_ifs
    · exact hle
    · exact Nat.zero_le _

/-- A frame that was received is answered with no more than fits. -/
theorem dataLen_reply_frame_le (hal : Hal) {f : Frame} (hown : isOwn ⟨f.head, .null⟩ = true)
    (svc : Services) (h : HandlerState) (p : BytePtr) (mem : Memory) :
    Message.dataLen (msgHandler hal svc h ⟨f.head, p⟩ (mem.store p 0 f.data)).2.1
      ≤ maxdataValue := by
  have hown' : isOwn ⟨f.head, p⟩ = true := hown
  apply dataLen_reply_le hown'
  rw [f.dataLen_mk]
  exact f.len_le

theorem strcpyFits_of_lt (hid : hal.boardID.strlen < maxdataValue)
    (hname : hal.boardName.strlen < maxdataValue) (m : MessageStruct) :
    strcpyFits hal m = true := by
  unfold strcpyFits
  split
  · exact decide_eq_true hid
  · exact decide_eq_true hname
  · rfl

/-- An echo request has no string copied. -/
theorem strcpyFits_echo {m : MessageStruct} (hm : Asks m .msghandEchoMsg) (hal : Hal) :
    strcpyFits hal m = true := by
  unfold strcpyFits
  rw [hm.1, hm.2]

/-- With a frame at the front of the stream, the request served is that frame, at the data array of
the buffer allocated. -/
theorem serve_frame {b : MessageBuffers} {s : Sock} {f : Frame} {rest : List UInt8}
    (hfree : b.allocate.1 ≠ none) (hs : s.stream = f.bytes ++ rest)
    (hown : isOwn ⟨f.head, .null⟩ = true) (hfits : ∀ m, strcpyFits hal m = true) (svc : Services)
    (h : HandlerState) (mem : Memory) :
    ∃ p, ∀ tx, serve hal svc h b mem s tx =
      some ((msgHandler hal svc h ⟨f.head, p⟩ (mem.store p 0 f.data)).1,
        write tx (txbuf (msgHandler hal svc h ⟨f.head, p⟩ (mem.store p 0 f.data)).2.1
          (msgHandler hal svc h ⟨f.head, p⟩ (mem.store p 0 f.data)).2.2)) := by
  obtain ⟨m, hm⟩ := Option.ne_none_iff_exists'.mp hfree
  have halloc : b.allocate = (some m, b.allocate.2) := by rw [← hm]
  obtain ⟨p, hp⟩ : ∃ p, Message.getData (b.allocate.2.msgHdr m) = p := ⟨_, rfl⟩
  obtain ⟨sched, hrecv⟩ := recvMessageFromSocket_frame s (b.allocate.2.msgHdr m) p mem f rest hs
  refine ⟨p, fun tx => ?_⟩
  unfold serve
  rw [halloc]
  dsimp only
  rw [hp, hrecv]
  dsimp only
  rw [if_pos (hfits _)]
  exact congrArg (Option.map _)
    (gmsrSendMessageGeneric_of_le (dataLen_reply_frame_le hal hown svc h p mem) tx _)

/-- A frame is the same request wherever it is received. -/
theorem sameRequest_frame (hid : hal.boardID.strlen = msghandGetDomIDLen) (f : Frame)
    (p₁ p₂ : BytePtr) (mem₁ mem₂ : Memory) :
    SameRequest hal ⟨f.head, p₁⟩ (mem₁.store p₁ 0 f.data) ⟨f.head, p₂⟩
      (mem₂.store p₂ 0 f.data) where
  head := rfl
  data := by
    rintro i (hi | hi)
    · rw [f.dataLen_mk] at hi
      rw [Memory.store_same, Memory.store_same, store_zero_apply hi, store_zero_apply hi]
    · omega

/-- **Requests are isolated from each other.**  Whatever two pools and two memories hold, a request
that the handler answers itself is answered with the same bytes, and leaves the handler in the same
state, however the bytes of the request arrive. -/
theorem serve_isolated (hid : hal.boardID.strlen = msghandGetDomIDLen)
    (hname : hal.boardName.strlen < maxdataValue) (h : HandlerState) (f : Frame)
    (hown : isOwn ⟨f.head, .null⟩ = true) (svc₁ svc₂ : Services) (b₁ b₂ : MessageBuffers)
    (hfree₁ : b₁.allocate.1 ≠ none) (hfree₂ : b₂.allocate.1 ≠ none) (mem₁ mem₂ : Memory)
    (s₁ s₂ : Sock) (rest₁ rest₂ : List UInt8) (hs₁ : s₁.stream = f.bytes ++ rest₁)
    (hs₂ : s₂.stream = f.bytes ++ rest₂) :
    ∃ (h' : HandlerState) (bs : List UInt8), ∀ tx,
      serve hal svc₁ h b₁ mem₁ s₁ tx = some (h', write tx bs) ∧
      serve hal svc₂ h b₂ mem₂ s₂ tx = some (h', write tx bs) := by
  have hfits := strcpyFits_of_lt (hid.trans_lt (by decide)) hname
  obtain ⟨p₁, heq₁⟩ := serve_frame hfree₁ hs₁ hown hfits svc₁ h mem₁
  obtain ⟨p₂, heq₂⟩ := serve_frame hfree₂ hs₂ hown hfits svc₂ h mem₂
  have hsame := sameRequest_frame hid f p₁ p₂ mem₁ mem₂
  have hown₁ : isOwn ⟨f.head, p₁⟩ = true := hown
  have hstate : (msgHandler hal svc₁ h ⟨f.head, p₁⟩ (mem₁.store p₁ 0 f.data)).1 =
      (msgHandler hal svc₂ h ⟨f.head, p₂⟩ (mem₂.store p₂ 0 f.data)).1 :=
    msgHandler_state_congr hsame.head
  have hcontent :
      content (msgHandler hal svc₁ h ⟨f.head, p₁⟩ (mem₁.store p₁ 0 f.data)).2.1
          (msgHandler hal svc₁ h ⟨f.head, p₁⟩ (mem₁.store p₁ 0 f.data)).2.2 =
        content (msgHandler hal svc₂ h ⟨f.head, p₂⟩ (mem₂.store p₂ 0 f.data)).2.1
          (msgHandler hal svc₂ h ⟨f.head, p₂⟩ (mem₂.store p₂ 0 f.data)).2.2 := by
    apply hsame.content_reply hown₁
    intro s _
    rw [hstate]
  refine ⟨_, _, fun tx => ⟨heq₁ tx, ?_⟩⟩
  rw [heq₂ tx, hstate, txbuf_eq, txbuf_eq, hcontent]

/-- A `MSGHAND_GET_DOM_ID` request, into a cleared buffer and into one full of other bytes. -/
theorem serve_isolated_domID :
    ∃ (b₁ b₂ : MessageBuffers) (h' : HandlerState) (bs : List UInt8), ∀ tx,
      serve .default .blank (msgHandlerInit .static) b₁ (fun _ _ => 0)
        ⟨[1, 10, 0, 0, 0, 0, 0, 0], .eof, fun _ => 7⟩ tx = some (h', write tx bs) ∧
      serve .default .blank (msgHandlerInit .static) b₂ (fun _ _ => 9)
        ⟨[1, 10, 0, 0, 0, 0, 0, 0, 1], .eof, fun _ => 0⟩ tx = some (h', write tx bs) := by
  have hfree : ∀ b : MessageBuffers, b.init.allocate.1 ≠ none := by
    intro b
    obtain ⟨b', halloc⟩ := b.init_allocate
    rw [halloc]
    exact Option.some_ne_none _
  let f : Frame := ⟨⟨1, 10, 0, 0, 0, 0, 0, 0⟩, [], rfl, by decide⟩
  let b₁ := (MessageBuffers.static fun _ => ⟨default, .null⟩).init
  let b₂ := (MessageBuffers.static fun _ => ⟨⟨9, 9, 9, 9, 9, 9, 9, 9⟩, .null⟩).init
  exact ⟨b₁, b₂, serve_isolated rfl (by decide) (msgHandlerInit .static) f (by decide) .blank .blank
    b₁ b₂ (hfree _) (hfree _) (fun _ _ => 0) (fun _ _ => 9) _ _ [] [1] rfl rfl⟩

end TestDomApp
