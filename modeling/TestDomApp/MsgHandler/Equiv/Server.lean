import TestDomApp.MsgHandler.Server

/-!
# The handler is the service

A request held in memory is turned by `msgHandler` into the reply of `server`, wherever it is held
and whatever else memory contains (`content_msgHandler`), and the state changes as that of the
machine (`msgHandler_next`).
-/

namespace TestDomApp

open Transition Region

variable {board : Board} {hal : Hal} {svc : Services} {fs : FrameServices} {h : HandlerState}
  {f : Frame} {p : BytePtr} {mem : Memory}

theorem Frame.dataLen_request (f : Frame) (p : BytePtr) :
    Message.dataLen (f.request p) = f.data.length := f.len_eq

/-- What a request asks for does not depend on where it is held. -/
theorem Frame.outcome_request (f : Frame) (p : BytePtr) :
    outcome (f.request p) = outcome (f.request .null) := outcome_congr rfl

/-- A frame that is held somewhere is found there. -/
theorem Frame.content_request (f : Frame) (p : BytePtr) (mem : Memory) :
    TestDomApp.content (f.request p) (mem.store p 0 f.data) = f.content := content_store f p mem

/-- The texts of the last error fit `lastErrorStr`. -/
theorem Outcome.strlen_lastError_lt (o : Outcome) {old : LastError}
    (h : old.text.strlen < maxErrorStrLen) : (o.lastError old).text.strlen < maxErrorStrLen := by
  cases o with
  | forwarded => exact h
  | failed e =>
    show e.text.strlen < maxErrorStrLen
    cases e <;> decide
  | fulfilled s =>
    cases s with
    | clearLastError => exact (by decide : msghandErsNoErrors.strlen < maxErrorStrLen)
    | _ => exact h

/-! ### Replies -/

/-- The head of a reply, as the handler makes it. -/
theorem Frame.reply_head (f : Frame) (status : UInt8) (data : List UInt8) (p : BytePtr) :
    (f.reply status data).head =
      (Message.setStatus (Message.setLengthBytes (f.request p)
        ((data.take maxdataValue).length : ℕ)) status).head := by
  have hle := List.length_take_le maxdataValue data
  have hmax : maxdataValue = 4088 := rfl
  have hlo : Message.lowByte ((data.take maxdataValue).length : ℕ) =
      UInt8.ofNat ((data.take maxdataValue).length % 256) := by
    rw [Message.lowByte]
    congr 1
  have hhi : Message.lowByte (((data.take maxdataValue).length : ℕ) / 256 : ℤ) =
      UInt8.ofNat ((data.take maxdataValue).length / 256) := by
    rw [Message.lowByte]
    congr 1
    omega
  simp only [Message.setStatus, Message.setLengthBytes, hlo, hhi]
  rfl

/-- An answer that has its data, written or received, is the reply that carries them. -/
theorem content_answer_request (f : Frame) {a : Answer}
    (hlen : a.len ≤ (a.bytes ++ f.data.drop a.bytes.length).length) (p : BytePtr) (mem : Memory) :
    content (answer (f.request p) (mem.store p 0 f.data) a.bytes a.len).1
        (answer (f.request p) (mem.store p 0 f.data) a.bytes a.len).2 =
      (f.reply Status.success.code (a.over f.data)).content := by
  have htake : (a.over f.data).take maxdataValue =
      (a.bytes ++ f.data.drop a.bytes.length).take (min a.len maxdataValue) := by
    rw [Answer.over, List.take_take, Nat.min_comm]
  have hlength : ((a.over f.data).take maxdataValue).length = min a.len maxdataValue := by
    rw [htake, List.length_take]
    omega
  rw [content_answer]
  refine Prod.ext ?_ ?_
  · show answerHead f.head a.len = (f.reply _ _).head
    rw [f.reply_head _ _ .null, hlength, answerHead, Message.setDataLen]
    congr 3
    split_ifs <;> omega
  · show load (store ((mem.store p 0 f.data) p) 0 a.bytes) 0 _ = (a.over f.data).take maxdataValue
    rw [Memory.store_same, store_over, load_store_take _ _ (by omega), ← htake]

/-- A failed request is answered in place: with its own data if its subtype is unknown, else with
none. -/
theorem content_failed_request (f : Frame) (e : Failure) (p : BytePtr) (mem : Memory) :
    content (Message.setStatus (if e = .badMsgSubtype then f.request p
        else Message.setDataLen (f.request p) 0) e.status) (mem.store p 0 f.data) =
      (f.reply e.status (if e = .badMsgSubtype then f.data else [])).content := by
  by_cases he : e = .badMsgSubtype
  · rw [if_pos he, if_pos he]
    have htake : f.data.take maxdataValue = f.data := List.take_of_length_le f.len_le
    have hself : Message.setLengthBytes (f.request .null) f.data.length = f.request .null := by
      rw [← f.dataLen_request .null]
      exact Message.setLengthBytes_self _
    refine Prod.ext ?_ ?_
    · show { f.head with status := e.status } = (f.reply e.status f.data).head
      rw [f.reply_head _ _ .null, htake, hself]
      rfl
    · show (content (f.request p) (mem.store p 0 f.data)).2 = f.data.take maxdataValue
      rw [f.content_request, htake]
      rfl
  · rw [if_neg he, if_neg he]
    refine Prod.ext ?_ rfl
    show _ = (f.reply e.status []).head
    rw [f.reply_head _ _ p]
    rfl

/-- On a board, every answer has its data. -/
theorem Board.len_answerOf_le (board : Board) (h : HandlerState) (data : List UInt8)
    (s : MsghandSubtype) :
    let a := answerOf board.toHal h data.length s
    a.len ≤ (a.bytes ++ data.drop a.bytes.length).length := by
  intro a
  by_contra hlt
  rw [not_le, List.length_append, List.length_drop] at hlt
  have hid := board.boardID_len
  have hstale : max a.bytes.length data.length < a.len := by omega
  rcases answerOf_stale (Nat.le_max_left _ _) hstale with hdata | hshort
  · omega
  · omega

/-! ### The handler -/

/-- The types that are forwarded. -/
theorem outcome_forwarded_iff (m : MessageStruct) :
    outcome m = .forwarded ↔
      MsgType.ofByte? (Message.getType m) = some .domSlowControl ∨
      MsgType.ofByte? (Message.getType m) = some .experimentControl := by
  rcases outcome_cases m with ⟨ht | ht, ho⟩ | ⟨ht, ho⟩ | ⟨ht | ht, ho⟩ | ⟨ht, -, ho⟩ | ⟨ht, -, ho⟩ |
    ⟨s, ht, -, -, ho⟩ <;> simp [*]

/-- The state after a request is that of the machine. -/
theorem msgHandler_next (hal : Hal) (svc : Services) (fs : FrameServices) (h : HandlerState)
    (f : Frame) (p : BytePtr) (mem : Memory) :
    (msgHandler hal svc h (f.request p) mem).1 = (server hal).next h (f, fs) := by
  rw [msgHandler_state, f.outcome_request]
  rfl

/-- A request whose answer has its data is answered by the reply of the service, on any hardware and
whatever the other services are. -/
theorem content_msgHandler_fulfilled {s : MsghandSubtype}
    (ho : outcome (f.request .null) = .fulfilled s)
    (hlen : ∀ h, let a := answerOf hal h f.data.length s
      a.len ≤ (a.bytes ++ f.data.drop a.bytes.length).length)
    (svc : Services) (fs : FrameServices) (h : HandlerState) (p : BytePtr) (mem : Memory) :
    content (msgHandler hal svc h (f.request p) (mem.store p 0 f.data)).2.1
        (msgHandler hal svc h (f.request p) (mem.store p 0 f.data)).2.2 =
      ((server hal).answer h (f, fs)).content := by
  have hnext := msgHandler_next hal svc fs h f p (mem.store p 0 f.data)
  obtain ⟨hm, hs⟩ := outcome_eq_fulfilled_iff.mp ((f.outcome_request p).trans ho)
  show _ = (replyOf hal fs ((server hal).next h (f, fs)) f (outcome (f.request .null))).content
  rw [ho, msgHandler_fulfilled hm hs, hnext, f.dataLen_request]
  exact content_answer_request f (hlen _) p mem

/-- **`msgHandler` makes the reply of the service**, wherever the request is held and whatever else
is in memory. -/
theorem content_msgHandler (hsvc : svc.Answers fs) (h : HandlerState) (f : Frame) (p : BytePtr)
    (mem : Memory) :
    content (msgHandler board.toHal svc h (f.request p) (mem.store p 0 f.data)).2.1
        (msgHandler board.toHal svc h (f.request p) (mem.store p 0 f.data)).2.2 =
      ((server board.toHal).answer h (f, fs)).content := by
  have hout := f.outcome_request p
  show _ = (replyOf board.toHal fs ((server board.toHal).next h (f, fs)) f
    (outcome (f.request .null))).content
  rw [← hout]
  cases ho : outcome (f.request p) with
  | forwarded =>
    obtain ⟨hslow, hexp⟩ := hsvc f p mem
    show _ = (fs.forward f).content
    rw [FrameServices.forward]
    rcases (outcome_forwarded_iff _).mp ho with ht | ht
    · have ht' : MsgType.ofByte? f.head.mt = some .domSlowControl := ht
      rw [if_pos ht', ← hslow]
      simp only [msgHandler, dispatch, ht]
      rfl
    · have ht' : MsgType.ofByte? f.head.mt = some .experimentControl := ht
      rw [if_neg (by rw [ht']; decide), ← hexp]
      simp only [msgHandler, dispatch, ht]
      rfl
  | fulfilled s =>
    have hreply := content_msgHandler_fulfilled (hout.symm.trans ho)
      (fun h => board.len_answerOf_le h _ s) svc fs h p mem
    rwa [← ho, hout]
  | failed e =>
    rw [msgHandler_failed ho]
    exact content_failed_request f e p mem

end TestDomApp
