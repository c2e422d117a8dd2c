import TestDomApp.Message.Equiv.RoundTrip
import TestDomApp.MsgHandler.Answer
import TestDomApp.MsgHandler.Equiv.Stats

/-!
# The bytes of a reply

A fulfilled request is answered as `answerOf` says (`msgHandler_fulfilled`), so its reply carries
the bytes written, up to the length announced, and behind them what the buffer held before
(`content_answer`).  Only an echo announces bytes it does not write (`answerOf_stale`), so the same
request gets the same reply from states with the same answer (`SameRequest.content_reply`).

A failed request is answered without data, but for the one failure that keeps the length of the
request (`failed_reply_empty_iff`).
-/

namespace TestDomApp

open Region

variable {hal : Hal} {svc : Services} {h : HandlerState} {m m₁ m₂ : MessageStruct}
  {mem mem₁ mem₂ : Memory} {s : MsghandSubtype}

/-! ### Fulfilled requests -/

theorem outcome_of_asks (hm : Asks m s) (hs : s ≠ .remoteObjectRef) : outcome m = .fulfilled s := by
  obtain ⟨ht, hst⟩ := hm
  cases s <;> simp_all [outcome]

/-- A request is fulfilled when it asks for anything but a remote object. -/
theorem outcome_eq_fulfilled_iff : outcome m = .fulfilled s ↔ Asks m s ∧ s ≠ .remoteObjectRef := by
  constructor
  · intro ho
    rcases outcome_cases m with ⟨-, ho'⟩ | ⟨-, ho'⟩ | ⟨-, ho'⟩ | ⟨-, -, ho'⟩ | ⟨-, -, ho'⟩ |
      ⟨s', ht, hs, hne, ho'⟩
    all_goals rw [ho] at ho'
    · exact nomatch ho'
    · exact nomatch ho'
    · exact nomatch ho'
    · exact nomatch ho'
    · exact nomatch ho'
    · obtain rfl := Outcome.fulfilled.inj ho'
      exact ⟨⟨ht, hs⟩, hne⟩
  · rintro ⟨hm, hs⟩
    exact outcome_of_asks hm hs

/-- **The answer to a fulfilled request.** -/
theorem msgHandler_fulfilled (hm : Asks m s) (hs : s ≠ .remoteObjectRef) :
    (msgHandler hal svc h m mem).2 =
      answer m mem (answerOf hal (msgHandler hal svc h m mem).1 (Message.dataLen m) s).bytes
        (answerOf hal (msgHandler hal svc h m mem).1 (Message.dataLen m) s).len := by
  obtain ⟨ht, hst⟩ := hm
  simp only [msgHandler, dispatch, ht, messageHandlerCase, hst]
  cases s with
  | remoteObjectRef => exact absurd rfl hs
  | _ => rfl

/-! ### The bytes of an answer -/

/-- The head of an answer is a function of that of the request. -/
def answerHead (head : Head) (len : ℕ) : Head :=
  (Message.setStatus (Message.setDataLen ⟨head, .null⟩ len) Status.success.code).head

/-- An answer carries what was written, and behind it what was there. -/
theorem content_answer (m : MessageStruct) (mem : Memory) (bs : List UInt8) (len : ℕ) :
    content (answer m mem bs len).1 (answer m mem bs len).2 =
      (answerHead m.head len, load (store (mem m.data) 0 bs) 0 (min len maxdataValue)) := by
  have hdata := data_answer m mem bs len
  rw [Message.getData, Message.getData] at hdata
  rw [content, dataLen_answer, hdata]
  rfl

/-- An answer that writes as much as it announces. -/
theorem content_answer_of_le {bs : List UInt8} {len : ℕ} (h : len ≤ bs.length) (m : MessageStruct)
    (mem : Memory) : content (answer m mem bs len).1 (answer m mem bs len).2 =
      (answerHead m.head len, bs.take (min len maxdataValue)) := by
  rw [content_answer, load_store_take _ _ (by omega)]

/-- The data of the reply to a fulfilled request: the bytes written, without what stands behind the
length announced. -/
theorem content_fulfilled (hm : Asks m s) (hs : s ≠ .remoteObjectRef) {data : List UInt8}
    (hbytes : data <+: (answerOf hal (msgHandler hal svc h m mem).1 (Message.dataLen m) s).bytes)
    (hlen : (answerOf hal (msgHandler hal svc h m mem).1 (Message.dataLen m) s).len = data.length)
    (hmax : data.length ≤ maxdataValue) :
    (content (msgHandler hal svc h m mem).2.1 (msgHandler hal svc h m mem).2.2).2 = data := by
  rw [msgHandler_fulfilled hm hs, hlen, content_answer_of_le hbytes.length_le,
    Nat.min_eq_left hmax]
  exact (List.prefix_iff_eq_take.mp hbytes).symm

/-- Nothing but an echo announces bytes it does not write, unless the board ID is shorter than the
reply that carries it. -/
theorem answerOf_stale {len i : ℕ} (hi : (answerOf hal h len s).bytes.length ≤ i)
    (hlt : i < (answerOf hal h len s).len) :
    i < len ∨ hal.boardID.strlen + 1 < msghandGetDomIDLen := by
  cases s with
  | msghandEchoMsg => exact Or.inl hlt
  | msghandGetDomID =>
    have hlen : hal.boardID.strcpy.length = hal.boardID.strlen + 1 := List.length_append
    have hi : hal.boardID.strcpy.length ≤ i := hi
    have hlt : i < msghandGetDomIDLen := hlt
    omega
  | getLastErrorStr | getServiceSummary | msghandGetDomName =>
    simp only [answerOf, CString.strcpy, CString.strlen, List.length_append,
      List.length_singleton] at hi hlt
    omega
  | _ => exact absurd (lt_of_le_of_lt hi hlt) (lt_irrefl _)

/-- The same request: the heads are the same, and what the buffers hold as data.  Where the board ID
is too short for its reply, the bytes behind the data matter too. -/
structure SameRequest (hal : Hal) (m₁ : MessageStruct) (mem₁ : Memory) (m₂ : MessageStruct)
    (mem₂ : Memory) : Prop where
  head : m₁.head = m₂.head
  data : ∀ i, i < Message.dataLen m₁ ∨ hal.boardID.strlen + 1 < msghandGetDomIDLen →
    mem₁ m₁.data i = mem₂ m₂.data i

/-- The same answer to the same request carries the same bytes. -/
theorem SameRequest.content_answer (hsame : SameRequest hal m₁ mem₁ m₂ mem₂) (h : HandlerState)
    (s : MsghandSubtype) {a : Answer} (ha : a = answerOf hal h (Message.dataLen m₁) s) :
    content (answer m₁ mem₁ a.bytes a.len).1 (answer m₁ mem₁ a.bytes a.len).2 =
      content (answer m₂ mem₂ a.bytes a.len).1 (answer m₂ mem₂ a.bytes a.len).2 := by
  rw [TestDomApp.content_answer, TestDomApp.content_answer, hsame.head]
  congr 1
  apply load_congr
  intro i hi
  rw [Nat.zero_add]
  rcases lt_or_ge i a.bytes.length with hlt | hge
  · rw [store_zero_apply hlt, store_zero_apply hlt]
  · rw [store_of_le (by omega), store_of_le (by omega)]
    subst ha
    exact hsame.data i (answerOf_stale hge (by omega))

/-! ### Failed requests -/

/-- A failed request is answered in place, without data unless its subtype has no case. -/
theorem ReplyFollows.failed_eq {e : Failure} {reply : MessageStruct} {mem' : Memory}
    (hr : ReplyFollows svc m mem (.failed e) reply mem') :
    (reply, mem') =
      (Message.setStatus (if e = .badMsgSubtype then m else Message.setDataLen m 0) e.status,
        mem) := by
  cases hr with
  | failed e he => rw [if_neg he]
  | badMsgSubtype => rw [if_pos rfl]

theorem msgHandler_failed {e : Failure} (ho : outcome m = .failed e) :
    (msgHandler hal svc h m mem).2 =
      (Message.setStatus (if e = .badMsgSubtype then m else Message.setDataLen m 0) e.status,
        mem) := by
  have hr := (msgHandler_spec hal svc h m mem).2
  rw [ho] at hr
  exact hr.failed_eq

/-- **When a failed request is answered without data**: always, but for a request with an unknown
subtype, which keeps its length. -/
theorem failed_reply_empty_iff (hal : Hal) (svc : Services) (h : HandlerState) (m : MessageStruct)
    (mem : Memory) (hown : isOwn m = true) :
    (Message.getStatus (msgHandler hal svc h m mem).2.1 ≠ Status.success.code →
      Message.dataLen (msgHandler hal svc h m mem).2.1 = 0) ↔
    (lacksCase m = true → Message.dataLen m = 0) := by
  have hstatus := (msgHandler_spec hal svc h m mem).2.status
  rw [isOwn_eq, decide_eq_true_eq] at hown
  rw [← isRefused_outcome]
  cases ho : outcome m with
  | forwarded => exact absurd ho hown
  | fulfilled s =>
    rw [hstatus.1 s ho]
    exact iff_of_true (fun hne => absurd rfl hne) nofun
  | failed e =>
    rw [msgHandler_failed ho]
    by_cases he : e = .badMsgSubtype
    · subst he
      have hne := Failure.badMsgSubtype.status_ne_success
      exact ⟨fun h _ => h hne, fun h _ => h rfl⟩
    · rw [if_neg he]
      refine iff_of_true (fun _ => rfl) fun href => ?_
      cases e with
      | badMsgSubtype => exact absurd rfl he
      | _ => exact absurd href (by decide)

/-- A `REMOTE_OBJECT_REF` request with three bytes of data. -/
theorem failed_reply_empty_iff_remote :
    Message.dataLen (msgHandler .default .blank .static ⟨⟨1, 7, 0, 3, 0, 0, 0, 0⟩, .msgData 0⟩
      fun _ _ => 0).2.1 = 0 :=
  (failed_reply_empty_iff .default .blank .static ⟨⟨1, 7, 0, 3, 0, 0, 0, 0⟩, .msgData 0⟩
    (fun _ _ => 0) (by decide)).mpr (fun h => absurd h (by decide)) (by decide)

/-- A request with an unknown subtype and one byte of data: the byte is returned. -/
theorem failed_reply_keeps_data :
    ¬ ∀ (hal : Hal) (svc : Services) (h : HandlerState) (m : MessageStruct) (mem : Memory),
      isOwn m = true →
      Message.getStatus (msgHandler hal svc h m mem).2.1 ≠ Status.success.code →
        Message.dataLen (msgHandler hal svc h m mem).2.1 = 0 := by
  intro hall
  have hlen := hall .default .blank .static ⟨⟨1, 9, 0, 1, 0, 0, 0, 0⟩, .msgData 0⟩ (fun _ _ => 0)
    (by decide) (by decide)
  revert hlen
  decide

/-! ### Two requests -/

theorem outcome_congr (hhead : m₁.head = m₂.head) : outcome m₁ = outcome m₂ := by
  unfold outcome Message.getType Message.getSubtype
  rw [hhead]

/-- The state after a message depends on the state before it and the head of the message. -/
theorem msgHandler_state_congr {svc₁ svc₂ : Services} (hhead : m₁.head = m₂.head) :
    (msgHandler hal svc₁ h m₁ mem₁).1 = (msgHandler hal svc₂ h m₂ mem₂).1 := by
  rw [msgHandler_state, msgHandler_state, outcome_congr hhead, isHandlerMessage, isHandlerMessage,
    Message.getType, Message.getType, hhead]

/-- **The same request gets the same reply**, as far as the answers of the two states agree. -/
theorem SameRequest.content_reply {svc₁ svc₂ : Services} {h₁ h₂ : HandlerState}
    (hsame : SameRequest hal m₁ mem₁ m₂ mem₂) (hown : isOwn m₁ = true)
    (hans : ∀ s, Asks m₁ s →
      answerOf hal (msgHandler hal svc₁ h₁ m₁ mem₁).1 (Message.dataLen m₁) s =
        answerOf hal (msgHandler hal svc₂ h₂ m₂ mem₂).1 (Message.dataLen m₁) s) :
    content (msgHandler hal svc₁ h₁ m₁ mem₁).2.1 (msgHandler hal svc₁ h₁ m₁ mem₁).2.2 =
      content (msgHandler hal svc₂ h₂ m₂ mem₂).2.1 (msgHandler hal svc₂ h₂ m₂ mem₂).2.2 := by
  have hhead := hsame.head
  have hlen : Message.dataLen m₂ = Message.dataLen m₁ := by
    rw [Message.dataLen, Message.dataLen, hhead]
  have ho₂ := outcome_congr hhead.symm
  rw [isOwn_eq, decide_eq_true_eq] at hown
  cases ho : outcome m₁ with
  | forwarded => exact absurd ho hown
  | fulfilled s =>
    obtain ⟨hm, hs⟩ := outcome_eq_fulfilled_iff.mp ho
    obtain ⟨hm₂, -⟩ := outcome_eq_fulfilled_iff.mp (ho₂.trans ho)
    rw [msgHandler_fulfilled hm hs, msgHandler_fulfilled hm₂ hs, hlen, ← hans s hm]
    exact hsame.content_answer _ s rfl
  | failed e =>
    rw [msgHandler_failed ho, msgHandler_failed (ho₂.trans ho)]
    by_cases he : e = .badMsgSubtype
    · rw [if_pos he, if_pos he]
      unfold content
      rw [Message.dataLen_setStatus, Message.dataLen_setStatus, hlen]
      refine Prod.ext (by simp [Message.setStatus, hhead]) ?_
      apply load_congr
      intro i hi
      rw [Nat.zero_add]
      exact hsame.data i (Or.inl hi)
    · rw [if_neg he, if_neg he]
      refine Prod.ext ?_ rfl
      simp [content, Message.setStatus, Message.setDataLen, Message.setLengthBytes, hhead]

/-! ### Queries -/

/-- The state with another number of received messages. -/
def HandlerState.withReceived (h : HandlerState) (x : UInt32) : HandlerState :=
  { h with msgHand := { h.msgHand with msgReceived := x } }

/-- A query is counted, and changes nothing else. -/
theorem msgHandler_query (hm : Asks m s) (hq : s.isQuery = true) :
    (msgHandler hal svc h m mem).1 = h.withReceived (h.msgHand.msgReceived + 1) := by
  have hs : s ≠ .remoteObjectRef := by
    rintro rfl
    exact absurd hq (by decide)
  have hrec : isHandlerMessage m = true := decide_eq_true hm.1
  rw [msgHandler_state, outcome_of_asks hm hs, hrec]
  cases s with
  | clearLastError | remoteObjectRef | msghandClrPktStats | msghandClrMsgStats =>
    exact absurd hq (by decide)
  | _ => rfl

end TestDomApp
