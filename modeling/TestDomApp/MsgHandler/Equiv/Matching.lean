import TestDomApp.MsgHandler.Equiv.LastError

/-!
# Replies match their requests

A reply of the handler is the request with another length, status and data: everything a client can
match the two by is kept (`ReplyFollows.matches`).  The status is that of the outcome, and says what
the message did to the state: with `SUCCESS` neither error counter moves and the last-error record
stays, unless the request cleared it; any other status has a severity, and one of the counters has
moved (`reply_matches`).
-/

namespace TestDomApp

variable {hal : Hal} {svc : Services} {h h' : HandlerState} {m reply : MessageStruct}
  {mem mem' : Memory} {o : Outcome} {received : Bool}

/-- What a client can match a reply to its request by. -/
structure Matches (request reply : MessageStruct) : Prop where
  type : Message.getType reply = Message.getType request
  subtype : Message.getSubtype reply = Message.getSubtype request
  res0 : reply.head.res0 = request.head.res0
  res1 : reply.head.res1 = request.head.res1
  msgID : reply.head.msgID = request.head.msgID
  data : Message.getData reply = Message.getData request

/-- Every reply of the handler itself is made in place. -/
theorem ReplyFollows.matches (hr : ReplyFollows svc m mem o reply mem') (ho : o ≠ .forwarded) :
    Matches m reply := by
  cases hr with
  | forwarded head mem' hs => exact absurd rfl ho
  | fulfilled s bs len => exact ⟨rfl, rfl, rfl, rfl, rfl, rfl⟩
  | failed e he => exact ⟨rfl, rfl, rfl, rfl, rfl, rfl⟩
  | badMsgSubtype => exact ⟨rfl, rfl, rfl, rfl, rfl, rfl⟩

/-! ### Status and counters -/

theorem Failure.severityOfStatus_ne_zero (e : Failure) : severityOfStatus e.status ≠ 0 := by
  cases e <;> decide

theorem add_tally_eq_self_iff (x : UInt32) (b : Bool) : x + tally b = x ↔ b = false := by
  cases b with
  | false => simp [tally]
  | true => simp [tally]

/-- The error counters stand still exactly when the message does not fail. -/
theorem StateFollows.counters_kept_iff (hs : StateFollows o received h h') :
    (h'.msgHand.msgRefused = h.msgHand.msgRefused ∧
      h'.msgHand.msgProcessingErr = h.msgHand.msgProcessingErr) ↔ ∀ e, o ≠ .failed e := by
  rw [hs.msgRefused, hs.msgProcessingErr, add_tally_eq_self_iff, add_tally_eq_self_iff]
  cases o with
  | forwarded => exact iff_of_true ⟨rfl, rfl⟩ nofun
  | fulfilled s => exact iff_of_true ⟨rfl, rfl⟩ nofun
  | failed e =>
    refine iff_of_false ?_ fun hne => hne e rfl
    cases e <;> decide

/-- A fulfilled request leaves the last-error record, or clears it. -/
theorem StateFollows.lastError_fulfilled {s : MsghandSubtype}
    (hs : StateFollows (.fulfilled s) received h h') :
    h'.msgHand.lastError = h.msgHand.lastError ∨
      s = .clearLastError ∧ h'.msgHand.lastError = noLastError := by
  have hlast := hs.lastError
  cases s with
  | clearLastError => exact Or.inr ⟨rfl, hlast⟩
  | _ => exact Or.inl hlast

/-- **The reply can be matched to its request.**  In every state, a message that the handler answers
itself keeps type, subtype, reserved bytes, message ID and data pointer, and gets a status that does
not depend on the one it came with.  The status is `SUCCESS` exactly when neither `msgRefused` nor
`msgProcessingErr` has changed, and then the last-error record is as it was or was cleared by
`CLEAR_LAST_ERROR`; any other status has a severity. -/
theorem reply_matches (hal : Hal) (svc : Services) (h : HandlerState) (m : MessageStruct)
    (mem : Memory) (hown : isOwn m = true) :
    let r := msgHandler hal svc h m mem
    Matches m r.2.1 ∧
    (∀ status, Message.getStatus (msgHandler hal svc h (Message.setStatus m status) mem).2.1 =
      Message.getStatus r.2.1) ∧
    (Message.getStatus r.2.1 = Status.success.code ↔
      r.1.msgHand.msgRefused = h.msgHand.msgRefused ∧
        r.1.msgHand.msgProcessingErr = h.msgHand.msgProcessingErr) ∧
    (Message.getStatus r.2.1 = Status.success.code →
      r.1.msgHand.lastError = h.msgHand.lastError ∨
        isClearLastError m = true ∧ r.1.msgHand.lastError = noLastError) ∧
    (Message.getStatus r.2.1 ≠ Status.success.code →
      severityOfStatus (Message.getStatus r.2.1) ≠ 0) := by
  intro r
  obtain ⟨hstate, hreply⟩ := msgHandler_spec hal svc h m mem
  have hreply' : ∀ status, ReplyFollows svc (Message.setStatus m status) mem (outcome m) _ _ :=
    fun status => (msgHandler_spec hal svc h (Message.setStatus m status) mem).2
  rw [isOwn_eq, decide_eq_true_eq] at hown
  refine ⟨hreply.matches hown, ?_⟩
  rw [hstate.counters_kept_iff, isClearLastError_eq]
  cases ho : outcome m with
  | forwarded => exact absurd ho hown
  | fulfilled s =>
    have hsuccess := hreply.status.1 s ho
    rw [ho] at hstate
    refine ⟨fun status => ?_, iff_of_true hsuccess nofun, fun _ => ?_,
      fun hne => absurd hsuccess hne⟩
    · rw [hsuccess]
      exact (hreply' status).status.1 s ho
    · simpa using hstate.lastError_fulfilled
  | failed e =>
    have hfail := hreply.status.2 e ho
    have hne : Message.getStatus r.2.1 ≠ Status.success.code := hfail ▸ e.status_ne_success
    refine ⟨fun status => ?_, iff_of_false hne fun hall => hall e rfl, fun heq => absurd heq hne,
      fun _ => ?_⟩
    · rw [hfail]
      exact (hreply' status).status.2 e ho
    · rw [hfail]
      exact e.severityOfStatus_ne_zero

/-- A message for `TEST_MANAGER`: its ID is kept, and its status has a severity. -/
theorem reply_matches_testManager :
    let r := msgHandler .default .blank .static ⟨⟨5, 0, 0, 0, 0, 0, 42, 0⟩, .msgData 0⟩ fun _ _ => 0
    r.2.1.head.msgID = 42 ∧ severityOfStatus (Message.getStatus r.2.1) ≠ 0 := by
  obtain ⟨hmatches, -, -, -, hseverity⟩ := reply_matches .default .blank .static
    ⟨⟨5, 0, 0, 0, 0, 0, 42, 0⟩, .msgData 0⟩ (fun _ _ => 0) (by decide)
  exact ⟨hmatches.msgID, hseverity (by decide)⟩

end TestDomApp
