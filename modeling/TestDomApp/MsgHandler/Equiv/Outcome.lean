import TestDomApp.MsgHandler.Outcome

/-!
# The handler follows the outcome

`msgHandler_spec` goes through every branch of the two nested switches once; what the later proofs
need of the handler, they take from it.  The reply keeps type, subtype and data pointer, its status
is that of the outcome, and the state changes as the outcome says.
-/

namespace TestDomApp

/-- What is added to a counter: `1` if the message counts. -/
def tally (b : Bool) : UInt32 := if b then 1 else 0

theorem add_tally_false (x : UInt32) : x + tally false = x := by
  simp [tally]

/-- What a message of outcome `o` leaves of the state; `received` says whether it counts as
received. -/
structure StateFollows (o : Outcome) (received : Bool) (h h' : HandlerState) : Prop where
  lastError : h'.msgHand.lastError = o.lastError h.msgHand.lastError
  msgReceived : h'.msgHand.msgReceived = h.msgHand.msgReceived + tally received
  msgRefused : h'.msgHand.msgRefused = h.msgHand.msgRefused + tally o.isRefused
  msgProcessingErr : h'.msgHand.msgProcessingErr = h.msgHand.msgProcessingErr + tally o.isProcessingErr

/-- The state after a message of outcome `o`; `received` says whether it counts as received. -/
def HandlerState.after (h : HandlerState) (o : Outcome) (received : Bool) : HandlerState where
  msgHand := { h.msgHand with
    lastErrorID := (o.lastError h.msgHand.lastError).id
    lastErrorSeverity := (o.lastError h.msgHand.lastError).severity
    lastErrorStr := (o.lastError h.msgHand.lastError).text
    msgReceived := if received then h.msgHand.msgReceived + 1 else h.msgHand.msgReceived
    msgRefused := if o.isRefused then h.msgHand.msgRefused + 1 else h.msgHand.msgRefused
    msgProcessingErr :=
      if o.isProcessingErr then h.msgHand.msgProcessingErr + 1 else h.msgHand.msgProcessingErr }
  expCntStackOvfl :=
    if o = .failed .serverStackFull then h.expCntStackOvfl + 1 else h.expCntStackOvfl
  pktStats := if o = .fulfilled .msghandClrPktStats then ⟨0, 0, 0, 0, 0, 0, 0⟩ else h.pktStats
  msgStats := if o = .fulfilled .msghandClrMsgStats then ⟨0, 0, 0, 0, 0⟩ else h.msgStats

/-- What a call of `msgHandler` makes of the message, by outcome. -/
inductive ReplyFollows (svc : Services) (m : MessageStruct) (mem : Memory) :
    Outcome → MessageStruct → Memory → Prop
  | forwarded (head : Head) (mem' : Memory)
      (hs : svc.domSControl m mem = (head, mem') ∨ svc.expControl m mem = (head, mem')) :
      ReplyFollows svc m mem .forwarded { m with head := head } mem'
  | fulfilled (s : MsghandSubtype) (bs : List UInt8) (len : ℕ) :
      ReplyFollows svc m mem (.fulfilled s) (answer m mem bs len).1 (answer m mem bs len).2
  | failed (e : Failure) (he : e ≠ .badMsgSubtype) :
      ReplyFollows svc m mem (.failed e) (Message.setStatus (Message.setDataLen m 0) e.status) mem
  /-- The one failure that leaves the length of the request. -/
  | badMsgSubtype :
      ReplyFollows svc m mem (.failed .badMsgSubtype)
        (Message.setStatus m Failure.badMsgSubtype.status) mem

variable (hal : Hal) (svc : Services) (h : HandlerState) (m : MessageStruct) (mem : Memory)

/-- A request to the handler itself, by subtype. -/
theorem messageHandlerCase_spec (ht : MsgType.ofByte? (Message.getType m) = some .messageHandler) :
    StateFollows (outcome m) true h (messageHandlerCase hal h m mem).1 ∧
    ReplyFollows svc m mem (outcome m) (messageHandlerCase hal h m mem).2.1
      (messageHandlerCase hal h m mem).2.2 := by
  cases hs : MsghandSubtype.ofByte? (Message.getSubtype m) with
  | none =>
    have ho : outcome m = .failed .badMsgSubtype := by simp [outcome, ht, hs]
    simp only [messageHandlerCase, hs]
    rw [ho]
    exact ⟨⟨rfl, rfl, rfl, (add_tally_false _).symm⟩, .badMsgSubtype⟩
  | some s =>
    have ho : outcome m = if s = .remoteObjectRef then .failed .remoteObjectRef else .fulfilled s := by
      cases s <;> simp [outcome, ht, hs]
    simp only [messageHandlerCase, hs]
    rw [ho]
    cases s with
    | remoteObjectRef =>
      exact ⟨⟨rfl, rfl, (add_tally_false _).symm, rfl⟩, .failed .remoteObjectRef (by decide)⟩
    | _ =>
      -- All other replies are an `answer`; at most the last error and the packet driver counters
      -- are reset.
      exact ⟨⟨rfl, rfl, (add_tally_false _).symm, (add_tally_false _).symm⟩, .fulfilled _ _ _⟩

/-- **The handler follows the outcome.** -/
theorem msgHandler_spec :
    StateFollows (outcome m) (isHandlerMessage m) h (msgHandler hal svc h m mem).1 ∧
    ReplyFollows svc m mem (outcome m) (msgHandler hal svc h m mem).2.1
      (msgHandler hal svc h m mem).2.2 := by
  have hrec : isHandlerMessage m
      = decide (MsgType.ofByte? (Message.getType m) = some .messageHandler) := rfl
  rw [hrec]
  cases ht : MsgType.ofByte? (Message.getType m) with
  | none =>
    have ho : outcome m = .failed .unknownServer := by simp [outcome, ht]
    simp only [msgHandler, dispatch, ht]
    rw [ho]
    exact ⟨⟨rfl, (add_tally_false _).symm, (add_tally_false _).symm, rfl⟩,
      .failed .unknownServer (by decide)⟩
  | some ty =>
    cases ty with
    | messageHandler =>
      simp only [msgHandler, dispatch, ht]
      exact messageHandlerCase_spec hal svc h m mem ht
    | domSlowControl =>
      have ho : outcome m = .forwarded := by simp [outcome, ht]
      simp only [msgHandler, dispatch, ht]
      rw [ho]
      exact ⟨⟨rfl, (add_tally_false _).symm, (add_tally_false _).symm, (add_tally_false _).symm⟩,
        .forwarded _ _ (Or.inl rfl)⟩
    | experimentControl =>
      have ho : outcome m = .forwarded := by simp [outcome, ht]
      simp only [msgHandler, dispatch, ht]
      rw [ho]
      exact ⟨⟨rfl, (add_tally_false _).symm, (add_tally_false _).symm, (add_tally_false _).symm⟩,
        .forwarded _ _ (Or.inr rfl)⟩
    | dataAccess =>
      have ho : outcome m = .failed .unknownServer := by simp [outcome, ht]
      simp only [msgHandler, dispatch, ht]
      rw [ho]
      exact ⟨⟨rfl, (add_tally_false _).symm, (add_tally_false _).symm, rfl⟩,
        .failed .unknownServer (by decide)⟩
    | testManager =>
      have ho : outcome m = .failed .serverStackFull := by simp [outcome, ht]
      simp only [msgHandler, dispatch, ht]
      rw [ho]
      exact ⟨⟨rfl, (add_tally_false _).symm, (add_tally_false _).symm, rfl⟩,
        .failed .serverStackFull (by decide)⟩

/-- The outcomes, each with the types and subtypes it comes from. -/
theorem outcome_cases :
    ((MsgType.ofByte? (Message.getType m) = some .domSlowControl ∨
        MsgType.ofByte? (Message.getType m) = some .experimentControl) ∧
      outcome m = .forwarded) ∨
    (MsgType.ofByte? (Message.getType m) = some .testManager ∧
      outcome m = .failed .serverStackFull) ∨
    ((MsgType.ofByte? (Message.getType m) = none ∨
        MsgType.ofByte? (Message.getType m) = some .dataAccess) ∧
      outcome m = .failed .unknownServer) ∨
    (MsgType.ofByte? (Message.getType m) = some .messageHandler ∧
      MsghandSubtype.ofByte? (Message.getSubtype m) = none ∧
      outcome m = .failed .badMsgSubtype) ∨
    (MsgType.ofByte? (Message.getType m) = some .messageHandler ∧
      MsghandSubtype.ofByte? (Message.getSubtype m) = some .remoteObjectRef ∧
      outcome m = .failed .remoteObjectRef) ∨
    ∃ s, MsgType.ofByte? (Message.getType m) = some .messageHandler ∧
      MsghandSubtype.ofByte? (Message.getSubtype m) = some s ∧ s ≠ .remoteObjectRef ∧
      outcome m = .fulfilled s := by
  unfold outcome
  cases MsgType.ofByte? (Message.getType m) with
  | none => simp
  | some ty =>
    cases ty with
    | messageHandler =>
      cases MsghandSubtype.ofByte? (Message.getSubtype m) with
      | none => simp
      | some s => cases s <;> simp
    | _ => simp

/-- **The state after a message**, by its outcome. -/
theorem msgHandler_state :
    (msgHandler hal svc h m mem).1 = h.after (outcome m) (isHandlerMessage m) := by
  unfold isHandlerMessage msgHandler dispatch
  rcases outcome_cases m with ⟨ht | ht, ho⟩ | ⟨ht, ho⟩ | ⟨ht | ht, ho⟩ | ⟨ht, hs, ho⟩ |
    ⟨ht, hs, ho⟩ | ⟨s, ht, hs, hne, ho⟩
  · rw [ho, ht]
    rfl
  · rw [ho, ht]
    rfl
  · rw [ho, ht]
    rfl
  · rw [ho, ht]
    rfl
  · rw [ho, ht]
    rfl
  · rw [ho, ht]
    simp only [messageHandlerCase, hs]
    rfl
  · rw [ho, ht]
    simp only [messageHandlerCase, hs]
    rfl
  · rw [ho, ht]
    simp only [messageHandlerCase, hs]
    cases s with
    | remoteObjectRef => exact absurd rfl hne
    | _ => rfl

theorem isOwn_eq : isOwn m = decide (outcome m ≠ .forwarded) := by
  unfold isOwn
  rcases outcome_cases m with ⟨ht | ht, ho⟩ | ⟨ht, ho⟩ | ⟨ht | ht, ho⟩ | ⟨ht, -, ho⟩ | ⟨ht, -, ho⟩ |
    ⟨s, ht, -, -, ho⟩ <;> simp [ht, ho]

variable {hal svc h m mem} {h' : HandlerState} {l : Handled}

/-- A step of the handler follows the outcome of its request. -/
theorem HandlerState.Next.follows (hn : h.Next hal l h') :
    StateFollows (outcome l.request) (isHandlerMessage l.request) h h' ∧
    ReplyFollows l.svc l.request l.mem (outcome l.request) l.reply l.mem' := by
  have hspec := msgHandler_spec hal l.svc h l.request l.mem
  have heq : msgHandler hal l.svc h l.request l.mem = (h', l.reply, l.mem') := hn
  rwa [heq] at hspec

/-- The status of a reply the handler makes itself. -/
theorem ReplyFollows.status {o : Outcome} {reply : MessageStruct} {mem' : Memory}
    (hr : ReplyFollows svc m mem o reply mem') :
    (∀ s, o = .fulfilled s → Message.getStatus reply = Status.success.code) ∧
    ∀ e, o = .failed e → Message.getStatus reply = e.status := by
  cases hr with
  | forwarded head mem' hs => exact ⟨nofun, nofun⟩
  | fulfilled s bs len => exact ⟨fun _ _ => rfl, nofun⟩
  | failed e he =>
    refine ⟨nofun, fun e' he' => ?_⟩
    obtain rfl := Outcome.failed.inj he'
    rfl
  | badMsgSubtype =>
    refine ⟨nofun, fun e' he' => ?_⟩
    obtain rfl := Outcome.failed.inj he'
    rfl

/-- The reply is where the request was. -/
theorem ReplyFollows.data_eq {o : Outcome} {reply : MessageStruct} {mem' : Memory}
    (hr : ReplyFollows svc m mem o reply mem') : reply.data = m.data := by
  cases hr with
  | forwarded head mem' hs => rfl
  | fulfilled s bs len => rfl
  | failed e he => rfl
  | badMsgSubtype => rfl

theorem Failure.status_ne_success (e : Failure) : e.status ≠ Status.success.code := by
  cases e <;> decide

end TestDomApp
