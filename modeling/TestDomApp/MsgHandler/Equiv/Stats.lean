import TestDomApp.DomappCommon.Equiv.FormatLong
import TestDomApp.MsgHandler.Equiv.Outcome
import TestDomApp.Transition.Run

/-!
# Service statistics

The three counters of the handler count the messages of its history, modulo `2^32`
(`run_counters`), and `GET_SERVICE_STATS` reports them (`stats_account`).
-/

namespace TestDomApp

open Transition Region

variable {hal : Hal} {h h' h₀ : HandlerState}

/-! ### What the counters should count -/

/-- A request to the handler whose subtype has no case. -/
def lacksCase (m : MessageStruct) : Bool :=
  isHandlerMessage m ∧ MsghandSubtype.ofByte? (Message.getSubtype m) = none

/-- A `REMOTE_OBJECT_REF` request, a message for `TEST_MANAGER`, or one of a type without a
case. -/
def isProcessingErr (m : MessageStruct) : Bool :=
  isHandlerMessage m ∧ MsghandSubtype.ofByte? (Message.getSubtype m) = some .remoteObjectRef ∨
    MsgType.ofByte? (Message.getType m) = some .testManager ∨
    MsgType.ofByte? (Message.getType m) = none ∨
    MsgType.ofByte? (Message.getType m) = some .dataAccess

/-- The number of messages in a history that satisfy `p`. -/
def countMsgs (p : MessageStruct → Bool) (tr : List (Step HandlerState Handled)) : ℕ :=
  tr.countP fun x => p x.label.request

theorem countMsgs_concat (p : MessageStruct → Bool) (tr : List (Step HandlerState Handled))
    (x : Step HandlerState Handled) :
    UInt32.ofNat (countMsgs p (tr ++ [x]))
      = UInt32.ofNat (countMsgs p tr) + tally (p x.label.request) := by
  rw [countMsgs, List.countP_append, List.countP_singleton, UInt32.ofNat_add, countMsgs, tally]
  split_ifs <;> rfl

theorem isRefused_outcome (m : MessageStruct) : (outcome m).isRefused = lacksCase m := by
  unfold lacksCase isHandlerMessage
  rcases outcome_cases m with ⟨ht | ht, ho⟩ | ⟨ht, ho⟩ | ⟨ht | ht, ho⟩ | ⟨ht, hs, ho⟩ |
    ⟨ht, hs, ho⟩ | ⟨s, ht, hs, hne, ho⟩ <;> simp [Outcome.isRefused, *]

theorem isProcessingErr_outcome (m : MessageStruct) :
    (outcome m).isProcessingErr = isProcessingErr m := by
  unfold isProcessingErr isHandlerMessage
  rcases outcome_cases m with ⟨ht | ht, ho⟩ | ⟨ht, ho⟩ | ⟨ht | ht, ho⟩ | ⟨ht, hs, ho⟩ |
    ⟨ht, hs, ho⟩ | ⟨s, ht, hs, hne, ho⟩ <;> simp [Outcome.isProcessingErr, *]

/-! ### What they count -/

/-- **The counters are an account of the history.** -/
theorem run_counters {tr : List (Step HandlerState Handled)}
    (hr : Run (HandlerState.Next hal) (msgHandlerInit h₀) tr h) :
    h.msgHand.msgReceived = UInt32.ofNat (countMsgs isHandlerMessage tr) ∧
    h.msgHand.msgRefused = UInt32.ofNat (countMsgs lacksCase tr) ∧
    h.msgHand.msgProcessingErr = UInt32.ofNat (countMsgs isProcessingErr tr) := by
  induction hr with
  | nil => exact ⟨rfl, rfl, rfl⟩
  | snoc _ hn ih =>
    have hfollows := hn.follows.1
    rw [countMsgs_concat, countMsgs_concat, countMsgs_concat, ← ih.1, ← ih.2.1, ← ih.2.2]
    refine ⟨hfollows.msgReceived, ?_, ?_⟩
    · rw [hfollows.msgRefused, isRefused_outcome]
    · rw [hfollows.msgProcessingErr, isProcessingErr_outcome]

/-- A reply of the handler itself reports an error exactly when it is counted as one, in one of the
two counters. -/
theorem counted_iff {l : Handled} (hn : h.Next hal l h') (hown : isOwn l.request = true) :
    (Message.getStatus l.reply ≠ Status.success.code →
      (lacksCase l.request ^^ isProcessingErr l.request) = true) ∧
    (Message.getStatus l.reply = Status.success.code →
      lacksCase l.request = false ∧ isProcessingErr l.request = false) := by
  have hstatus := hn.follows.2.status
  rw [isOwn_eq, decide_eq_true_eq] at hown
  rw [← isRefused_outcome, ← isProcessingErr_outcome]
  cases ho : outcome l.request with
  | forwarded => exact absurd ho hown
  | fulfilled s => exact ⟨fun hne => absurd (hstatus.1 s ho) hne, fun _ => ⟨rfl, rfl⟩⟩
  | failed e =>
    rw [hstatus.2 e ho]
    refine ⟨fun _ => ?_, fun heq => absurd heq e.status_ne_success⟩
    cases e <;> rfl

/-- The reply to `GET_SERVICE_STATS`. -/
theorem msgHandler_getServiceStats (svc : Services) (h : HandlerState) (m : MessageStruct)
    (mem : Memory) (ht : MsgType.ofByte? (Message.getType m) = some .messageHandler)
    (hs : MsghandSubtype.ofByte? (Message.getSubtype m) = some .getServiceStats) :
    (msgHandler hal svc h m mem).2 =
      answer m mem
        (formatLong (h.msgHand.msgReceived + 1) ++ formatLong h.msgHand.msgRefused ++
          formatLong h.msgHand.msgProcessingErr) getServiceStatsLen := by
  simp only [msgHandler, dispatch, ht, messageHandlerCase, hs]
  rfl

/-- **Service statistics are an account of the run.**  After any history of the handler,
`GET_SERVICE_STATS` is answered with twelve bytes, from which `unformatLong` reads the number of
messages to the handler including this one, the number of those whose subtype has no case, and the
number of other messages that could not be processed, modulo `2^32`.  Every reply of the handler
itself with a status other than `SUCCESS` counts in exactly one of the last two, and no other
does. -/
theorem stats_account {tr : List (Step HandlerState Handled)}
    (hr : Run (HandlerState.Next hal) (msgHandlerInit h₀) tr h) (svc : Services)
    (m : MessageStruct) (mem : Memory)
    (ht : MsgType.ofByte? (Message.getType m) = some .messageHandler)
    (hs : MsghandSubtype.ofByte? (Message.getSubtype m) = some .getServiceStats) :
    let r := (msgHandler hal svc h m mem).2
    let data := r.2 (Message.getData r.1)
    Message.getStatus r.1 = Status.success.code ∧
    Message.dataLen r.1 = 12 ∧
    (unformatLong data 0).toNat = (countMsgs isHandlerMessage tr + 1) % 2 ^ 32 ∧
    (unformatLong data 4).toNat = countMsgs lacksCase tr % 2 ^ 32 ∧
    (unformatLong data 8).toNat = countMsgs isProcessingErr tr % 2 ^ 32 ∧
    ∀ x ∈ tr, isOwn x.label.request = true →
      (Message.getStatus x.label.reply ≠ Status.success.code →
        (lacksCase x.label.request ^^ isProcessingErr x.label.request) = true) ∧
      (Message.getStatus x.label.reply = Status.success.code →
        lacksCase x.label.request = false ∧ isProcessingErr x.label.request = false) := by
  obtain ⟨hrec, href, herr⟩ := run_counters hr
  dsimp only
  rw [msgHandler_getServiceStats svc h m mem ht hs, data_answer, dataLen_answer, hrec, href, herr]
  have h₀ := unformatLong_store (UInt32.ofNat (countMsgs isHandlerMessage tr) + 1)
    (mem (Message.getData m)) [] (formatLong (UInt32.ofNat (countMsgs lacksCase tr)) ++
      formatLong (UInt32.ofNat (countMsgs isProcessingErr tr)))
  have h₄ := unformatLong_store (UInt32.ofNat (countMsgs lacksCase tr)) (mem (Message.getData m))
    (formatLong (UInt32.ofNat (countMsgs isHandlerMessage tr) + 1))
    (formatLong (UInt32.ofNat (countMsgs isProcessingErr tr)))
  have h₈ := unformatLong_store (UInt32.ofNat (countMsgs isProcessingErr tr))
    (mem (Message.getData m)) (formatLong (UInt32.ofNat (countMsgs isHandlerMessage tr) + 1) ++
      formatLong (UInt32.ofNat (countMsgs lacksCase tr))) []
  rw [List.nil_append, ← List.append_assoc] at h₀
  rw [List.append_nil] at h₈
  refine ⟨rfl, rfl, ?_, ?_, ?_, ?_⟩
  · rw [List.length_nil] at h₀
    rw [h₀, UInt32.toNat_add, UInt32.toNat_ofNat', Nat.mod_add_mod]
    rfl
  · rw [length_formatLong] at h₄
    rw [h₄, UInt32.toNat_ofNat']
  · rw [List.length_append, length_formatLong, length_formatLong] at h₈
    rw [h₈, UInt32.toNat_ofNat']
  · intro x hx hown
    obtain ⟨_, -, -, hn⟩ := hr.of_mem hx
    exact counted_iff hn hown

/-- A message for `TEST_MANAGER` and a request with an unknown subtype are counted, one in each of
the two counters. -/
theorem stats_account_two :
    let h₁ := (msgHandler .default .blank (msgHandlerInit .static)
      ⟨⟨5, 0, 0, 0, 0, 0, 0, 0⟩, .msgData 0⟩ fun _ _ => 0).1
    let h₂ := (msgHandler .default .blank h₁ ⟨⟨1, 9, 0, 0, 0, 0, 0, 0⟩, .msgData 0⟩ fun _ _ => 0).1
    let data := (msgHandler .default .blank h₂ ⟨⟨1, 6, 0, 0, 0, 0, 0, 0⟩, .msgData 0⟩
      fun _ _ => 0).2.2 (.msgData 0)
    (unformatLong data 0).toNat = 2 ∧ (unformatLong data 4).toNat = 1 ∧
      (unformatLong data 8).toNat = 1 := by
  intro h₁ h₂ data
  have hr := (Run.nil.snoc (HandlerState.next_call .default .blank (msgHandlerInit .static)
    ⟨⟨5, 0, 0, 0, 0, 0, 0, 0⟩, .msgData 0⟩ fun _ _ => 0)).snoc
    (HandlerState.next_call .default .blank h₁ ⟨⟨1, 9, 0, 0, 0, 0, 0, 0⟩, .msgData 0⟩ fun _ _ => 0)
  obtain ⟨-, -, hrec, href, herr, -⟩ :=
    stats_account hr .blank ⟨⟨1, 6, 0, 0, 0, 0, 0, 0⟩, .msgData 0⟩ (fun _ _ => 0) rfl rfl
  exact ⟨hrec, href, herr⟩

end TestDomApp
