import TestDomApp.MsgHandler.Equiv.Outcome
import TestDomApp.Transition.Run

/-!
# The last-error record

The record of the handler is meant to describe the last message it answered with an error: the
error value and the text that go with the status of the reply, and the severity in that status.
Value and text always do.  The severity does when the request was addressed to the handler itself;
a message for `TEST_MANAGER` or for an unknown server leaves the severity of the error before it.
As the handler never records `SEVERE_ERROR`, a message for `TEST_MANAGER` always breaks the record,
and one for an unknown server does unless a warning is recorded already (`record_agrees_iff`).
-/

namespace TestDomApp

open Transition

variable {hal : Hal} {h h' h₀ : HandlerState} {l : Handled}

/-! ### What the record should say -/

/-- The error value and text that go with a status. -/
def errorOfStatus (status : UInt8) : Option (UInt8 × CString) :=
  if status &&& 0x1f = Status.unknownServer.code then
    some (msghandUnknownServerID, msghandUnknownServer)
  else if status &&& 0x1f = Status.serverStackFull.code then
    some (msghandServerStackFullID, msghandServerStackFull)
  else if status &&& 0x1f = Status.unknownSubtype.code then
    some (commonBadMsgSubtype, msghandErsBadMsgSubtype)
  else none

/-- The severity in a status; the bits of all severities are those of `FATAL_ERROR`. -/
def severityOfStatus (status : UInt8) : UInt8 := status &&& fatalError

/-- A `CLEAR_LAST_ERROR` request. -/
def isClearLastError (m : MessageStruct) : Bool :=
  MsgType.ofByte? (Message.getType m) = some .messageHandler ∧
    MsghandSubtype.ofByte? (Message.getSubtype m) = some .clearLastError

/-- The last reply with an error, after one more message: `CLEAR_LAST_ERROR` forgets it, and a
reply of the handler itself with a status other than `SUCCESS` takes its place. -/
def noteFailure (e : Option MessageStruct) (l : Handled) : Option MessageStruct :=
  if isClearLastError l.request then none
  else if isOwn l.request ∧ Message.getStatus l.reply ≠ Status.success.code then some l.reply
  else e

/-- The last reply with an error in a history. -/
def lastFailure (tr : List (Step HandlerState Handled)) : Option MessageStruct :=
  tr.foldl (fun e x => noteFailure e x.label) none

/-- The record describes the error of the reply `e`, or says that there is none. -/
def RecordAgrees (h : HandlerState) : Option MessageStruct → Prop
  | none => h.msgHand.lastError = noLastError
  | some e =>
    errorOfStatus (Message.getStatus e) = some (h.msgHand.lastErrorID, h.msgHand.lastErrorStr) ∧
    h.msgHand.lastErrorSeverity = severityOfStatus (Message.getStatus e)

/-- The messages after which the severity is right: none for `TEST_MANAGER`, and one of a type
without a case only while a warning is recorded. -/
def KeepsSeverity (h : HandlerState) (m : MessageStruct) : Prop :=
  MsgType.ofByte? (Message.getType m) ≠ some .testManager ∧
  ((MsgType.ofByte? (Message.getType m) = none ∨
      MsgType.ofByte? (Message.getType m) = some .dataAccess) →
    h.msgHand.lastErrorSeverity = warningError)

/-! ### One message -/

theorem errorOfStatus_status (e : Failure) : errorOfStatus e.status = some (e.id, e.text) := by
  cases e <;> rfl

/-- The severity recorded is that of the status, unless it is left over. -/
theorem severity_eq_iff (old : UInt8) (e : Failure) :
    e.severity old = severityOfStatus e.status ↔
      (e = .unknownServer → old = warningError) ∧ (e = .serverStackFull → old = severeError) := by
  cases e with
  | remoteObjectRef => exact ⟨fun _ => ⟨nofun, nofun⟩, fun _ => rfl⟩
  | badMsgSubtype => exact ⟨fun _ => ⟨nofun, nofun⟩, fun _ => rfl⟩
  | unknownServer => exact ⟨fun h => ⟨fun _ => h, nofun⟩, fun h => h.1 rfl⟩
  | serverStackFull => exact ⟨fun h => ⟨nofun, fun _ => h⟩, fun h => h.2 rfl⟩

theorem keepsSeverity_iff (h : HandlerState) (m : MessageStruct) :
    KeepsSeverity h m ↔ outcome m ≠ .failed .serverStackFull ∧
      (outcome m = .failed .unknownServer → h.msgHand.lastErrorSeverity = warningError) := by
  unfold KeepsSeverity
  rcases outcome_cases m with ⟨ht | ht, ho⟩ | ⟨ht, ho⟩ | ⟨ht | ht, ho⟩ | ⟨ht, -, ho⟩ | ⟨ht, -, ho⟩ |
    ⟨s, ht, -, -, ho⟩ <;> simp [ht, ho]

theorem isClearLastError_eq (m : MessageStruct) :
    isClearLastError m = decide (outcome m = .fulfilled .clearLastError) := by
  unfold isClearLastError
  rcases outcome_cases m with ⟨ht | ht, ho⟩ | ⟨ht, ho⟩ | ⟨ht | ht, ho⟩ | ⟨ht, hs, ho⟩ |
    ⟨ht, hs, ho⟩ | ⟨s, ht, hs, -, ho⟩ <;> simp [*]

/-- The last error after a message, by its outcome. -/
theorem noteFailure_eq (e : Option MessageStruct) (hn : h.Next hal l h') :
    noteFailure e l =
      match outcome l.request with
      | .forwarded => e
      | .fulfilled s => if s = .clearLastError then none else e
      | .failed _ => some l.reply := by
  have hstatus := hn.follows.2.status
  rw [noteFailure, isOwn_eq, isClearLastError_eq]
  cases ho : outcome l.request with
  | forwarded => simp
  | fulfilled s => simp [hstatus.1 s ho]
  | failed f => simp [hstatus.2 f ho, f.status_ne_success]

theorem recordAgrees_iff_of_lastError_eq {e : Option MessageStruct}
    (heq : h'.msgHand.lastError = h.msgHand.lastError) : RecordAgrees h' e ↔ RecordAgrees h e := by
  obtain ⟨hid, hsev, htext⟩ := LastError.mk.inj heq
  cases e with
  | none => rw [RecordAgrees, RecordAgrees, heq]
  | some e => rw [RecordAgrees, RecordAgrees, hid, hsev, htext]

/-- **One message**: a record that agrees with the last error agrees after the message too exactly
when the severity is kept, provided `SEVERE_ERROR` was not recorded before. -/
theorem recordAgrees_step {e : Option MessageStruct} (hn : h.Next hal l h')
    (hsev : h.msgHand.lastErrorSeverity ≠ severeError) (hagree : RecordAgrees h e) :
    RecordAgrees h' (noteFailure e l) ↔ KeepsSeverity h l.request := by
  have hlast := hn.follows.1.lastError
  have hstatus := hn.follows.2.status
  rw [noteFailure_eq e hn, keepsSeverity_iff]
  cases ho : outcome l.request with
  | forwarded =>
    rw [ho] at hlast
    simpa [recordAgrees_iff_of_lastError_eq hlast] using hagree
  | fulfilled s =>
    rw [ho] at hlast
    by_cases hclear : s = .clearLastError
    · subst hclear
      have hnone : h'.msgHand.lastError = noLastError := hlast
      simpa [RecordAgrees] using hnone
    · have hkeep : h'.msgHand.lastError = h.msgHand.lastError := by
        cases s <;> first | exact absurd rfl hclear | exact hlast
      simpa [hclear, recordAgrees_iff_of_lastError_eq hkeep] using hagree
  | failed f =>
    rw [ho] at hlast
    -- Value and text agree in any case, so it is about the severity alone.
    obtain ⟨hid, hsev', htext⟩ := LastError.mk.inj hlast
    have hseverity : h'.msgHand.lastErrorSeverity = severityOfStatus f.status ↔ _ :=
      hsev' ▸ severity_eq_iff h.msgHand.lastErrorSeverity f
    simp only [RecordAgrees, hstatus.2 f ho, errorOfStatus_status, hid, htext, hseverity, true_and,
      ne_eq, Outcome.failed.injEq]
    constructor
    · rintro ⟨hunknown, hfull⟩
      exact ⟨fun hf => hsev (hfull hf), hunknown⟩
    · rintro ⟨hfull, hunknown⟩
      exact ⟨hunknown, fun hf => absurd hf hfull⟩

/-! ### Every history -/

/-- What holds of the record without an error, and of the record every failure leaves, holds of the
record after every history. -/
theorem lastError_invariant {P : LastError → Prop} {tr : List (Step HandlerState Handled)}
    (hr : Run (HandlerState.Next hal) (msgHandlerInit h₀) tr h) (hnone : P noLastError)
    (hfail : ∀ (e : Failure) (old : LastError), P old → P ⟨e.id, e.severity old.severity, e.text⟩) :
    P h.msgHand.lastError := by
  apply hr.invariant (I := fun h => P h.msgHand.lastError)
  · exact hnone
  · intro h l h' hold hn
    rw [hn.follows.1.lastError]
    cases outcome l.request with
    | forwarded => exact hold
    | fulfilled s =>
      cases s with
      | clearLastError => exact hnone
      | _ => exact hold
    | failed e => exact hfail e _ hold

/-- The text of the last error always fits its array. -/
theorem strlen_lastErrorStr_lt {tr : List (Step HandlerState Handled)}
    (hr : Run (HandlerState.Next hal) (msgHandlerInit h₀) tr h) :
    h.msgHand.lastErrorStr.strlen < maxErrorStrLen := by
  apply lastError_invariant (P := fun r => r.text.strlen < maxErrorStrLen) hr
  · show msghandErsNoErrors.strlen < maxErrorStrLen
    decide
  · intro e old _
    show e.text.strlen < maxErrorStrLen
    cases e <;> decide

/-- The handler never records `SEVERE_ERROR`. -/
theorem lastErrorSeverity_ne_severe {tr : List (Step HandlerState Handled)}
    (hr : Run (HandlerState.Next hal) (msgHandlerInit h₀) tr h) :
    h.msgHand.lastErrorSeverity ≠ severeError := by
  apply lastError_invariant (P := fun r => r.severity ≠ severeError) hr
  · show informError ≠ severeError
    decide
  · intro e old hold
    cases e with
    | remoteObjectRef | badMsgSubtype =>
      show warningError ≠ severeError
      decide
    -- These two leave the severity as it was.
    | unknownServer | serverStackFull => exact hold

theorem lastFailure_concat (tr : List (Step HandlerState Handled)) (x : Step HandlerState Handled) :
    lastFailure (tr ++ [x]) = noteFailure (lastFailure tr) x.label := by
  rw [lastFailure, List.foldl_append]
  rfl

/-- **When the record describes one error.**  In a history of the handler, the record agrees with
the last error after every message exactly when no message is for `TEST_MANAGER`, and messages of a
type without a case arrive only while a warning is recorded. -/
theorem record_agrees_iff {tr : List (Step HandlerState Handled)}
    (hr : Run (HandlerState.Next hal) (msgHandlerInit h₀) tr h) :
    (∀ tr₁ h₁, tr₁ <+: tr → Run (HandlerState.Next hal) (msgHandlerInit h₀) tr₁ h₁ →
      RecordAgrees h₁ (lastFailure tr₁)) ↔
    ∀ x ∈ tr, KeepsSeverity x.pre x.label.request := by
  refine hr.forall_prefix_iff (P := fun tr₁ h₁ => RecordAgrees h₁ (lastFailure tr₁)) ?_ ?_
  · exact (rfl : (msgHandlerInit h₀).msgHand.lastError = noLastError)
  · intro tr₁ x _ hr₁ hn hagree
    rw [lastFailure_concat]
    exact recordAgrees_step hn (lastErrorSeverity_ne_severe hr₁) hagree

/-- A request with an unknown subtype, and after it a message of an unknown type: both errors are
warnings. -/
theorem record_agrees_iff_warnings :
    ∃ (tr : List (Step HandlerState Handled)) (h : HandlerState),
      Run (HandlerState.Next .default) (msgHandlerInit .static) tr h ∧ tr.length = 2 ∧
      RecordAgrees h (lastFailure tr) := by
  let m₁ : MessageStruct := ⟨⟨1, 9, 0, 0, 0, 0, 0, 0⟩, .msgData 0⟩
  let m₂ : MessageStruct := ⟨⟨6, 1, 0, 0, 0, 0, 0, 0⟩, .msgData 0⟩
  have hr := (Run.nil.snoc (HandlerState.next_call .default .blank (msgHandlerInit .static) m₁
    fun _ _ => 0)).snoc (HandlerState.next_call .default .blank _ m₂ fun _ _ => 0)
  refine ⟨_, _, hr, rfl, (record_agrees_iff hr).mpr ?_ _ _ (List.prefix_refl _) hr⟩
  intro x hx
  rcases List.mem_pair.mp hx with rfl | rfl
  · exact ⟨by decide, by decide⟩
  · exact ⟨by decide, fun _ => rfl⟩

/-- A message for `TEST_MANAGER` is answered with `SEVERE_ERROR`, and `INFORM_ERROR` stays on
record. -/
theorem record_severity_left :
    ¬ ∀ (hal : Hal) (h₀ h : HandlerState) (tr : List (Step HandlerState Handled)),
      Run (HandlerState.Next hal) (msgHandlerInit h₀) tr h → RecordAgrees h (lastFailure tr) := by
  intro hall
  let m : MessageStruct := ⟨⟨5, 0, 0, 0, 0, 0, 0, 0⟩, .msgData 0⟩
  have hr := Run.nil.snoc (HandlerState.next_call .default .blank (msgHandlerInit .static) m
    fun _ _ => 0)
  have hagree := hall _ _ _ _ hr
  have hseverity : informError = severityOfStatus Failure.serverStackFull.status := hagree.2
  revert hseverity
  decide

end TestDomApp
