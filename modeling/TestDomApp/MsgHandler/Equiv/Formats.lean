import TestDomApp.DomappCommon.Equiv.FormatLong
import TestDomApp.MsgHandler.Equiv.Answer
import TestDomApp.MsgHandler.Equiv.LastError

/-!
# The formats of the reports

Each of the common queries is answered with the report of the service (`replyData_report`), and
`GET_SERVICE_SUMMARY` with all of them one after another (`summary_concat`).

`commonMessageAPIstatus.h` documents other formats for three of them: the severity before the error
value, the counters low byte first, and the error text with its terminator.  `Documented` is what
that file says, and `documented_iff` which replies agree with it.
-/

namespace TestDomApp

open Transition Region

variable {hal : Hal} {svc : Services} {h h₀ : HandlerState} {m : MessageStruct} {mem : Memory}

/-! ### Reports -/

/-- The data of the reply to a message. -/
def replyData (hal : Hal) (svc : Services) (h : HandlerState) (m : MessageStruct) (mem : Memory) :
    List UInt8 :=
  (content (msgHandler hal svc h m mem).2.1 (msgHandler hal svc h m mem).2.2).2

theorem length_content (m : MessageStruct) (mem : Memory) :
    (content m mem).2.length = Message.dataLen m :=
  length_load _ _ _

theorem length_replyData (hal : Hal) (svc : Services) (h : HandlerState) (m : MessageStruct)
    (mem : Memory) :
    (replyData hal svc h m mem).length = Message.dataLen (msgHandler hal svc h m mem).2.1 := by
  rw [replyData, length_content]

theorem CommonQuery.isQuery_subtype (q : CommonQuery) : q.subtype.isQuery = true := by
  cases q <;> rfl

theorem CommonQuery.subtype_ne (q : CommonQuery) : q.subtype ≠ .remoteObjectRef := by
  cases q <;> decide

theorem CommonQuery.length_report_lt (info : CommonServiceInfo) (q : CommonQuery)
    (hfits : info.lastErrorStr.strlen < maxErrorStrLen) :
    (q.report info).length < maxErrorStrLen := by
  cases q with
  | serviceState => exact (by decide : 1 < maxErrorStrLen)
  | lastErrorID => exact (by decide : 2 < maxErrorStrLen)
  | serviceVersionInfo => exact (by decide : 2 < maxErrorStrLen)
  | serviceStats => exact (by decide : 12 < maxErrorStrLen)
  | lastErrorStr => exact hfits

/-- **The reply to a common query** carries the report of the service, with the query counted. -/
theorem replyData_report {q : CommonQuery} (hm : Asks m q.subtype)
    (hfits : h.msgHand.lastErrorStr.strlen < maxErrorStrLen) :
    replyData hal svc h m mem =
      q.report (h.withReceived (h.msgHand.msgReceived + 1)).msgHand := by
  have hstate : (msgHandler hal svc h m mem).1 = h.withReceived (h.msgHand.msgReceived + 1) :=
    msgHandler_query hm q.isQuery_subtype
  apply content_fulfilled hm q.subtype_ne
  · rw [hstate]
    cases q with
    | lastErrorStr => exact List.prefix_append _ _
    | _ => exact List.prefix_rfl
  · rw [hstate]
    cases q <;> rfl
  · have hlt := q.length_report_lt (h.withReceived (h.msgHand.msgReceived + 1)).msgHand hfits
    exact hlt.le.trans (by decide)

theorem CommonQuery.length_flatMap_report (info : CommonServiceInfo) :
    (all.flatMap fun q => q.report info).length = 17 + info.lastErrorStr.strlen := by
  simp only [all, report, CString.strlen, List.flatMap_cons, List.flatMap_nil, List.length_append,
    List.length_cons, List.length_nil, length_formatLong]
  omega

/-- The reply to `GET_SERVICE_SUMMARY`. -/
theorem replyData_summary (hm : Asks m .getServiceSummary)
    (hfits : h.msgHand.lastErrorStr.strlen < maxErrorStrLen) :
    replyData hal svc h m mem =
      CommonQuery.all.flatMap
        fun q => q.report (h.withReceived (h.msgHand.msgReceived + 1)).msgHand := by
  have hstate : (msgHandler hal svc h m mem).1 = h.withReceived (h.msgHand.msgReceived + 1) :=
    msgHandler_query hm rfl
  have hlen := CommonQuery.length_flatMap_report
    (h.withReceived (h.msgHand.msgReceived + 1)).msgHand
  apply content_fulfilled hm (by decide)
  · rw [hstate]
    -- What is written is the reports and the terminator of the text.
    exact ⟨[0], by simp [CommonQuery.all, CommonQuery.report, answerOf, CString.strcpy]⟩
  · rw [hstate, hlen]
    rfl
  · have hmax : 17 + maxErrorStrLen ≤ maxdataValue := by decide
    have hfits' : (h.withReceived (h.msgHand.msgReceived + 1)).msgHand.lastErrorStr.strlen
      < maxErrorStrLen := hfits
    omega

/-- **The summary is the single reports one after another.**  In a state reached by any history, the
data of the reply to `GET_SERVICE_SUMMARY` are those of the replies that the common queries would
get instead, in the order state, last error, version, statistics and error text, and the length is
the sum of theirs. -/
theorem summary_concat {tr : List (Step HandlerState Handled)}
    (hr : Run (HandlerState.Next hal) (msgHandlerInit h₀) tr h) (svc : Services)
    (m : MessageStruct) (mem : Memory) (hm : Asks m .getServiceSummary)
    (svcs : CommonQuery → Services) (ms : CommonQuery → MessageStruct) (mems : CommonQuery → Memory)
    (hms : ∀ q, Asks (ms q) q.subtype) :
    replyData hal svc h m mem
      = CommonQuery.all.flatMap (fun q => replyData hal (svcs q) h (ms q) (mems q)) ∧
    Message.dataLen (msgHandler hal svc h m mem).2.1
      = (CommonQuery.all.map fun q =>
          Message.dataLen (msgHandler hal (svcs q) h (ms q) (mems q)).2.1).sum := by
  have hfits := strlen_lastErrorStr_lt hr
  have hdata : replyData hal svc h m mem
      = CommonQuery.all.flatMap (fun q => replyData hal (svcs q) h (ms q) (mems q)) := by
    rw [replyData_summary hm hfits]
    apply List.flatMap_congr
    intro q _
    rw [replyData_report (hms q) hfits]
  refine ⟨hdata, ?_⟩
  have hlen := congrArg List.length hdata
  rw [length_replyData, List.length_flatMap] at hlen
  rw [hlen]
  simp only [length_replyData]

/-- The summary after a request with an unknown subtype, with as much received as was asked for. -/
theorem summary_concat_refused :
    ∃ (tr : List (Step HandlerState Handled)) (h : HandlerState),
      Run (HandlerState.Next .default) (msgHandlerInit .static) tr h ∧
      h.msgHand.msgRefused = 1 ∧
      replyData .default .blank h ⟨⟨1, 8, 0, 0, 0, 0, 0, 0⟩, .msgData 0⟩ (fun _ _ => 0) =
        CommonQuery.all.flatMap fun q => replyData .default .blank h
          ⟨⟨1, q.subtype.code, 0, 0, 0, 0, 0, 0⟩, .msgData 0⟩ fun _ _ => 0 := by
  have hr := Run.nil.snoc (HandlerState.next_call .default .blank (msgHandlerInit .static)
    ⟨⟨1, 9, 0, 0, 0, 0, 0, 0⟩, .msgData 0⟩ fun _ _ => 0)
  refine ⟨_, _, hr, rfl, ?_⟩
  exact (summary_concat hr .blank ⟨⟨1, 8, 0, 0, 0, 0, 0, 0⟩, .msgData 0⟩ (fun _ _ => 0) (by decide)
    (fun _ => .blank) (fun q => ⟨⟨1, q.subtype.code, 0, 0, 0, 0, 0, 0⟩, .msgData 0⟩)
    (fun _ _ _ => 0) (fun q => by cases q <;> decide)).1

/-! ### The documented formats -/

/-- What `commonMessageAPIstatus.h` says that the data of the reply to a query are. -/
def Documented (info : CommonServiceInfo) (data : List UInt8) : CommonQuery → Prop
  | .serviceState => data = [info.state]
  | .lastErrorID => data = [info.lastErrorSeverity, info.lastErrorID]
  | .serviceVersionInfo => data = [info.majorVersion, info.minorVersion]
  | .serviceStats =>
    data.length = getServiceStatsLen ∧
    littleEndian (data.take 4) = info.msgReceived.toNat ∧
    littleEndian ((data.drop 4).take 4) = info.msgRefused.toNat ∧
    littleEndian (data.drop 8) = info.msgProcessingErr.toNat
  | .lastErrorStr => data = info.lastErrorStr.strcpy

/-- The queries whose reply is as documented, in the state before the query: state and version, and
the statistics while the bytes of every number reported are a palindrome. -/
def AsDocumented (h : HandlerState) : CommonQuery → Prop
  | .serviceState | .serviceVersionInfo => True
  | .lastErrorID | .lastErrorStr => False
  | .serviceStats =>
    PalindromicBytes (h.msgHand.msgReceived + 1) ∧ PalindromicBytes h.msgHand.msgRefused ∧
      PalindromicBytes h.msgHand.msgProcessingErr

/-- The error values and severities on record. -/
def LastError.IsCoded (r : LastError) : Prop :=
  r.id ∈ [commonNoErrors, commonBadMsgSubtype, msghandUnknownServerID, msghandServerStackFullID] ∧
    r.severity ∈ [informError, warningError]

/-- No error value is a severity. -/
theorem LastError.IsCoded.id_ne_severity {r : LastError} (hr : r.IsCoded) : r.id ≠ r.severity := by
  obtain ⟨hid, hsev⟩ := hr
  intro heq
  rw [← heq] at hsev
  simp only [List.mem_cons, List.not_mem_nil, or_false] at hid hsev
  rcases hid with h | h | h | h
  all_goals
    rw [h] at hsev
    revert hsev
    decide

theorem lastError_isCoded {tr : List (Step HandlerState Handled)}
    (hr : Run (HandlerState.Next hal) (msgHandlerInit h₀) tr h) : h.msgHand.lastError.IsCoded := by
  apply lastError_invariant hr
  · constructor
    · show commonNoErrors ∈ _
      decide
    · show informError ∈ _
      decide
  · intro e old hold
    constructor
    · show e.id ∈ _
      cases e <;> decide
    · cases e with
      | remoteObjectRef | badMsgSubtype =>
        show warningError ∈ _
        decide
      -- These two leave the severity as it was.
      | unknownServer | serverStackFull => exact hold.2

/-- **Which replies are as documented.**  In a state reached by any history, the reply to a common
query carries the fields of the handler in the documented format exactly when it asks for the state
or the version, or for statistics that read the same in either byte order. -/
theorem documented_iff {tr : List (Step HandlerState Handled)}
    (hr : Run (HandlerState.Next hal) (msgHandlerInit h₀) tr h) (svc : Services) (q : CommonQuery)
    (m : MessageStruct) (mem : Memory) (hm : Asks m q.subtype) :
    Documented (msgHandler hal svc h m mem).1.msgHand (replyData hal svc h m mem) q ↔
      AsDocumented h q := by
  rw [replyData_report hm (strlen_lastErrorStr_lt hr), msgHandler_query hm q.isQuery_subtype]
  cases q with
  | serviceState => exact iff_of_true rfl trivial
  | serviceVersionInfo => exact iff_of_true rfl trivial
  | lastErrorID =>
    refine iff_of_false ?_ id
    intro hdoc
    exact (lastError_isCoded hr).id_ne_severity (List.cons.inj hdoc).1
  | lastErrorStr =>
    refine iff_of_false ?_ id
    intro hdoc
    have hlen := congrArg List.length hdoc
    rw [CString.strcpy, List.length_append, List.length_singleton] at hlen
    exact Nat.ne_add_one _ hlen
  | serviceStats =>
    rw [AsDocumented, ← littleEndian_formatLong_iff, ← littleEndian_formatLong_iff,
      ← littleEndian_formatLong_iff]
    exact and_iff_right rfl

/-- The version after a message of an unknown type. -/
theorem documented_iff_version :
    ∃ (tr : List (Step HandlerState Handled)) (h : HandlerState),
      Run (HandlerState.Next .default) (msgHandlerInit .static) tr h ∧
      h.msgHand.msgProcessingErr = 1 ∧
      Documented (msgHandler .default .blank h ⟨⟨1, 4, 0, 0, 0, 0, 0, 0⟩, .msgData 0⟩
          fun _ _ => 0).1.msgHand
        (replyData .default .blank h ⟨⟨1, 4, 0, 0, 0, 0, 0, 0⟩, .msgData 0⟩ fun _ _ => 0)
        .serviceVersionInfo := by
  have hr := Run.nil.snoc (HandlerState.next_call .default .blank (msgHandlerInit .static)
    ⟨⟨6, 1, 0, 0, 0, 0, 0, 0⟩, .msgData 0⟩ fun _ _ => 0)
  refine ⟨_, _, hr, rfl, ?_⟩
  exact (documented_iff hr .blank .serviceVersionInfo ⟨⟨1, 4, 0, 0, 0, 0, 0, 0⟩, .msgData 0⟩
    (fun _ _ => 0) (by decide)).mpr trivial

/-- The first `GET_LAST_ERROR_ID` request is answered with the error value before the severity. -/
theorem documented_lastErrorID_swapped :
    ¬ ∀ (hal : Hal) (h₀ h : HandlerState) (tr : List (Step HandlerState Handled)) (svc : Services)
      (q : CommonQuery) (m : MessageStruct) (mem : Memory),
      Run (HandlerState.Next hal) (msgHandlerInit h₀) tr h → Asks m q.subtype →
      Documented (msgHandler hal svc h m mem).1.msgHand (replyData hal svc h m mem) q := by
  intro hall
  have hdoc := hall .default .static (msgHandlerInit .static) [] .blank .lastErrorID
    ⟨⟨1, 2, 0, 0, 0, 0, 0, 0⟩, .msgData 0⟩ (fun _ _ => 0) .nil (by decide)
  have hswapped : [commonNoErrors, informError] = [informError, commonNoErrors] := hdoc
  revert hswapped
  decide

end TestDomApp
