import TestDomApp.MsgHandler.Outcome

/-!
# Answers

What the answer to a fulfilled request consists of, apart from the buffer it is written to: the
bytes written from `data[0]` on, and the length announced.  Both follow from the subtype and the
state of the handler, with the request counted, except that an echo announces the length it was
asked with and writes nothing.

The queries every service answers are `CommonQuery`; `GET_SERVICE_SUMMARY` puts their reports
together.
-/

namespace TestDomApp

/-- The bytes an answer writes, and the length it announces. -/
structure Answer where
  bytes : List UInt8
  len : ℕ
  deriving DecidableEq, Repr

/-- The queries about the service that every service answers. -/
inductive CommonQuery
  | serviceState
  | lastErrorID
  | serviceVersionInfo
  | serviceStats
  | lastErrorStr
  deriving DecidableEq, Repr

namespace CommonQuery

/-- The subtype that asks the query. -/
def subtype : CommonQuery → MsghandSubtype
  | .serviceState => .getServiceState
  | .lastErrorID => .getLastErrorID
  | .serviceVersionInfo => .getServiceVersionInfo
  | .serviceStats => .getServiceStats
  | .lastErrorStr => .getLastErrorStr

/-- What a service reports. -/
def report (info : CommonServiceInfo) : CommonQuery → List UInt8
  | .serviceState => [info.state]
  | .lastErrorID => [info.lastErrorID, info.lastErrorSeverity]
  | .serviceVersionInfo => [info.majorVersion, info.minorVersion]
  | .serviceStats =>
    formatLong info.msgReceived ++ formatLong info.msgRefused ++ formatLong info.msgProcessingErr
  | .lastErrorStr => info.lastErrorStr.bytes

/-- The queries a summary answers, in its order. -/
def all : List CommonQuery :=
  [.serviceState, .lastErrorID, .serviceVersionInfo, .serviceStats, .lastErrorStr]

end CommonQuery

/-- The answer to a request of a subtype with `len` bytes of data, in the state `h` with the request
counted. -/
def answerOf (hal : Hal) (h : HandlerState) (len : ℕ) : MsghandSubtype → Answer
  | .getServiceState => ⟨CommonQuery.serviceState.report h.msgHand, getServiceStateLen⟩
  | .getLastErrorID => ⟨CommonQuery.lastErrorID.report h.msgHand, getLastErrorIDLen⟩
  | .getServiceVersionInfo =>
    ⟨CommonQuery.serviceVersionInfo.report h.msgHand, getServiceVersionInfoLen⟩
  | .getServiceStats => ⟨CommonQuery.serviceStats.report h.msgHand, getServiceStatsLen⟩
  | .getLastErrorStr => ⟨h.msgHand.lastErrorStr.strcpy, h.msgHand.lastErrorStr.strlen⟩
  | .getServiceSummary =>
    let fixed := CommonQuery.serviceState.report h.msgHand ++
      CommonQuery.lastErrorID.report h.msgHand ++
      CommonQuery.serviceVersionInfo.report h.msgHand ++ CommonQuery.serviceStats.report h.msgHand
    ⟨fixed ++ h.msgHand.lastErrorStr.strcpy, fixed.length + h.msgHand.lastErrorStr.strlen⟩
  | .msghandGetDomVer => ⟨[0, 1], msghandGetDomVersionInfoLen⟩
  | .msghandGetDomID => ⟨hal.boardID.strcpy, msghandGetDomIDLen⟩
  | .msghandGetDomName => ⟨hal.boardName.strcpy, hal.boardName.strlen⟩
  | .msghandGetAtwdID => ⟨formatLong 1234 ++ formatLong 1235, msghandGetAtwdIDLen⟩
  | .msghandGetPktStats =>
    ⟨formatLong h.pktStats.pktRecv ++ formatLong h.pktStats.pktSent ++
      formatLong h.pktStats.noStorage ++ formatLong h.pktStats.freeListCorrupt ++
      formatLong h.pktStats.pktBufOvr ++ formatLong h.pktStats.pktBadFmt ++
      formatLong h.pktStats.pktSpare, msghandGetPktStatsLen⟩
  | .msghandGetMsgStats =>
    ⟨formatLong h.msgStats.msgRecv ++ formatLong h.msgStats.msgSent ++
      formatLong h.msgStats.tooMuchData ++ formatLong h.msgStats.idMismatch ++
      formatLong h.msgStats.crcProblem, msghandGetMsgStatsLen⟩
  | .msghandGetDomPosition => ⟨[0, 2], msghandGetDomPositionLen⟩
  | .msghandEchoMsg => ⟨[], len⟩
  | .clearLastError | .remoteObjectRef | .msghandClrPktStats | .msghandClrMsgStats => ⟨[], 0⟩

/-- A request to the handler of the subtype `s`. -/
def Asks (m : MessageStruct) (s : MsghandSubtype) : Prop :=
  MsgType.ofByte? (Message.getType m) = some .messageHandler ∧
    MsghandSubtype.ofByte? (Message.getSubtype m) = some s

instance (m : MessageStruct) (s : MsghandSubtype) : Decidable (Asks m s) :=
  inferInstanceAs (Decidable (_ ∧ _))

/-- The subtypes that ask for something, or for nothing but an echo. -/
def MsghandSubtype.isQuery : MsghandSubtype → Bool
  | .clearLastError | .remoteObjectRef | .msghandClrPktStats | .msghandClrMsgStats => false
  | _ => true

end TestDomApp
