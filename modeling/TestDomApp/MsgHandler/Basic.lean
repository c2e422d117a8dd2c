import TestDomApp.DomappCommon.Services
import TestDomApp.Message.Basic

/-!
# The message handler

`private/msgHandler/msgHandler.c`.  `msgHandler` turns a request into its reply in place.  Messages
of type `DOM_SLOW_CONTROL` and `EXPERIMENT_CONTROL` are handed to services that are not part of this
program: what a call of one of them does to the message is given with the call (`Services`), and
the message keeps its data pointer.  Board ID and name come from the hardware layer (`Hal`).
-/

namespace TestDomApp

/-- What `halGetBoardID` and `halGetBoardName` return. -/
structure Hal where
  boardID : CString
  boardName : CString

/-- The board ID and name `main` sets when it is started without them. -/
def Hal.default : Hal := ⟨.ofString "000000000000", .ofString "none"⟩

/-- What `domSControl` and `expControl` make of the header of a message and of memory. -/
structure Services where
  domSControl : MessageStruct → Memory → Head × Memory
  expControl : MessageStruct → Memory → Head × Memory

/-- Services that answer every message with an empty one. -/
def Services.blank : Services := ⟨fun _ mem => (default, mem), fun _ mem => (default, mem)⟩

/-- The packet driver counters. -/
structure PktStats where
  pktRecv : UInt32
  pktSent : UInt32
  noStorage : UInt32
  freeListCorrupt : UInt32
  pktBufOvr : UInt32
  pktBadFmt : UInt32
  pktSpare : UInt32
  deriving DecidableEq, Repr

/-- The message counters of the packet driver. -/
structure MsgStats where
  msgRecv : UInt32
  msgSent : UInt32
  tooMuchData : UInt32
  idMismatch : UInt32
  crcProblem : UInt32
  deriving DecidableEq, Repr

/-- The static variables `msgHandler` uses. -/
structure HandlerState where
  msgHand : CommonServiceInfo
  expCntStackOvfl : UInt32
  pktStats : PktStats
  msgStats : MsgStats
  deriving DecidableEq, Repr

/-- The static variables before the program has touched them. -/
def HandlerState.static : HandlerState :=
  ⟨⟨0, 0, 0, 0, 0, .ofString "", 0, 0, 0⟩, 0, ⟨0, 0, 0, 0, 0, 0, 0⟩, ⟨0, 0, 0, 0, 0⟩⟩

/-! ### Version and texts -/

def msghandlerMajorVersion : UInt8 := 3

def msghandlerMinorVersion : UInt8 := 2

def msghandErsNoErrors : CString := .ofString "msgHnd: No errors."

def msghandErsBadMsgSubtype : CString := .ofString "msgHnd: Bad msg subtype."

def msghandUnknownServer : CString := .ofString "msgHnd: Unknown server."

def msghandServerStackFull : CString := .ofString "msgHnd: Server stack full."

/-! ### The handler -/

/-- `msgHandlerInit` -/
def msgHandlerInit (h : HandlerState) : HandlerState :=
  { h with
    msgHand := { h.msgHand with
      state := serviceOnline
      lastErrorID := commonNoErrors
      lastErrorSeverity := informError
      majorVersion := msghandlerMajorVersion
      minorVersion := msghandlerMinorVersion
      lastErrorStr := msghandErsNoErrors
      msgReceived := 0
      msgRefused := 0
      msgProcessingErr := 0 } }

/-- How a request is answered: `bs` written from `data[0]` on, the length set to `len`, the status
to `SUCCESS`. -/
def answer (m : MessageStruct) (mem : Memory) (bs : List UInt8) (len : ℕ) :
    MessageStruct × Memory :=
  (Message.setStatus (Message.setDataLen m len) Status.success.code,
    mem.store (Message.getData m) 0 bs)

theorem dataLen_answer (m : MessageStruct) (mem : Memory) (bs : List UInt8) (len : ℕ) :
    Message.dataLen (answer m mem bs len).1 = min len maxdataValue := by
  rw [answer, Message.dataLen_setStatus, Message.dataLen_setDataLen _ (by omega), Int.toNat_natCast]

/-- The data of a reply. -/
theorem data_answer (m : MessageStruct) (mem : Memory) (bs : List UInt8) (len : ℕ) :
    (answer m mem bs len).2 (Message.getData (answer m mem bs len).1) =
      Region.store (mem (Message.getData m)) 0 bs :=
  mem.store_same _ _ _

/-- `case MESSAGE_HANDLER`, by subtype. -/
def messageHandlerCase (hal : Hal) (h : HandlerState) (m : MessageStruct) (mem : Memory) :
    HandlerState × MessageStruct × Memory :=
  let h := { h with msgHand := { h.msgHand with msgReceived := h.msgHand.msgReceived + 1 } }
  let info := h.msgHand
  match MsghandSubtype.ofByte? (Message.getSubtype m) with
  | some .getServiceState => (h, answer m mem [info.state] getServiceStateLen)
  | some .getLastErrorID =>
    (h, answer m mem [info.lastErrorID, info.lastErrorSeverity] getLastErrorIDLen)
  | some .getServiceVersionInfo =>
    (h, answer m mem [info.majorVersion, info.minorVersion] getServiceVersionInfoLen)
  | some .getServiceStats =>
    (h, answer m mem
      (formatLong info.msgReceived ++ formatLong info.msgRefused ++
        formatLong info.msgProcessingErr) getServiceStatsLen)
  | some .getLastErrorStr => (h, answer m mem info.lastErrorStr.strcpy info.lastErrorStr.strlen)
  | some .clearLastError =>
    ({ h with
        msgHand := { info with
          lastErrorID := commonNoErrors
          lastErrorSeverity := informError
          lastErrorStr := msghandErsNoErrors } },
      answer m mem [] 0)
  | some .remoteObjectRef =>
    ({ h with
        msgHand := { info with
          msgProcessingErr := info.msgProcessingErr + 1
          lastErrorStr := msghandErsBadMsgSubtype
          lastErrorID := commonBadMsgSubtype
          lastErrorSeverity := warningError } },
      Message.setStatus (Message.setDataLen m 0) (Status.unknownSubtype.code ||| warningError), mem)
  | some .getServiceSummary =>
    let fixed := [info.state, info.lastErrorID, info.lastErrorSeverity, info.majorVersion,
        info.minorVersion] ++ formatLong info.msgReceived ++ formatLong info.msgRefused ++
      formatLong info.msgProcessingErr
    (h, answer m mem (fixed ++ info.lastErrorStr.strcpy)
      (fixed.length + info.lastErrorStr.strlen))
  | some .msghandGetDomVer => (h, answer m mem [0, 1] msghandGetDomVersionInfoLen)
  | some .msghandGetDomID => (h, answer m mem hal.boardID.strcpy msghandGetDomIDLen)
  | some .msghandGetDomName => (h, answer m mem hal.boardName.strcpy hal.boardName.strlen)
  | some .msghandGetAtwdID =>
    (h, answer m mem (formatLong 1234 ++ formatLong 1235) msghandGetAtwdIDLen)
  | some .msghandGetPktStats =>
    let p := h.pktStats
    (h, answer m mem
      (formatLong p.pktRecv ++ formatLong p.pktSent ++ formatLong p.noStorage ++
        formatLong p.freeListCorrupt ++ formatLong p.pktBufOvr ++ formatLong p.pktBadFmt ++
        formatLong p.pktSpare) msghandGetPktStatsLen)
  | some .msghandGetMsgStats =>
    let s := h.msgStats
    (h, answer m mem
      (formatLong s.msgRecv ++ formatLong s.msgSent ++ formatLong s.tooMuchData ++
        formatLong s.idMismatch ++ formatLong s.crcProblem) msghandGetMsgStatsLen)
  | some .msghandClrPktStats => ({ h with pktStats := ⟨0, 0, 0, 0, 0, 0, 0⟩ }, answer m mem [] 0)
  | some .msghandClrMsgStats => ({ h with msgStats := ⟨0, 0, 0, 0, 0⟩ }, answer m mem [] 0)
  | some .msghandEchoMsg => (h, answer m mem [] (Message.dataLen m))
  | some .msghandGetDomPosition => (h, answer m mem [0, 2] msghandGetDomPositionLen)
  | none =>
    -- The length of the request stays.
    ({ h with
        msgHand := { info with
          msgRefused := info.msgRefused + 1
          lastErrorStr := msghandErsBadMsgSubtype
          lastErrorID := commonBadMsgSubtype
          lastErrorSeverity := warningError } },
      Message.setStatus m (Status.unknownSubtype.code ||| warningError), mem)

/-- The outer `switch` of `msgHandler`, by type, with the flag `msgReject` it leaves. -/
def dispatch (hal : Hal) (svc : Services) (h : HandlerState) (m : MessageStruct) (mem : Memory) :
    Bool × HandlerState × MessageStruct × Memory :=
  match MsgType.ofByte? (Message.getType m) with
  | some .domSlowControl =>
    let (head, mem) := svc.domSControl m mem
    (false, h, { m with head := head }, mem)
  | some .experimentControl =>
    let (head, mem) := svc.expControl m mem
    (false, h, { m with head := head }, mem)
  | some .testManager =>
    -- `lastErrorSeverity` is not set.
    (true,
      { h with
        expCntStackOvfl := h.expCntStackOvfl + 1
        msgHand := { h.msgHand with
          msgProcessingErr := h.msgHand.msgProcessingErr + 1
          lastErrorStr := msghandServerStackFull
          lastErrorID := msghandServerStackFullID } },
      Message.setStatus m (Status.serverStackFull.code ||| severeError), mem)
  | some .messageHandler => (false, messageHandlerCase hal h m mem)
  | some .dataAccess | none =>
    -- `DATA_ACCESS` is commented out; `lastErrorSeverity` is not set.
    (true,
      { h with
        msgHand := { h.msgHand with
          msgProcessingErr := h.msgHand.msgProcessingErr + 1
          lastErrorStr := msghandUnknownServer
          lastErrorID := msghandUnknownServerID } },
      Message.setStatus (Message.setDataLen m 0) (Status.unknownServer.code ||| warningError), mem)

/-- `msgHandler(M)`: the state of the handler, the message and memory after it. -/
def msgHandler (hal : Hal) (svc : Services) (h : HandlerState) (m : MessageStruct) (mem : Memory) :
    HandlerState × MessageStruct × Memory :=
  let (msgReject, h, m, mem) := dispatch hal svc h m mem
  if msgReject then (h, Message.setDataLen m 0, mem) else (h, m, mem)

/-- The strings of the hardware layer are copied to the data buffer without regard to its size:
whether they fit when the message asks for one. -/
def strcpyFits (hal : Hal) (m : MessageStruct) : Bool :=
  match MsgType.ofByte? (Message.getType m), MsghandSubtype.ofByte? (Message.getSubtype m) with
  | some .messageHandler, some .msghandGetDomID => hal.boardID.strlen < maxdataValue
  | some .messageHandler, some .msghandGetDomName => hal.boardName.strlen < maxdataValue
  | _, _ => true

/-! ### Requests one after another -/

/-- One call of `msgHandler`. -/
structure Handled where
  svc : Services
  request : MessageStruct
  mem : Memory
  /-- The message after the call. -/
  reply : MessageStruct
  mem' : Memory

/-- The call for `request`. -/
def Handled.call (hal : Hal) (svc : Services) (h : HandlerState) (request : MessageStruct)
    (mem : Memory) : Handled :=
  let (_, reply, mem') := msgHandler hal svc h request mem
  ⟨svc, request, mem, reply, mem'⟩

/-- `msgHandler` as a relation between the states of the handler. -/
def HandlerState.Next (hal : Hal) (h : HandlerState) (l : Handled) (h' : HandlerState) : Prop :=
  msgHandler hal l.svc h l.request l.mem = (h', l.reply, l.mem')

theorem HandlerState.next_call (hal : Hal) (svc : Services) (h : HandlerState)
    (request : MessageStruct) (mem : Memory) :
    h.Next hal (Handled.call hal svc h request mem) (msgHandler hal svc h request mem).1 := rfl

end TestDomApp
