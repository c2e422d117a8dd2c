import TestDomApp.MsgHandler.Basic

/-!
# Outcomes of a request

What the message handler is for, apart from the bytes of its replies: a message is forwarded to
another service, or it is a request the handler fulfils, or it fails in one of four ways.  The
outcome depends on type and subtype alone, and determines what the message does to the state.
-/

namespace TestDomApp

/-- The ways in which the handler refuses a message. -/
inductive Failure
  | remoteObjectRef
  | badMsgSubtype
  | unknownServer
  | serverStackFull
  deriving DecidableEq, Repr

namespace Failure

/-- The status byte of the reply. -/
def status : Failure → UInt8
  | .remoteObjectRef | .badMsgSubtype => Status.unknownSubtype.code ||| warningError
  | .unknownServer => Status.unknownServer.code ||| warningError
  | .serverStackFull => Status.serverStackFull.code ||| severeError

/-- The error value left in `lastErrorID`. -/
def id : Failure → UInt8
  | .remoteObjectRef | .badMsgSubtype => commonBadMsgSubtype
  | .unknownServer => msghandUnknownServerID
  | .serverStackFull => msghandServerStackFullID

/-- The text left in `lastErrorStr`. -/
def text : Failure → CString
  | .remoteObjectRef | .badMsgSubtype => msghandErsBadMsgSubtype
  | .unknownServer => msghandUnknownServer
  | .serverStackFull => msghandServerStackFull

/-- The severity left in `lastErrorSeverity`, where it was `old`: only the failures of requests to
the handler itself set it. -/
def severity (old : UInt8) : Failure → UInt8
  | .remoteObjectRef | .badMsgSubtype => warningError
  | .unknownServer | .serverStackFull => old

end Failure

/-- What becomes of a message. -/
inductive Outcome
  | forwarded
  | fulfilled (s : MsghandSubtype)
  | failed (e : Failure)
  deriving DecidableEq, Repr

/-- The outcome of a message, by type and subtype. -/
def outcome (m : MessageStruct) : Outcome :=
  match MsgType.ofByte? (Message.getType m) with
  | some .domSlowControl | some .experimentControl => .forwarded
  | some .testManager => .failed .serverStackFull
  | some .messageHandler =>
    match MsghandSubtype.ofByte? (Message.getSubtype m) with
    | some .remoteObjectRef => .failed .remoteObjectRef
    | some s => .fulfilled s
    | none => .failed .badMsgSubtype
  | some .dataAccess | none => .failed .unknownServer

/-- A message that counts as received. -/
def isHandlerMessage (m : MessageStruct) : Bool :=
  MsgType.ofByte? (Message.getType m) = some .messageHandler

/-- A message that `msgHandler` answers itself. -/
def isOwn (m : MessageStruct) : Bool :=
  MsgType.ofByte? (Message.getType m) ≠ some .domSlowControl ∧
    MsgType.ofByte? (Message.getType m) ≠ some .experimentControl

/-! ### The part of the state that errors and statistics are about -/

/-- The last-error record. -/
structure LastError where
  id : UInt8
  severity : UInt8
  text : CString
  deriving DecidableEq, Repr

def CommonServiceInfo.lastError (info : CommonServiceInfo) : LastError :=
  ⟨info.lastErrorID, info.lastErrorSeverity, info.lastErrorStr⟩

/-- The record when there is no error. -/
def noLastError : LastError := ⟨commonNoErrors, informError, msghandErsNoErrors⟩

/-- What a message of this outcome leaves of the record. -/
def Outcome.lastError (old : LastError) : Outcome → LastError
  | .forwarded => old
  | .fulfilled .clearLastError => noLastError
  | .fulfilled _ => old
  | .failed e => ⟨e.id, e.severity old.severity, e.text⟩

/-- The message counts in `msgRefused`. -/
def Outcome.isRefused : Outcome → Bool
  | .failed .badMsgSubtype => true
  | _ => false

/-- The message counts in `msgProcessingErr`. -/
def Outcome.isProcessingErr : Outcome → Bool
  | .failed .badMsgSubtype => false
  | .failed _ => true
  | _ => false

end TestDomApp
