import Mathlib.Tactic.Common

/-!
# The message API

Types, subtypes and status values of the DAQ/DOM messages (`public/domapp_common/messageAPIstatus.h`,
`commonMessageAPIstatus.h` and `public/msgHandler/MSGHANDLERmessageAPIstatus.h`).  A status byte is
a status value combined with a severity mask.
-/

namespace TestDomApp

/-- `enum Status` -/
inductive Status
  | success
  | unknownServer
  | serverStackFull
  | unknownSubtype
  | serverProtocolError
  | dataNotFound
  | objectNotFound
  | serviceSpecificError
  deriving DecidableEq, Repr

def Status.code : Status → UInt8
  | .success => 1
  | .unknownServer => 2
  | .serverStackFull => 3
  | .unknownSubtype => 4
  | .serverProtocolError => 5
  | .dataNotFound => 6
  | .objectNotFound => 7
  | .serviceSpecificError => 8

/-! ### Error severity masks -/

def fatalError : UInt8 := 0x60

def severeError : UInt8 := 0x40

def warningError : UInt8 := 0x20

def informError : UInt8 := 0x00

/-- `enum Type` -/
inductive MsgType
  | messageHandler
  | domSlowControl
  | dataAccess
  | experimentControl
  | testManager
  deriving DecidableEq, Repr

/-- The type a header byte stands for. -/
def MsgType.ofByte? : UInt8 → Option MsgType
  | 1 => some .messageHandler
  | 2 => some .domSlowControl
  | 3 => some .dataAccess
  | 4 => some .experimentControl
  | 5 => some .testManager
  | _ => none

def MsgType.code : MsgType → UInt8
  | .messageHandler => 1
  | .domSlowControl => 2
  | .dataAccess => 3
  | .experimentControl => 4
  | .testManager => 5

@[simp] theorem MsgType.ofByte?_code (t : MsgType) : ofByte? t.code = some t := by
  cases t <;> rfl

/-- The subtypes that have a case in `msgHandler`. -/
inductive MsghandSubtype
  | getServiceState
  | getLastErrorID
  | getLastErrorStr
  | getServiceVersionInfo
  | clearLastError
  | getServiceStats
  | remoteObjectRef
  | getServiceSummary
  | msghandGetDomID
  | msghandGetDomName
  | msghandGetDomVer
  | msghandGetPktStats
  | msghandGetMsgStats
  | msghandClrPktStats
  | msghandClrMsgStats
  | msghandGetAtwdID
  | msghandEchoMsg
  | msghandGetDomPosition
  deriving DecidableEq, Repr

/-- The case a header byte selects. -/
def MsghandSubtype.ofByte? : UInt8 → Option MsghandSubtype
  | 1 => some .getServiceState
  | 2 => some .getLastErrorID
  | 3 => some .getLastErrorStr
  | 4 => some .getServiceVersionInfo
  | 5 => some .clearLastError
  | 6 => some .getServiceStats
  | 7 => some .remoteObjectRef
  | 8 => some .getServiceSummary
  | 10 => some .msghandGetDomID
  | 11 => some .msghandGetDomName
  | 12 => some .msghandGetDomVer
  | 13 => some .msghandGetPktStats
  | 14 => some .msghandGetMsgStats
  | 15 => some .msghandClrPktStats
  | 16 => some .msghandClrMsgStats
  | 17 => some .msghandGetAtwdID
  | 18 => some .msghandEchoMsg
  | 19 => some .msghandGetDomPosition
  | _ => none

def MsghandSubtype.code : MsghandSubtype → UInt8
  | .getServiceState => 1
  | .getLastErrorID => 2
  | .getLastErrorStr => 3
  | .getServiceVersionInfo => 4
  | .clearLastError => 5
  | .getServiceStats => 6
  | .remoteObjectRef => 7
  | .getServiceSummary => 8
  | .msghandGetDomID => 10
  | .msghandGetDomName => 11
  | .msghandGetDomVer => 12
  | .msghandGetPktStats => 13
  | .msghandGetMsgStats => 14
  | .msghandClrPktStats => 15
  | .msghandClrMsgStats => 16
  | .msghandGetAtwdID => 17
  | .msghandEchoMsg => 18
  | .msghandGetDomPosition => 19

@[simp] theorem MsghandSubtype.ofByte?_code (s : MsghandSubtype) : ofByte? s.code = some s := by
  cases s <;> rfl

/-! ### Lengths of the replies -/

def getServiceStateLen : ℕ := 1

def getLastErrorIDLen : ℕ := 2

def getServiceVersionInfoLen : ℕ := 2

def getServiceStatsLen : ℕ := 12

def msghandGetDomIDLen : ℕ := 12

def msghandGetDomVersionInfoLen : ℕ := 2

def msghandGetPktStatsLen : ℕ := 7 * 4

def msghandGetMsgStatsLen : ℕ := 5 * 4

def msghandGetAtwdIDLen : ℕ := 8

def msghandGetDomPositionLen : ℕ := 2

/-! ### Service states and error values -/

def serviceOnline : UInt8 := 1

def commonNoErrors : UInt8 := 1

def commonBadMsgSubtype : UInt8 := 2

def msghandUnknownServerID : UInt8 := 4

def msghandServerStackFullID : UInt8 := 5

end TestDomApp
