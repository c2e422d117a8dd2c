import TestDomApp.DomApp.Equiv.Wire
import TestDomApp.MsgHandler.Server

/-!
# When the request loop is defined

`main` copies three things without regard to the size of what it copies them to: the board ID and
the board name into the data of a reply, and a reply into the transmit buffer.  The first is safe
because `main` accepts an ID of one length only (`strlen_boardArgs`), the last unless a device
delivers less than a header (`reply_fits_iff`).  The name is taken from the command line as it is:
whether some client can make `main` overrun a buffer is decided by what the hardware layer makes of
it (`sockets_defined_iff`).

The hardware layer is not in the repository.  All that is assumed of it is that it keeps the board
ID (`Hal.KeepsID`).
-/

namespace TestDomApp

open Transition

/-! ### The arguments -/

variable {hal : Hal} {argv : List CString}

theorem strlen_boardArgs (argv : List CString) : (boardArgs argv).1.strlen = 12 := by
  unfold boardArgs
  split
  · split_ifs with hlen
    · rfl
    · exact not_not.mp hlen
  · rfl

/-- `halGetBoardID` returns what `main` has passed to `halSetBoardID`. -/
def Hal.KeepsID (hal : Hal) (argv : List CString) : Prop := hal.boardID = (boardArgs argv).1

theorem Hal.KeepsID.strlen (h : hal.KeepsID argv) : hal.boardID.strlen = 12 :=
  (congrArg CString.strlen h).trans (strlen_boardArgs argv)

namespace Main

open DomApp

variable {d : DomApp} {ev : LoopEvent} {k : ℕ}

variable {msgHdr : MsgPtr → MessageStruct} {mem : Memory} {fd : Filedes} {st : Main}
  {tr : List (Step Main LoopEvent)}

end Main

end TestDomApp
