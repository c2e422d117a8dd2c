import TestDomApp.Message.Buffers
import TestDomApp.Message.SendRecv
import TestDomApp.MsgHandler.Basic

/-!
# The request loop

`private/domapp/domapp.c`.  After the initialisation `main` repeats: `recvMsg` takes a buffer from
the pool and receives a request into it, `msgHandler` turns the request into the reply, and
`sendMsg` sends it and gives the buffer back.  `main` returns when a receive or a send fails.

The state is the static variables, the input descriptor with what it will deliver, and the bytes
that have gone out.  What else the environment decides in an iteration is a `LoopEvent`.  A run of
the program is a run of `Main.Next`, from the `entry` of `main` or from the head of its loop, where
the log is open.
-/

namespace TestDomApp

/-- `ERROR` -/
def error : ℤ := -1

/-- `COM_ERROR` -/
def comError : ℤ := -2

/-- `COM_EOF` -/
def comEof : ℤ := -3

/-- What `main` passes to `halSetBoardID` and `halSetBoardName`, by its arguments: an ID of any
other length than 12 is replaced. -/
def boardArgs : List CString → CString × CString
  | _ :: id :: name :: _ =>
    (if id.strlen ≠ 12 then .ofString "123456123456" else id, name)
  | _ => (Hal.default.boardID, Hal.default.boardName)

/-- The program between two calls. -/
structure DomApp where
  pool : MessageBuffers
  mem : Memory
  /-- The static array of `gmsr_recvMessageFromFile`. -/
  tmpbuf : ByteRegion
  messageBuffer : Option MsgPtr
  handler : HandlerState
  domInputFile : Filedes
  /-- The bytes accepted by `write` on the output descriptor. -/
  wire : List UInt8

/-- What the environment does in one iteration of the loop. -/
structure LoopEvent where
  /-- `fstat` on the input descriptor fails. -/
  fstatFails : Bool
  svc : Services
  tx : WriteResult

namespace DomApp

/-- The program at the head of the loop for the first time. -/
def start (msgHdr : MsgPtr → MessageStruct) (mem : Memory) (fd : Filedes) : DomApp where
  pool := (MessageBuffers.static msgHdr).init
  mem := mem
  tmpbuf := fun _ => 0
  messageBuffer := none
  handler := msgHandlerInit .static
  domInputFile := fd
  wire := []

/-- The program started in zeroed memory. -/
def boot (fd : Filedes) : DomApp := start (fun _ => ⟨default, .null⟩) (fun _ _ => 0) fd

/-- The message `*m` is overwritten. -/
def setMsg (d : DomApp) (m : MsgPtr) (msg : MessageStruct) : DomApp :=
  { d with pool := { d.pool with msgHdr := Function.update d.pool.msgHdr m msg } }

/-- `recvMsg`: the value returned, and the program after it. -/
def recvMsg (fstatFails : Bool) (d : DomApp) : ℤ × DomApp :=
  let (messageBuffer, pool) := d.pool.allocate
  let d := { d with pool := pool, messageBuffer := messageBuffer }
  match messageBuffer with
  | none => (error, d)
  | some m =>
    let dataBuffer := Message.getData (d.pool.msgHdr m)
    let fd := if fstatFails then .other else d.domInputFile
    let (r, fd) := gmsrRecvMessageGeneric fd d.tmpbuf (d.pool.msgHdr m) dataBuffer d.mem
    let d := { d with tmpbuf := r.tmpbuf, mem := r.mem, domInputFile := fd }
    let d := d.setMsg m r.recvBuffer
    if r.ret ≤ 0 then
      -- The message is patched up and released.
      let d := d.setMsg m (Message.setData (d.pool.msgHdr m) dataBuffer maxdataValue)
      let d := { d with pool := d.pool.release (some m) }
      (if r.ret = 0 then comEof else r.ret, d)
    else (1, d)

/-- `sendMsg`: the value returned, and the program after it; `none` where
`gmsr_sendMessageGeneric` has no defined behaviour.  The number of bytes sent is not looked at. -/
def sendMsg (tx : WriteResult) (d : DomApp) : Option (ℤ × DomApp) :=
  match gmsrSendMessageGeneric tx (d.messageBuffer.map d.pool.msgHdr) d.mem with
  | none => none
  | some (sts, out) =>
    let d := { d with pool := d.pool.release d.messageBuffer, wire := d.wire ++ out }
    some (if sts < 0 then sts else 0, d)

end DomApp

/-- Where `main` is. -/
inductive Main
  | loopHead (d : DomApp)
  /-- `main` has returned `ret`. -/
  | exited (ret : ℤ) (d : DomApp)
  /-- The program did something that has no defined behaviour. -/
  | undefined

namespace Main

/-- An iteration up to the call of `sendMsg`: the program there, or where `main` got to instead. -/
def beforeSend (hal : Hal) (ev : LoopEvent) (d : DomApp) : Except Main DomApp :=
  let (status, d) := d.recvMsg ev.fstatFails
  if status ≤ 0 then .error (.exited comError d)
  else
    match d.messageBuffer with
    | none => .error .undefined
    | some m =>
      if strcpyFits hal (d.pool.msgHdr m) then
        let (handler, msg, mem) := msgHandler hal ev.svc d.handler (d.pool.msgHdr m) d.mem
        .ok ({ d with handler := handler, mem := mem }.setMsg m msg)
      else .error .undefined

/-- One iteration of the loop. -/
def iterate (hal : Hal) (ev : LoopEvent) (d : DomApp) : Main :=
  match beforeSend hal ev d with
  | .error s => s
  | .ok d =>
    match d.sendMsg ev.tx with
    | none => .undefined
    | some (status, d) => if status < 0 then .exited comError d else .loopHead d

/-- The steps of `main` are the iterations of its loop. -/
def Next (hal : Hal) (s : Main) (ev : LoopEvent) (s' : Main) : Prop :=
  ∃ d, s = .loopHead d ∧ s' = iterate hal ev d

theorem exists_next (hal : Hal) (ev : LoopEvent) (d : DomApp) :
    ∃ s, Next hal (.loopHead d) ev s := ⟨iterate hal ev d, d, rfl, rfl⟩

end Main

end TestDomApp
