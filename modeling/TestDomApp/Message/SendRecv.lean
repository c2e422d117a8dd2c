import TestDomApp.Message.Basic

/-!
# Sending and receiving messages

`private/message/genericMsgSendRecv.c`.  A message travels either over a socket, where `recv` may
deliver a stream of bytes in pieces of any size, or through a character device, where one `read`
delivers one frame.

What the operating system does is data: a `Sock` is the bytes still to come, how they end, and the
size of the piece each call of `recv` hands over; a `DeviceRead` is the result of a `read`, a
`WriteResult` that of a `write`.
-/

namespace TestDomApp

/-- `GMSR_EOF` -/
def gmsrEof : ℤ := -1

/-- `GMSR_FDERR` -/
def gmsrFderr : ℤ := -2

/-- `GMSR_SHORTRD` -/
def gmsrShortrd : ℤ := -3

/-- `GMSR_BADDATA` -/
def gmsrBaddata : ℤ := -4

/-! ### The operating system -/

/-- What `recv` reports once the stream is used up. -/
inductive Ending
  | eof
  /-- `recv` fails and returns `-(e + 1)`. -/
  | error (e : ℕ)
  deriving DecidableEq, Repr

/-- The value returned by `recv` at the end of the stream. -/
def Ending.ret : Ending → ℤ
  | .eof => 0
  | .error e => -(e + 1)

/-- The receiving end of a socket. -/
structure Sock where
  /-- The bytes the peer sends before the stream ends. -/
  stream : List UInt8
  ending : Ending
  /-- The `k`-th call of `recv` hands over at most `sched k + 1` bytes. -/
  sched : ℕ → ℕ

/-- `recv(fd, buf, len, 0)`: its result, the bytes it stores at `buf`, the socket after it. -/
def Sock.recv (s : Sock) (len : ℕ) : ℤ × List UInt8 × Sock :=
  if s.stream = [] then (s.ending.ret, [], s)
  else
    let bs := s.stream.take (min (s.sched 0 + 1) len)
    (bs.length, bs,
      { s with stream := s.stream.drop bs.length, sched := fun k => s.sched (k + 1) })

/-- The result of `read(fd, tmpbuf, MAXDATA_VALUE + MSG_HDR_LEN)`. -/
inductive DeviceRead
  | frame (bs : List UInt8) (hpos : bs ≠ []) (hle : bs.length ≤ maxdataValue + msgHdrLen)
  /-- End of file (`0`) or failure: `read` returns `-e`. -/
  | fail (e : ℕ)

/-- The result of a `write`. -/
inductive WriteResult
  /-- Every byte is accepted. -/
  | all
  /-- The last `missing + 1` bytes are not accepted, or none is if there are fewer. -/
  | short (missing : ℕ)
  /-- `-1` -/
  | fail
  deriving DecidableEq, Repr

/-- `write(fd, bs, length)`: its result and the bytes that go out. -/
def write (w : WriteResult) (bs : List UInt8) : ℤ × List UInt8 :=
  match w with
  | .all => (bs.length, bs)
  | .short missing =>
    let out := bs.take (bs.length - (missing + 1))
    (out.length, out)
  | .fail => (-1, [])

/-- An open file descriptor: what `fstat` finds it to be, with what it will deliver. -/
inductive Filedes
  /-- A character device; the `k`-th `read` has the result `reads k`. -/
  | chr (reads : ℕ → DeviceRead)
  | sock (s : Sock)
  /-- Something else, or `fstat` fails. -/
  | other

/-! ### Receiving -/

/-- The receiving loop, run once for the header and once for the data: `targetLength` bytes are
still to come and go to offset `off` of `buf`.  It ends with all bytes received, counted in
`recvBytes`, or with the value to return early. -/
def recvLoop (targetLength : ℕ) (buf : ByteRegion) (off recvBytes : ℕ) (s : Sock) :
    Except ℤ ℕ × ByteRegion × Sock :=
  if _h₀ : targetLength = 0 then (.ok recvBytes, buf, s)
  else
    match s.recv targetLength with
    | (sts, bs, s) =>
      if _h : sts ≤ 0 then (.error (if sts = 0 then gmsrEof else sts), buf, s)
      else
        recvLoop (targetLength - sts.toNat) (Region.store buf off bs) (off + sts.toNat)
          (recvBytes + sts.toNat) s
  termination_by targetLength
  decreasing_by omega

/-- `gmsr_recvMessageFromSocket`: the value returned, and message, memory and socket after it. -/
def gmsrRecvMessageFromSocket (s : Sock) (recvBuffer : MessageStruct) (recvData : BytePtr)
    (mem : Memory) : ℤ × MessageStruct × Memory × Sock :=
  match recvLoop msgHdrLen recvBuffer.head.toRegion 0 0 s with
  | (.error e, hdr, s) => (e, { recvBuffer with head := Head.ofRegion hdr }, mem, s)
  | (.ok _, hdr, s) =>
    let recvBuffer := { recvBuffer with head := Head.ofRegion hdr }
    if Message.dataLen recvBuffer > maxdataValue then (gmsrBaddata, recvBuffer, mem, s)
    else
      match recvLoop (Message.dataLen recvBuffer) (mem recvData) 0 0 s with
      | (.error e, buf, s) => (e, recvBuffer, Function.update mem recvData buf, s)
      | (.ok recvBytes, buf, s) =>
        let recvBuffer := Message.setData recvBuffer recvData recvBytes
        (Message.dataLen recvBuffer, recvBuffer, Function.update mem recvData buf, s)

/-- `gmsr_recvMessageFromFile`, with the content of its static `tmpbuf`: the value returned, and
`tmpbuf`, message and memory after it.  (`verbose` only prints.) -/
def gmsrRecvMessageFromFile (r : DeviceRead) (tmpbuf : ByteRegion) (recvBuffer : MessageStruct)
    (recvData : BytePtr) (mem : Memory) : ℤ × ByteRegion × MessageStruct × Memory :=
  match r with
  | .fail _ => (gmsrShortrd, tmpbuf, recvBuffer, mem)
  | .frame bs _ _ =>
    let nread : ℤ := bs.length
    let tmpbuf := Region.store tmpbuf 0 bs
    let recvBuffer := { recvBuffer with head := Head.ofRegion tmpbuf }
    let toCopy := Message.dataLen recvBuffer
    let toCopy := if toCopy > maxdataValue then maxdataValue else toCopy
    let mem := mem.store recvData 0 (Region.load tmpbuf msgHdrLen toCopy)
    let recvBuffer := Message.setData recvBuffer recvData (nread - msgHdrLen)
    (nread, tmpbuf, recvBuffer, mem)

/-- What a call of `gmsr_recvMessageGeneric` changes, besides the descriptor. -/
structure Received where
  /-- The value returned. -/
  ret : ℤ
  tmpbuf : ByteRegion
  recvBuffer : MessageStruct
  mem : Memory

/-- `gmsr_recvMessageGeneric` -/
def gmsrRecvMessageGeneric (fd : Filedes) (tmpbuf : ByteRegion) (recvBuffer : MessageStruct)
    (recvData : BytePtr) (mem : Memory) : Received × Filedes :=
  match fd with
  | .sock s =>
    let (ret, recvBuffer, mem, s) := gmsrRecvMessageFromSocket s recvBuffer recvData mem
    (⟨ret, tmpbuf, recvBuffer, mem⟩, .sock s)
  | .chr reads =>
    let (ret, tmpbuf, recvBuffer, mem) :=
      gmsrRecvMessageFromFile (reads 0) tmpbuf recvBuffer recvData mem
    (⟨ret, tmpbuf, recvBuffer, mem⟩, .chr fun k => reads (k + 1))
  | .other => (⟨gmsrFderr, tmpbuf, recvBuffer, mem⟩, .other)

/-! ### Sending -/

/-- The bytes `gmsr_sendMessageGeneric` gathers in `txbuf`. -/
def txbuf (msg : MessageStruct) (mem : Memory) : List UInt8 :=
  msg.head.bytes ++
    if Message.dataLen msg > 0 then
      Region.load (mem (Message.getData msg)) 0 (Message.dataLen msg)
    else []

/-- `gmsr_sendMessageGeneric`: the value returned and the bytes that go out.  A message longer than
`txbuf` overruns it, and the data buffer it is copied from: no behaviour is defined (`none`). -/
def gmsrSendMessageGeneric (w : WriteResult) (sendBuffer : Option MessageStruct) (mem : Memory) :
    Option (ℤ × List UInt8) :=
  match sendBuffer with
  | none => some (0, [])
  | some msg =>
    if msgHdrLen + Message.dataLen msg > maxdataValue + msgHdrLen then none
    else some (write w (txbuf msg mem))

end TestDomApp
