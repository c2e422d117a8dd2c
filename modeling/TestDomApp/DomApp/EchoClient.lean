import TestDomApp.DomApp.Main

/-!
# The echo client

`private/domapp/domEchoClient.c`, with the payload in place of its test string.  The client fills a
message, sends it, receives the reply, and reports whether the payload has come back.  `EchoSystem`
is the client and the request loop at the two ends of a connection; an `Exchange` is one payload and
what is left to the environment while it goes back and forth.
-/

namespace TestDomApp

/-- The array the payload is sent from. -/
def testEchoMessage : BytePtr := .other 0

/-- `up_message_body` -/
def upMessageBody : BytePtr := .other 1

/-- A payload: there is something to send, and it fits a message. -/
structure Payload where
  bytes : List UInt8
  ne_nil : bytes ≠ []
  len_le : bytes.length ≤ maxdataValue

/-- `compare_echo_message`, which holds the payload too. -/
def Payload.compareEchoMessage (p : Payload) : ByteRegion := fun i => p.bytes.getD i 0

/-- What the client reports about an exchange. -/
inductive EchoReport
  /-- `gmsr_sendMessageGeneric failed` -/
  | sendFailed (sent : ℤ)
  /-- `gmsr_recvMessageGeneric failed` -/
  | recvFailed (recvd : ℤ)
  /-- `Reply message payload too large` -/
  | tooLarge (up : ℕ)
  /-- `Down message payload != up message payload` -/
  | lengthsDiffer (down up : ℕ)
  /-- The payloads disagree at position `i`. -/
  | disagree (i : ℕ) (down up : UInt8)
  /-- `Message sent and received correctly.` -/
  | correct
  deriving DecidableEq, Repr

/-- The client: its two messages, its memory, and what its receivers use. -/
structure EchoClient where
  downMessage : MessageStruct
  upMessage : MessageStruct
  mem : Memory
  tmpbuf : ByteRegion
  iofile : Filedes

namespace EchoClient

/-- The request is filled in; reserved bytes and message ID stay as they are in `m`. -/
def setRequest (m : MessageStruct) (p : Payload) (c : EchoClient) : EchoClient :=
  let m := Message.setType m MsgType.messageHandler.code
  let m := Message.setSubtype m MsghandSubtype.msghandEchoMsg.code
  let m := Message.setStatus m Status.success.code
  let m := Message.setData m testEchoMessage p.bytes.length
  { c with downMessage := m, mem := c.mem.store testEchoMessage 0 p.bytes }

/-- The request with another status. -/
def setStatus (status : UInt8) (c : EchoClient) : EchoClient :=
  { c with downMessage := Message.setStatus c.downMessage status }

/-- The request is sent. -/
def send (tx : WriteResult) (c : EchoClient) : Option (ℤ × List UInt8) :=
  gmsrSendMessageGeneric tx (some c.downMessage) c.mem

/-- The reply is received: the value returned, and the client after it. -/
def receive (c : EchoClient) : ℤ × EchoClient :=
  let (r, fd) := gmsrRecvMessageGeneric c.iofile c.tmpbuf c.upMessage upMessageBody c.mem
  (r.ret, { c with upMessage := r.recvBuffer, mem := r.mem, tmpbuf := r.tmpbuf, iofile := fd })

/-- The loop that compares the payloads from position `i` on: where they disagree first. -/
def compareLoop (compareMsg upBody : ByteRegion) (len i : ℕ) : Option ℕ :=
  if _h : i < len ∧ i < maxdataValue then
    if compareMsg i ≠ upBody i then some i else compareLoop compareMsg upBody len (i + 1)
  else none
  termination_by len - i
  decreasing_by omega

/-- What the client makes of the reply it holds.  Type, subtype and status are not looked at. -/
def check (p : Payload) (c : EchoClient) : EchoReport :=
  let down := Message.dataLen c.downMessage
  let up := Message.dataLen c.upMessage
  if up ≥ maxdataValue then .tooLarge up
  else if down ≠ up then .lengthsDiffer down up
  else
    match compareLoop p.compareEchoMessage (c.mem upMessageBody) down 0 with
    | some i => .disagree i (p.compareEchoMessage i) (c.mem upMessageBody i)
    | none => .correct

/-- One round of the loop in `main`: what is reported, and the client after it. -/
def round (tx : WriteResult) (m : MessageStruct) (p : Payload) (c : EchoClient) :
    Option (EchoReport × EchoClient) :=
  let c := c.setRequest m p
  match c.send tx with
  | none => none
  | some (sent, _) =>
    if sent ≤ 0 then some (.sendFailed sent, c)
    else
      let (recvd, c) := c.receive
      if recvd ≤ 0 then some (.recvFailed recvd, c) else some (c.check p, c)

/-- The loop of `main`, with what each `write` does: the reports, of which all but the last are
`correct`, and the client after it.  `main` returns `ERROR` after any other report. -/
def mainLoop (p : Payload) : List WriteResult → EchoClient → Option (List EchoReport × EchoClient)
  | [], c => some ([], c)
  | tx :: txs, c =>
    match c.round tx c.downMessage p with
    | none => none
    | some (report, c) =>
      if report = .correct then (mainLoop p txs c).map fun r => (.correct :: r.1, r.2)
      else some ([report], c)

/-- `num_msgs` -/
def numMsgs : ℕ := 1000

/-- `main`, once it is connected; `tx k` is what the `write` of round `k` does. -/
def main (p : Payload) (tx : ℕ → WriteResult) (c : EchoClient) :
    Option (List EchoReport × EchoClient) :=
  mainLoop p ((List.range numMsgs).map tx) c

end EchoClient

/-- More bytes arrive on a connection; from now on `recv` hands over pieces as `sched` says. -/
def Filedes.deliver (bs : List UInt8) (sched : ℕ → ℕ) : Filedes → Filedes
  | .sock s => .sock ⟨s.stream ++ bs, s.ending, sched⟩
  | fd => fd

/-- The client, and `domapp` at the head of its loop. -/
structure EchoSystem where
  client : EchoClient
  server : DomApp

/-- One payload. -/
structure Exchange where
  payload : Payload
  /-- The message to fill in. -/
  message : MessageStruct
  /-- The status byte of the request.  `main` of the client sends `SUCCESS`. -/
  status : UInt8
  svc : Services
  /-- How `recv` cuts the request. -/
  down : ℕ → ℕ
  /-- How `recv` cuts the reply. -/
  up : ℕ → ℕ

namespace EchoSystem

/-- The client sends a request, with the status of the exchange; `domapp` goes once through its
loop; and the client receives what `domapp` has written.  Each of the two waits in `recv` for the
other, so there is no other order.  Every `write` is complete.  `none` if one of the two gives up.
-/
def exchange (hal : Hal) (s : EchoSystem) (x : Exchange) : Option EchoSystem :=
  let client := (s.client.setRequest x.message x.payload).setStatus x.status
  match client.send .all with
  | none => none
  | some (sent, bs) =>
    if sent ≤ 0 then none
    else
      let server := { s.server with domInputFile := s.server.domInputFile.deliver bs x.down }
      match Main.iterate hal ⟨false, x.svc, .all⟩ server with
      | .loopHead server =>
        let out := server.wire.drop s.server.wire.length
        let (recvd, client) := { client with iofile := client.iofile.deliver out x.up }.receive
        if recvd ≤ 0 then none else some ⟨client, server⟩
      | _ => none

/-- A client connected to `domapp`, before the first exchange; the connection will end some day. -/
def connect (client : EchoClient) (msgHdr : MsgPtr → MessageStruct) (mem : Memory)
    (up down : Ending) : EchoSystem where
  client := { client with iofile := .sock ⟨[], up, fun _ => 0⟩ }
  server := DomApp.start msgHdr mem (.sock ⟨[], down, fun _ => 0⟩)

/-- `exchange` as a relation. -/
def Next (hal : Hal) (s : EchoSystem) (x : Exchange) (s' : EchoSystem) : Prop :=
  s.exchange hal x = some s'

end EchoSystem

end TestDomApp
