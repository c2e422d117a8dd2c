import TestDomApp.DomApp.EchoClient
import TestDomApp.DomApp.Equiv.Wire
import TestDomApp.MsgHandler.Equiv.Isolation

/-!
# Echo end to end

A request at the front of the socket is answered in one iteration of the request loop, which ends
at the head of the loop with the rest of the stream left (`iterate_sock_frame`).  The answer to an
echo request is the request again, down to the last byte, but for its status, which is set to
`SUCCESS` whatever it was (`content_echo`).  So every exchange leaves client and server as they were
found, with nothing in flight (`Idle`), and a list of payloads of any length comes back one by one
(`payloads_echoed`).
-/

namespace TestDomApp

open Transition Region

variable {hal : Hal}

/-! ### The server -/

namespace Main

open DomApp

variable {d : DomApp} {k : ℕ}

/-- **One iteration on a request from a socket**: what `msgHandler` makes of it goes out. -/
theorem iterate_sock_frame (h : d.AtHead k) {s : Sock} (hfd : d.domInputFile = .sock s) {f : Frame}
    {rest : List UInt8} (hs : s.stream = f.bytes ++ rest) (hne : f.data ≠ [])
    (hown : isOwn ⟨f.head, .null⟩ = true) (hfits : ∀ p, strcpyFits hal ⟨f.head, p⟩ = true)
    (svc : Services) :
    ∃ p d' sched, iterate hal ⟨false, svc, .all⟩ d = .loopHead d' ∧ d'.AtHead (k + 1) ∧
      d'.domInputFile = .sock ⟨rest, s.ending, sched⟩ ∧
      d'.wire = d.wire ++ txbuf
        (msgHandler hal svc d.handler ⟨f.head, p⟩ (d.mem.store p 0 f.data)).2.1
        (msgHandler hal svc d.handler ⟨f.head, p⟩ (d.mem.store p 0 f.data)).2.2 := by
  obtain ⟨pool, free, halloc, -, -⟩ := h.allocate
  generalize MsgPtr.msgHdr (k % maxMsg) = m at halloc
  obtain ⟨sched, hrecv⟩ := receive_sock_frame hfd hs pool m
  have hreturned := iterate_returned h hal ⟨false, svc, .all⟩
  have hret : 0 < (d.receive false pool m).1.ret := by
    rw [hrecv]
    exact Int.natCast_pos.mpr (List.length_pos_iff.mpr hne)
  obtain ⟨p, hp⟩ : ∃ p, (pool.msgHdr m).data = p := ⟨_, rfl⟩
  rw [hp] at hrecv
  have hle := dataLen_reply_frame_le hal hown svc d.handler p d.mem
  -- The program between `msgHandler` and `sendMsg`.
  obtain ⟨d₁, hd₁, hbuf, hmsg, hmem, hfile, hwire⟩ : ∃ d₁,
      beforeSend hal ⟨false, svc, .all⟩ d = .ok d₁ ∧ d₁.messageBuffer = some m ∧
      d₁.pool.msgHdr m =
        (msgHandler hal svc d.handler ⟨f.head, p⟩ (d.mem.store p 0 f.data)).2.1 ∧
      d₁.mem = (msgHandler hal svc d.handler ⟨f.head, p⟩ (d.mem.store p 0 f.data)).2.2 ∧
      d₁.domInputFile = .sock ⟨rest, s.ending, sched⟩ ∧ d₁.wire = d.wire := by
    refine ⟨afterHandler hal ⟨false, svc, .all⟩ d pool m, ?_, rfl, ?_, ?_, ?_, rfl⟩
    · rw [beforeSend_of_pos halloc hret, hrecv]
      exact if_pos (hfits p)
    · rw [afterHandler_msgHdr, afterReceive, hrecv]
    · rw [afterHandler, afterReceive, hrecv]
      rfl
    · rw [afterHandler, afterReceive, hrecv]
      rfl
  have hsend := sendMsg_of_le hbuf (hmsg ▸ hle) .all
  rw [write_all, if_neg (by omega)] at hsend
  have hiterate : iterate hal ⟨false, svc, .all⟩ d =
      .loopHead { d₁ with
        pool := d₁.pool.release (some m)
        wire := d₁.wire ++ txbuf (d₁.pool.msgHdr m) d₁.mem } := by
    unfold iterate
    rw [hd₁]
    dsimp only
    rw [hsend]
    rfl
  rw [hiterate] at hreturned
  refine ⟨p, _, sched, hiterate, hreturned, hfile, ?_⟩
  rw [hwire, hmsg, hmem]

end Main

/-- A frame with another status. -/
def Frame.withStatus (f : Frame) (status : UInt8) : Frame :=
  { f with head := { f.head with status := status } }

/-- The answer to an echo request is the request, with the status set. -/
theorem content_echo {f : Frame} {p : BytePtr} (hm : Asks ⟨f.head, p⟩ .msghandEchoMsg)
    (svc : Services) (h : HandlerState) (mem : Memory) :
    content (msgHandler hal svc h ⟨f.head, p⟩ (mem.store p 0 f.data)).2.1
        (msgHandler hal svc h ⟨f.head, p⟩ (mem.store p 0 f.data)).2.2 =
      ({ f.head with status := Status.success.code }, f.data) := by
  have hle := f.len_le
  have hself : Message.setDataLen ⟨f.head, .null⟩ f.data.length = ⟨f.head, .null⟩ := by
    rw [Message.setDataLen, if_neg (by omega), ← f.dataLen_mk .null]
    exact Message.setLengthBytes_self _
  rw [msgHandler_fulfilled hm (by decide), content_answer, f.dataLen_mk]
  show (answerHead f.head f.data.length, load (store ((mem.store p 0 f.data) p) 0 []) 0
    (min f.data.length maxdataValue)) = _
  rw [answerHead, hself, store_nil, Memory.store_same, Nat.min_eq_left hle, load_store_self]
  rfl

/-! ### The client -/

namespace EchoClient

variable (m : MessageStruct) (p : Payload) (c : EchoClient)

theorem dataLen_setRequest :
    Message.dataLen (c.setRequest m p).downMessage = p.bytes.length := by
  have hle := p.len_le
  have hmax : maxdataValue = 4088 := rfl
  show Message.dataLen (Message.setData _ testEchoMessage p.bytes.length) = _
  rw [Message.dataLen_setData]
  omega

theorem asks_setRequest : Asks (c.setRequest m p).downMessage .msghandEchoMsg := ⟨rfl, rfl⟩

/-- The request as a frame. -/
def requestFrame : Frame where
  head := (c.setRequest m p).downMessage.head
  data := p.bytes
  len_eq := c.dataLen_setRequest m p
  len_le := p.len_le

/-- What is sent of a message that holds the frame `f`. -/
theorem send_of_content {c : EchoClient} {f : Frame}
    (hcontent : content c.downMessage c.mem = (f.head, f.data)) :
    c.send .all = some ((f.bytes.length : ℤ), f.bytes) := by
  have hlen : Message.dataLen c.downMessage = f.data.length :=
    (congrArg (fun r : Head × List UInt8 => r.1.dataLen) hcontent).trans f.len_eq
  have hle : Message.dataLen c.downMessage ≤ maxdataValue := hlen ▸ f.len_le
  rw [send, gmsrSendMessageGeneric_of_le hle, txbuf_eq, hcontent]
  rfl

theorem content_setRequest :
    content (c.setRequest m p).downMessage (c.setRequest m p).mem =
      ((c.requestFrame m p).head, p.bytes) := by
  rw [content, dataLen_setRequest]
  show (_, load (c.mem.store testEchoMessage 0 p.bytes testEchoMessage) 0 _) = _
  rw [Memory.store_same, load_store_self]
  rfl

theorem send_setRequest :
    (c.setRequest m p).send .all =
      some (((c.requestFrame m p).bytes.length : ℤ), (c.requestFrame m p).bytes) :=
  send_of_content (c.content_setRequest m p)

theorem send_setStatus (status : UInt8) :
    ((c.setRequest m p).setStatus status).send .all =
      some ((((c.requestFrame m p).withStatus status).bytes.length : ℤ),
        ((c.requestFrame m p).withStatus status).bytes) := by
  have hdata := congrArg Prod.snd (c.content_setRequest m p)
  exact send_of_content (Prod.ext rfl hdata)

/-- A frame that arrives is received, and nothing is left of it. -/
theorem receive_frame {s : Sock} {f : Frame} (hfile : c.iofile = .sock s)
    (hs : s.stream = f.bytes) :
    ∃ sched, c.receive = ((f.data.length : ℤ), { c with
      upMessage := ⟨f.head, upMessageBody⟩
      mem := c.mem.store upMessageBody 0 f.data
      iofile := .sock ⟨[], s.ending, sched⟩ }) := by
  obtain ⟨sched, hrecv⟩ := recvMessageFromSocket_frame s c.upMessage upMessageBody c.mem f []
    (by rw [hs, List.append_nil])
  refine ⟨sched, ?_⟩
  rw [receive, hfile, gmsrRecvMessageGeneric]
  simp only [hrecv]

end EchoClient

/-! ### Exchanges -/

namespace EchoSystem

variable {s : EchoSystem} {k : ℕ}

/-- After `k` exchanges nothing is in flight, and `domapp` is at the head of its loop with all
buffers back. -/
structure Idle (k : ℕ) (s : EchoSystem) : Prop where
  client : ∃ up, s.client.iofile = .sock up ∧ up.stream = []
  server : ∃ down, s.server.domInputFile = .sock down ∧ down.stream = []
  atHead : s.server.AtHead k

/-- The client has sent an echo request, with the status of the exchange, and holds the reply it
should have got: the request with the status `SUCCESS`. -/
structure Echoed (x : Exchange) (s : EchoSystem) : Prop where
  asks : Asks s.client.downMessage .msghandEchoMsg
  kept : s.client.downMessage.head.res0 = x.message.head.res0 ∧
    s.client.downMessage.head.res1 = x.message.head.res1 ∧
    s.client.downMessage.head.msgID = x.message.head.msgID
  sent : Message.getStatus s.client.downMessage = x.status
  head : s.client.upMessage.head =
    { s.client.downMessage.head with status := Status.success.code }
  data : (content s.client.upMessage s.client.mem).2 = x.payload.bytes

/-- The request loop answers an echo request with the same bytes, but for the status. -/
theorem iterate_echo_frame (hal : Hal) {d : DomApp} (h : d.AtHead k) {down : Sock}
    (hfd : d.domInputFile = .sock down) {f : Frame} (hm : ∀ q, Asks ⟨f.head, q⟩ .msghandEchoMsg)
    (hne : f.data ≠ []) (hs : down.stream = f.bytes) (svc : Services) :
    ∃ d' sched, Main.iterate hal ⟨false, svc, .all⟩ d = .loopHead d' ∧ d'.AtHead (k + 1) ∧
      d'.domInputFile = .sock ⟨[], down.ending, sched⟩ ∧
      d'.wire = d.wire ++ (f.withStatus Status.success.code).bytes := by
  have hown : isOwn ⟨f.head, .null⟩ = true := by
    unfold isOwn
    rw [(hm .null).1]
    rfl
  have hstream : down.stream = f.bytes ++ [] := by rw [hs, List.append_nil]
  obtain ⟨q, d', sched, hiterate, hhead, hfile, hwire⟩ :=
    Main.iterate_sock_frame h hfd hstream hne hown (fun q => strcpyFits_echo (hm q) hal) svc
  refine ⟨d', sched, hiterate, hhead, hfile, ?_⟩
  rw [hwire, txbuf_eq, content_echo (hm q)]
  rfl

/-- **One exchange** succeeds, and leaves nothing behind. -/
theorem Idle.next (h : s.Idle k) (hal : Hal) (x : Exchange) :
    ∃ s', Next hal s x s' ∧ s'.Idle (k + 1) ∧ s'.Echoed x := by
  obtain ⟨⟨up, hup, hupnil⟩, ⟨down, hdown, hdownnil⟩, hhead⟩ := h
  obtain ⟨c, hc⟩ : ∃ c, (s.client.setRequest x.message x.payload).setStatus x.status = c :=
    ⟨_, rfl⟩
  obtain ⟨f, hf⟩ : ∃ f, (s.client.requestFrame x.message x.payload).withStatus x.status = f :=
    ⟨_, rfl⟩
  have hhead_f : f.head = c.downMessage.head := hf ▸ hc ▸ rfl
  have hdata_f : f.data = x.payload.bytes := hf ▸ rfl
  have hasks : Asks c.downMessage .msghandEchoMsg :=
    hc ▸ s.client.asks_setRequest x.message x.payload
  have hsend := s.client.send_setStatus x.message x.payload x.status
  rw [hf, hc] at hsend
  -- The reply differs from the request in its status only.
  obtain ⟨g, hg⟩ : ∃ g, f.withStatus Status.success.code = g := ⟨_, rfl⟩
  have hhead_g : g.head = { c.downMessage.head with status := Status.success.code } :=
    hg ▸ hhead_f ▸ rfl
  have hdata_g : g.data = x.payload.bytes := hg ▸ hdata_f
  -- The request arrives at the server, with nothing before it, and so does the reply at the client.
  have hserver : s.server.domInputFile.deliver f.bytes x.down =
      .sock ⟨f.bytes, down.ending, x.down⟩ := by
    rw [hdown, Filedes.deliver, hdownnil, List.nil_append]
  have hclient : c.iofile.deliver g.bytes x.up = .sock ⟨g.bytes, up.ending, x.up⟩ := by
    rw [show c.iofile = s.client.iofile from hc ▸ rfl, hup, Filedes.deliver, hupnil,
      List.nil_append]
  obtain ⟨d', sched, hiterate, hhead', hfile, hwire⟩ := iterate_echo_frame hal
    (d := { s.server with domInputFile := s.server.domInputFile.deliver f.bytes x.down }) hhead
    hserver (f := f) (fun q => by rw [hhead_f]; exact hasks) (hdata_f ▸ x.payload.ne_nil) rfl x.svc
  have hout : d'.wire.drop s.server.wire.length = g.bytes := by
    rw [hwire, List.drop_left, hg]
  obtain ⟨sched', hrecv⟩ := EchoClient.receive_frame
    (c := { c with iofile := c.iofile.deliver g.bytes x.up }) hclient rfl
  have hsent : ¬ (f.bytes.length : ℤ) ≤ 0 :=
    Int.not_le.mpr (Int.natCast_pos.mpr (List.length_pos_iff.mpr f.bytes_ne_nil))
  have hrecvd : ¬ (g.data.length : ℤ) ≤ 0 := by
    rw [hdata_g]
    exact Int.not_le.mpr (Int.natCast_pos.mpr (List.length_pos_iff.mpr x.payload.ne_nil))
  have hnext : Next hal s x ⟨{ c with
      upMessage := ⟨g.head, upMessageBody⟩
      mem := c.mem.store upMessageBody 0 g.data
      iofile := .sock ⟨[], up.ending, sched'⟩ }, d'⟩ := by
    unfold Next exchange
    dsimp only
    rw [hc, hsend]
    dsimp only
    rw [if_neg hsent, hiterate]
    dsimp only
    rw [hout, hrecv]
    exact if_neg hrecvd
  refine ⟨_, hnext, ⟨⟨_, rfl, rfl⟩, ⟨_, hfile, rfl⟩, hhead'⟩, ?_⟩
  exact {
    asks := hasks
    kept := hc ▸ ⟨rfl, rfl, rfl⟩
    sent := hc ▸ rfl
    head := hhead_g
    data := by
      rw [content_store, hdata_g] }

/-- **Echo end to end.**  Over a connection between the client and the freshly started `domapp`,
every list of payloads is exchanged, whatever status the requests carry and however requests and
replies are cut: the reply to each request has its type, subtype, reserved bytes and message ID, the
status `SUCCESS` and the payload, and after each the loop is back at its head, with nothing left to
read and all buffers free. -/
theorem payloads_echoed (hal : Hal) (client : EchoClient) (msgHdr : MsgPtr → MessageStruct)
    (mem : Memory) (up down : Ending) (xs : List Exchange) :
    ∃ (tr : List (Step EchoSystem Exchange)) (s : EchoSystem),
      Run (Next hal) (connect client msgHdr mem up down) tr s ∧ tr.map Step.label = xs ∧
      s.Idle xs.length ∧
      ∀ (k : ℕ) (x : Step EchoSystem Exchange), tr[k]? = some x →
        x.post.Echoed x.label ∧ x.post.Idle (k + 1) := by
  induction xs using List.reverseRecOn with
  | nil =>
    refine ⟨[], _, .nil, rfl, ⟨⟨_, rfl, rfl⟩, ⟨_, rfl, rfl⟩, DomApp.atHead_start _ _ _⟩, ?_⟩
    intro k x hx
    exact absurd hx (by simp)
  | append_singleton xs x ih =>
    obtain ⟨tr, s, hr, hlabel, hidle, hall⟩ := ih
    obtain ⟨s', hn, hidle', hechoed⟩ := hidle.next hal x
    have hlen : tr.length = xs.length := by rw [← hlabel, List.length_map]
    refine ⟨_, s', hr.snoc hn, by rw [List.map_append, hlabel]; rfl, ?_, ?_⟩
    · rw [List.length_append, List.length_singleton]
      exact hidle'
    · intro k y hy
      rcases lt_or_ge k tr.length with hlt | hge
      · rw [List.getElem?_append_left hlt] at hy
        exact hall k y hy
      · rw [List.getElem?_append_right hge] at hy
        obtain ⟨hk, rfl⟩ := List.getElem?_eq_some_iff.mp hy
        rw [List.length_singleton] at hk
        have hk : k = xs.length := by omega
        simp only [hk, hlen, Nat.sub_self, List.getElem_cons_zero]
        exact ⟨hechoed, hidle'⟩

end EchoSystem

end TestDomApp
