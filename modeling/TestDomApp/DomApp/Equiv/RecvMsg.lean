import TestDomApp.DomApp.Main
import TestDomApp.Message.Equiv.Buffers
import TestDomApp.Message.Equiv.RoundTrip

/-!
# Receiving a request

`recvMsg` with a free buffer is one call of the generic receiver (`recvMsg_of_pos`,
`recvMsg_of_nonpos`).  Over a socket it has four outcomes, by the stream alone.  A request with data
is delivered; one without data is received as well, but the value returned, its length `0`, is taken
for the end of the file (`recvMsg_socket_iff`).
-/

namespace TestDomApp

open Region

namespace DomApp

variable {d : DomApp} {m : MsgPtr} {pool : MessageBuffers}

/-- What the generic receiver is called with, and what comes of it, for the buffer `m` taken from
the pool. -/
def receive (fstatFails : Bool) (d : DomApp) (pool : MessageBuffers) (m : MsgPtr) :
    Received × Filedes :=
  gmsrRecvMessageGeneric (if fstatFails then .other else d.domInputFile) d.tmpbuf (pool.msgHdr m)
    (pool.msgHdr m).data d.mem

/-- The program with a request received into the buffer `m`. -/
def afterReceive (fstatFails : Bool) (d : DomApp) (pool : MessageBuffers) (m : MsgPtr) : DomApp :=
  let r := d.receive fstatFails pool m
  { d with
    pool := { pool with msgHdr := Function.update pool.msgHdr m r.1.recvBuffer }
    mem := r.1.mem
    tmpbuf := r.1.tmpbuf
    messageBuffer := some m
    domInputFile := r.2 }

/-- A receive that returns a positive value. -/
theorem recvMsg_of_pos (halloc : d.pool.allocate = (some m, pool)) {fstatFails : Bool}
    (hpos : 0 < (d.receive fstatFails pool m).1.ret) :
    d.recvMsg fstatFails = (1, d.afterReceive fstatFails pool m) := by
  unfold receive at hpos
  unfold recvMsg
  rw [halloc]
  dsimp only [Message.getData]
  rw [if_neg (by omega)]
  rfl

/-- The program with the receive given up and the buffer released. -/
def afterFailure (fstatFails : Bool) (d : DomApp) (pool : MessageBuffers) (m : MsgPtr) : DomApp :=
  let d' := d.afterReceive fstatFails pool m
  let patched := Message.setData (d'.pool.msgHdr m) (pool.msgHdr m).data maxdataValue
  { d' with pool := { pool with msgHdr := Function.update pool.msgHdr m patched }.release (some m) }

/-- A receive that does not. -/
theorem recvMsg_of_nonpos (halloc : d.pool.allocate = (some m, pool)) {fstatFails : Bool}
    (hnonpos : (d.receive fstatFails pool m).1.ret ≤ 0) :
    d.recvMsg fstatFails =
      (if (d.receive fstatFails pool m).1.ret = 0 then comEof
        else (d.receive fstatFails pool m).1.ret, d.afterFailure fstatFails pool m) := by
  unfold receive at hnonpos
  unfold recvMsg
  rw [halloc]
  dsimp only [Message.getData]
  rw [if_pos (by omega)]
  simp only [setMsg, Function.update_idem, afterFailure, afterReceive]
  rfl

/-- `recvMsg` returns a positive value exactly when the receiver does. -/
theorem recvMsg_nonpos_iff (halloc : d.pool.allocate = (some m, pool)) (fstatFails : Bool) :
    (d.recvMsg fstatFails).1 ≤ 0 ↔ (d.receive fstatFails pool m).1.ret ≤ 0 := by
  rcases lt_or_ge 0 (d.receive fstatFails pool m).1.ret with hpos | hnonpos
  · rw [recvMsg_of_pos halloc hpos]
    omega
  · rw [recvMsg_of_nonpos halloc hnonpos]
    dsimp only
    split_ifs with h0
    · simp [comEof, hnonpos]
    · rfl

/-- The program starts with a free buffer. -/
theorem start_allocate (msgHdr : MsgPtr → MessageStruct) (mem : Memory) (fd : Filedes) :
    ∃ pool, (start msgHdr mem fd).pool.allocate = (some (.msgHdr 0), pool) :=
  MessageBuffers.init_allocate (.static msgHdr)

/-! ### Sockets -/

/-- What a receive from a socket owes its caller: every well-formed request at the front of the
stream is delivered, and only a stream that ends too early or announces too much is refused. -/
structure ReceivesRequests (d : DomApp) (s : Sock) : Prop where
  delivers : ∀ (f : Frame) (rest : List UInt8), s.stream = f.bytes ++ rest →
    (d.recvMsg false).1 = 1 ∧
    ∃ m, (d.recvMsg false).2.messageBuffer = some m ∧
      content ((d.recvMsg false).2.pool.msgHdr m) (d.recvMsg false).2.mem = (f.head, f.data)
  refuses : (d.recvMsg false).1 ≤ 0 →
    s.stream.length < msgHdrLen ∨ maxdataValue < (Head.ofBytes s.stream).dataLen ∨
      s.stream.length < msgHdrLen + (Head.ofBytes s.stream).dataLen

theorem receive_sock {s : Sock} (hfd : d.domInputFile = .sock s) :
    (d.receive false pool m).1.ret =
      (gmsrRecvMessageFromSocket s (pool.msgHdr m) (pool.msgHdr m).data d.mem).1 := by
  rw [receive, if_neg (by decide), hfd]
  rfl

/-- Over a socket, `recvMsg` fails when no request is complete, and when the request has no
data. -/
theorem recvMsg_sock_nonpos_iff (halloc : d.pool.allocate = (some m, pool)) {s : Sock}
    (hfd : d.domInputFile = .sock s) :
    (d.recvMsg false).1 ≤ 0 ↔
      s.stream.length < msgHdrLen ∨ maxdataValue < (Head.ofBytes s.stream).dataLen ∨
      s.stream.length < msgHdrLen + (Head.ofBytes s.stream).dataLen ∨
      (Head.ofBytes s.stream).dataLen = 0 := by
  rw [recvMsg_nonpos_iff halloc false, receive_sock hfd]
  exact recvMessageFromSocket_nonpos_iff s _ _ _

/-- What the receiver makes of a request at the front of the stream. -/
theorem receive_sock_frame {s : Sock} (hfd : d.domInputFile = .sock s) {f : Frame}
    {rest : List UInt8} (hs : s.stream = f.bytes ++ rest) (pool : MessageBuffers) (m : MsgPtr) :
    ∃ sched, d.receive false pool m =
      (⟨f.data.length, d.tmpbuf, ⟨f.head, (pool.msgHdr m).data⟩,
        d.mem.store (pool.msgHdr m).data 0 f.data⟩, .sock ⟨rest, s.ending, sched⟩) := by
  obtain ⟨sched, heq⟩ := recvMessageFromSocket_frame s (pool.msgHdr m) (pool.msgHdr m).data d.mem
    f rest hs
  refine ⟨sched, ?_⟩
  rw [receive, if_neg (by decide), hfd]
  simp only [gmsrRecvMessageGeneric, heq]

/-- A request with data at the front of the stream is delivered. -/
theorem recvMsg_sock_frame (halloc : d.pool.allocate = (some m, pool)) {s : Sock}
    (hfd : d.domInputFile = .sock s) {f : Frame} {rest : List UInt8}
    (hs : s.stream = f.bytes ++ rest) (hne : f.data ≠ []) :
    ∃ sched, d.recvMsg false = (1, { d with
      pool := { pool with
        msgHdr := Function.update pool.msgHdr m ⟨f.head, (pool.msgHdr m).data⟩ }
      mem := d.mem.store (pool.msgHdr m).data 0 f.data
      messageBuffer := some m
      domInputFile := .sock ⟨rest, s.ending, sched⟩ }) := by
  obtain ⟨sched, heq⟩ := receive_sock_frame hfd hs pool m
  have hret : 0 < (d.receive false pool m).1.ret := by
    rw [heq]
    exact Int.natCast_pos.mpr (List.length_pos_iff.mpr hne)
  refine ⟨sched, ?_⟩
  rw [recvMsg_of_pos halloc hret, afterReceive, heq]

/-- **When a receive from a socket is right.**  With a free buffer in the pool, `recvMsg` delivers
every well-formed request and refuses nothing else, however `recv` cuts the stream, exactly when the
stream does not begin with a header that announces no data. -/
theorem recvMsg_socket_iff (hfree : d.pool.allocate.1 ≠ none) {s : Sock}
    (hfd : d.domInputFile = .sock s) :
    d.ReceivesRequests s ↔
      ¬ (msgHdrLen ≤ s.stream.length ∧ (Head.ofBytes s.stream).dataLen = 0) := by
  obtain ⟨m, hm⟩ := Option.ne_none_iff_exists'.mp hfree
  have halloc : d.pool.allocate = (some m, d.pool.allocate.2) := by rw [← hm]
  have hiff := recvMsg_sock_nonpos_iff halloc hfd
  constructor
  · rintro hall ⟨h₁, h₀⟩
    -- A header without data is a request of its own, and is taken for the end of the file.
    obtain ⟨f, rest, hs, -⟩ := Frame.exists_of_stream h₁ (by omega) (by omega)
    have hone := (hall.delivers f rest hs).1
    have hnonpos := hiff.mpr (Or.inr (Or.inr (Or.inr h₀)))
    omega
  · intro hcond
    refine ⟨fun f rest hs => ?_, fun hnonpos => ?_⟩
    · have hne : f.data ≠ [] := by
        intro hnil
        refine hcond ⟨?_, ?_⟩
        · rw [hs, List.length_append, f.length_bytes]
          omega
        · rw [hs, f.ofBytes_append, f.len_eq, hnil, List.length_nil]
      obtain ⟨sched, heq⟩ := recvMsg_sock_frame halloc hfd hs hne
      rw [heq]
      refine ⟨rfl, m, rfl, ?_⟩
      dsimp only
      rw [Function.update_self]
      exact content_store _ _ _
    · -- The fourth way to fail is the one excluded.
      rcases hiff.mp hnonpos with h | h | h | h
      · exact Or.inl h
      · exact Or.inr (Or.inl h)
      · exact Or.inr (Or.inr h)
      · rcases lt_or_ge s.stream.length msgHdrLen with hlt | hge
        · exact Or.inl hlt
        · exact absurd ⟨hge, h⟩ hcond

/-- A request with one byte of data satisfies the condition. -/
theorem recvMsg_socket_iff_byte :
    ∃ (d : DomApp) (s : Sock), s.stream = [1, 18, 0, 1, 0, 0, 0, 0, 65] ∧
      d.domInputFile = .sock s ∧ d.ReceivesRequests s := by
  let s : Sock := ⟨[1, 18, 0, 1, 0, 0, 0, 0, 65], .eof, fun _ => 0⟩
  obtain ⟨pool, halloc⟩ : ∃ pool, (boot (.sock s)).pool.allocate = (some (.msgHdr 0), pool) :=
    start_allocate _ _ _
  refine ⟨boot (.sock s), s, rfl, rfl, (recvMsg_socket_iff ?_ rfl).mpr (by decide)⟩
  rw [halloc]
  exact Option.some_ne_none _

/-- A `GET_SERVICE_STATE` request, which has no data, is refused. -/
theorem recvMsg_refuses_empty :
    ¬ ∀ (d : DomApp) (s : Sock), d.pool.allocate.1 ≠ none → d.domInputFile = .sock s →
      d.ReceivesRequests s := by
  intro hall
  let f : Frame := ⟨⟨1, 1, 0, 0, 0, 0, 0, 0⟩, [], rfl, by decide⟩
  let s : Sock := ⟨f.bytes, .eof, fun _ => 0⟩
  obtain ⟨pool, halloc⟩ : ∃ pool, (boot (.sock s)).pool.allocate = (some (.msgHdr 0), pool) :=
    start_allocate _ _ _
  have hfree : (boot (.sock s)).pool.allocate.1 ≠ none := by
    rw [halloc]
    exact Option.some_ne_none _
  have hone := ((hall _ s hfree rfl).delivers f [] (List.append_nil _).symm).1
  have hnonpos := (recvMsg_sock_nonpos_iff (s := s) halloc rfl).mpr
    (Or.inr (Or.inr (Or.inr rfl)))
  omega

end DomApp

end TestDomApp
