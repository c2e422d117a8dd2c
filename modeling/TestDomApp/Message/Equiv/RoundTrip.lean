import TestDomApp.Message.Equiv.SendRecv

/-!
# Decoding undoes encoding

Messages sent with `gmsr_sendMessageGeneric` and received with either receiver arrive as they were
sent.  Over a socket this is an induction on the list of messages: each receive consumes exactly
one frame (`recvMessageFromSocket_frame`), so the next one starts at the next frame, wherever the
pieces handed over by `recv` begin and end.
-/

namespace TestDomApp

open Region

/-- A message that holds a frame has the frame's bytes as its content. -/
theorem content_store (f : Frame) (recvData : BytePtr) (mem : Memory) :
    content ⟨f.head, recvData⟩ (mem.store recvData 0 f.data) = (f.head, f.data) := by
  rw [content, Memory.store_same, f.dataLen_mk, load_store_self]

theorem Outgoing.content_eq (o : Outgoing) : content o.msg o.mem = (o.frame.head, o.frame.data) :=
  rfl

/-- Successive receives, each into a message and an array of its own, deliver the frames that stand
at the front of the stream, and leave the rest of it. -/
theorem recvAll_frames (os : List Outgoing) (bufs : List (MessageStruct × BytePtr × Memory))
    (hlen : bufs.length = os.length) (s : Sock) (rest : List UInt8)
    (hs : s.stream = (os.flatMap fun o => o.frame.bytes) ++ rest) :
    ((recvAll s bufs).1.map fun r => content r.2.1 r.2.2) = os.map (fun o => content o.msg o.mem) ∧
    ((recvAll s bufs).1.map fun r => r.1)
      = os.map (fun o => ((Message.dataLen o.msg : ℕ) : ℤ)) ∧
    ((recvAll s bufs).1.map fun r => r.2.1.data) = bufs.map (fun b => b.2.1) ∧
    (recvAll s bufs).2.stream = rest := by
  induction os generalizing bufs s with
  | nil =>
    obtain rfl := List.length_eq_zero_iff.mp hlen
    simpa [recvAll] using hs
  | cons o os ih =>
    obtain ⟨⟨recvBuffer, recvData, mem⟩, bufs, rfl⟩ : ∃ b bs, bufs = b :: bs :=
      List.exists_cons_of_length_eq_add_one hlen
    rw [List.flatMap_cons, List.append_assoc] at hs
    obtain ⟨sched, hrecv⟩ := recvMessageFromSocket_frame s recvBuffer recvData mem o.frame _ hs
    obtain ⟨h₁, h₂, h₃, h₄⟩ := ih bufs (by simpa using hlen)
      ⟨(os.flatMap fun o => o.frame.bytes) ++ rest, s.ending, sched⟩ rfl
    have hdata : (o.frame.data.length : ℤ) = (Message.dataLen o.msg : ℕ) := by
      rw [← o.frame.len_eq]
      rfl
    rw [recvAll, hrecv]
    refine ⟨?_, ?_, ?_, h₄⟩
    · rw [List.map_cons, List.map_cons, content_store, o.content_eq, h₁]
    · rw [List.map_cons, List.map_cons, h₂, hdata]
    · rw [List.map_cons, List.map_cons, h₃]

/-- **Decoding undoes encoding on both transports.**  Over a socket, messages written one after
another are received as they are, in order, for every way `recv` cuts the stream and whatever the
receiving messages and arrays held, and exactly their bytes are consumed.  Through a device, a
message written by one `write` and delivered by one `read` is received as it is, whatever the
static buffer and the receive buffer held. -/
theorem decode_encode (os : List Outgoing) :
    (∃ wire, sendAll os = some wire ∧
      ∀ (ending : Ending) (sched : ℕ → ℕ) (rest : List UInt8)
        (bufs : List (MessageStruct × BytePtr × Memory)), bufs.length = os.length →
        let r := recvAll ⟨wire ++ rest, ending, sched⟩ bufs
        (r.1.map fun x => content x.2.1 x.2.2) = os.map (fun o => content o.msg o.mem) ∧
        (r.1.map fun x => x.2.1.data) = bufs.map (fun b => b.2.1) ∧
        r.2.stream = rest) ∧
    ∀ o ∈ os, ∃ (out : List UInt8) (hpos : out ≠ [])
        (hle : out.length ≤ maxdataValue + msgHdrLen),
      gmsrSendMessageGeneric .all (some o.msg) o.mem = some ((out.length : ℤ), out) ∧
      ∀ (tmpbuf : ByteRegion) (recvBuffer : MessageStruct) (recvData : BytePtr) (mem : Memory),
        let r := gmsrRecvMessageFromFile (.frame out hpos hle) tmpbuf recvBuffer recvData mem
        r.1 = out.length ∧ content r.2.2.1 r.2.2.2 = content o.msg o.mem ∧
        r.2.2.1.data = recvData := by
  constructor
  · refine ⟨_, sendAll_eq os, fun ending sched rest bufs hlen => ?_⟩
    obtain ⟨h₁, -, h₃, h₄⟩ := recvAll_frames os bufs hlen ⟨_, ending, sched⟩ rest rfl
    exact ⟨h₁, h₃, h₄⟩
  · intro o _
    refine ⟨o.frame.bytes, o.frame.bytes_ne_nil, o.frame.length_bytes_le,
      gmsrSendMessageGeneric_outgoing .all o, fun tmpbuf recvBuffer recvData mem => ?_⟩
    rw [recvMessageFromFile_frame]
    exact ⟨rfl, content_store _ _ _, rfl⟩

/-- An echo request with two bytes of data, received one byte at a time. -/
theorem decode_encode_echo :
    ∃ (o : Outgoing) (wire : List UInt8), (content o.msg o.mem).2 = [104, 105] ∧
      sendAll [o] = some wire ∧
      ((recvAll ⟨wire ++ [1], .eof, fun _ => 0⟩ [(⟨default, .null⟩, .msgData 0, fun _ _ => 0)]).1.map
        fun x => content x.2.1 x.2.2) = [content o.msg o.mem] := by
  let o : Outgoing :=
    ⟨⟨⟨1, 18, 0, 2, 0, 0, 7, 0⟩, .other 0⟩, fun _ => store (fun _ => 0) 0 [104, 105], by decide⟩
  obtain ⟨⟨wire, hwire, hrecv⟩, -⟩ := decode_encode [o]
  obtain ⟨hcontent, -, -⟩ :=
    hrecv .eof (fun _ => 0) [1] [(⟨default, .null⟩, .msgData 0, fun _ _ => 0)] rfl
  exact ⟨o, wire, rfl, hwire, hcontent⟩

end TestDomApp
