import TestDomApp.Message.Equiv.RoundTrip

/-!
# The two transports

A frame that a descriptor delivers makes the same message whichever transport carries it, but
`gmsr_recvMessageGeneric` does not return the same number for it (`recvMessageGeneric_frame`): the
device receiver counts the bytes read, the header among them, and the socket receiver the data
alone.  So no frame is received alike over both (`never_received_alike`).
-/

namespace TestDomApp

/-- The frame `f` is what the descriptor delivers next: in one `read`, or at the front of the
stream. -/
def Filedes.Delivers (f : Frame) : Filedes → Prop
  | .chr reads => reads 0 = .frame f.bytes f.bytes_ne_nil f.length_bytes_le
  | .sock s => ∃ rest, s.stream = f.bytes ++ rest
  | .other => False

/-- The bytes of a frame that the receiver for the descriptor counts. -/
def Filedes.counted (f : Frame) : Filedes → ℕ
  | .chr _ => f.bytes.length
  | .sock _ | .other => f.data.length

/-- Two receives have the same result: header and data of the message, its length, and the value
returned. -/
structure ReceivedAlike (r₁ r₂ : Received) : Prop where
  content_eq : content r₁.recvBuffer r₁.mem = content r₂.recvBuffer r₂.mem
  dataLen_eq : Message.dataLen r₁.recvBuffer = Message.dataLen r₂.recvBuffer
  ret_eq : r₁.ret = r₂.ret

/-- **A frame is received** over either transport. -/
theorem recvMessageGeneric_frame {f : Frame} {fd : Filedes} (h : fd.Delivers f)
    (tmpbuf : ByteRegion) (recvBuffer : MessageStruct) (recvData : BytePtr) (mem : Memory) :
    let r := (gmsrRecvMessageGeneric fd tmpbuf recvBuffer recvData mem).1
    r.ret = fd.counted f ∧ r.recvBuffer = ⟨f.head, recvData⟩ ∧
      r.mem = mem.store recvData 0 f.data := by
  cases fd with
  | chr reads =>
    have hreads : reads 0 = .frame f.bytes f.bytes_ne_nil f.length_bytes_le := h
    rw [gmsrRecvMessageGeneric, hreads, recvMessageFromFile_frame]
    exact ⟨rfl, rfl, rfl⟩
  | sock s =>
    obtain ⟨rest, hs⟩ := h
    obtain ⟨sched, hrecv⟩ := recvMessageFromSocket_frame s recvBuffer recvData mem f rest hs
    rw [gmsrRecvMessageGeneric, hrecv]
    exact ⟨rfl, rfl, rfl⟩
  | other => exact h.elim

/-- The message received is the frame. -/
theorem content_received {f : Frame} {fd : Filedes} (h : fd.Delivers f) (tmpbuf : ByteRegion)
    (recvBuffer : MessageStruct) (recvData : BytePtr) (mem : Memory) :
    let r := (gmsrRecvMessageGeneric fd tmpbuf recvBuffer recvData mem).1
    content r.recvBuffer r.mem = (f.head, f.data) := by
  obtain ⟨-, hmsg, hmem⟩ := recvMessageGeneric_frame h tmpbuf recvBuffer recvData mem
  dsimp only
  rw [hmsg, hmem, content_store]

/-- **No frame is received alike over both transports.**  A device that delivers it in one `read`
and a socket that has it at the front of its stream, however `recv` cuts it, make the same message
of it; but the value returned for the device is larger by the length of a header. -/
theorem never_received_alike (f : Frame) {reads : ℕ → DeviceRead} {s : Sock}
    (hreads : (Filedes.chr reads).Delivers f) (hs : (Filedes.sock s).Delivers f)
    (tmpbuf₁ tmpbuf₂ : ByteRegion) (recvBuffer₁ recvBuffer₂ : MessageStruct)
    (recvData₁ recvData₂ : BytePtr) (mem₁ mem₂ : Memory) :
    let r₁ := (gmsrRecvMessageGeneric (.chr reads) tmpbuf₁ recvBuffer₁ recvData₁ mem₁).1
    let r₂ := (gmsrRecvMessageGeneric (.sock s) tmpbuf₂ recvBuffer₂ recvData₂ mem₂).1
    ¬ ReceivedAlike r₁ r₂ ∧ content r₁.recvBuffer r₁.mem = content r₂.recvBuffer r₂.mem ∧
      r₁.ret = r₂.ret + msgHdrLen := by
  intro r₁ r₂
  have hret : r₁.ret = r₂.ret + msgHdrLen := by
    rw [(recvMessageGeneric_frame hreads tmpbuf₁ recvBuffer₁ recvData₁ mem₁).1,
      (recvMessageGeneric_frame hs tmpbuf₂ recvBuffer₂ recvData₂ mem₂).1, Filedes.counted,
      Filedes.counted, f.length_bytes]
    omega
  refine ⟨?_, ?_, hret⟩
  · intro halike
    have heq := halike.ret_eq
    rw [hret] at heq
    exact absurd heq (by rw [msgHdrLen]; omega)
  · rw [content_received hreads, content_received hs]

/-- An echo request with one byte of data. -/
def echoFrame : Frame := ⟨⟨1, 18, 0, 1, 0, 0, 0, 0⟩, [65], rfl, by decide⟩

theorem delivers_echoFrame :
    (Filedes.chr fun _ => .frame echoFrame.bytes echoFrame.bytes_ne_nil
      echoFrame.length_bytes_le).Delivers echoFrame ∧
    (Filedes.sock ⟨echoFrame.bytes, .eof, fun _ => 0⟩).Delivers echoFrame :=
  ⟨rfl, [], (List.append_nil _).symm⟩

/-- The values returned are `9` and `1`. -/
theorem never_received_alike_echo :
    let r₁ := (gmsrRecvMessageGeneric (.chr fun _ => .frame echoFrame.bytes echoFrame.bytes_ne_nil
      echoFrame.length_bytes_le) (fun _ => 7) ⟨default, .null⟩ (.msgData 0) fun _ _ => 9).1
    let r₂ := (gmsrRecvMessageGeneric (.sock ⟨echoFrame.bytes, .eof, fun _ => 0⟩) (fun _ => 7)
      ⟨default, .null⟩ (.msgData 0) fun _ _ => 9).1
    ¬ ReceivedAlike r₁ r₂ ∧ r₁.ret = r₂.ret + 8 := by
  obtain ⟨hnot, -, hret⟩ := never_received_alike echoFrame delivers_echoFrame.1
    delivers_echoFrame.2 (fun _ => 7) (fun _ => 7) ⟨default, .null⟩ ⟨default, .null⟩ (.msgData 0)
    (.msgData 0) (fun _ _ => 9) fun _ _ => 9
  exact ⟨hnot, hret⟩

/-- The same request: nine bytes are read from the device, and one byte of data is received. -/
theorem received_alike_fails :
    ¬ ∀ (f : Frame) (reads : ℕ → DeviceRead) (s : Sock), (Filedes.chr reads).Delivers f →
      (Filedes.sock s).Delivers f → ∀ (tmpbuf : ByteRegion) (recvBuffer : MessageStruct)
      (recvData : BytePtr) (mem : Memory),
      ReceivedAlike (gmsrRecvMessageGeneric (.chr reads) tmpbuf recvBuffer recvData mem).1
        (gmsrRecvMessageGeneric (.sock s) tmpbuf recvBuffer recvData mem).1 := by
  intro hall
  have halike := hall echoFrame _ _ delivers_echoFrame.1 delivers_echoFrame.2 (fun _ => 7)
    ⟨default, .null⟩ (.msgData 0) fun _ _ => 9
  have heq := halike.ret_eq
  rw [(recvMessageGeneric_frame delivers_echoFrame.1 _ _ _ _).1,
    (recvMessageGeneric_frame delivers_echoFrame.2 _ _ _ _).1] at heq
  revert heq
  decide

end TestDomApp
