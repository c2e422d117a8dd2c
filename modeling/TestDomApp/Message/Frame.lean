import TestDomApp.Message.SendRecv

/-!
# Frames

What a message is on the wire, whichever transport carries it: a header and as many data bytes as
the header announces, at most `MAXDATA_VALUE`.  `Frame` carries that as part of the value, so a
frame cannot be malformed; `Outgoing` is a message in memory that can be sent, and `frame` the
frame it stands for.
-/

namespace TestDomApp

/-- A well-formed message: the header announces exactly the data, and not too much of it. -/
structure Frame where
  head : Head
  data : List UInt8
  len_eq : head.dataLen = data.length
  len_le : data.length ≤ maxdataValue
  deriving DecidableEq, Repr

namespace Frame

/-- The bytes of a frame on the wire. -/
def bytes (f : Frame) : List UInt8 := f.head.bytes ++ f.data

theorem length_bytes (f : Frame) : f.bytes.length = msgHdrLen + f.data.length := by
  rw [bytes, List.length_append, Head.length_bytes]

theorem bytes_ne_nil (f : Frame) : f.bytes ≠ [] := by
  simp [bytes, Head.bytes]

theorem length_bytes_le (f : Frame) : f.bytes.length ≤ maxdataValue + msgHdrLen := by
  rw [length_bytes, Nat.add_comm]
  exact Nat.add_le_add_right f.len_le _

/-- A message with the header of a frame announces the frame's data. -/
theorem dataLen_mk (f : Frame) (p : BytePtr) : Message.dataLen ⟨f.head, p⟩ = f.data.length :=
  f.len_eq

theorem ext_of_head_data {f g : Frame} (hh : f.head = g.head) (hd : f.data = g.data) : f = g := by
  cases f
  cases g
  simp_all

/-- **Frames delimit themselves**: what stands before a rest of the stream is found again. -/
theorem bytes_append_inj {f g : Frame} {r r' : List UInt8} (h : f.bytes ++ r = g.bytes ++ r') :
    f = g ∧ r = r' := by
  rw [bytes, bytes, List.append_assoc, List.append_assoc] at h
  obtain ⟨hh, h⟩ := List.append_inj h rfl
  have hhead := Head.bytes_injective hh
  obtain ⟨hd, hr⟩ := List.append_inj h (by rw [← f.len_eq, ← g.len_eq, hhead])
  exact ⟨ext_of_head_data hhead hd, hr⟩

end Frame

/-- The bytes a message in memory is made of: its header and the data its length announces. -/
def content (msg : MessageStruct) (mem : Memory) : Head × List UInt8 :=
  (msg.head, Region.load (mem msg.data) 0 (Message.dataLen msg))

/-- The bytes gathered for a message are its content. -/
theorem txbuf_eq (msg : MessageStruct) (mem : Memory) :
    txbuf msg mem = (content msg mem).1.bytes ++ (content msg mem).2 := by
  unfold txbuf content
  split_ifs with h
  · rfl
  · rw [Nat.eq_zero_of_not_pos h, Region.load_zero]

/-- A message that fits the transmit buffer. -/
structure Outgoing where
  msg : MessageStruct
  mem : Memory
  len_le : Message.dataLen msg ≤ maxdataValue

/-- The frame an outgoing message stands for. -/
def Outgoing.frame (o : Outgoing) : Frame where
  head := o.msg.head
  data := (content o.msg o.mem).2
  len_eq := by simp [content, Message.dataLen]
  len_le := by simpa [content] using o.len_le

theorem Outgoing.txbuf_eq_bytes (o : Outgoing) : txbuf o.msg o.mem = o.frame.bytes :=
  txbuf_eq o.msg o.mem

/-- Sending a message that fits is one `write` of the bytes gathered. -/
theorem gmsrSendMessageGeneric_of_le {msg : MessageStruct}
    (hle : Message.dataLen msg ≤ maxdataValue) (w : WriteResult) (mem : Memory) :
    gmsrSendMessageGeneric w (some msg) mem = some (write w (txbuf msg mem)) := by
  rw [gmsrSendMessageGeneric, if_neg (by omega)]

/-- Sending an outgoing message is one `write` of its frame. -/
theorem gmsrSendMessageGeneric_outgoing (w : WriteResult) (o : Outgoing) :
    gmsrSendMessageGeneric w (some o.msg) o.mem = some (write w o.frame.bytes) := by
  rw [gmsrSendMessageGeneric_of_le o.len_le, o.txbuf_eq_bytes]

/-- Messages sent one after another, each by a complete write: the bytes on the wire. -/
def sendAll : List Outgoing → Option (List UInt8)
  | [] => some []
  | o :: os => do
    let (_, out) ← gmsrSendMessageGeneric .all (some o.msg) o.mem
    let rest ← sendAll os
    return out ++ rest

theorem sendAll_eq (os : List Outgoing) :
    sendAll os = some (os.flatMap fun o => o.frame.bytes) := by
  induction os with
  | nil => rfl
  | cons o os ih =>
    rw [sendAll, gmsrSendMessageGeneric_outgoing, ih]
    rfl

/-- Successive calls of `gmsr_recvMessageFromSocket`, each into the message and the array given
for it: what every call returns and leaves, and the socket after them. -/
def recvAll (s : Sock) : List (MessageStruct × BytePtr × Memory) →
    List (ℤ × MessageStruct × Memory) × Sock
  | [] => ([], s)
  | (recvBuffer, recvData, mem) :: rest =>
    let (ret, recvBuffer, mem, s) := gmsrRecvMessageFromSocket s recvBuffer recvData mem
    let (rs, s) := recvAll s rest
    ((ret, recvBuffer, mem) :: rs, s)

end TestDomApp
