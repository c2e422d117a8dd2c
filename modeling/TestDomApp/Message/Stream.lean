import TestDomApp.Message.Equiv.Device

/-!
# What a descriptor carries

Both programs receive one message after another until a receive does not return a positive value.
What they get in this way is a list of frames, which the descriptor determines: over a socket the
messages with data at the front of the stream (`messagesOf`), through a device what the reads
deliver, with the lengths put right.  `Filedes.Carries` says so for either.
-/

namespace TestDomApp

/-- A complete message with data stands at the front of the stream. -/
def BeginsMessage (bs : List UInt8) : Prop :=
  msgHdrLen ≤ bs.length ∧ 0 < (Head.ofBytes bs).dataLen ∧
    (Head.ofBytes bs).dataLen ≤ maxdataValue ∧ msgHdrLen + (Head.ofBytes bs).dataLen ≤ bs.length

instance (bs : List UInt8) : Decidable (BeginsMessage bs) :=
  inferInstanceAs (Decidable (_ ∧ _))

/-- The message at the front of the stream. -/
def firstMessage (bs : List UInt8) (h : BeginsMessage bs) : Frame where
  head := Head.ofBytes bs
  data := (bs.drop msgHdrLen).take (Head.ofBytes bs).dataLen
  len_eq := by
    obtain ⟨-, -, -, h₃⟩ := h
    rw [List.length_take, List.length_drop]
    omega
  len_le := (List.length_take_le _ _).trans h.2.2.1

/-- The messages at the front of a stream, up to the first place where no message with data
begins. -/
def messagesOf (bs : List UInt8) : List Frame :=
  if h : BeginsMessage bs then
    firstMessage bs h :: messagesOf (bs.drop (msgHdrLen + (Head.ofBytes bs).dataLen))
  else []
  termination_by bs.length
  decreasing_by
    rw [List.length_drop]
    have hlen := h.1
    unfold msgHdrLen at *
    omega

theorem firstMessage_append (bs : List UInt8) (h : BeginsMessage bs) :
    (firstMessage bs h).bytes ++ bs.drop (msgHdrLen + (Head.ofBytes bs).dataLen) = bs := by
  rw [Frame.bytes, firstMessage, Head.bytes_ofBytes h.1, List.append_assoc, ← List.drop_drop,
    List.take_append_drop, List.take_append_drop]

theorem messagesOf_eq_nil_iff {bs : List UInt8} : messagesOf bs = [] ↔ ¬ BeginsMessage bs := by
  rw [messagesOf]
  split_ifs with h
  · simp [h]
  · simp [h]

/-- A frame with data at the front of a stream is its first message. -/
theorem messagesOf_append {f : Frame} (hne : f.data ≠ []) (rest : List UInt8) :
    messagesOf (f.bytes ++ rest) = f :: messagesOf rest := by
  have hhead := f.ofBytes_append rest
  have hlen : (f.bytes ++ rest).length = msgHdrLen + f.data.length + rest.length := by
    rw [List.length_append, f.length_bytes]
  have hpos := List.length_pos_iff.mpr hne
  have hle := f.len_le
  have hbegins : BeginsMessage (f.bytes ++ rest) := by
    unfold BeginsMessage
    rw [hhead, f.len_eq, hlen]
    omega
  obtain ⟨hfirst, hrest⟩ := Frame.bytes_append_inj (firstMessage_append _ hbegins)
  rw [messagesOf, dif_pos hbegins, hfirst, hrest]

/-- The first message of a stream stands at its front. -/
theorem exists_of_messagesOf_eq_cons {bs : List UInt8} {f : Frame} {fs : List Frame}
    (h : messagesOf bs = f :: fs) :
    ∃ rest, bs = f.bytes ++ rest ∧ f.data ≠ [] ∧ messagesOf rest = fs := by
  rw [messagesOf] at h
  split_ifs at h with hbegins
  obtain ⟨rfl, rfl⟩ := List.cons.inj h
  refine ⟨_, (firstMessage_append bs hbegins).symm, ?_, rfl⟩
  intro hnil
  have hlen := (firstMessage bs hbegins).len_eq
  rw [hnil, List.length_nil] at hlen
  exact absurd hlen hbegins.2.1.ne'

/-- Frames with data that stand at the front of a stream are found there. -/
theorem messagesOf_flatMap_append {fs : List Frame} (hne : ∀ f ∈ fs, f.data ≠ [])
    (rest : List UInt8) :
    messagesOf (fs.flatMap Frame.bytes ++ rest) = fs ++ messagesOf rest := by
  induction fs with
  | nil => rfl
  | cons f fs ih =>
    rw [List.flatMap_cons, List.append_assoc, messagesOf_append (hne f List.mem_cons_self),
      ih fun g hg => hne g (List.mem_cons_of_mem _ hg), List.cons_append]

/-- A socket delivers a message with data exactly when one stands at the front of the stream. -/
theorem recvMessageFromSocket_pos_iff (s : Sock) (recvBuffer : MessageStruct) (recvData : BytePtr)
    (mem : Memory) :
    0 < (gmsrRecvMessageFromSocket s recvBuffer recvData mem).1 ↔ BeginsMessage s.stream := by
  rw [← not_iff_not, Int.not_lt, recvMessageFromSocket_nonpos_iff, BeginsMessage]
  omega

/-! ### Descriptors -/

/-- The read delivers this frame: its header covers what was read. -/
def DeviceRead.Delivers (r : DeviceRead) (f : Frame) : Prop :=
  ∃ bs hne hle, CoversData bs ∧ r = .frame bs hne hle ∧ f = .ofRead bs hle

/-- A well-formed frame is delivered as it is. -/
theorem Frame.delivers_bytes (f : Frame) :
    (DeviceRead.frame f.bytes f.bytes_ne_nil f.length_bytes_le).Delivers f :=
  ⟨f.bytes, f.bytes_ne_nil, f.length_bytes_le, f.coversData_bytes, rfl, f.ofRead_bytes.symm⟩

/-- The reads of a device deliver these frames, and then fail. -/
def ReadsFrames : List Frame → (ℕ → DeviceRead) → Prop
  | [], reads => ∃ e, reads 0 = .fail e
  | f :: fs, reads => (reads 0).Delivers f ∧ ReadsFrames fs fun k => reads (k + 1)

/-- The descriptor delivers these messages one after another, and then no more. -/
def Filedes.Carries (fs : List Frame) : Filedes → Prop
  | .sock s => messagesOf s.stream = fs
  | .chr reads => ReadsFrames fs reads
  | .other => fs = []

/-- The next message is delivered, and the descriptor carries the others. -/
theorem Filedes.Carries.receive_cons {f : Frame} {fs : List Frame} {fd : Filedes}
    (h : fd.Carries (f :: fs)) (tmpbuf : ByteRegion) (recvBuffer : MessageStruct)
    (recvData : BytePtr) (mem : Memory) :
    ∃ ret tmpbuf' mem' fd', gmsrRecvMessageGeneric fd tmpbuf recvBuffer recvData mem =
      (⟨ret, tmpbuf', ⟨f.head, recvData⟩, Memory.store mem' recvData 0 f.data⟩, fd') ∧ 0 < ret ∧
      fd'.Carries fs := by
  cases fd with
  | sock s =>
    obtain ⟨rest, hs, hne, hfs⟩ := exists_of_messagesOf_eq_cons h
    obtain ⟨sched, hrecv⟩ := recvMessageFromSocket_frame s recvBuffer recvData mem f rest hs
    refine ⟨_, tmpbuf, mem, .sock ⟨rest, s.ending, sched⟩, ?_,
      Int.natCast_pos.mpr (List.length_pos_iff.mpr hne), hfs⟩
    rw [gmsrRecvMessageGeneric, hrecv]
  | chr reads =>
    obtain ⟨⟨bs, hne, hle, hcover, hread, rfl⟩, hfs⟩ := h
    obtain ⟨mem', hrecv⟩ := recvMessageFromFile_covered hcover
    refine ⟨_, Region.store tmpbuf 0 bs, mem', .chr fun k => reads (k + 1), ?_,
      Int.natCast_pos.mpr (List.length_pos_iff.mpr hne), hfs⟩
    rw [gmsrRecvMessageGeneric, hread, hrecv]
  | other => exact absurd h (List.cons_ne_nil _ _)

/-- After the last message, a receive does not return a positive value. -/
theorem Filedes.Carries.receive_nil {fd : Filedes} (h : fd.Carries []) (tmpbuf : ByteRegion)
    (recvBuffer : MessageStruct) (recvData : BytePtr) (mem : Memory) :
    (gmsrRecvMessageGeneric fd tmpbuf recvBuffer recvData mem).1.ret ≤ 0 := by
  cases fd with
  | sock s =>
    have hnot := messagesOf_eq_nil_iff.mp h
    rw [← recvMessageFromSocket_pos_iff s recvBuffer recvData mem, Int.not_lt] at hnot
    exact hnot
  | chr reads =>
    obtain ⟨e, hread⟩ := h
    rw [gmsrRecvMessageGeneric, hread]
    show gmsrShortrd ≤ 0
    decide
  | other =>
    show gmsrFderr ≤ 0
    decide

/-- A socket carries the frames with data that its stream consists of, however `recv` cuts it. -/
theorem Filedes.carries_sock {fs : List Frame} (hne : ∀ f ∈ fs, f.data ≠ []) (ending : Ending)
    (sched : ℕ → ℕ) : (Filedes.sock ⟨fs.flatMap Frame.bytes, ending, sched⟩).Carries fs := by
  have hmessages := messagesOf_flatMap_append hne []
  have hnil : messagesOf [] = [] := messagesOf_eq_nil_iff.mpr (by decide)
  rwa [List.append_nil, hnil, List.append_nil] at hmessages

theorem Filedes.carries_frame {f : Frame} (hne : f.data ≠ []) (ending : Ending) (sched : ℕ → ℕ) :
    (Filedes.sock ⟨f.bytes, ending, sched⟩).Carries [f] := by
  have hcarries := Filedes.carries_sock (List.forall_mem_singleton.mpr hne) ending sched
  rwa [List.flatMap_singleton] at hcarries

end TestDomApp
