import TestDomApp.Message.Equiv.RoundTrip

/-!
# Receiving arbitrary input

What the receivers make of bytes that need not be a message.  The socket receiver parses every
stream as if it were read in one go, whatever the pieces `recv` hands over: `ParsesStream` says
what it returns, consumes and stores by the stream alone (`recvMessageFromSocket_parses`).

The device receiver takes every frame, so it is right about the well-formed ones only
(`recvMessageFromFile_accepts_iff`).
-/

namespace TestDomApp

open Region

/-! ### The socket receiver -/

theorem Ending.early_eof : Ending.eof.early = gmsrEof := rfl

theorem Ending.early_error (e : ℕ) : (Ending.error e).early = -(e + 1) := by
  have hne : (Ending.error e).ret ≠ 0 := by
    rw [Ending.ret]
    omega
  rw [Ending.early, if_neg hne, Ending.ret]

/-- A receive from the socket `s` into `recvBuffer` and `recvData` has done what parsing the stream
in one go calls for. -/
structure ParsesStream (s : Sock) (recvBuffer : MessageStruct) (recvData : BytePtr) (mem : Memory)
    (r : ℤ × MessageStruct × Memory × Sock) : Prop where
  /-- A stream that ends inside the header or the data. -/
  incomplete : s.stream.length < msgHdrLen ∨
      (Head.ofBytes s.stream).dataLen ≤ maxdataValue ∧
        s.stream.length < msgHdrLen + (Head.ofBytes s.stream).dataLen →
    (s.ending = .eof → r.1 = gmsrEof) ∧ ∀ e, s.ending = .error e → r.1 = -(e + 1)
  /-- Without a complete header no data is stored. -/
  headerShort : s.stream.length < msgHdrLen → r.2.2.1 = mem
  /-- A header that announces too much. -/
  badLength : msgHdrLen ≤ s.stream.length → maxdataValue < (Head.ofBytes s.stream).dataLen →
    r.1 = gmsrBaddata ∧ r.2.2.2.stream = s.stream.drop msgHdrLen ∧ r.2.2.1 = mem
  /-- A complete message. -/
  complete : (Head.ofBytes s.stream).dataLen ≤ maxdataValue →
    msgHdrLen + (Head.ofBytes s.stream).dataLen ≤ s.stream.length →
    r.1 = (Head.ofBytes s.stream).dataLen ∧
      r.2.2.2.stream = s.stream.drop (msgHdrLen + (Head.ofBytes s.stream).dataLen) ∧
      r.2.1.head.bytes = s.stream.take msgHdrLen ∧ r.2.1.data = recvData ∧
      (content r.2.1 r.2.2.1).2
        = (s.stream.drop msgHdrLen).take (Head.ofBytes s.stream).dataLen
  /-- The header loop, whatever it is to fill, stores nothing behind the bytes of the header. -/
  headerStored : ∀ (buf : ByteRegion) (i : ℕ), msgHdrLen ≤ i →
    (recvLoop msgHdrLen buf 0 0 s).2.1 i = buf i
  /-- Nothing is stored outside the first bytes of the data array. -/
  stored : ∀ p i, p ≠ recvData ∨ (Head.ofBytes s.stream).dataLen ≤ i → r.2.2.1 p i = mem p i
  /-- A receive that fails keeps the data pointer. -/
  data_kept : r.1 < 0 → r.2.1.data = recvBuffer.data

/-- What a `memcpy` to the front of an array leaves alone. -/
theorem Memory.store_zero_frame (mem : Memory) (p : BytePtr) {bs : List UInt8} {n : ℕ}
    (hn : bs.length ≤ n) (p' : BytePtr) (i : ℕ) (h : p' ≠ p ∨ n ≤ i) :
    mem.store p 0 bs p' i = mem p' i := by
  by_cases hp : p' = p
  · subst hp
    rcases h with h | h
    · exact absurd rfl h
    · rw [Memory.store_same, store_of_le (by omega)]
  · rw [Memory.store, Function.update_of_ne hp]

/-- The receiving loop leaves alone what is behind the bytes it waits for. -/
theorem recvLoop_of_le (n : ℕ) (s : Sock) (buf : ByteRegion) (i : ℕ) (hi : n ≤ i) :
    (recvLoop n buf 0 0 s).2.1 i = buf i := by
  obtain ⟨bs, hlen, heq⟩ := exists_recvLoop_eq n buf 0 0 s
  rw [heq, store_of_le (by omega)]

/-- **Every stream is parsed**, well-formed or not and however `recv` cuts it: the value returned,
the bytes consumed, the message and what is stored are those of reading the stream in one go. -/
theorem recvMessageFromSocket_parses (s : Sock) (recvBuffer : MessageStruct) (recvData : BytePtr)
    (mem : Memory) :
    ParsesStream s recvBuffer recvData mem
      (gmsrRecvMessageFromSocket s recvBuffer recvData mem) := by
  have hearly : (s.ending = .eof → s.ending.early = gmsrEof) ∧
      ∀ e, s.ending = .error e → s.ending.early = -(e + 1) := by
    constructor
    · intro he
      rw [he, Ending.early_eof]
    · intro e he
      rw [he, Ending.early_error]
  by_cases h₁ : s.stream.length < msgHdrLen
  · obtain ⟨hd, sched, heq⟩ := recvMessageFromSocket_header_short s recvBuffer recvData mem h₁
    rw [heq]
    exact {
      incomplete := fun _ => hearly
      headerShort := fun _ => rfl
      badLength := fun h => absurd h₁ (not_lt.mpr h)
      complete := fun _ h => by omega
      headerStored := recvLoop_of_le msgHdrLen s
      stored := fun _ _ _ => rfl
      data_kept := fun _ => rfl }
  rw [not_lt] at h₁
  by_cases h₂ : maxdataValue < (Head.ofBytes s.stream).dataLen
  · obtain ⟨sched, heq⟩ := recvMessageFromSocket_bad_length s recvBuffer recvData mem h₁ h₂
    rw [heq]
    exact {
      incomplete := fun h => by omega
      headerShort := fun _ => rfl
      badLength := fun _ _ => ⟨rfl, rfl, rfl⟩
      complete := fun h => absurd h₂ (not_lt.mpr h)
      headerStored := recvLoop_of_le msgHdrLen s
      stored := fun _ _ _ => rfl
      data_kept := fun _ => rfl }
  rw [not_lt] at h₂
  by_cases h₃ : s.stream.length < msgHdrLen + (Head.ofBytes s.stream).dataLen
  · obtain ⟨sched, heq⟩ := recvMessageFromSocket_data_short s recvBuffer recvData mem h₁ h₂ h₃
    rw [heq]
    exact {
      incomplete := fun _ => hearly
      headerShort := fun h => absurd h (not_lt.mpr h₁)
      badLength := fun _ h => absurd h₂ (not_le.mpr h)
      complete := fun _ h => absurd h₃ (not_lt.mpr h)
      headerStored := recvLoop_of_le msgHdrLen s
      stored := mem.store_zero_frame recvData (by rw [List.length_drop]; omega)
      data_kept := fun _ => rfl }
  rw [not_lt] at h₃
  -- A complete message is a frame at the front of the stream.
  obtain ⟨f, rest, hs, hhead⟩ := Frame.exists_of_stream h₁ h₂ h₃
  obtain ⟨sched, heq⟩ := recvMessageFromSocket_frame s recvBuffer recvData mem f rest hs
  have hdrop : s.stream.drop msgHdrLen = f.data ++ rest := by
    rw [hs, Frame.bytes, List.append_assoc]
    rfl
  rw [heq]
  rw [← hhead, f.len_eq] at h₂ h₃
  constructor
  · rw [← hhead, f.len_eq]
    intro h
    omega
  · intro h
    exact absurd h (not_lt.mpr h₁)
  · rw [← hhead, f.len_eq]
    intro _ h
    omega
  · rw [← hhead, f.len_eq]
    intro _ _
    refine ⟨rfl, ?_, ?_, rfl, ?_⟩
    · rw [← List.drop_drop, hdrop, List.drop_left]
    · rw [hhead, Head.bytes_ofBytes h₁]
    · rw [content_store, hdrop, List.take_left]
  · exact recvLoop_of_le msgHdrLen s
  · rw [← hhead, f.len_eq]
    exact mem.store_zero_frame recvData le_rfl
  · intro h
    dsimp only at h
    omega

/-! ### The device receiver -/

/-- The bytes of a frame: a header and as many bytes as it announces. -/
def IsFrame (bs : List UInt8) : Prop :=
  msgHdrLen ≤ bs.length ∧ (Head.ofBytes bs).dataLen = bs.length - msgHdrLen

instance (bs : List UInt8) : Decidable (IsFrame bs) := inferInstanceAs (Decidable (_ ∧ _))

theorem IsFrame.exists_eq {bs : List UInt8} (h : IsFrame bs)
    (hle : bs.length ≤ maxdataValue + msgHdrLen) : ∃ f : Frame, f.bytes = bs := by
  obtain ⟨h₁, h₂⟩ := h
  obtain ⟨f, rest, hs, hhead⟩ := Frame.exists_of_stream h₁ (by omega) (by omega)
  have hlen := congrArg List.length hs
  rw [List.length_append, f.length_bytes, ← f.len_eq, hhead] at hlen
  obtain rfl := List.length_eq_zero_iff.mp (show rest.length = 0 by omega)
  exact ⟨f, by rw [hs, List.append_nil]⟩

/-- A receive from a device accepts well-formed frames only, and delivers what it accepts: the
header, and the rest of the frame as data. -/
def AcceptsFrames (bs : List UInt8) (r : ℤ × ByteRegion × MessageStruct × Memory) : Prop :=
  (0 < r.1 ↔ IsFrame bs) ∧
    (0 < r.1 → (content r.2.2.1 r.2.2.2).1.bytes = bs.take msgHdrLen ∧
      Message.dataLen r.2.2.1 = bs.length - msgHdrLen ∧
      (content r.2.2.1 r.2.2.2).2 = bs.drop msgHdrLen)

/-- **When a receive from a device is right.**  Whatever the static buffer and the receive buffer
held, `gmsr_recvMessageFromFile` accepts and delivers a frame as it should exactly when the frame is
well-formed. -/
theorem recvMessageFromFile_accepts_iff (bs : List UInt8) (hpos : bs ≠ [])
    (hle : bs.length ≤ maxdataValue + msgHdrLen) (tmpbuf : ByteRegion) (recvBuffer : MessageStruct)
    (recvData : BytePtr) (mem : Memory) :
    AcceptsFrames bs (gmsrRecvMessageFromFile (.frame bs hpos hle) tmpbuf recvBuffer recvData mem) ↔
      IsFrame bs := by
  constructor
  · rintro ⟨hiff, -⟩
    -- The value returned is the number of bytes read.
    have hret : (0 : ℤ) < bs.length := by
      have := List.length_pos_iff.mpr hpos
      omega
    exact hiff.mp hret
  · intro hframe
    obtain ⟨f, rfl⟩ := hframe.exists_eq hle
    rw [recvMessageFromFile_frame]
    refine ⟨iff_of_true ?_ hframe, fun _ => ⟨rfl, ?_, ?_⟩⟩
    · have := List.length_pos_iff.mpr f.bytes_ne_nil
      dsimp only
      omega
    · rw [f.dataLen_mk, f.length_bytes, Nat.add_sub_cancel_left]
    · rw [content_store, Frame.bytes]
      rfl

/-- An echo request with one byte of data. -/
theorem recvMessageFromFile_accepts_iff_echo :
    AcceptsFrames [1, 18, 0, 1, 0, 0, 0, 0, 65] (gmsrRecvMessageFromFile
      (.frame [1, 18, 0, 1, 0, 0, 0, 0, 65] (by simp) (by decide)) (fun _ => 7)
      ⟨default, .null⟩ (.msgData 0) fun _ _ => 9) :=
  (recvMessageFromFile_accepts_iff _ _ _ _ _ _ _).mpr (by decide)

/-- A header that announces five bytes, and no data: the frame is accepted. -/
theorem recvMessageFromFile_accepts_short :
    ¬ ∀ (bs : List UInt8) (hpos : bs ≠ []) (hle : bs.length ≤ maxdataValue + msgHdrLen)
      (tmpbuf : ByteRegion) (recvBuffer : MessageStruct) (recvData : BytePtr) (mem : Memory),
      AcceptsFrames bs
        (gmsrRecvMessageFromFile (.frame bs hpos hle) tmpbuf recvBuffer recvData mem) := by
  intro hall
  obtain ⟨hiff, -⟩ := hall [1, 18, 0, 5, 0, 0, 0, 0] (by simp) (by decide) (fun _ => 0)
    ⟨default, .null⟩ (.msgData 0) fun _ _ => 0
  exact absurd (hiff.mp (show (0 : ℤ) < 8 by decide)) (by decide)

end TestDomApp
