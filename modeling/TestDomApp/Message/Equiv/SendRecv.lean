import TestDomApp.Message.Frame

/-!
# What the receivers deliver

The receiving loop does not depend on how `recv` cuts the stream: with enough bytes in it the
loop stores exactly the number asked for (`recvLoop_complete`), otherwise it stores what there is
and returns early (`recvLoop_incomplete`).  Both are proved by induction on the number of bytes
still to come, with the write position and the schedule generalized.

`gmsrRecvMessageFromSocket` has four outcomes, by the stream alone: the header is cut short, the
length is too large, the data is cut short, or a frame is delivered.

`gmsrRecvMessageFromFile` takes the number of bytes to copy from the header and the length from the
`read`; for a frame the two agree (`recvMessageFromFile_frame`).
-/

namespace TestDomApp

open Region

/-! ### The loop -/

/-- The value returned when the stream ends before the message is complete. -/
def Ending.early (e : Ending) : ℤ := if e.ret = 0 then gmsrEof else e.ret

theorem Ending.ret_le (e : Ending) : e.ret ≤ 0 := by
  cases e with
  | eof => simp [Ending.ret]
  | error e =>
    rw [Ending.ret]
    omega

theorem Ending.early_neg (e : Ending) : e.early < 0 := by
  have h := e.ret_le
  unfold Ending.early gmsrEof
  split_ifs <;> omega

/-- While there are bytes, `recv` hands over some of them, and no more than asked for. -/
theorem Sock.recv_of_ne_nil {s : Sock} {len : ℕ} (hs : s.stream ≠ []) (hlen : 0 < len) :
    ∃ k, 0 < k ∧ k ≤ len ∧ k ≤ s.stream.length ∧
      s.recv len = ((k : ℤ), s.stream.take k,
        ⟨s.stream.drop k, s.ending, fun i => s.sched (i + 1)⟩) := by
  have hpos := List.length_pos_iff.mpr hs
  refine ⟨min (min (s.sched 0 + 1) len) s.stream.length, by omega, by omega, by omega, ?_⟩
  rw [Sock.recv, if_neg hs]
  simp only [List.length_take]
  rw [List.take_eq_take_min]

theorem Sock.recv_of_nil {s : Sock} (hs : s.stream = []) (len : ℕ) :
    s.recv len = (s.ending.ret, [], s) := by
  rw [Sock.recv, if_pos hs]

/-- **Enough bytes**: the loop ends with exactly `n` of them stored, however they arrive. -/
theorem recvLoop_complete (n : ℕ) (buf : ByteRegion) (off recvBytes : ℕ) (s : Sock)
    (hn : n ≤ s.stream.length) :
    ∃ sched, recvLoop n buf off recvBytes s
      = (.ok (recvBytes + n), store buf off (s.stream.take n),
          ⟨s.stream.drop n, s.ending, sched⟩) := by
  induction n using Nat.strong_induction_on generalizing buf off recvBytes s with
  | _ n ih =>
  rw [recvLoop]
  by_cases h0 : n = 0
  · subst h0
    exact ⟨s.sched, by simp⟩
  rw [dif_neg h0]
  have hs : s.stream ≠ [] := by
    intro h
    rw [h, List.length_nil] at hn
    omega
  -- One call hands over `k` bytes; the rest is the induction hypothesis at `n - k`.
  obtain ⟨k, hk, hkn, hkl, hrecv⟩ := Sock.recv_of_ne_nil hs (Nat.pos_of_ne_zero h0)
  rw [hrecv]
  dsimp only
  rw [dif_neg (by omega), Int.toNat_natCast]
  obtain ⟨sched, hih⟩ := ih (n - k) (by omega) (store buf off (s.stream.take k)) (off + k)
    (recvBytes + k) ⟨s.stream.drop k, s.ending, fun i => s.sched (i + 1)⟩
    (by rw [List.length_drop]; omega)
  refine ⟨sched, ?_⟩
  have hoff : off + k = off + (s.stream.take k).length := by
    rw [List.length_take, Nat.min_eq_left hkl]
  have hbytes : s.stream.take k ++ (s.stream.drop k).take (n - k) = s.stream.take n := by
    rw [← List.take_add, Nat.add_sub_cancel' hkn]
  have hcount : recvBytes + k + (n - k) = recvBytes + n := by omega
  rw [hih, hcount, hoff, store_store, hbytes, List.drop_drop, Nat.add_sub_cancel' hkn]

/-- **Too few bytes**: the loop stores them all and returns what the end of the stream calls for. -/
theorem recvLoop_incomplete (n : ℕ) (buf : ByteRegion) (off recvBytes : ℕ) (s : Sock)
    (hn : s.stream.length < n) :
    ∃ sched, recvLoop n buf off recvBytes s
      = (.error s.ending.early, store buf off s.stream, ⟨[], s.ending, sched⟩) := by
  induction n using Nat.strong_induction_on generalizing buf off recvBytes s with
  | _ n ih =>
  rw [recvLoop, dif_neg (by omega)]
  by_cases hs : s.stream = []
  · rw [Sock.recv_of_nil hs]
    dsimp only
    rw [dif_pos s.ending.ret_le, hs, store_nil]
    exact ⟨s.sched, by rw [← hs]; rfl⟩
  obtain ⟨k, hk, hkn, hkl, hrecv⟩ := Sock.recv_of_ne_nil hs (show 0 < n by omega)
  rw [hrecv]
  dsimp only
  rw [dif_neg (by omega), Int.toNat_natCast]
  obtain ⟨sched, hih⟩ := ih (n - k) (by omega) (store buf off (s.stream.take k)) (off + k)
    (recvBytes + k) ⟨s.stream.drop k, s.ending, fun i => s.sched (i + 1)⟩
    (by rw [List.length_drop]; omega)
  refine ⟨sched, ?_⟩
  have hoff : off + k = off + (s.stream.take k).length := by
    rw [List.length_take, Nat.min_eq_left hkl]
  rw [hih, hoff, store_store, List.take_append_drop]

/-- The loop writes at most as many bytes as it waits for. -/
theorem exists_recvLoop_eq (n : ℕ) (buf : ByteRegion) (off recvBytes : ℕ) (s : Sock) :
    ∃ bs, bs.length ≤ n ∧ (recvLoop n buf off recvBytes s).2.1 = store buf off bs := by
  rcases le_or_gt n s.stream.length with hle | hlt
  · obtain ⟨sched, heq⟩ := recvLoop_complete n buf off recvBytes s hle
    exact ⟨s.stream.take n, List.length_take_le _ _, by rw [heq]⟩
  · obtain ⟨sched, heq⟩ := recvLoop_incomplete n buf off recvBytes s hlt
    exact ⟨s.stream, hlt.le, by rw [heq]⟩

/-! ### Headers -/

/-- The header at the front of a stream. -/
def Head.ofBytes (bs : List UInt8) : Head := Head.ofRegion fun i => bs.getD i 0

theorem Head.ofRegion_congr {r r' : ByteRegion} (h : ∀ i < msgHdrLen, r i = r' i) :
    Head.ofRegion r = Head.ofRegion r' := by
  have hr : ∀ i, i < 8 → r i = r' i := h
  simp [Head.ofRegion, hr]

/-- Eight bytes written over a header make the header they are. -/
theorem Head.ofRegion_store {r : ByteRegion} {bs : List UInt8} (h : msgHdrLen ≤ bs.length) :
    Head.ofRegion (store r 0 bs) = Head.ofBytes bs := by
  apply Head.ofRegion_congr
  intro i hi
  have hi' : i < bs.length := by omega
  rw [store_zero_apply hi', List.getD_eq_getElem?_getD, List.getElem?_eq_getElem hi',
    Option.getD_some]

theorem Head.ofBytes_take (bs : List UInt8) :
    Head.ofBytes (bs.take msgHdrLen) = Head.ofBytes bs := by
  apply Head.ofRegion_congr
  intro i hi
  simp [List.getD_eq_getElem?_getD, hi]

theorem Head.ofBytes_bytes_append (h : Head) (bs : List UInt8) :
    Head.ofBytes (h.bytes ++ bs) = h := rfl

theorem Head.bytes_ofBytes {bs : List UInt8} (h : msgHdrLen ≤ bs.length) :
    (Head.ofBytes bs).bytes = bs.take msgHdrLen := by
  rw [Head.ofBytes, Head.bytes_ofRegion]
  apply List.ext_getElem
  · simp
    omega
  · intro i hi hi'
    rw [List.length_take] at hi'
    have hlt : i < bs.length := by omega
    simp [load, List.getElem?_eq_getElem hlt]

namespace Frame

theorem ofBytes_append (f : Frame) (rest : List UInt8) : Head.ofBytes (f.bytes ++ rest) = f.head := by
  rw [bytes, List.append_assoc, Head.ofBytes_bytes_append]

/-- A stream with a header and as many bytes after it as the header announces begins with a
frame. -/
theorem exists_of_stream {bs : List UInt8} (h₁ : msgHdrLen ≤ bs.length)
    (h₂ : (Head.ofBytes bs).dataLen ≤ maxdataValue)
    (h₃ : msgHdrLen + (Head.ofBytes bs).dataLen ≤ bs.length) :
    ∃ (f : Frame) (rest : List UInt8), bs = f.bytes ++ rest ∧ f.head = Head.ofBytes bs := by
  have hlen : ((bs.drop msgHdrLen).take (Head.ofBytes bs).dataLen).length
      = (Head.ofBytes bs).dataLen := by
    rw [List.length_take, List.length_drop]
    omega
  refine ⟨⟨Head.ofBytes bs, (bs.drop msgHdrLen).take (Head.ofBytes bs).dataLen, hlen.symm,
    hlen.le.trans h₂⟩, (bs.drop msgHdrLen).drop (Head.ofBytes bs).dataLen, ?_, rfl⟩
  rw [bytes, Head.bytes_ofBytes h₁, List.append_assoc, List.take_append_drop,
    List.take_append_drop]

end Frame

/-! ### The socket receiver -/

variable (s : Sock) (recvBuffer : MessageStruct) (recvData : BytePtr) (mem : Memory)

/-- The stream ends inside the header. -/
theorem recvMessageFromSocket_header_short (h : s.stream.length < msgHdrLen) :
    ∃ hd sched, gmsrRecvMessageFromSocket s recvBuffer recvData mem
      = (s.ending.early, ⟨hd, recvBuffer.data⟩, mem, ⟨[], s.ending, sched⟩) := by
  obtain ⟨sched, hloop⟩ := recvLoop_incomplete _ recvBuffer.head.toRegion 0 0 s h
  rw [gmsrRecvMessageFromSocket, hloop]
  exact ⟨_, sched, rfl⟩

/-- The header announces too much. -/
theorem recvMessageFromSocket_bad_length (h : msgHdrLen ≤ s.stream.length)
    (hbad : maxdataValue < (Head.ofBytes s.stream).dataLen) :
    ∃ sched, gmsrRecvMessageFromSocket s recvBuffer recvData mem
      = (gmsrBaddata, ⟨Head.ofBytes s.stream, recvBuffer.data⟩, mem,
          ⟨s.stream.drop msgHdrLen, s.ending, sched⟩) := by
  obtain ⟨sched, hloop⟩ := recvLoop_complete _ recvBuffer.head.toRegion 0 0 s h
  rw [gmsrRecvMessageFromSocket, hloop]
  dsimp only
  rw [Head.ofRegion_store (by rw [List.length_take]; omega), Head.ofBytes_take, if_pos (by exact hbad)]
  exact ⟨sched, rfl⟩

/-- The stream ends inside the data. -/
theorem recvMessageFromSocket_data_short (h : msgHdrLen ≤ s.stream.length)
    (hlen : (Head.ofBytes s.stream).dataLen ≤ maxdataValue)
    (hshort : s.stream.length < msgHdrLen + (Head.ofBytes s.stream).dataLen) :
    ∃ sched, gmsrRecvMessageFromSocket s recvBuffer recvData mem
      = (s.ending.early, ⟨Head.ofBytes s.stream, recvBuffer.data⟩,
          mem.store recvData 0 (s.stream.drop msgHdrLen), ⟨[], s.ending, sched⟩) := by
  obtain ⟨sched₁, hloop₁⟩ := recvLoop_complete _ recvBuffer.head.toRegion 0 0 s h
  obtain ⟨sched₂, hloop₂⟩ := recvLoop_incomplete (Head.ofBytes s.stream).dataLen (mem recvData) 0 0
    ⟨s.stream.drop msgHdrLen, s.ending, sched₁⟩ (by rw [List.length_drop]; omega)
  rw [gmsrRecvMessageFromSocket, hloop₁]
  dsimp only
  rw [Head.ofRegion_store (by rw [List.length_take]; omega), Head.ofBytes_take,
    if_neg (by simpa [Message.dataLen] using hlen)]
  dsimp only [Message.dataLen]
  rw [hloop₂]
  exact ⟨sched₂, rfl⟩

/-- **A frame at the front of the stream is delivered**, whatever follows it and however `recv`
cuts the stream. -/
theorem recvMessageFromSocket_frame (f : Frame) (rest : List UInt8)
    (h : s.stream = f.bytes ++ rest) :
    ∃ sched, gmsrRecvMessageFromSocket s recvBuffer recvData mem
      = ((f.data.length : ℤ), ⟨f.head, recvData⟩, mem.store recvData 0 f.data,
          ⟨rest, s.ending, sched⟩) := by
  have hlen : s.stream.length = msgHdrLen + f.data.length + rest.length := by
    rw [h, List.length_append, f.length_bytes]
  have hdrop : s.stream.drop msgHdrLen = f.data ++ rest := by
    rw [h, Frame.bytes, List.append_assoc]
    rfl
  have hhead : Head.ofBytes s.stream = f.head := by
    rw [h, f.ofBytes_append]
  obtain ⟨sched₁, hloop₁⟩ := recvLoop_complete msgHdrLen recvBuffer.head.toRegion 0 0 s (by omega)
  obtain ⟨sched₂, hloop₂⟩ := recvLoop_complete f.data.length (mem recvData) 0 0
    ⟨s.stream.drop msgHdrLen, s.ending, sched₁⟩ (by rw [hdrop, List.length_append]; omega)
  rw [gmsrRecvMessageFromSocket, hloop₁]
  dsimp only
  rw [Head.ofRegion_store (by rw [List.length_take]; omega), Head.ofBytes_take, hhead,
    f.dataLen_mk, if_neg (by simpa using f.len_le), hloop₂]
  refine ⟨sched₂, ?_⟩
  -- `Message_setData` stores the length the header has already.
  have hset : Message.setData ⟨f.head, recvBuffer.data⟩ recvData ((0 + f.data.length : ℕ) : ℤ)
      = ⟨f.head, recvData⟩ := by
    have hself := Message.setLengthBytes_self ⟨f.head, recvData⟩
    rw [f.dataLen_mk] at hself
    rw [Nat.zero_add]
    exact hself
  dsimp only
  rw [hset, f.dataLen_mk, hdrop, List.take_left, List.drop_left]
  rfl

/-- The receiver reports an error when no message is complete. -/
theorem recvMessageFromSocket_neg_iff :
    (gmsrRecvMessageFromSocket s recvBuffer recvData mem).1 < 0 ↔
      s.stream.length < msgHdrLen ∨ maxdataValue < (Head.ofBytes s.stream).dataLen ∨
      s.stream.length < msgHdrLen + (Head.ofBytes s.stream).dataLen := by
  have hearly := s.ending.early_neg
  by_cases h₁ : s.stream.length < msgHdrLen
  · obtain ⟨hd, sched, heq⟩ := recvMessageFromSocket_header_short s recvBuffer recvData mem h₁
    rw [heq]
    exact ⟨fun _ => Or.inl h₁, fun _ => hearly⟩
  rw [not_lt] at h₁
  by_cases h₂ : maxdataValue < (Head.ofBytes s.stream).dataLen
  · obtain ⟨sched, heq⟩ := recvMessageFromSocket_bad_length s recvBuffer recvData mem h₁ h₂
    rw [heq]
    exact ⟨fun _ => Or.inr (Or.inl h₂), fun _ => by show gmsrBaddata < 0; decide⟩
  rw [not_lt] at h₂
  by_cases h₃ : s.stream.length < msgHdrLen + (Head.ofBytes s.stream).dataLen
  · obtain ⟨sched, heq⟩ := recvMessageFromSocket_data_short s recvBuffer recvData mem h₁ h₂ h₃
    rw [heq]
    exact ⟨fun _ => Or.inr (Or.inr h₃), fun _ => hearly⟩
  rw [not_lt] at h₃
  obtain ⟨f, rest, hs, hhead⟩ := Frame.exists_of_stream h₁ h₂ h₃
  obtain ⟨sched, heq⟩ := recvMessageFromSocket_frame s recvBuffer recvData mem f rest hs
  rw [heq]
  dsimp only
  omega

/-- A value that is no error means that a frame was delivered. -/
theorem exists_frame_of_recv_nonneg
    (hret : 0 ≤ (gmsrRecvMessageFromSocket s recvBuffer recvData mem).1) :
    ∃ (f : Frame) (rest : List UInt8), s.stream = f.bytes ++ rest := by
  have hcond := mt (recvMessageFromSocket_neg_iff s recvBuffer recvData mem).mpr
    (Int.not_lt.mpr hret)
  rw [not_or, not_or, not_lt, not_lt, not_lt] at hcond
  obtain ⟨h₁, h₂, h₃⟩ := hcond
  obtain ⟨f, rest, hs, -⟩ := Frame.exists_of_stream h₁ h₂ h₃
  exact ⟨f, rest, hs⟩

/-- The receiver fails when no message is complete; a message without data gives the value `0`. -/
theorem recvMessageFromSocket_nonpos_iff :
    (gmsrRecvMessageFromSocket s recvBuffer recvData mem).1 ≤ 0 ↔
      s.stream.length < msgHdrLen ∨ maxdataValue < (Head.ofBytes s.stream).dataLen ∨
      s.stream.length < msgHdrLen + (Head.ofBytes s.stream).dataLen ∨
      (Head.ofBytes s.stream).dataLen = 0 := by
  rcases Int.lt_or_le (gmsrRecvMessageFromSocket s recvBuffer recvData mem).1 0 with hneg | hret
  · have hcond := (recvMessageFromSocket_neg_iff s recvBuffer recvData mem).mp hneg
    omega
  obtain ⟨f, rest, hs⟩ := exists_frame_of_recv_nonneg s recvBuffer recvData mem hret
  obtain ⟨sched, heq⟩ := recvMessageFromSocket_frame s recvBuffer recvData mem f rest hs
  have hlen : s.stream.length = msgHdrLen + f.data.length + rest.length := by
    rw [hs, List.length_append, f.length_bytes]
  have hle := f.len_le
  rw [heq, show Head.ofBytes s.stream = f.head by rw [hs, f.ofBytes_append], f.len_eq]
  dsimp only
  omega

/-! ### The device receiver -/

/-- **A frame delivered by one `read`**, whatever the static buffer held. -/
theorem recvMessageFromFile_frame (f : Frame) (tmpbuf : ByteRegion) :
    gmsrRecvMessageFromFile (.frame f.bytes f.bytes_ne_nil f.length_bytes_le) tmpbuf recvBuffer
        recvData mem
      = ((f.bytes.length : ℤ), store tmpbuf 0 f.bytes, ⟨f.head, recvData⟩,
          mem.store recvData 0 f.data) := by
  have hhead : Head.ofRegion (store tmpbuf 0 f.bytes) = f.head := by
    rw [Head.ofRegion_store (by rw [f.length_bytes]; omega), Frame.bytes,
      Head.ofBytes_bytes_append]
  have hcopy : load (store tmpbuf 0 f.bytes) msgHdrLen f.data.length = f.data := by
    have hall := load_store_self tmpbuf 0 f.bytes
    rw [f.length_bytes, load_add, Frame.bytes, Nat.zero_add] at hall
    exact (List.append_inj hall (by simp)).2
  have hlen := f.len_le
  rw [gmsrRecvMessageFromFile]
  simp only [hhead, f.dataLen_mk]
  rw [if_neg (by omega), hcopy]
  have hsub : (f.bytes.length : ℤ) - msgHdrLen = f.data.length := by
    rw [f.length_bytes]
    omega
  have hself := Message.setLengthBytes_self ⟨f.head, recvData⟩
  rw [f.dataLen_mk] at hself
  rw [hsub, Message.setData, hself]

/-! ### Either receiver -/

/-- Whatever is delivered is linked to the array it was received into; the value `0` is that of a
message without data. -/
theorem recvMessageGeneric_delivered (fd : Filedes) (tmpbuf : ByteRegion)
    (hret : 0 ≤ (gmsrRecvMessageGeneric fd tmpbuf recvBuffer recvData mem).1.ret) :
    let r := (gmsrRecvMessageGeneric fd tmpbuf recvBuffer recvData mem).1
    r.recvBuffer.data = recvData ∧ (r.ret = 0 → Message.dataLen r.recvBuffer = 0) := by
  cases fd with
  | sock s =>
    obtain ⟨f, rest, hs⟩ := exists_frame_of_recv_nonneg s recvBuffer recvData mem hret
    obtain ⟨sched, heq⟩ := recvMessageFromSocket_frame s recvBuffer recvData mem f rest hs
    rw [gmsrRecvMessageGeneric, heq]
    refine ⟨rfl, fun hzero => ?_⟩
    rw [f.dataLen_mk]
    exact Int.natCast_eq_zero.mp hzero
  | chr reads =>
    revert hret
    rw [gmsrRecvMessageGeneric]
    cases reads 0 with
    | frame bs hpos hle =>
      -- At least one byte has been read.
      have hlen := List.length_pos_iff.mpr hpos
      exact fun _ => ⟨rfl, fun hzero => absurd (Int.natCast_eq_zero.mp hzero) (by omega)⟩
    | fail e => exact fun hret => absurd hret (by show ¬ 0 ≤ gmsrShortrd; decide)
  | other => exact absurd hret (by show ¬ 0 ≤ gmsrFderr; decide)

end TestDomApp
