import TestDomApp.Message.Equiv.RoundTrip

/-!
# What a device delivers

`gmsr_recvMessageFromFile` copies as many data bytes as the header announces, and then sets the
length by the number of bytes read.  So it corrects a header that announces too much
(`recvMessageFromFile_covered`); where one announces too little, the message ends with bytes that
were in the buffer before (`recvMessageFromFile_byte`), and a frame shorter than a header is
completed from the static buffer.  What is delivered depends on nothing but the frame exactly when
the header covers it (`recvMessageFromFile_determined_iff`).
-/

namespace TestDomApp

open Region

/-- There is a header, and it announces no fewer bytes than stand behind it. -/
def CoversData (bs : List UInt8) : Prop :=
  msgHdrLen ≤ bs.length ∧ bs.length - msgHdrLen ≤ (Head.ofBytes bs).dataLen

instance (bs : List UInt8) : Decidable (CoversData bs) := inferInstanceAs (Decidable (_ ∧ _))

/-- What was read as a frame: the length in the header is put right. -/
def Frame.ofRead (bs : List UInt8) (hle : bs.length ≤ maxdataValue + msgHdrLen) : Frame where
  head := (Message.setLengthBytes ⟨Head.ofBytes bs, .null⟩ (bs.drop msgHdrLen).length).head
  data := bs.drop msgHdrLen
  len_eq := by
    have hlen : (bs.drop msgHdrLen).length ≤ maxdataValue := by
      rw [List.length_drop]
      omega
    have hmax : maxdataValue = 4088 := rfl
    have hset := Message.dataLen_setLengthBytes ⟨Head.ofBytes bs, .null⟩ (bs.drop msgHdrLen).length
    refine hset.trans ?_
    omega
  len_le := by
    rw [List.length_drop]
    omega

/-- A well-formed frame is read as it is. -/
theorem Frame.ofRead_bytes (f : Frame) : Frame.ofRead f.bytes f.length_bytes_le = f := by
  have hdrop : f.bytes.drop msgHdrLen = f.data := rfl
  have hhead : Head.ofBytes f.bytes = f.head := Head.ofBytes_bytes_append _ _
  have hself := Message.setLengthBytes_self ⟨f.head, .null⟩
  rw [f.dataLen_mk] at hself
  apply Frame.ext_of_head_data
  · show (Message.setLengthBytes ⟨Head.ofBytes f.bytes, .null⟩ _).head = f.head
    rw [hhead, hdrop, hself]
  · exact hdrop

theorem Frame.coversData_bytes (f : Frame) : CoversData f.bytes := by
  have hhead : Head.ofBytes f.bytes = f.head := Head.ofBytes_bytes_append _ _
  have hlen := f.length_bytes
  have heq := f.len_eq
  unfold CoversData
  rw [hhead]
  omega

/-- The number of data bytes that are copied. -/
def toCopy (bs : List UInt8) : ℕ := min (Head.ofBytes bs).dataLen maxdataValue

variable {bs : List UInt8} {hne : bs ≠ []} {hle : bs.length ≤ maxdataValue + msgHdrLen}
  {tmpbuf : ByteRegion} {recvBuffer : MessageStruct} {recvData : BytePtr} {mem : Memory}

/-- A read that contains a header. -/
theorem recvMessageFromFile_of_header (h : msgHdrLen ≤ bs.length) :
    gmsrRecvMessageFromFile (.frame bs hne hle) tmpbuf recvBuffer recvData mem =
      ((bs.length : ℤ), store tmpbuf 0 bs, ⟨(Frame.ofRead bs hle).head, recvData⟩,
        mem.store recvData 0 (load (store tmpbuf 0 bs) msgHdrLen (toCopy bs))) := by
  have hhead : Head.ofRegion (store tmpbuf 0 bs) = Head.ofBytes bs := Head.ofRegion_store h
  have hsub : (bs.length : ℤ) - msgHdrLen = (bs.drop msgHdrLen).length := by
    rw [List.length_drop]
    omega
  have hcopy : (if (Head.ofBytes bs).dataLen > maxdataValue then maxdataValue
      else (Head.ofBytes bs).dataLen) = toCopy bs := by
    unfold toCopy
    split_ifs <;> omega
  rw [gmsrRecvMessageFromFile]
  simp only [hhead, Message.dataLen, hcopy, hsub]
  rfl

/-- **The data bytes that are delivered**: those of the frame, as far as its header announces them,
and behind them those that were there before. -/
theorem recvMessageFromFile_byte (h : msgHdrLen ≤ bs.length) {i : ℕ}
    (hi : i < bs.length - msgHdrLen) :
    (gmsrRecvMessageFromFile (.frame bs hne hle) tmpbuf recvBuffer recvData mem).2.2.2 recvData i =
      if i < (Head.ofBytes bs).dataLen then bs.getD (msgHdrLen + i) 0 else mem recvData i := by
  have hbound : msgHdrLen + i < bs.length := by omega
  rw [recvMessageFromFile_of_header h]
  show mem.store recvData 0 _ recvData i = _
  rw [Memory.store_same]
  by_cases hcopied : i < (Head.ofBytes bs).dataLen
  · have hlen : i < (load (store tmpbuf 0 bs) msgHdrLen (toCopy bs)).length := by
      rw [length_load, toCopy]
      omega
    rw [if_pos hcopied, store_zero_apply hlen]
    simp [load, store_zero_apply hbound, List.getD_eq_getElem?_getD, hbound]
  · rw [if_neg hcopied, store_of_le]
    rw [length_load, toCopy]
    omega

/-- **A header that announces too much is corrected**: the frame is delivered as it was read. -/
theorem recvMessageFromFile_covered (h : CoversData bs) :
    ∃ mem' : Memory, gmsrRecvMessageFromFile (.frame bs hne hle) tmpbuf recvBuffer recvData mem =
      ((bs.length : ℤ), store tmpbuf 0 bs, ⟨(Frame.ofRead bs hle).head, recvData⟩,
        mem'.store recvData 0 (Frame.ofRead bs hle).data) := by
  obtain ⟨hhdr, hcover⟩ := h
  have hr := @recvMessageFromFile_of_header bs hne hle tmpbuf recvBuffer recvData mem hhdr
  obtain ⟨mem', hmem⟩ : ∃ mem', (gmsrRecvMessageFromFile (.frame bs hne hle) tmpbuf recvBuffer
    recvData mem).2.2.2 = mem' := ⟨_, rfl⟩
  -- The data of the frame are there, so storing them again changes nothing.
  have hself : mem'.store recvData 0 (bs.drop msgHdrLen) = mem' := by
    rw [Memory.store, store_eq_self, Function.update_eq_self]
    intro i hi
    rw [List.length_drop] at hi
    rw [← hmem, recvMessageFromFile_byte hhdr hi, if_pos (by omega)]
    simp [List.getD_eq_getElem?_getD, show msgHdrLen + i < bs.length by omega]
  refine ⟨mem', ?_⟩
  show _ = (_, _, _, mem'.store recvData 0 (bs.drop msgHdrLen))
  rw [hself, ← hmem, hr]

/-- **When a device read determines what is delivered**: whatever the buffers held before, the
message is the same exactly when the frame has a header and the header covers it. -/
theorem recvMessageFromFile_determined_iff (bs : List UInt8) (hne : bs ≠ [])
    (hle : bs.length ≤ maxdataValue + msgHdrLen) (recvBuffer : MessageStruct) (recvData : BytePtr) :
    (∀ (tmpbuf₁ tmpbuf₂ : ByteRegion) (mem₁ mem₂ : Memory),
      let r₁ := gmsrRecvMessageFromFile (.frame bs hne hle) tmpbuf₁ recvBuffer recvData mem₁
      let r₂ := gmsrRecvMessageFromFile (.frame bs hne hle) tmpbuf₂ recvBuffer recvData mem₂
      content r₁.2.2.1 r₁.2.2.2 = content r₂.2.2.1 r₂.2.2.2) ↔ CoversData bs := by
  constructor
  · intro hall
    -- The last byte of a header that is not complete comes from the static buffer.
    have hhdr : msgHdrLen ≤ bs.length := by
      by_contra hshort
      have hhead := congrArg (fun x => x.1.status)
        (hall (fun _ => 0) (fun _ => 1) (fun _ _ => 0) fun _ _ => 0)
      have hstatus : ∀ tmpbuf : ByteRegion, store tmpbuf 0 bs 7 = tmpbuf 7 := by
        intro tmpbuf
        apply store_of_le
        unfold msgHdrLen at hshort
        omega
      have hbytes : store (fun _ => 0) 0 bs 7 = store (fun _ => 1) 0 bs 7 := hhead
      rw [hstatus, hstatus] at hbytes
      exact absurd hbytes (by decide)
    refine ⟨hhdr, ?_⟩
    -- The first data byte that is not announced comes from the data buffer.
    by_contra hmore
    have hdata := hall (fun _ => 0) (fun _ => 0) (fun _ _ => 0) fun _ _ => 1
    have hbyte : ∀ mem : Memory, (content
        (gmsrRecvMessageFromFile (.frame bs hne hle) (fun _ => 0) recvBuffer recvData mem).2.2.1
        (gmsrRecvMessageFromFile (.frame bs hne hle) (fun _ => 0) recvBuffer recvData
          mem).2.2.2).2[(Head.ofBytes bs).dataLen]? =
            some (mem recvData (Head.ofBytes bs).dataLen) := by
      intro mem
      have hlt : (Head.ofBytes bs).dataLen < bs.length - msgHdrLen := by omega
      have hb := @recvMessageFromFile_byte bs hne hle (fun _ => 0) recvBuffer recvData mem hhdr _
        hlt
      rw [if_neg (lt_irrefl _)] at hb
      have hmsg : (gmsrRecvMessageFromFile (.frame bs hne hle) (fun _ => 0) recvBuffer recvData
          mem).2.2.1 = ⟨(Frame.ofRead bs hle).head, recvData⟩ := by
        rw [recvMessageFromFile_of_header hhdr]
      have hlen : Message.dataLen ⟨(Frame.ofRead bs hle).head, recvData⟩ =
          bs.length - msgHdrLen := by
        rw [Frame.dataLen_mk]
        exact List.length_drop
      rw [content, hmsg, hlen]
      simp [load, hlt, hb]
    have hsome := congrArg (fun x => x.2[(Head.ofBytes bs).dataLen]?) hdata
    rw [hbyte, hbyte] at hsome
    exact absurd hsome (by decide)
  · intro hcover tmpbuf₁ tmpbuf₂ mem₁ mem₂
    obtain ⟨mem₁', h₁⟩ := @recvMessageFromFile_covered bs hne hle tmpbuf₁ recvBuffer recvData mem₁
      hcover
    obtain ⟨mem₂', h₂⟩ := @recvMessageFromFile_covered bs hne hle tmpbuf₂ recvBuffer recvData mem₂
      hcover
    rw [h₁, h₂]
    exact (content_store _ _ _).trans (content_store _ _ _).symm

/-- A header that announces five bytes before two: the two are delivered. -/
theorem recvMessageFromFile_determined_iff_five :
    let bs : List UInt8 := [1, 18, 0, 5, 0, 0, 0, 0, 65, 66]
    let r₁ := gmsrRecvMessageFromFile (.frame bs (by simp [bs]) (by decide)) (fun _ => 7)
      ⟨default, .null⟩ (.msgData 0) fun _ _ => 0
    let r₂ := gmsrRecvMessageFromFile (.frame bs (by simp [bs]) (by decide)) (fun _ => 9)
      ⟨default, .null⟩ (.msgData 0) fun _ _ => 1
    content r₁.2.2.1 r₁.2.2.2 = content r₂.2.2.1 r₂.2.2.2 :=
  (recvMessageFromFile_determined_iff _ _ _ _ _).mpr (by decide) _ _ _ _

end TestDomApp
