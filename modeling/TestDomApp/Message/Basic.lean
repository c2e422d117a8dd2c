import Mathlib.Logic.Function.Basic
import TestDomApp.Bytes.Region

/-!
# Messages

`MESSAGE_STRUCT` and its accessors (`public/message/message.h`, the first part of
`private/message/message.c`).  A message is an 8-byte header, which the union `HEAD` lets one read
as fields or as bytes, and a pointer to its data.  The data length is split over two header bytes,
high byte first.

Memory is one region of bytes behind every data pointer.  Where a pointer comes from is kept: the
static array `msgData[i]` of the buffer pool, or some other array of the program.
-/

namespace TestDomApp

/-- `MSG_HDR_LEN`: the bytes of a message header. -/
def msgHdrLen : ℕ := 8

/-- `MAXDATA_VALUE`: the most data bytes a message carries. -/
def maxdataValue : ℕ := 4096 - msgHdrLen

/-- The bytes a pointer points to, by offset. -/
abbrev ByteRegion := ℕ → UInt8

/-- A `UBYTE *`. -/
inductive BytePtr
  | null
  /-- `&msgData[i][0]` -/
  | msgData (i : ℕ)
  /-- Any other array. -/
  | other (a : ℕ)
  deriving DecidableEq, Repr

/-- The bytes behind every data pointer. -/
abbrev Memory := BytePtr → ByteRegion

/-- `memcpy(p + off, bs)` -/
def Memory.store (mem : Memory) (p : BytePtr) (off : ℕ) (bs : List UInt8) : Memory :=
  Function.update mem p (Region.store (mem p) off bs)

@[simp] theorem Memory.store_same (mem : Memory) (p : BytePtr) (off : ℕ) (bs : List UInt8) :
    mem.store p off bs p = Region.store (mem p) off bs := by
  simp [Memory.store]

/-- `struct HD`, the fields of a message header. -/
structure Head where
  mt : UInt8
  mst : UInt8
  dlenHI : UInt8
  dlenLO : UInt8
  res0 : UInt8
  res1 : UInt8
  msgID : UInt8
  status : UInt8
  deriving DecidableEq, Repr, Inhabited

namespace Head

/-- The bytes `h[MSG_HDR_LEN]` of the union. -/
def bytes (h : Head) : List UInt8 :=
  [h.mt, h.mst, h.dlenHI, h.dlenLO, h.res0, h.res1, h.msgID, h.status]

/-- The header whose bytes are the first `MSG_HDR_LEN` of a region. -/
def ofRegion (r : ByteRegion) : Head :=
  ⟨r 0, r 1, r 2, r 3, r 4, r 5, r 6, r 7⟩

/-- The header as memory to write to. -/
def toRegion (h : Head) : ByteRegion := fun i => h.bytes.getD i 0

/-- The length the header announces. -/
def dataLen (h : Head) : ℕ := h.dlenLO.toNat + (h.dlenHI.toNat <<< 8)

@[simp] theorem length_bytes (h : Head) : h.bytes.length = msgHdrLen := rfl

theorem bytes_ofRegion (r : ByteRegion) : (ofRegion r).bytes = Region.load r 0 msgHdrLen := by
  simp [bytes, ofRegion, Region.load, msgHdrLen, List.range_succ]

theorem bytes_injective : Function.Injective bytes := by
  rintro ⟨⟩ ⟨⟩ h
  simpa [bytes] using h

end Head

/-- `MESSAGE_STRUCT` -/
structure MessageStruct where
  head : Head
  data : BytePtr
  deriving DecidableEq, Repr

namespace Message

/-! ### Accessors -/

def getType (msg : MessageStruct) : UInt8 := msg.head.mt

def getSubtype (msg : MessageStruct) : UInt8 := msg.head.mst

def getStatus (msg : MessageStruct) : UInt8 := msg.head.status

def getData (msg : MessageStruct) : BytePtr := msg.data

/-- `dlenLO + (dlenHI << 8)` -/
def dataLen (msg : MessageStruct) : ℕ := msg.head.dataLen

def setType (msg : MessageStruct) (t : UInt8) : MessageStruct :=
  { msg with head := { msg.head with mt := t } }

def setSubtype (msg : MessageStruct) (st : UInt8) : MessageStruct :=
  { msg with head := { msg.head with mst := st } }

def setStatus (msg : MessageStruct) (status : UInt8) : MessageStruct :=
  { msg with head := { msg.head with status := status } }

/-- `l & 0xff` of a two's complement `int` -/
def lowByte (l : ℤ) : UInt8 := UInt8.ofNat (l % 256).toNat

/-- Both length bytes, from an `int` that nothing keeps from being negative or too large. -/
def setLengthBytes (msg : MessageStruct) (l : ℤ) : MessageStruct :=
  { msg with head := { msg.head with dlenLO := lowByte l, dlenHI := lowByte (l / 256) } }

/-- `Message_setData` links the data and stores the length as it is. -/
def setData (msg : MessageStruct) (d : BytePtr) (l : ℤ) : MessageStruct :=
  setLengthBytes { msg with data := d } l

/-- `Message_setDataLen` stores the length clamped to `MAXDATA_VALUE`. -/
def setDataLen (msg : MessageStruct) (l : ℤ) : MessageStruct :=
  setLengthBytes msg (if l > maxdataValue then maxdataValue else l)

section Lemmas

variable (msg : MessageStruct) (d : BytePtr) (l : ℤ) (st : UInt8)

@[simp] theorem setStatus_data : (setStatus msg st).data = msg.data := rfl
@[simp] theorem setDataLen_data : (setDataLen msg l).data = msg.data := rfl
@[simp] theorem setData_data : (setData msg d l).data = d := rfl
@[simp] theorem getStatus_setStatus : getStatus (setStatus msg st) = st := rfl
@[simp] theorem getStatus_setDataLen : getStatus (setDataLen msg l) = getStatus msg := rfl
@[simp] theorem dataLen_setStatus : dataLen (setStatus msg st) = dataLen msg := rfl
@[simp] theorem getType_setStatus : getType (setStatus msg st) = getType msg := rfl
@[simp] theorem getType_setDataLen : getType (setDataLen msg l) = getType msg := rfl
@[simp] theorem getSubtype_setStatus : getSubtype (setStatus msg st) = getSubtype msg := rfl
@[simp] theorem getSubtype_setDataLen : getSubtype (setDataLen msg l) = getSubtype msg := rfl

/-- The two bytes hold a length modulo `2^16`. -/
theorem dataLen_setLengthBytes : dataLen (setLengthBytes msg l) = (l % 65536).toNat := by
  simp only [dataLen, Head.dataLen, setLengthBytes, lowByte, UInt8.toNat_ofNat', Nat.shiftLeft_eq]
  omega

theorem dataLen_setData : dataLen (setData msg d l) = (l % 65536).toNat :=
  dataLen_setLengthBytes _ l

/-- `Message_setDataLen` never announces more than `MAXDATA_VALUE`, if the length is not
negative. -/
theorem dataLen_setDataLen {l : ℤ} (hl : 0 ≤ l) :
    dataLen (setDataLen msg l) = min l.toNat maxdataValue := by
  rw [setDataLen, dataLen_setLengthBytes]
  have hmax : maxdataValue = 4088 := rfl
  rw [hmax]
  split_ifs <;> omega

end Lemmas

/-- Storing the length a header already has changes nothing. -/
theorem setLengthBytes_self (msg : MessageStruct) : setLengthBytes msg (dataLen msg) = msg := by
  have h₁ := msg.head.dlenLO.toNat_lt
  have h₂ := msg.head.dlenHI.toNat_lt
  have hlo : lowByte (dataLen msg) = msg.head.dlenLO := by
    apply UInt8.toNat_inj.mp
    simp only [dataLen, Head.dataLen, lowByte, UInt8.toNat_ofNat', Nat.shiftLeft_eq]
    omega
  have hhi : lowByte ((dataLen msg : ℤ) / 256) = msg.head.dlenHI := by
    apply UInt8.toNat_inj.mp
    simp only [dataLen, Head.dataLen, lowByte, UInt8.toNat_ofNat', Nat.shiftLeft_eq]
    omega
  rw [setLengthBytes, hlo, hhi]

end Message

end TestDomApp
