import TestDomApp.DomappCommon.Api
import TestDomApp.Message.Basic

/-!
# Common services

`COMMON_SERVICE_INFO` and the conversion of long integers to and from message bytes
(`public/domapp_common/commonServices.h`, `private/domapp_common/commonServices.c`).  `ULONG` is
32 bits wide.
-/

namespace TestDomApp

/-- A C string: what stands before the terminator, which is in no other place. -/
structure CString where
  bytes : List UInt8
  nul_notMem : 0 ∉ bytes
  deriving DecidableEq, Repr

namespace CString

/-- A string literal. -/
def ofString (s : String)
    (h : 0 ∉ s.toList.map (fun c => UInt8.ofNat c.toNat) := by decide) : CString :=
  ⟨s.toList.map fun c => UInt8.ofNat c.toNat, h⟩

def strlen (s : CString) : ℕ := s.bytes.length

/-- The bytes `strcpy` writes. -/
def strcpy (s : CString) : List UInt8 := s.bytes ++ [0]

end CString

/-- `MAX_ERROR_STR_LEN`: the size of `lastErrorStr`. -/
def maxErrorStrLen : ℕ := 80

/-- `COMMON_SERVICE_INFO` -/
structure CommonServiceInfo where
  state : UInt8
  lastErrorID : UInt8
  lastErrorSeverity : UInt8
  majorVersion : UInt8
  minorVersion : UInt8
  lastErrorStr : CString
  msgReceived : UInt32
  msgRefused : UInt32
  msgProcessingErr : UInt32
  deriving DecidableEq, Repr

/-- The bytes `formatLong` writes, the high byte first. -/
def formatLong (value : UInt32) : List UInt8 :=
  [((value >>> 24) &&& 0xff).toUInt8, ((value >>> 16) &&& 0xff).toUInt8,
    ((value >>> 8) &&& 0xff).toUInt8, (value &&& 0xff).toUInt8]

/-- `unformatLong(buf + off)` -/
def unformatLong (buf : ByteRegion) (off : ℕ) : UInt32 :=
  let temp := (buf off).toUInt32
  let temp := temp <<< 8
  let temp := temp ||| (buf (off + 1)).toUInt32
  let temp := temp <<< 8
  let temp := temp ||| (buf (off + 2)).toUInt32
  let temp := temp <<< 8
  temp ||| (buf (off + 3)).toUInt32

end TestDomApp
