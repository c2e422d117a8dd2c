import TestDomApp.Message.Frame
import TestDomApp.MsgHandler.Equiv.Answer
import TestDomApp.Transition.Machine

/-!
# The service as a machine

What `domapp` is for, without buffers, memory and descriptors: a machine that answers every request
with a reply, both of them frames.  A reply keeps type, subtype, reserved bytes and message ID of
its request (`Frame.reply`); its status and data follow from the outcome of the request and the
state of the handler.

The services behind the types `DOM_SLOW_CONTROL` and `EXPERIMENT_CONTROL` are part of the input: a
request comes with what they would make of it.
-/

namespace TestDomApp

open Transition

/-- A board as `main` sets it up: its ID has the length that is reported, and its name fits a
message. -/
structure Board extends Hal where
  boardID_len : boardID.strlen = msghandGetDomIDLen
  boardName_lt : boardName.strlen < maxdataValue

/-- The board `main` runs on when it is started without arguments. -/
def Board.default : Board := ⟨.default, rfl, by decide⟩

/-- What the other services make of a request. -/
structure FrameServices where
  domSControl : Frame → Frame
  expControl : Frame → Frame

namespace Frame

/-- The message that holds a frame with its data behind `p`. -/
def request (f : Frame) (p : BytePtr) : MessageStruct := ⟨f.head, p⟩

/-- The head of a reply that carries `n` bytes of data. -/
def replyHead (f : Frame) (status : UInt8) (n : ℕ) : Head :=
  { f.head with dlenHI := UInt8.ofNat (n / 256), dlenLO := UInt8.ofNat (n % 256), status := status }

theorem dataLen_replyHead (f : Frame) (status : UInt8) (data : List UInt8) :
    (f.replyHead status (data.take maxdataValue).length).dataLen =
      (data.take maxdataValue).length := by
  have hle := List.length_take_le maxdataValue data
  have hmax : maxdataValue = 4088 := rfl
  simp only [replyHead, Head.dataLen, UInt8.toNat_ofNat', Nat.shiftLeft_eq]
  omega

/-- The reply to `f` with this status and data, as far as they fit a message. -/
def reply (f : Frame) (status : UInt8) (data : List UInt8) : Frame where
  head := f.replyHead status (data.take maxdataValue).length
  data := data.take maxdataValue
  len_eq := f.dataLen_replyHead status data
  len_le := List.length_take_le maxdataValue data

/-- What a frame carries. -/
def content (f : Frame) : Head × List UInt8 := (f.head, f.data)

end Frame

/-- The data of an answer written over those of the request. -/
def Answer.over (a : Answer) (data : List UInt8) : List UInt8 :=
  (a.bytes ++ data.drop a.bytes.length).take a.len

/-- The reply of the service a request is forwarded to. -/
def FrameServices.forward (fs : FrameServices) (f : Frame) : Frame :=
  if MsgType.ofByte? f.head.mt = some .domSlowControl then fs.domSControl f else fs.expControl f

/-- The reply to a request, by its outcome, in the state `h` with the request taken into account. -/
def replyOf (hal : Hal) (fs : FrameServices) (h : HandlerState) (f : Frame) : Outcome → Frame
  | .forwarded => fs.forward f
  | .fulfilled s => f.reply Status.success.code ((answerOf hal h f.data.length s).over f.data)
  | .failed e => f.reply e.status (if e = .badMsgSubtype then f.data else [])

/-- The service. -/
def server (hal : Hal) : Machine HandlerState (Frame × FrameServices) Frame where
  next h x := h.after (outcome (x.1.request .null)) (isHandlerMessage (x.1.request .null))
  answer h x :=
    let h := h.after (outcome (x.1.request .null)) (isHandlerMessage (x.1.request .null))
    replyOf hal x.2 h x.1 (outcome (x.1.request .null))

/-- The services answer a request in place, wherever it is held, as `fs` says. -/
def Services.Answers (svc : Services) (fs : FrameServices) : Prop :=
  ∀ (f : Frame) (p : BytePtr) (mem : Memory),
    let slow := svc.domSControl (f.request p) (mem.store p 0 f.data)
    let exp := svc.expControl (f.request p) (mem.store p 0 f.data)
    content ⟨slow.1, p⟩ slow.2 = (fs.domSControl f).content ∧
      content ⟨exp.1, p⟩ exp.2 = (fs.expControl f).content

/-- The empty message as a reply. -/
def FrameServices.blank : FrameServices :=
  ⟨fun _ => ⟨default, [], rfl, Nat.zero_le _⟩, fun _ => ⟨default, [], rfl, Nat.zero_le _⟩⟩

theorem Services.answers_blank : Services.blank.Answers .blank := fun _ _ _ => ⟨rfl, rfl⟩

end TestDomApp
