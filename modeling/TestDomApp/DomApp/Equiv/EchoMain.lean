import Mathlib.Data.List.Find
import TestDomApp.DomApp.Equiv.EchoCheck
import TestDomApp.Message.Stream

/-!
# The echo client as a whole

`main` of the client sends its request again and again, and stops at the first reply that does not
suit it.  What it reports is a function of the frames that its descriptor carries and of what every
`write` returns (`Payload.reports`), whatever the transport and however the replies are cut
(`main_reports`).
-/

namespace TestDomApp

open Region

/-- What `write` returns for `n` bytes. -/
def WriteResult.value (n : ℕ) : WriteResult → ℤ
  | .all => n
  | .short missing => (n - (missing + 1) : ℕ)
  | .fail => -1

theorem write_fst (tx : WriteResult) (bs : List UInt8) : (write tx bs).1 = tx.value bs.length := by
  cases tx with
  | all => rfl
  | fail => rfl
  | short missing => simp [write, WriteResult.value]

namespace Payload

/-- What the client makes of a reply. -/
def verdict (p : Payload) (f : Frame) : EchoReport :=
  if f.data.length ≥ maxdataValue then .tooLarge f.data.length
  else if p.bytes.length ≠ f.data.length then .lengthsDiffer p.bytes.length f.data.length
  else
    match (List.range p.bytes.length).find? fun i => p.bytes.getD i 0 ≠ f.data.getD i 0 with
    | some i => .disagree i (p.bytes.getD i 0) (f.data.getD i 0)
    | none => .correct

/-- What the client reports, round by round, while these frames arrive; after the last one a receive
returns `last`. -/
def reports (p : Payload) (last : ℤ) : List WriteResult → List Frame → List EchoReport
  | [], _ => []
  | tx :: txs, fs =>
    if tx.value (msgHdrLen + p.bytes.length) ≤ 0 then
      [.sendFailed (tx.value (msgHdrLen + p.bytes.length))]
    else
      match fs with
      | [] => [.recvFailed last]
      | f :: fs =>
        if p.verdict f = .correct then .correct :: reports p last txs fs else [p.verdict f]

variable {p : Payload} {last : ℤ} {tx : WriteResult} {txs : List WriteResult} {f : Frame}
  {fs : List Frame}

theorem reports_of_value_nonpos (h : tx.value (msgHdrLen + p.bytes.length) ≤ 0) :
    p.reports last (tx :: txs) fs = [.sendFailed (tx.value (msgHdrLen + p.bytes.length))] := by
  cases fs with
  | nil => exact if_pos h
  | cons f fs => exact if_pos h

theorem reports_nil (h : ¬ tx.value (msgHdrLen + p.bytes.length) ≤ 0) :
    p.reports last (tx :: txs) [] = [.recvFailed last] := if_neg h

theorem reports_cons (h : ¬ tx.value (msgHdrLen + p.bytes.length) ≤ 0) :
    p.reports last (tx :: txs) (f :: fs) =
      if p.verdict f = .correct then .correct :: p.reports last txs fs else [p.verdict f] :=
  if_neg h

end Payload

namespace EchoClient

variable {c : EchoClient} {p : Payload}

/-! ### The comparison -/

/-- The loop finds the first position of disagreement. -/
theorem compareLoop_eq_find? (compareMsg upBody : ByteRegion) {len : ℕ} (hlen : len ≤ maxdataValue)
    (i : ℕ) :
    compareLoop compareMsg upBody len i =
      (List.range' i (len - i)).find? fun j => compareMsg j ≠ upBody j := by
  induction hk : len - i generalizing i with
  | zero =>
    rw [compareLoop, dif_neg (by omega)]
    rfl
  | succ k ih =>
    rw [compareLoop, dif_pos (by omega), List.range'_succ, List.find?_cons, ih (i + 1) (by omega)]
    by_cases heq : compareMsg i = upBody i
    · simp [heq]
    · simp [heq]

/-- The check, in terms of the reply as a frame. -/
theorem check_eq_verdict {f : Frame} (hdown : Message.dataLen c.downMessage = p.bytes.length)
    (hup : Message.dataLen c.upMessage = f.data.length)
    (hdata : ∀ i, (hi : i < f.data.length) → c.mem upMessageBody i = f.data[i]) :
    c.check p = p.verdict f := by
  unfold check Payload.verdict
  dsimp only
  rw [hdown, hup]
  split_ifs with hmax hlen
  · rfl
  · rfl
  · have hle : p.bytes.length ≤ maxdataValue := p.len_le
    rw [compareLoop_eq_find? _ _ hle, Nat.sub_zero, ← List.range_eq_range']
    have hbody : ∀ i ∈ List.range p.bytes.length, c.mem upMessageBody i = f.data.getD i 0 := by
      intro i hi
      have hi' : i < f.data.length := by
        rw [List.mem_range] at hi
        omega
      rw [hdata i hi']
      simp [hi']
    have hfind : ((List.range p.bytes.length).find? fun i =>
          p.compareEchoMessage i ≠ c.mem upMessageBody i) =
        (List.range p.bytes.length).find? fun i => p.bytes.getD i 0 ≠ f.data.getD i 0 := by
      apply List.find?_congr
      intro i hi
      rw [hbody i hi]
      rfl
    rw [hfind]
    cases hres : (List.range p.bytes.length).find? fun i => p.bytes.getD i 0 ≠ f.data.getD i 0 with
    | none => rfl
    | some i =>
      show EchoReport.disagree i _ _ = _
      rw [hbody i (List.mem_of_find?_eq_some hres)]
      rfl

/-! ### A round -/

theorem send_eq (tx : WriteResult) (m : MessageStruct) (p : Payload) (c : EchoClient) :
    ∃ out, (c.setRequest m p).send tx = some (tx.value (msgHdrLen + p.bytes.length), out) := by
  have hle : Message.dataLen (c.setRequest m p).downMessage ≤ maxdataValue := by
    rw [dataLen_setRequest]
    exact p.len_le
  have hlen : (txbuf (c.setRequest m p).downMessage (c.setRequest m p).mem).length =
      msgHdrLen + p.bytes.length := by
    rw [txbuf_eq, List.length_append, content, length_load, dataLen_setRequest]
    rfl
  obtain ⟨out, hout⟩ : ∃ out, write tx (txbuf (c.setRequest m p).downMessage
      (c.setRequest m p).mem) = (tx.value (msgHdrLen + p.bytes.length), out) :=
    ⟨_, Prod.ext (by rw [write_fst, hlen]) rfl⟩
  exact ⟨out, by rw [send, gmsrSendMessageGeneric_of_le hle, hout]⟩

variable {fs : List Frame} {f : Frame} {tx : WriteResult} {m : MessageStruct}

theorem round_of_value_nonpos (h : tx.value (msgHdrLen + p.bytes.length) ≤ 0) :
    ∃ c', c.round tx m p =
      some (.sendFailed (tx.value (msgHdrLen + p.bytes.length)), c') := by
  obtain ⟨out, hsend⟩ := send_eq tx m p c
  refine ⟨c.setRequest m p, ?_⟩
  unfold round
  dsimp only
  rw [hsend]
  exact if_pos h

theorem round_of_value_pos (h : ¬ tx.value (msgHdrLen + p.bytes.length) ≤ 0) :
    c.round tx m p =
      if (c.setRequest m p).receive.1 ≤ 0 then
        some (.recvFailed (c.setRequest m p).receive.1, (c.setRequest m p).receive.2)
      else some ((c.setRequest m p).receive.2.check p, (c.setRequest m p).receive.2) := by
  obtain ⟨out, hsend⟩ := send_eq tx m p c
  unfold round
  dsimp only
  rw [hsend]
  exact if_neg h

/-- A reply that the descriptor carries is received and judged. -/
theorem round_cons (hio : c.iofile.Carries (f :: fs))
    (h : ¬ tx.value (msgHdrLen + p.bytes.length) ≤ 0) :
    ∃ c', c.round tx m p = some (p.verdict f, c') ∧ c'.iofile.Carries fs := by
  have hio' : (c.setRequest m p).iofile.Carries (f :: fs) := hio
  obtain ⟨ret, tmpbuf, mem, fd, hrecv, hpos, hrest⟩ := hio'.receive_cons (c.setRequest m p).tmpbuf
    (c.setRequest m p).upMessage upMessageBody (c.setRequest m p).mem
  have hreceive : (c.setRequest m p).receive = (ret, { c.setRequest m p with
      upMessage := ⟨f.head, upMessageBody⟩
      mem := mem.store upMessageBody 0 f.data
      tmpbuf := tmpbuf
      iofile := fd }) := by
    unfold receive
    rw [hrecv]
  refine ⟨(c.setRequest m p).receive.2, ?_, by rw [hreceive]; exact hrest⟩
  rw [round_of_value_pos h, hreceive, if_neg (by simpa using hpos)]
  refine congrArg (fun r => some (r, _)) (check_eq_verdict (dataLen_setRequest m p c) f.len_eq ?_)
  intro i hi
  show mem.store upMessageBody 0 f.data upMessageBody i = _
  rw [Memory.store_same, store_zero_apply hi]

/-- When the descriptor carries no more, a receive fails. -/
theorem round_nil (hio : c.iofile.Carries [])
    (h : ¬ tx.value (msgHdrLen + p.bytes.length) ≤ 0) :
    ∃ last ≤ 0, ∃ c', c.round tx m p = some (.recvFailed last, c') := by
  have hret : (c.setRequest m p).receive.1 ≤ 0 :=
    hio.receive_nil c.tmpbuf c.upMessage upMessageBody (c.setRequest m p).mem
  refine ⟨(c.setRequest m p).receive.1, hret, (c.setRequest m p).receive.2, ?_⟩
  rw [round_of_value_pos h, if_pos hret]

/-! ### The loop -/

/-- **What `main` reports** follows from the frames that its descriptor carries and what every
`write` returns, over either transport and however the frames are cut.  Nothing is undefined. -/
theorem mainLoop_reports (p : Payload) (txs : List WriteResult) (hio : c.iofile.Carries fs) :
    ∃ last ≤ 0, ∃ c', c.mainLoop p txs = some (p.reports last txs fs, c') := by
  induction txs generalizing c fs with
  | nil => exact ⟨0, le_rfl, c, rfl⟩
  | cons tx txs ih =>
    rw [mainLoop]
    by_cases hvalue : tx.value (msgHdrLen + p.bytes.length) ≤ 0
    · obtain ⟨c', hround⟩ := round_of_value_nonpos hvalue
      rw [hround]
      exact ⟨0, le_rfl, c', by rw [Payload.reports_of_value_nonpos hvalue]; rfl⟩
    cases fs with
    | nil =>
      obtain ⟨last, hlast, c', hround⟩ := round_nil hio hvalue
      rw [hround]
      exact ⟨last, hlast, c', by rw [Payload.reports_nil hvalue]; rfl⟩
    | cons f fs =>
      obtain ⟨c', hround, hrest⟩ := round_cons hio hvalue
      rw [hround]
      dsimp only
      by_cases hcorrect : p.verdict f = .correct
      · obtain ⟨last, hlast, c'', hloop⟩ := ih hrest
        refine ⟨last, hlast, c'', ?_⟩
        rw [if_pos hcorrect, hloop, Payload.reports_cons hvalue, if_pos hcorrect]
        rfl
      · refine ⟨0, le_rfl, c', ?_⟩
        rw [if_neg hcorrect, Payload.reports_cons hvalue, if_neg hcorrect]

end EchoClient

namespace Payload

variable {p : Payload} {f : Frame} {fs : List Frame} {txs : List WriteResult} {last : ℤ}

/-- The reply that is accepted: it carries the payload, and is not as long as a message can be. -/
theorem verdict_correct_iff : p.verdict f = .correct ↔
    f.data = p.bytes ∧ p.bytes.length < maxdataValue := by
  unfold verdict
  split_ifs with hmax hlen
  · refine iff_of_false nofun ?_
    rintro ⟨heq, hlt⟩
    rw [heq] at hmax
    omega
  · refine iff_of_false nofun ?_
    rintro ⟨heq, -⟩
    rw [heq] at hlen
    exact hlen rfl
  · cases hfind : (List.range p.bytes.length).find? fun i =>
        p.bytes.getD i 0 ≠ f.data.getD i 0 with
    | some i =>
      refine iff_of_false nofun ?_
      rintro ⟨heq, -⟩
      have hne := List.find?_some hfind
      rw [heq] at hne
      simp at hne
    | none =>
      refine iff_of_true rfl ⟨?_, by omega⟩
      rw [List.find?_eq_none] at hfind
      apply List.ext_getElem (by omega)
      intro i hi hi'
      have heq := hfind i (List.mem_range.mpr hi')
      simp only [List.getD_eq_getElem?_getD, List.getElem?_eq_getElem hi,
        List.getElem?_eq_getElem hi', Option.getD_some, decide_eq_true_eq, not_not] at heq
      exact heq.symm

/-- When every report is `correct`. -/
theorem reports_eq_replicate_iff : p.reports last txs fs = List.replicate txs.length .correct ↔
    (∀ tx ∈ txs, 0 < tx.value (msgHdrLen + p.bytes.length)) ∧ txs.length ≤ fs.length ∧
      ∀ f ∈ fs.take txs.length, p.verdict f = .correct := by
  induction txs generalizing fs with
  | nil => exact iff_of_true rfl ⟨nofun, Nat.zero_le _, by simp⟩
  | cons tx txs ih =>
    rw [List.length_cons, List.replicate_succ]
    by_cases hvalue : tx.value (msgHdrLen + p.bytes.length) ≤ 0
    · rw [reports_of_value_nonpos hvalue]
      refine iff_of_false nofun ?_
      rintro ⟨hpos, -⟩
      exact absurd (hpos tx List.mem_cons_self) (Int.not_lt.mpr hvalue)
    have hpos := Int.not_le.mp hvalue
    cases fs with
    | nil =>
      rw [reports_nil hvalue]
      refine iff_of_false nofun ?_
      rintro ⟨-, hlen, -⟩
      exact absurd hlen (by simp)
    | cons f fs =>
      rw [reports_cons hvalue, List.length_cons, Nat.add_le_add_iff_right, List.take_succ_cons,
        List.forall_mem_cons, List.forall_mem_cons]
      by_cases hcorrect : p.verdict f = .correct
      · rw [if_pos hcorrect, List.cons.injEq, ih]
        simp [hpos, hcorrect]
      · rw [if_neg hcorrect]
        refine iff_of_false ?_ fun h => hcorrect h.2.2.1
        intro h
        exact hcorrect (List.cons.inj h).1

/-- The message of the source. -/
def testEcho : Payload where
  bytes := (CString.ofString "test echo message - a little longer than before").bytes
  ne_nil := by decide
  len_le := by decide

end Payload

namespace EchoClient

variable {c : EchoClient} {fs : List Frame}

/-- **The client against any peer.**  Whatever frames its descriptor carries, over either transport
and however they are cut, and whatever every `write` returns, `main` reports on one frame after
another until it stops.  It gets through all its rounds exactly when every `write` sends something
and the first `num_msgs` frames carry the payload, which is not as long as a message can be. -/
theorem main_reports (p : Payload) (tx : ℕ → WriteResult) (hio : c.iofile.Carries fs) :
    ∃ last ≤ 0, ∃ c', c.main p tx = some (p.reports last ((List.range numMsgs).map tx) fs, c') ∧
      (p.reports last ((List.range numMsgs).map tx) fs = List.replicate numMsgs .correct ↔
        (∀ k < numMsgs, 0 < (tx k).value (msgHdrLen + p.bytes.length)) ∧ numMsgs ≤ fs.length ∧
        ∀ f ∈ fs.take numMsgs, f.data = p.bytes ∧ p.bytes.length < maxdataValue) := by
  obtain ⟨last, hlast, c', hmain⟩ := mainLoop_reports p ((List.range numMsgs).map tx) hio
  refine ⟨last, hlast, c', hmain, ?_⟩
  have hlen : ((List.range numMsgs).map tx).length = numMsgs := by
    rw [List.length_map, List.length_range]
  have hiff : p.reports last ((List.range numMsgs).map tx) fs =
      List.replicate ((List.range numMsgs).map tx).length .correct ↔ _ :=
    Payload.reports_eq_replicate_iff
  rw [hlen] at hiff
  rw [hiff, List.forall_mem_map]
  simp only [List.mem_range, Payload.verdict_correct_iff]

/-- The message of the source, to a peer that answers once, and wrongly. -/
theorem main_reports_once :
    ∃ c', (awaiting (replyFrame 1)).main .testEcho (fun _ => .all) =
      some ([.lengthsDiffer 47 2], c') := by
  have hio : (awaiting (replyFrame 1)).iofile.Carries [replyFrame 1] :=
    Filedes.carries_frame (by decide) .eof fun _ => 0
  obtain ⟨last, -, c', hmain, -⟩ := main_reports .testEcho (fun _ => .all) hio
  have hverdict : Payload.testEcho.verdict (replyFrame 1) = .lengthsDiffer 47 2 := by decide
  have hrange : List.range numMsgs = 0 :: (List.range 999).map Nat.succ :=
    List.range_succ_eq_map
  refine ⟨c', hmain.trans ?_⟩
  rw [hrange, List.map_cons, Payload.reports_cons (by decide), hverdict, if_neg (by decide)]

end EchoClient

end TestDomApp
