import Mathlib.Data.Nat.ModEq
import TestDomApp.Bytes.Codec
import TestDomApp.MsgHandler.Equiv.Formats
import TestDomApp.MsgHandler.Equiv.Server

/-!
# What a client can find out

The data of three replies are formats in the sense of `Format`, and a client that reads them has the
state of the service: `GET_SERVICE_SUMMARY` reports all of `COMMON_SERVICE_INFO`, and
`MSGHAND_GET_PKT_STATS` and `MSGHAND_GET_MSG_STATS` the counters of the packet driver
(`state_read_back`).  So states with the same reports cannot be told apart by any requests, and no
others (`indist_iff`); `expCntStackOvfl` is never reported.  What the service remembers of the
requests it has answered is their numbers, modulo `2 ^ 32`, and the last error
(`histories_indist_iff`).
-/

namespace TestDomApp

open Transition

/-! ### The formats of the reports -/

/-- Reading a number and writing it again gives its four bytes. -/
theorem formatLong_unformatLong (buf : ByteRegion) (off : ℕ) :
    formatLong (unformatLong buf off) = [buf off, buf (off + 1), buf (off + 2), buf (off + 3)] := by
  have h₀ := (buf off).toNat_lt
  have h₁ := (buf (off + 1)).toNat_lt
  have h₂ := (buf (off + 2)).toNat_lt
  have h₃ := (buf (off + 3)).toNat_lt
  have hinj : Function.Injective (List.map UInt8.toNat) :=
    List.map_injective_iff.mpr fun _ _ h => UInt8.toNat_inj.mp h
  apply hinj
  rw [map_toNat_formatLong, toNat_unformatLong]
  simp only [List.map_cons, List.map_nil, List.cons.injEq, and_true]
  omega

theorem formatLong_injective : Function.Injective formatLong := by
  intro v w h
  have hv := unformatLong_store v (fun _ => 0) [] []
  rw [h, unformatLong_store] at hv
  exact hv.symm

theorem unformatLong_formatLong (v : UInt32) :
    unformatLong (fun i => (formatLong v).getD i 0) 0 = v := by
  apply formatLong_injective
  rw [formatLong_unformatLong]
  simp only [formatLong, List.getD_cons_zero, List.getD_cons_succ, Nat.zero_add]

/-- A number as `formatLong` writes it. -/
def longFormat : Format UInt8 UInt32 where
  write := formatLong
  read
    | a :: b :: c :: d :: rest => some (unformatLong (fun i => [a, b, c, d].getD i 0) 0, rest)
    | _ => none
  read_write v rest := by
    show some (unformatLong (fun i => (formatLong v).getD i 0) 0, rest) = _
    rw [unformatLong_formatLong]
  write_of_read bs v rest h := by
    split at h
    · obtain ⟨rfl, rfl⟩ := Prod.mk.inj (Option.some.inj h)
      rw [formatLong_unformatLong]
      simp only [List.getD_cons_zero, List.getD_cons_succ, Nat.zero_add, List.cons_append,
        List.nil_append]
    · exact nomatch h

/-- The data of the reply to `MSGHAND_GET_PKT_STATS`. -/
def PktStats.format : Format UInt8 PktStats :=
  (longFormat.prod (longFormat.prod (longFormat.prod (longFormat.prod (longFormat.prod
    (longFormat.prod longFormat)))))).map
    { toFun := fun (a, b, c, d, e, f, g) => ⟨a, b, c, d, e, f, g⟩
      invFun := fun p => (p.pktRecv, p.pktSent, p.noStorage, p.freeListCorrupt, p.pktBufOvr,
        p.pktBadFmt, p.pktSpare)
      left_inv := fun _ => rfl
      right_inv := fun _ => rfl }

/-- The data of the reply to `MSGHAND_GET_MSG_STATS`. -/
def MsgStats.format : Format UInt8 MsgStats :=
  (longFormat.prod (longFormat.prod (longFormat.prod (longFormat.prod longFormat)))).map
    { toFun := fun (a, b, c, d, e) => ⟨a, b, c, d, e⟩
      invFun := fun s => (s.msgRecv, s.msgSent, s.tooMuchData, s.idMismatch, s.crcProblem)
      left_inv := fun _ => rfl
      right_inv := fun _ => rfl }

/-- The data of the reply to `GET_SERVICE_SUMMARY`, up to the error text. -/
def summaryFormat :
    Format UInt8 (UInt8 × UInt8 × UInt8 × UInt8 × UInt8 × UInt32 × UInt32 × UInt32) :=
  (Format.one UInt8).prod ((Format.one UInt8).prod ((Format.one UInt8).prod ((Format.one UInt8).prod
    ((Format.one UInt8).prod (longFormat.prod (longFormat.prod longFormat))))))

/-- What a client makes of the reply to `GET_SERVICE_SUMMARY`. -/
def decodeSummary (data : List UInt8) : Option CommonServiceInfo :=
  match (summaryFormat.readWithRest data : Option (_ × {bs : List UInt8 // 0 ∉ bs})) with
  | some ((state, id, severity, major, minor, received, refused, err), text) =>
    some ⟨state, id, severity, major, minor, ⟨text.val, text.property⟩, received, refused, err⟩
  | none => none

/-- A summary is read as the information it reports, and nothing else is read. -/
theorem decodeSummary_eq_some_iff {data : List UInt8} {info : CommonServiceInfo} :
    decodeSummary data = some info ↔ data = CommonQuery.all.flatMap fun q => q.report info := by
  have hwrite : (CommonQuery.all.flatMap fun q => q.report info) =
      summaryFormat.write (info.state, info.lastErrorID, info.lastErrorSeverity, info.majorVersion,
        info.minorVersion, info.msgReceived, info.msgRefused, info.msgProcessingErr) ++
      info.lastErrorStr.bytes := by
    simp only [CommonQuery.all, CommonQuery.report, List.flatMap_cons, List.flatMap_nil,
      List.append_assoc, List.append_nil, List.cons_append, List.nil_append]
    rfl
  rw [hwrite]
  unfold decodeSummary
  constructor
  · intro h
    split at h
    · rename_i text hread
      obtain rfl := Option.some.inj h
      exact summaryFormat.readWithRest_eq_some_iff.mp hread
    · exact absurd h.symm (Option.some_ne_none _)
  · intro h
    have hread := (@Format.readWithRest_eq_some_iff _ _ summaryFormat (0 ∉ ·) _ _ _
      ⟨info.lastErrorStr.bytes, info.lastErrorStr.nul_notMem⟩).mpr h
    rw [hread]

/-! ### Reading the state back -/

variable {board : Board} {hal : Hal} {h : HandlerState} {f : Frame} {fs : FrameServices}
  {s : MsghandSubtype}

/-- What a client gets as the data of the reply to a query is what the handler leaves as data. -/
theorem data_serverAnswer (fs : FrameServices) (hm : Asks (f.request .null) s)
    (hs : s ≠ .remoteObjectRef) :
    ((server board.toHal).answer h (f, fs)).data =
      replyData board.toHal .blank h (f.request .null)
        (Memory.store (fun _ _ => 0) .null 0 f.data) := by
  -- The other services are not asked.
  have hblank : (server board.toHal).answer h (f, fs) =
      (server board.toHal).answer h (f, .blank) := by
    show replyOf _ _ _ _ _ = replyOf _ _ _ _ _
    rw [outcome_of_asks hm hs]
    rfl
  have hcontent := @content_msgHandler board .blank .blank Services.answers_blank h f .null
    fun _ _ => 0
  rw [hblank, replyData, hcontent]
  rfl

/-- The data of the reply to a query of the packet driver, which writes as much as it announces. -/
theorem data_serverAnswer_of_exact (fs : FrameServices) (hm : Asks (f.request .null) s)
    (hq : s.isQuery = true) {data : List UInt8} (hmax : data.length ≤ maxdataValue)
    (hanswer : ∀ x, answerOf board.toHal (h.withReceived x) (Message.dataLen (f.request .null)) s =
      ⟨data, data.length⟩) : ((server board.toHal).answer h (f, fs)).data = data := by
  have hs : s ≠ .remoteObjectRef := by
    rintro rfl
    exact absurd hq (by decide)
  rw [data_serverAnswer fs hm hs]
  apply content_fulfilled hm hs
  · rw [msgHandler_query hm hq, hanswer]
  · rw [msgHandler_query hm hq, hanswer]
  · exact hmax

theorem data_serverAnswer_pktStats (fs : FrameServices)
    (hm : Asks (f.request .null) .msghandGetPktStats) :
    ((server board.toHal).answer h (f, fs)).data = PktStats.format.write h.pktStats := by
  refine data_serverAnswer_of_exact fs hm rfl (by decide : msghandGetPktStatsLen ≤ maxdataValue) ?_
  intro x
  simp only [answerOf, List.append_assoc]
  rfl

theorem data_serverAnswer_msgStats (fs : FrameServices)
    (hm : Asks (f.request .null) .msghandGetMsgStats) :
    ((server board.toHal).answer h (f, fs)).data = MsgStats.format.write h.msgStats := by
  refine data_serverAnswer_of_exact fs hm rfl (by decide : msghandGetMsgStatsLen ≤ maxdataValue) ?_
  intro x
  simp only [answerOf, List.append_assoc]
  rfl

/-- **A client reads the state of the service** from the replies to three requests: all of
`COMMON_SERVICE_INFO`, with the request counted, and the counters of the packet driver. -/
theorem state_read_back (board : Board) (h : HandlerState) (f : Frame) (fs : FrameServices)
    (hfits : h.msgHand.lastErrorStr.strlen < maxErrorStrLen) :
    let data := ((server board.toHal).answer h (f, fs)).data
    (Asks (f.request .null) .getServiceSummary →
      decodeSummary data = some { h.msgHand with msgReceived := h.msgHand.msgReceived + 1 }) ∧
    (Asks (f.request .null) .msghandGetPktStats →
      PktStats.format.decode data = some h.pktStats) ∧
    (Asks (f.request .null) .msghandGetMsgStats →
      MsgStats.format.decode data = some h.msgStats) := by
  refine ⟨?_, ?_, ?_⟩
  · intro hm
    exact decodeSummary_eq_some_iff.mpr
      ((data_serverAnswer fs hm (by decide)).trans (replyData_summary hm hfits))
  · intro hm
    exact PktStats.format.decode_eq_some_iff.mpr (data_serverAnswer_pktStats fs hm)
  · intro hm
    exact MsgStats.format.decode_eq_some_iff.mpr (data_serverAnswer_msgStats fs hm)

/-- A request without data. -/
def readingRequest (s : MsghandSubtype) : Frame :=
  ⟨⟨MsgType.messageHandler.code, s.code, 0, 0, 0, 0, 0, 0⟩, [], rfl, Nat.zero_le _⟩

/-- The first summary that the service sends. -/
theorem state_read_back_summary :
    decodeSummary ((server Board.default.toHal).answer (msgHandlerInit .static)
        (readingRequest .getServiceSummary, .blank)).data =
      some { (msgHandlerInit .static).msgHand with msgReceived := 1 } :=
  (state_read_back .default (msgHandlerInit .static) (readingRequest .getServiceSummary) .blank
    (by decide)).1 (by decide)

/-! ### States that cannot be told apart -/

/-- What the replies of the service depend on. -/
def HandlerState.SameReports (h₁ h₂ : HandlerState) : Prop :=
  h₁.msgHand = h₂.msgHand ∧ h₁.pktStats = h₂.pktStats ∧ h₁.msgStats = h₂.msgStats

theorem HandlerState.SameReports.after {h₁ h₂ : HandlerState} (hsame : h₁.SameReports h₂)
    (o : Outcome) (received : Bool) : (h₁.after o received).SameReports (h₂.after o received) := by
  obtain ⟨hinfo, hpkt, hmsg⟩ := hsame
  unfold SameReports HandlerState.after
  rw [hinfo, hpkt, hmsg]
  exact ⟨rfl, rfl, rfl⟩

theorem HandlerState.SameReports.answerOf_eq {h₁ h₂ : HandlerState} (hsame : h₁.SameReports h₂)
    (hal : Hal) (len : ℕ) (s : MsghandSubtype) : answerOf hal h₁ len s = answerOf hal h₂ len s := by
  obtain ⟨hinfo, hpkt, hmsg⟩ := hsame
  cases s <;> simp only [answerOf, hinfo, hpkt, hmsg]

theorem bisimulation_sameReports (hal : Hal) :
    (server hal).Bisimulation HandlerState.SameReports where
  answer h₁ h₂ x hsame := by
    show replyOf _ _ _ _ _ = replyOf _ _ _ _ _
    cases outcome (x.1.request .null) with
    | forwarded => rfl
    | failed e => rfl
    | fulfilled s =>
      have heq := (hsame.after (.fulfilled s) (isHandlerMessage (x.1.request .null))).answerOf_eq
        hal x.1.data.length s
      exact congrArg (fun a => x.1.reply Status.success.code (a.over x.1.data)) heq
  next h₁ h₂ x hsame := hsame.after _ _

/-- **Which states a client can tell apart**: those in which one of the three reports differs. -/
theorem indist_iff {h₁ h₂ : HandlerState} (hfits₁ : h₁.msgHand.lastErrorStr.strlen < maxErrorStrLen)
    (hfits₂ : h₂.msgHand.lastErrorStr.strlen < maxErrorStrLen) :
    (server board.toHal).Indist h₁ h₂ ↔ h₁.SameReports h₂ := by
  refine ⟨?_, (bisimulation_sameReports board.toHal).indist⟩
  intro h
  have hdata : ∀ s, ((server board.toHal).answer h₁ (readingRequest s, .blank)).data =
      ((server board.toHal).answer h₂ (readingRequest s, .blank)).data :=
    fun s => congrArg Frame.data (h.answer_eq _)
  refine ⟨?_, ?_, ?_⟩
  · have hsum := hdata .getServiceSummary
    rw [data_serverAnswer (s := .getServiceSummary) .blank (by decide) (by decide),
      data_serverAnswer (s := .getServiceSummary) .blank (by decide) (by decide),
      replyData_summary (by decide) hfits₁, replyData_summary (by decide) hfits₂] at hsum
    have hinfo := decodeSummary_eq_some_iff.mpr hsum
    rw [decodeSummary_eq_some_iff.mpr rfl, Option.some.injEq] at hinfo
    -- The request itself is counted on both sides.
    have hreceived : h₁.msgHand.msgReceived = h₂.msgHand.msgReceived :=
      (UInt32.add_left_inj 1).mp (congrArg CommonServiceInfo.msgReceived hinfo)
    have hback := congrArg (fun info => { info with msgReceived := h₁.msgHand.msgReceived }) hinfo
    refine hback.trans ?_
    rw [hreceived]
    rfl
  · have hpkt := hdata .msghandGetPktStats
    rw [data_serverAnswer_pktStats .blank (by decide),
      data_serverAnswer_pktStats .blank (by decide)] at hpkt
    exact PktStats.format.write_injective hpkt
  · have hmsg := hdata .msghandGetMsgStats
    rw [data_serverAnswer_msgStats .blank (by decide),
      data_serverAnswer_msgStats .blank (by decide)] at hmsg
    exact MsgStats.format.write_injective hmsg

/-! ### What the service remembers -/

/-- The number of requests in a history that satisfy `p`. -/
def requestCount (p : MessageStruct → Bool) (xs : List (Frame × FrameServices)) : ℕ :=
  xs.countP fun x => p (x.1.request .null)

/-- The last-error record that a history leaves. -/
def lastErrorAfter (xs : List (Frame × FrameServices)) : LastError :=
  xs.foldl (fun r x => (outcome (x.1.request .null)).lastError r) noLastError

theorem requestCount_concat (p : MessageStruct → Bool) (xs : List (Frame × FrameServices))
    (x : Frame × FrameServices) :
    UInt32.ofNat (requestCount p (xs ++ [x])) =
      UInt32.ofNat (requestCount p xs) + tally (p (x.1.request .null)) := by
  rw [requestCount, List.countP_append, List.countP_singleton, UInt32.ofNat_add, requestCount,
    tally]
  split_ifs <;> rfl

/-- The state after a history: state and version as `msgHandlerInit` sets them, the last error, the
numbers of requests, and the counters of the packet driver at 0, where nothing counts. -/
structure Remembers (h : HandlerState) (xs : List (Frame × FrameServices)) : Prop where
  state : h.msgHand.state = serviceOnline
  version : h.msgHand.majorVersion = msghandlerMajorVersion ∧
    h.msgHand.minorVersion = msghandlerMinorVersion
  lastError : h.msgHand.lastError = lastErrorAfter xs
  msgReceived : h.msgHand.msgReceived = UInt32.ofNat (requestCount isHandlerMessage xs)
  msgRefused : h.msgHand.msgRefused = UInt32.ofNat (requestCount lacksCase xs)
  msgProcessingErr : h.msgHand.msgProcessingErr = UInt32.ofNat (requestCount isProcessingErr xs)
  pktStats : h.pktStats = ⟨0, 0, 0, 0, 0, 0, 0⟩
  msgStats : h.msgStats = ⟨0, 0, 0, 0, 0⟩

theorem next_follows (hal : Hal) (h : HandlerState) (x : Frame × FrameServices) :
    StateFollows (outcome (x.1.request .null)) (isHandlerMessage (x.1.request .null)) h
      ((server hal).next h x) := by
  rw [← msgHandler_next hal .blank x.2 h x.1 .null (fun _ _ => 0)]
  exact (msgHandler_spec hal .blank h (x.1.request .null) _).1

/-- What one more request adds. -/
theorem Remembers.next {xs : List (Frame × FrameServices)} (hr : Remembers h xs)
    (x : Frame × FrameServices) : Remembers ((server hal).next h x) (xs ++ [x]) where
  state := hr.state
  version := hr.version
  lastError := by
    rw [(next_follows hal h x).lastError, hr.lastError, lastErrorAfter, lastErrorAfter,
      List.foldl_append]
    rfl
  msgReceived := by
    rw [(next_follows hal h x).msgReceived, hr.msgReceived, requestCount_concat]
  msgRefused := by
    rw [(next_follows hal h x).msgRefused, hr.msgRefused, requestCount_concat, isRefused_outcome]
  msgProcessingErr := by
    rw [(next_follows hal h x).msgProcessingErr, hr.msgProcessingErr, requestCount_concat,
      isProcessingErr_outcome]
  pktStats := by
    have hpkt := hr.pktStats
    show (if _ then _ else _) = _
    split_ifs
    · rfl
    · exact hpkt
  msgStats := by
    have hmsg := hr.msgStats
    show (if _ then _ else _) = _
    split_ifs
    · rfl
    · exact hmsg

theorem remembers_after (hal : Hal) (xs : List (Frame × FrameServices)) :
    Remembers ((server hal).after (msgHandlerInit .static) xs) xs := by
  induction xs using List.reverseRecOn with
  | nil => exact ⟨rfl, ⟨rfl, rfl⟩, rfl, rfl, rfl, rfl, rfl, rfl⟩
  | append_singleton xs x ih =>
    rw [Machine.after_append]
    exact ih.next x

/-- The texts of the last error fit `lastErrorStr`. -/
theorem strlen_lastErrorAfter_lt (xs : List (Frame × FrameServices)) :
    (lastErrorAfter xs).text.strlen < maxErrorStrLen := by
  induction xs using List.reverseRecOn with
  | nil => exact (by decide : msghandErsNoErrors.strlen < maxErrorStrLen)
  | append_singleton xs x ih =>
    rw [lastErrorAfter, List.foldl_append]
    exact (outcome (x.1.request .null)).strlen_lastError_lt ih

/-- The information about a service is state, version, last error and counters. -/
theorem CommonServiceInfo.eq_of_parts {a b : CommonServiceInfo} (hstate : a.state = b.state)
    (hversion : a.majorVersion = b.majorVersion ∧ a.minorVersion = b.minorVersion)
    (hlast : a.lastError = b.lastError)
    (hcount : a.msgReceived = b.msgReceived ∧ a.msgRefused = b.msgRefused ∧
      a.msgProcessingErr = b.msgProcessingErr) : a = b := by
  obtain ⟨hid, hsev, htext⟩ := LastError.mk.inj hlast
  cases a
  cases b
  simp_all

theorem uint32_ofNat_inj {a b : ℕ} : UInt32.ofNat a = UInt32.ofNat b ↔ a ≡ b [MOD 2 ^ 32] := by
  rw [← UInt32.toNat_inj, UInt32.toNat_ofNat', UInt32.toNat_ofNat', Nat.ModEq]

/-- **What the service remembers of the requests it has answered**: after two histories it answers
everything alike exactly when the numbers of requests to the handler, of refused ones and of
processing errors agree modulo `2 ^ 32`, and the same error was the last. -/
theorem histories_indist_iff (board : Board) (xs ys : List (Frame × FrameServices)) :
    (server board.toHal).Indist ((server board.toHal).after (msgHandlerInit .static) xs)
        ((server board.toHal).after (msgHandlerInit .static) ys) ↔
      requestCount isHandlerMessage xs ≡ requestCount isHandlerMessage ys [MOD 2 ^ 32] ∧
      requestCount lacksCase xs ≡ requestCount lacksCase ys [MOD 2 ^ 32] ∧
      requestCount isProcessingErr xs ≡ requestCount isProcessingErr ys [MOD 2 ^ 32] ∧
      lastErrorAfter xs = lastErrorAfter ys := by
  have hx := remembers_after board.toHal xs
  have hy := remembers_after board.toHal ys
  have hfits : ∀ {h : HandlerState} {zs}, Remembers h zs →
      h.msgHand.lastErrorStr.strlen < maxErrorStrLen := by
    intro h zs hr
    have htext : h.msgHand.lastErrorStr = (lastErrorAfter zs).text :=
      congrArg LastError.text hr.lastError
    rw [htext]
    exact strlen_lastErrorAfter_lt zs
  rw [indist_iff (hfits hx) (hfits hy), ← uint32_ofNat_inj, ← uint32_ofNat_inj, ← uint32_ofNat_inj,
    ← hx.msgReceived, ← hx.msgRefused, ← hx.msgProcessingErr, ← hx.lastError, ← hy.msgReceived,
    ← hy.msgRefused, ← hy.msgProcessingErr, ← hy.lastError]
  constructor
  · rintro ⟨hinfo, -, -⟩
    rw [hinfo]
    exact ⟨rfl, rfl, rfl, rfl⟩
  · rintro ⟨hreceived, hrefused, herr, hlast⟩
    have hversion := And.intro (hx.version.1.trans hy.version.1.symm)
      (hx.version.2.trans hy.version.2.symm)
    exact ⟨CommonServiceInfo.eq_of_parts (hx.state.trans hy.state.symm) hversion hlast
        ⟨hreceived, hrefused, herr⟩,
      hx.pktStats.trans hy.pktStats.symm, hx.msgStats.trans hy.msgStats.symm⟩

/-! ### Replies that never change -/

/-- The requests whose replies tell what has happened. -/
def MsghandSubtype.TellsHistory (s : MsghandSubtype) : Prop :=
  s = .getLastErrorID ∨ s = .getLastErrorStr ∨ s = .getServiceStats ∨ s = .getServiceSummary

/-- The other answers follow from what every history leaves alone. -/
theorem Remembers.answerOf_eq {xs ys : List (Frame × FrameServices)} {h₁ h₂ : HandlerState}
    (h₁xs : Remembers h₁ xs) (h₂ys : Remembers h₂ ys) (hal : Hal) (len : ℕ)
    (hs : ¬ s.TellsHistory) :
    answerOf hal h₁ len s = answerOf hal h₂ len s := by
  have hstate := h₁xs.state.trans h₂ys.state.symm
  have hmajor := h₁xs.version.1.trans h₂ys.version.1.symm
  have hminor := h₁xs.version.2.trans h₂ys.version.2.symm
  have hpkt := h₁xs.pktStats.trans h₂ys.pktStats.symm
  have hmsg := h₁xs.msgStats.trans h₂ys.msgStats.symm
  cases s with
  | getLastErrorID => exact absurd (Or.inl rfl) hs
  | getLastErrorStr => exact absurd (Or.inr (Or.inl rfl)) hs
  | getServiceStats => exact absurd (Or.inr (Or.inr (Or.inl rfl))) hs
  | getServiceSummary => exact absurd (Or.inr (Or.inr (Or.inr rfl))) hs
  | _ => simp only [answerOf, CommonQuery.report, hstate, hmajor, hminor, hpkt, hmsg]

end TestDomApp
