import TestDomApp.MsgHandler.Equiv.Formats
import TestDomApp.Transition.Edit

/-!
# Queries are inert

Two histories of the handler that differ in queries only, whichever are removed, inserted or moved,
lead to states that differ in `msgReceived` only (`sameButReceived_of_edits`).  So every other
message gets the same reply in both, but for that number where it is reported, and it differs by the
difference in the number of messages counted (`queries_inert`).
-/

namespace TestDomApp

open Transition

variable {hal : Hal} {h h₁ h₂ h₁' h₂' h₀ : HandlerState} {l l₁ l₂ : Handled} {s : MsghandSubtype}

/-! ### States that differ in `msgReceived` -/

/-- The states are the same but for `msgReceived`. -/
def SameButReceived (h₁ h₂ : HandlerState) : Prop := h₁.withReceived 0 = h₂.withReceived 0

/-- A message changes the rest of the state without regard to `msgReceived`. -/
theorem withReceived_after (h : HandlerState) (o : Outcome) (received : Bool) (x y : UInt32) :
    (h.after o received).withReceived x = ((h.withReceived y).after o received).withReceived x :=
  rfl

theorem HandlerState.Next.post_eq (hn : h.Next hal l h₁) :
    h₁ = (msgHandler hal l.svc h l.request l.mem).1 :=
  congrArg Prod.fst hn.symm

/-- The same message keeps the states the same. -/
theorem SameButReceived.next (hsame : SameButReceived h₁ h₂)
    (hhead : l₁.request.head = l₂.request.head) (hn₁ : h₁.Next hal l₁ h₁')
    (hn₂ : h₂.Next hal l₂ h₂') : SameButReceived h₁' h₂' := by
  rw [SameButReceived, hn₁.post_eq, hn₂.post_eq, msgHandler_state, msgHandler_state,
    ← outcome_congr hhead, isHandlerMessage, isHandlerMessage, Message.getType, Message.getType,
    ← hhead, withReceived_after h₁ _ _ 0 0, withReceived_after h₂ _ _ 0 0, hsame]

/-- A query. -/
def IsQuery (l : Handled) : Prop := ∃ s, Asks l.request s ∧ s.isQuery = true

/-- So does a query on either side. -/
theorem SameButReceived.query_left (hsame : SameButReceived h₁ h₂) (hq : IsQuery l)
    (hn : h₁.Next hal l h₁') : SameButReceived h₁' h₂ := by
  obtain ⟨s, hm, hs⟩ := hq
  rw [SameButReceived, hn.post_eq, msgHandler_query hm hs]
  exact hsame

theorem SameButReceived.query_right (hsame : SameButReceived h₁ h₂) (hq : IsQuery l)
    (hn : h₂.Next hal l h₂') : SameButReceived h₁ h₂' := by
  obtain ⟨s, hm, hs⟩ := hq
  rw [SameButReceived, hn.post_eq, msgHandler_query hm hs]
  exact hsame

/-- The same message, which the handler answers itself. -/
def SameMessage (hal : Hal) (l₁ l₂ : Handled) : Prop :=
  isOwn l₁.request = true ∧ SameRequest hal l₁.request l₁.mem l₂.request l₂.mem

/-- **Histories that differ in queries** lead to states that differ in `msgReceived`. -/
theorem sameButReceived_of_edits {es : List (Edit HandlerState Handled)}
    (hes : ∀ e ∈ es, e.IsValid (SameMessage hal) IsQuery)
    (hr₁ : Run (HandlerState.Next hal) h₀ (es.filterMap Edit.before) h₁)
    (hr₂ : Run (HandlerState.Next hal) h₀ (es.filterMap Edit.after) h₂) :
    SameButReceived h₁ h₂ := by
  apply Run.relate (R := SameButReceived) hes hr₁ hr₂
  · rfl
  · intro h₁ h₂ l₁ l₂ h₁' h₂' hsame hl hn₁ hn₂
    exact hsame.next hl.2.head hn₁ hn₂
  · intro h₁ h₂ l h₁' hsame hq hn
    exact hsame.query_left hq hn
  · intro h₁ h₂ l h₂' hsame hq hn
    exact hsame.query_right hq hn

/-! ### Replies in such states -/

/-- Where the reply to a message reports `msgReceived`. -/
def receivedOffset (m : MessageStruct) : Option ℕ :=
  if Asks m .getServiceStats then some 0
  else if Asks m .getServiceSummary then some 5
  else none

/-- The data are the same, but for a number at `off` that is larger by `d` in the second. -/
def DriftsBy (d : UInt32) (off : ℕ) (data₁ data₂ : List UInt8) : Prop :=
  ∃ pre x post, pre.length = off ∧ data₁ = pre ++ formatLong x ++ post ∧
    data₂ = pre ++ formatLong (x + d) ++ post

/-- The replies to a message are the same, but for a difference of `d` in the number of messages
received. -/
def SameReplyBut (d : UInt32) (l₁ l₂ : Handled) : Prop :=
  (content l₁.reply l₁.mem').1 = (content l₂.reply l₂.mem').1 ∧
    match receivedOffset l₁.request with
    | some off => DriftsBy d off (content l₁.reply l₁.mem').2 (content l₂.reply l₂.mem').2
    | none => (content l₁.reply l₁.mem').2 = (content l₂.reply l₂.mem').2

/-- Only statistics and summary report `msgReceived`. -/
theorem answerOf_withReceived (h : HandlerState) (x : UInt32) (len : ℕ)
    (hstats : s ≠ .getServiceStats) (hsum : s ≠ .getServiceSummary) :
    answerOf hal (h.withReceived x) len s = answerOf hal h len s := by
  cases s with
  | getServiceStats => exact absurd rfl hstats
  | getServiceSummary => exact absurd rfl hsum
  | _ => rfl

theorem SameButReceived.answerOf_eq (hsame : SameButReceived h₁ h₂) (len : ℕ)
    (hstats : s ≠ .getServiceStats) (hsum : s ≠ .getServiceSummary) :
    answerOf hal h₁ len s = answerOf hal h₂ len s := by
  rw [← answerOf_withReceived h₁ 0 len hstats hsum, ← answerOf_withReceived h₂ 0 len hstats hsum,
    hsame]

/-- The length announced does not depend on `msgReceived`. -/
theorem SameButReceived.len_answerOf_eq (hsame : SameButReceived h₁ h₂) (len : ℕ)
    (s : MsghandSubtype) : (answerOf hal h₁ len s).len = (answerOf hal h₂ len s).len := by
  have hlen : ∀ h : HandlerState,
      (answerOf hal (h.withReceived 0) len s).len = (answerOf hal h len s).len := by
    intro h
    cases s <;> rfl
  rw [← hlen h₁, ← hlen h₂, hsame]

/-- The head of the reply to a fulfilled request. -/
theorem head_fulfilled {svc : Services} {m : MessageStruct} {mem : Memory} (hm : Asks m s)
    (hs : s ≠ .remoteObjectRef) :
    (content (msgHandler hal svc h m mem).2.1 (msgHandler hal svc h m mem).2.2).1 =
      answerHead m.head
        (answerOf hal (msgHandler hal svc h m mem).1 (Message.dataLen m) s).len := by
  rw [msgHandler_fulfilled hm hs, content_answer]

theorem Asks.congr {m₁ m₂ : MessageStruct} (hhead : m₁.head = m₂.head) (hm : Asks m₁ s) :
    Asks m₂ s := by
  unfold Asks Message.getType Message.getSubtype at hm ⊢
  rwa [← hhead]

theorem SameButReceived.eq_withReceived (hsame : SameButReceived h₁ h₂) :
    h₂ = h₁.withReceived h₂.msgHand.msgReceived := by
  show (h₂.withReceived 0).withReceived h₂.msgHand.msgReceived = _
  rw [← hsame]
  rfl

theorem add_one_add_sub (x y : UInt32) : x + 1 + (y - x) = y + 1 := by
  grind

/-- The numbers in the statistics, and the rest of them. -/
theorem driftsBy_stats (h : HandlerState) (x y : UInt32) :
    DriftsBy (y - x) 0 (CommonQuery.serviceStats.report (h.withReceived (x + 1)).msgHand)
      (CommonQuery.serviceStats.report (h.withReceived (y + 1)).msgHand) := by
  refine ⟨[], x + 1, formatLong h.msgHand.msgRefused ++ formatLong h.msgHand.msgProcessingErr, rfl,
    rfl, ?_⟩
  rw [add_one_add_sub]
  rfl

theorem driftsBy_summary (h : HandlerState) (x y : UInt32) :
    DriftsBy (y - x) 5 (CommonQuery.all.flatMap fun q => q.report (h.withReceived (x + 1)).msgHand)
      (CommonQuery.all.flatMap fun q => q.report (h.withReceived (y + 1)).msgHand) := by
  refine ⟨[h.msgHand.state, h.msgHand.lastErrorID, h.msgHand.lastErrorSeverity,
    h.msgHand.majorVersion, h.msgHand.minorVersion], x + 1,
    formatLong h.msgHand.msgRefused ++ formatLong h.msgHand.msgProcessingErr ++
      h.msgHand.lastErrorStr.bytes, rfl, ?_, ?_⟩
  · simp [CommonQuery.all, CommonQuery.report, HandlerState.withReceived]
  · simp [CommonQuery.all, CommonQuery.report, HandlerState.withReceived, add_one_add_sub]

theorem HandlerState.Next.content_eq (hn : h.Next hal l h₁) :
    content l.reply l.mem' =
      content (msgHandler hal l.svc h l.request l.mem).2.1
        (msgHandler hal l.svc h l.request l.mem).2.2 := by
  rw [hn]

theorem HandlerState.Next.replyData_eq (hn : h.Next hal l h₁) :
    (content l.reply l.mem').2 = replyData hal l.svc h l.request l.mem :=
  congrArg Prod.snd hn.content_eq

/-- **The same message in such states** gets the same reply, but for the number of messages
received. -/
theorem SameButReceived.sameReply (hsame : SameButReceived h₁ h₂) (hown : isOwn l₁.request = true)
    (hreq : SameRequest hal l₁.request l₁.mem l₂.request l₂.mem)
    (hfits : h₁.msgHand.lastErrorStr.strlen < maxErrorStrLen) (hn₁ : h₁.Next hal l₁ h₁')
    (hn₂ : h₂.Next hal l₂ h₂') :
    SameReplyBut (h₂.msgHand.msgReceived - h₁.msgHand.msgReceived) l₁ l₂ := by
  have hpost := hsame.next hreq.head hn₁ hn₂
  rw [hn₁.post_eq, hn₂.post_eq] at hpost
  have hfits₂ : h₂.msgHand.lastErrorStr.strlen < maxErrorStrLen := by
    rw [hsame.eq_withReceived]
    exact hfits
  -- The heads of the replies to fulfilled requests are the same in any case.
  have hhead : ∀ s, Asks l₁.request s → s ≠ .remoteObjectRef →
      (content l₁.reply l₁.mem').1 = (content l₂.reply l₂.mem').1 := by
    intro s hm hs
    rw [hn₁.content_eq, hn₂.content_eq, head_fulfilled hm hs,
      head_fulfilled (hm.congr hreq.head) hs, Message.dataLen, Message.dataLen, ← hreq.head,
      hpost.len_answerOf_eq _ s]
  unfold SameReplyBut receivedOffset
  split_ifs with hstats hsum
  · refine ⟨hhead _ hstats (by decide), ?_⟩
    show DriftsBy _ 0 _ _
    rw [hn₁.replyData_eq, hn₂.replyData_eq, replyData_report (q := .serviceStats) hstats hfits,
      replyData_report (q := .serviceStats) (hstats.congr hreq.head) hfits₂, hsame.eq_withReceived]
    exact driftsBy_stats h₁ _ _
  · refine ⟨hhead _ hsum (by decide), ?_⟩
    show DriftsBy _ 5 _ _
    rw [hn₁.replyData_eq, hn₂.replyData_eq, replyData_summary hsum hfits,
      replyData_summary (hsum.congr hreq.head) hfits₂, hsame.eq_withReceived]
    exact driftsBy_summary h₁ _ _
  · have hcontent : content l₁.reply l₁.mem' = content l₂.reply l₂.mem' := by
      rw [hn₁.content_eq, hn₂.content_eq]
      apply hreq.content_reply hown
      intro s hm
      apply hpost.answerOf_eq
      · rintro rfl
        exact hstats hm
      · rintro rfl
        exact hsum hm
    rw [hcontent]
    exact ⟨rfl, rfl⟩

/-- **Queries are inert.**  Take a history of messages that the handler answers itself, and remove,
insert or move queries anywhere in it.  Every other message gets the same reply, but for the number
of messages received in the replies to `GET_SERVICE_STATS` and `GET_SERVICE_SUMMARY`; it changes by
the difference in the number of messages to the handler before that message. -/
theorem queries_inert {es es₁ es₂ : List (Edit HandlerState Handled)}
    {x₁ x₂ : Step HandlerState Handled}
    (hes : ∀ e ∈ es, e.IsValid (SameMessage hal) IsQuery)
    (hr₁ : Run (HandlerState.Next hal) (msgHandlerInit h₀) (es.filterMap Edit.before) h₁)
    (hr₂ : Run (HandlerState.Next hal) (msgHandlerInit h₀) (es.filterMap Edit.after) h₂)
    (hkept : es = es₁ ++ .kept x₁ x₂ :: es₂) :
    SameReplyBut
      (UInt32.ofNat (countMsgs isHandlerMessage (es₁.filterMap Edit.after)) -
        UInt32.ofNat (countMsgs isHandlerMessage (es₁.filterMap Edit.before)))
      x₁.label x₂.label := by
  subst hkept
  obtain ⟨hpre₁, hn₁⟩ := hr₁.of_kept_before
  obtain ⟨hpre₂, hn₂⟩ := hr₂.of_kept_after
  have hvalid : SameMessage hal x₁.label x₂.label :=
    hes (.kept x₁ x₂) (List.mem_append_right _ List.mem_cons_self)
  have hsame := sameButReceived_of_edits (fun e he => hes e (List.mem_append_left _ he)) hpre₁ hpre₂
  rw [← (run_counters hpre₁).1, ← (run_counters hpre₂).1]
  exact hsame.sameReply hvalid.1 hvalid.2 (strlen_lastErrorStr_lt hpre₁) hn₁ hn₂

/-- A request with an unknown subtype and one for statistics, and the same after an inserted
`GET_SERVICE_STATE`. -/
theorem queries_inert_inserted :
    ∃ (tr₁ tr₂ : List (Step HandlerState Handled)) (h₁ h₂ : HandlerState)
      (x₁ x₂ : Step HandlerState Handled),
      Run (HandlerState.Next .default) (msgHandlerInit .static) (tr₁ ++ [x₁]) h₁ ∧
      Run (HandlerState.Next .default) (msgHandlerInit .static) (tr₂ ++ [x₂]) h₂ ∧
      tr₁.length = 1 ∧ tr₂.length = 2 ∧ receivedOffset x₁.label.request = some 0 ∧
      SameReplyBut 1 x₁.label x₂.label := by
  have hstep : ∀ (tr : List (Step HandlerState Handled)) (h : HandlerState) (m : MessageStruct),
      Run (HandlerState.Next .default) (msgHandlerInit .static) tr h →
      ∃ x : Step HandlerState Handled, x.label.request = m ∧ x.label.mem = (fun _ _ => 0) ∧
        Run (HandlerState.Next .default) (msgHandlerInit .static) (tr ++ [x]) x.post :=
    fun tr h m hr => ⟨⟨h, Handled.call .default .blank h m fun _ _ => 0, _⟩, rfl, rfl,
      hr.snoc (HandlerState.next_call .default .blank h m fun _ _ => 0)⟩
  obtain ⟨b₁, hb₁, hm₁, hr₁⟩ := hstep [] _ ⟨⟨1, 9, 0, 0, 0, 0, 0, 0⟩, .msgData 0⟩ .nil
  obtain ⟨x₁, hx₁, hmx₁, hr₁⟩ := hstep _ _ ⟨⟨1, 6, 0, 0, 0, 0, 0, 0⟩, .msgData 0⟩ hr₁
  obtain ⟨q, hq, -, hr₂⟩ := hstep [] _ ⟨⟨1, 1, 0, 0, 0, 0, 0, 0⟩, .msgData 0⟩ .nil
  obtain ⟨b₂, hb₂, hm₂, hr₂⟩ := hstep _ _ ⟨⟨1, 9, 0, 0, 0, 0, 0, 0⟩, .msgData 0⟩ hr₂
  obtain ⟨x₂, hx₂, hmx₂, hr₂⟩ := hstep _ _ ⟨⟨1, 6, 0, 0, 0, 0, 0, 0⟩, .msgData 0⟩ hr₂
  refine ⟨[b₁], [q, b₂], x₁.post, x₂.post, x₁, x₂, hr₁, hr₂, rfl, rfl, by rw [hx₁]; rfl, ?_⟩
  have hes : ∀ e ∈ [Edit.inserted q, .kept b₁ b₂, .kept x₁ x₂],
      e.IsValid (SameMessage .default) IsQuery := by
    have hquery : IsQuery q.label := ⟨.getServiceState, by rw [hq]; decide, rfl⟩
    have hbad : SameMessage .default b₁.label b₂.label := by
      refine ⟨by rw [hb₁]; decide, ?_⟩
      rw [hb₁, hb₂, hm₁, hm₂]
      exact ⟨rfl, fun _ _ => rfl⟩
    have hstats : SameMessage .default x₁.label x₂.label := by
      refine ⟨by rw [hx₁]; decide, ?_⟩
      rw [hx₁, hx₂, hmx₁, hmx₂]
      exact ⟨rfl, fun _ _ => rfl⟩
    simp [Edit.IsValid, hquery, hbad, hstats]
  have hsplit : [Edit.inserted q, .kept b₁ b₂, .kept x₁ x₂] =
      [.inserted q, .kept b₁ b₂] ++ .kept x₁ x₂ :: [] := rfl
  have hreply := queries_inert hes hr₁ hr₂ hsplit
  have hcount : UInt32.ofNat (countMsgs isHandlerMessage [q, b₂]) -
      UInt32.ofNat (countMsgs isHandlerMessage [b₁]) = 1 := by
    rw [countMsgs, countMsgs, List.countP_cons, List.countP_singleton, List.countP_singleton, hq,
      hb₁, hb₂]
    decide
  rwa [← hcount]

end TestDomApp
