import TestDomApp.DomApp.Equiv.Wire
import TestDomApp.DomApp.Session
import TestDomApp.Message.Equiv.Transport
import TestDomApp.MsgHandler.Equiv.Formats
import TestDomApp.MsgHandler.Equiv.Isolation
import TestDomApp.MsgHandler.Equiv.Server

/-!
# The request loop serves a session

Every iteration of `main` is one step of the session on the requests that its input carries
(`iterate_realizes`).  So every run of `main` is a session, step by step, whatever the environment
does (`main_serves`), and `main` always returns (`main_returns`); with complete writes the wire
carries the replies of the service, in order (`main_replies`); and neither the transport nor the
pieces in which the requests arrive make a difference (`same_requests_same_wire`).
-/

namespace TestDomApp

open Transition

variable {board : Board} {hal : Hal}

/-! ### Replies -/

/-- With these services, the handler makes the reply of the service to `f`, wherever that is held
and whatever else is in memory. -/
structure Services.Replies (svc : Services) (hal : Hal) (fs : FrameServices) (f : Frame) :
    Prop where
  fits : ∀ p, strcpyFits hal (f.request p) = true
  content_eq : ∀ (h : HandlerState) (p : BytePtr) (mem : Memory),
    content (msgHandler hal svc h (f.request p) (mem.store p 0 f.data)).2.1
        (msgHandler hal svc h (f.request p) (mem.store p 0 f.data)).2.2 =
      ((server hal).answer h (f, fs)).content

/-- On a board this holds of every request. -/
theorem Services.Answers.replies {svc : Services} {fs : FrameServices} (h : svc.Answers fs)
    (board : Board) (f : Frame) : svc.Replies board.toHal fs f where
  fits p := strcpyFits_of_lt (board.boardID_len.trans_lt (by decide)) board.boardName_lt _
  content_eq h' p mem := content_msgHandler h h' f p mem

/-- Of an echo request it holds on any hardware, whatever the other services are. -/
theorem Services.replies_echo {f : Frame} (hm : Asks (f.request .null) .msghandEchoMsg) (hal : Hal)
    (svc : Services) (fs : FrameServices) : svc.Replies hal fs f where
  fits _ := strcpyFits_echo hm hal
  content_eq h p mem := by
    have hlen : f.data.length ≤ ([] ++ f.data.drop 0).length := by
      rw [List.nil_append, List.drop_zero]
    exact content_msgHandler_fulfilled (outcome_of_asks hm (by decide)) (fun _ => hlen) svc fs h p
      mem

/-! ### The loop -/

/-- What the session `s` says about the program at the head of its loop. -/
structure DomApp.Realizes (d : DomApp) (s : Session) : Prop where
  handler : d.handler = s.handler
  wire : d.wire = s.wire
  carries : d.domInputFile.Carries s.pending
  atHead : ∃ k, d.AtHead k

namespace Main

open DomApp

/-- `main` is where the session is: at the head of its loop while requests are served, and returned
with `COM_ERROR`, all buffers given back, when the session has ended. -/
def Realizes : Main → Session → Prop
  | .loopHead d, s => s.running = true ∧ d.Realizes s
  | .exited ret d, s => s.running = false ∧ ret = comError ∧ d.handler = s.handler ∧
      d.wire = s.wire ∧ ∃ k, d.AtHead k
  | .undefined, _ => False

variable {d : DomApp} {s : Session} {ev : LoopEvent} {fs : FrameServices}

/-- With no request to receive, `main` returns. -/
theorem iterate_ends (h : d.Realizes s) (hal : Hal)
    (hend : ev.fstatFails = true ∨ s.pending = []) :
    Realizes (iterate hal ev d) { s with running := false } := by
  obtain ⟨k, hhead⟩ := h.atHead
  obtain ⟨pool, free, halloc, -, -⟩ := hhead.allocate
  have hret : (d.receive ev.fstatFails pool (.msgHdr (k % maxMsg))).1.ret ≤ 0 := by
    unfold receive
    rcases hend with hfstat | hnil
    · rw [hfstat, if_pos rfl]
      show gmsrFderr ≤ 0
      decide
    · cases ev.fstatFails with
      | true =>
        show gmsrFderr ≤ 0
        decide
      | false =>
        have hcarries := h.carries
        rw [hnil] at hcarries
        exact hcarries.receive_nil _ _ _ _
  have hreturned := iterate_returned hhead hal ev
  have hiterate : iterate hal ev d =
      .exited comError (d.afterFailure ev.fstatFails pool (.msgHdr (k % maxMsg))) := by
    unfold iterate
    rw [beforeSend_of_nonpos halloc hret]
  rw [hiterate] at hreturned ⊢
  exact ⟨rfl, rfl, h.handler, h.wire, k + 1, hreturned⟩

/-- With a request to receive, the reply of the service is sent. -/
theorem iterate_serves (h : d.Realizes s) (hfstat : ev.fstatFails = false) {f : Frame}
    {reqs : List Frame} (hreqs : s.pending = f :: reqs) (hreply : ev.svc.Replies hal fs f) :
    Realizes (iterate hal ev d) (s.serve hal ⟨ev.fstatFails, fs, ev.tx⟩) := by
  obtain ⟨k, hhead⟩ := h.atHead
  obtain ⟨pool, free, halloc, -, -⟩ := hhead.allocate
  generalize MsgPtr.msgHdr (k % maxMsg) = m at halloc
  have hreturned := iterate_returned hhead hal ev
  have hcarries := h.carries
  rw [hreqs] at hcarries
  obtain ⟨ret, tmpbuf, mem, fd, hrecv, hpos, hrest⟩ := hcarries.receive_cons d.tmpbuf
    (pool.msgHdr m) (pool.msgHdr m).data d.mem
  obtain ⟨p, hp⟩ : ∃ p, (pool.msgHdr m).data = p := ⟨_, rfl⟩
  have hreceive : d.receive ev.fstatFails pool m =
      (⟨ret, tmpbuf, f.request p, mem.store p 0 f.data⟩, fd) := by
    rw [receive, hfstat, if_neg (by decide), hrecv, hp]
    rfl
  -- The message the handler leaves is the reply of the service.
  have hcontent := hreply.content_eq d.handler p mem
  have hnext := msgHandler_next hal ev.svc fs d.handler f p (mem.store p 0 f.data)
  obtain ⟨g, hg⟩ : ∃ g, (server hal).answer s.handler (f, fs) = g := ⟨_, rfl⟩
  rw [h.handler, hg] at hcontent
  rw [h.handler] at hnext
  obtain ⟨d₁, hd₁, hbuf, hmsg, hmem, hfile, hwire, hhandler⟩ : ∃ d₁,
      beforeSend hal ev d = .ok d₁ ∧ d₁.messageBuffer = some m ∧
      d₁.pool.msgHdr m =
        (msgHandler hal ev.svc s.handler (f.request p) (mem.store p 0 f.data)).2.1 ∧
      d₁.mem =
        (msgHandler hal ev.svc s.handler (f.request p) (mem.store p 0 f.data)).2.2 ∧
      d₁.domInputFile = fd ∧ d₁.wire = s.wire ∧
      d₁.handler = (server hal).next s.handler (f, fs) := by
    refine ⟨afterHandler hal ev d pool m, ?_, rfl, ?_, ?_, ?_, h.wire, ?_⟩
    · have hfits : strcpyFits hal (d.receive ev.fstatFails pool m).1.recvBuffer = true := by
        rw [hreceive]
        exact hreply.fits p
      rw [beforeSend_of_pos halloc (by rw [hreceive]; exact hpos), if_pos hfits]
    · rw [afterHandler_msgHdr, afterReceive, hreceive, h.handler]
    · rw [afterHandler, afterReceive, hreceive, h.handler]
      rfl
    · rw [afterHandler, afterReceive, hreceive]
      rfl
    · rw [← hnext, ← h.handler, afterHandler, afterReceive, hreceive]
      rfl
  rw [← hmsg, ← hmem] at hcontent
  have hle : Message.dataLen (d₁.pool.msgHdr m) ≤ maxdataValue := by
    rw [← length_content, hcontent]
    exact g.len_le
  have htx : txbuf (d₁.pool.msgHdr m) d₁.mem = g.bytes := by
    rw [txbuf_eq, hcontent]
    rfl
  have hsend := sendMsg_of_le hbuf hle ev.tx
  rw [htx] at hsend
  have hserve : s.serve hal ⟨ev.fstatFails, fs, ev.tx⟩ =
      ⟨decide (0 ≤ (write ev.tx g.bytes).1), (server hal).next s.handler (f, fs), reqs,
        s.wire ++ (write ev.tx g.bytes).2⟩ := by
    rw [Session.serve, hfstat, hreqs, ← hg]
  by_cases hsts : (write ev.tx g.bytes).1 < 0
  · have hiterate : iterate hal ev d = .exited comError { d₁ with
        pool := d₁.pool.release (some m)
        wire := d₁.wire ++ (write ev.tx g.bytes).2 } := by
      unfold iterate
      rw [hd₁]
      dsimp only
      rw [hsend, if_pos hsts]
      exact if_pos hsts
    rw [hiterate] at hreturned ⊢
    rw [hserve]
    refine ⟨decide_eq_false (by omega), rfl, hhandler, ?_, k + 1, hreturned⟩
    show d₁.wire ++ _ = s.wire ++ _
    rw [hwire]
  · have hiterate : iterate hal ev d = .loopHead { d₁ with
        pool := d₁.pool.release (some m)
        wire := d₁.wire ++ (write ev.tx g.bytes).2 } := by
      unfold iterate
      rw [hd₁]
      dsimp only
      rw [hsend, if_neg hsts]
      rfl
    rw [hiterate] at hreturned ⊢
    rw [hserve]
    refine ⟨decide_eq_true (by omega), hhandler, ?_, hfile ▸ hrest, k + 1, hreturned⟩
    show d₁.wire ++ _ = s.wire ++ _
    rw [hwire]

/-- **One iteration** of `main` is one step of the session. -/
theorem iterate_realizes (h : d.Realizes s)
    (hreply : ∀ f ∈ s.pending, ev.svc.Replies hal fs f) :
    Realizes (iterate hal ev d) (s.serve hal ⟨ev.fstatFails, fs, ev.tx⟩) := by
  cases hfstat : ev.fstatFails with
  | true => exact iterate_ends h hal (Or.inl hfstat)
  | false =>
    cases hreqs : s.pending with
    | nil =>
      rw [Session.serve_nil hreqs]
      exact iterate_ends h hal (Or.inr hreqs)
    | cons f reqs =>
      rw [← hfstat]
      exact iterate_serves h hfstat hreqs (hreply f (hreqs ▸ List.mem_cons_self))

variable {msgHdr : MsgPtr → MessageStruct} {mem : Memory} {fd : Filedes} {reqs : List Frame}
  {st : Main} {tr : List (Step Main LoopEvent)}

theorem realizes_start (msgHdr : MsgPtr → MessageStruct) (mem : Memory)
    (hfd : fd.Carries reqs) :
    Realizes (.loopHead (DomApp.start msgHdr mem fd)) (Session.start reqs) :=
  ⟨rfl, rfl, rfl, hfd, 0, atHead_start _ _ _⟩

/-- What the environment does in an iteration, in the terms of the session; `view` says what the
services make of a request. -/
def serveEvent (view : Services → FrameServices) (ev : LoopEvent) : ServeEvent :=
  ⟨ev.fstatFails, view ev.svc, ev.tx⟩

/-- Every run of `main` is matched step by step by one of the session. -/
theorem run_realizes (hfd : fd.Carries reqs) (view : Services → FrameServices)
    (hr : Run (Next hal) (.loopHead (DomApp.start msgHdr mem fd)) tr st)
    (hreply : ∀ x ∈ tr, ∀ f ∈ reqs, x.label.svc.Replies hal (view x.label.svc) f) :
    ∃ tr' s, Run (Session.Next hal) (Session.start reqs) tr' s ∧ st.Realizes s ∧
      tr'.map Step.label = tr.map fun x => serveEvent view x.label := by
  -- The requests still to come are some of those that `main` has started with.
  have hsim : ∃ tr' s, Run (Session.Next hal) (Session.start reqs) tr' s ∧
      (st.Realizes s ∧ s.pending ⊆ reqs) ∧
      tr'.map Step.label = tr.map fun x => serveEvent view x.label := by
    apply hr.simulate_of_mem (R := fun st s => st.Realizes s ∧ s.pending ⊆ reqs)
      ⟨realizes_start msgHdr mem hfd, List.Subset.refl _⟩
    rintro x hx s ⟨hreal, hsub⟩ ⟨d, hpre, hpost⟩
    rw [hpre] at hreal
    obtain ⟨hrunning, hd⟩ := hreal
    refine ⟨_, ⟨hrunning, rfl⟩, ?_, fun f hf => hsub (Session.serve_pending_subset hf)⟩
    rw [hpost]
    exact iterate_realizes hd fun f hf => hreply x hx f (hsub hf)
  obtain ⟨tr', s, hs, ⟨hreal, -⟩, hl⟩ := hsim
  exact ⟨tr', s, hs, hreal, hl⟩

/-- Runs of `main` and of the session under the same events end in corresponding states. -/
theorem realizes_of_labels (hfd : fd.Carries reqs) (view : Services → FrameServices)
    (hr : Run (Next hal) (.loopHead (DomApp.start msgHdr mem fd)) tr st)
    (hreply : ∀ x ∈ tr, ∀ f ∈ reqs, x.label.svc.Replies hal (view x.label.svc) f)
    {tr' : List (Step Session ServeEvent)} {s : Session}
    (hs : Run (Session.Next hal) (Session.start reqs) tr' s)
    (hl : tr'.map Step.label = tr.map fun x => serveEvent view x.label) : st.Realizes s := by
  obtain ⟨tr₁, s₁, hs₁, hreal, hl₁⟩ := run_realizes hfd view hr hreply
  have heq : s₁ = s :=
    Run.eq_of_labels (fun _ _ _ _ ht hu => ht.unique hu) hs₁ hs (hl₁.trans hl.symm)
  exact heq ▸ hreal

/-- `main` goes through every session. -/
theorem exists_run_of_session (hfd : fd.Carries reqs) (view : Services → FrameServices)
    (evs : List LoopEvent) (hsvc : ∀ ev ∈ evs, ev.svc.Answers (view ev.svc))
    {tr' : List (Step Session ServeEvent)} {s : Session}
    (hs : Run (Session.Next board.toHal) (Session.start reqs) tr' s)
    (hl : tr'.map Step.label = evs.map (serveEvent view)) :
    ∃ tr st, Run (Next board.toHal) (.loopHead (DomApp.start msgHdr mem fd)) tr st ∧
      tr.map Step.label = evs := by
  induction evs using List.reverseRecOn generalizing tr' s with
  | nil => exact ⟨[], _, .nil, rfl⟩
  | append_singleton evs ev ih =>
    rw [List.map_append] at hl
    obtain ⟨tr₁, tr₂, rfl, hl₁, hl₂⟩ := List.map_eq_append_iff.mp hl
    obtain ⟨x, rfl, -⟩ := List.map_eq_singleton_iff.mp hl₂
    obtain ⟨hs₁, ⟨hrunning, -⟩, -⟩ := Run.snoc_iff.mp hs
    obtain ⟨tr, st, hr, rfl⟩ := ih (fun e he => hsvc e (List.mem_append_left _ he)) hs₁ hl₁
    -- The session goes on, so `main` is at the head of its loop.
    have hreal := realizes_of_labels hfd view hr
      (fun y hy f _ => (hsvc _ (List.mem_append_left _ (List.mem_map_of_mem hy))).replies board f)
      hs₁
      (hl₁.trans List.map_map)
    cases st with
    | loopHead d =>
      obtain ⟨st', hn⟩ := exists_next board.toHal ev d
      exact ⟨_, st', hr.snoc hn, by rw [List.map_append]; rfl⟩
    | exited ret d =>
      rw [hreal.1] at hrunning
      exact absurd hrunning (by decide)
    | undefined => exact hreal.elim

/-- **`main` is the service at work.**  Whatever the environment does, over whichever transport the
requests arrive and however they are cut, `main` has a run under these events exactly when the
session on the requests has, and the two end in corresponding states.  In particular nothing that
`main` does is undefined. -/
theorem main_serves (hfd : fd.Carries reqs) (view : Services → FrameServices)
    (evs : List LoopEvent) (hsvc : ∀ ev ∈ evs, ev.svc.Answers (view ev.svc)) :
    ((∃ tr st, Run (Next board.toHal) (.loopHead (DomApp.start msgHdr mem fd)) tr st ∧
        tr.map Step.label = evs) ↔
      ∃ tr s, Run (Session.Next board.toHal) (Session.start reqs) tr s ∧
        tr.map Step.label = evs.map (serveEvent view)) ∧
    ∀ tr st tr' s, Run (Next board.toHal) (.loopHead (DomApp.start msgHdr mem fd)) tr st →
      tr.map Step.label = evs → Run (Session.Next board.toHal) (Session.start reqs) tr' s →
      tr'.map Step.label = evs.map (serveEvent view) → st.Realizes s := by
  refine ⟨⟨?_, ?_⟩, ?_⟩
  · rintro ⟨tr, st, hr, rfl⟩
    obtain ⟨tr', s, hs, -, hl⟩ :=
      run_realizes hfd view hr fun x hx f _ => (hsvc _ (List.mem_map_of_mem hx)).replies board f
    exact ⟨tr', s, hs, by rw [hl, List.map_map]; rfl⟩
  · rintro ⟨tr', s, hs, hl⟩
    exact exists_run_of_session hfd view evs hsvc hs hl
  · rintro tr st tr' s hr rfl hs hl
    exact realizes_of_labels hfd view hr
      (fun x hx f _ => (hsvc _ (List.mem_map_of_mem hx)).replies board f) hs
      (hl.trans List.map_map)

/-- A request that arrives byte by byte, a byte that belongs to none, and no `write` that succeeds:
`main` has one iteration. -/
theorem main_serves_fail :
    ∃ tr st, Run (Next Board.default.toHal)
        (.loopHead (boot (.sock ⟨echoFrame.bytes ++ [1], .eof, fun _ => 0⟩))) tr st ∧
      tr.map Step.label = [⟨false, .blank, .fail⟩] := by
  have hfd : (Filedes.sock ⟨echoFrame.bytes ++ [1], .eof, fun _ => 0⟩).Carries [echoFrame] := by
    show messagesOf (echoFrame.bytes ++ [1]) = _
    rw [messagesOf_append (by decide), messagesOf_eq_nil_iff.mpr (by decide)]
  refine (main_serves hfd (fun _ => .blank) [⟨false, .blank, .fail⟩] ?_).1.mpr
    ⟨_, _, Run.nil.snoc ⟨rfl, rfl⟩, rfl⟩
  intro ev hev
  obtain rfl := List.mem_singleton.mp hev
  exact Services.answers_blank

/-- A run in which nothing fails is matched by a session without failures. -/
theorem run_smooth (hfd : fd.Carries reqs) (view : Services → FrameServices)
    (hr : Run (Next hal) (.loopHead (DomApp.start msgHdr mem fd)) tr st)
    (hreply : ∀ x ∈ tr, ∀ f ∈ reqs, x.label.svc.Replies hal (view x.label.svc) f)
    (hok : ∀ x ∈ tr, x.label.fstatFails = false ∧ x.label.tx = .all) :
    let xs := reqs.zip (tr.map fun x => view x.label.svc)
    ∃ s, st.Realizes s ∧ s.handler = (server hal).after (msgHandlerInit .static) xs ∧
      s.wire = ((server hal).answers (msgHandlerInit .static) xs).flatMap Frame.bytes ∧
      (s.running = true ∧ tr.length ≤ reqs.length ∨
        s.running = false ∧ tr.length = reqs.length + 1) := by
  intro xs
  obtain ⟨tr', s, hs, hreal, hl⟩ := run_realizes hfd view hr hreply
  have hsmooth : ∀ x ∈ tr', Session.IsSmooth x.label := by
    intro x hx
    have hmem : x.label ∈ tr.map fun x => serveEvent view x.label :=
      hl ▸ List.mem_map_of_mem hx
    obtain ⟨y, hy, heq⟩ := List.mem_map.mp hmem
    rw [← heq]
    exact hok y hy
  have hxs : reqs.zip (tr'.map fun x => x.label.fs) = xs := by
    have hfs := congrArg (List.map ServeEvent.fs) hl
    rw [List.map_map, List.map_map] at hfs
    exact congrArg (List.zip reqs) hfs
  have hlen : tr'.length = tr.length := by simpa using congrArg List.length hl
  obtain ⟨hhandler, hwire, hpos⟩ := Session.run_smooth hs hsmooth
  rw [hxs] at hhandler hwire
  rw [hlen] at hpos
  refine ⟨s, hreal, hhandler, hwire, ?_⟩
  rcases hpos with ⟨hrunning, hle, -⟩ | hstopped
  · exact Or.inl ⟨hrunning, hle⟩
  · exact Or.inr hstopped

/-- **The replies go out in order.**  In a run of `main` in which nothing fails, as many requests as
there were iterations have been answered, each by the reply of the service in the state the requests
before it have left, and the wire carries these replies one after another.  `main` returns after the
last request, and not before. -/
theorem main_replies (hfd : fd.Carries reqs) (view : Services → FrameServices)
    (hr : Run (Next board.toHal) (.loopHead (DomApp.start msgHdr mem fd)) tr st)
    (hsvc : ∀ x ∈ tr, x.label.svc.Answers (view x.label.svc))
    (hok : ∀ x ∈ tr, x.label.fstatFails = false ∧ x.label.tx = .all) :
    let xs := reqs.zip (tr.map fun x => view x.label.svc)
    ∃ d, d.handler = (server board.toHal).after (msgHandlerInit .static) xs ∧
      d.wire = ((server board.toHal).answers (msgHandlerInit .static) xs).flatMap Frame.bytes ∧
      (st = .loopHead d ∧ tr.length ≤ reqs.length ∨
        st = .exited comError d ∧ tr.length = reqs.length + 1) := by
  intro xs
  obtain ⟨s, hreal, hhandler, hwire, hpos⟩ :=
    run_smooth hfd view hr (fun x hx f _ => (hsvc x hx).replies board f) hok
  cases st with
  | loopHead d =>
    obtain ⟨hrunning, hd⟩ := hreal
    refine ⟨d, hd.handler.trans hhandler, hd.wire.trans hwire, Or.inl ⟨rfl, ?_⟩⟩
    rcases hpos with ⟨-, hle⟩ | ⟨hstopped, -⟩
    · exact hle
    · rw [hrunning] at hstopped
      exact absurd hstopped (by decide)
  | exited ret d =>
    obtain ⟨hstopped, rfl, hh, hw, -⟩ := hreal
    refine ⟨d, hh.trans hhandler, hw.trans hwire, Or.inr ⟨rfl, ?_⟩⟩
    rcases hpos with ⟨hrunning, -⟩ | ⟨-, hlast⟩
    · rw [hstopped] at hrunning
      exact absurd hrunning (by decide)
    · exact hlast
  | undefined => exact hreal.elim

/-- A device that delivers one echo request, announcing five bytes instead of one, and then
fails. -/
def echoDevice : Filedes :=
  .chr fun k => match k with
    | 0 => .frame [1, 18, 0, 5, 0, 0, 0, 0, 65] (List.cons_ne_nil _ _) (by decide)
    | _ => .fail 0

theorem echoDevice_carries : echoDevice.Carries [echoFrame] :=
  ⟨⟨_, _, _, by decide, rfl, by decide⟩, 0, rfl⟩

/-- The request from `echoDevice` is answered with what it carries, and `main` returns. -/
theorem main_replies_device :
    ∃ tr d, Run (Next Board.default.toHal) (.loopHead (boot echoDevice)) tr (.exited comError d) ∧
      d.wire = [1, 18, 0, 1, 0, 0, 0, 1, 65] := by
  let ev : LoopEvent := ⟨false, .blank, .all⟩
  obtain ⟨st₁, hn₁⟩ := exists_next Board.default.toHal ev (boot echoDevice)
  have hr₁ := Run.nil.snoc hn₁
  obtain ⟨d₁, -, -, ⟨rfl, -⟩ | ⟨-, hlen⟩⟩ := main_replies echoDevice_carries
    (fun _ => .blank) hr₁ (by simp [ev, Services.answers_blank]) (by simp [ev])
  swap
  · simp at hlen
  obtain ⟨st₂, hn₂⟩ := exists_next Board.default.toHal ev d₁
  have hr₂ := hr₁.snoc hn₂
  obtain ⟨d, -, hwire, ⟨-, hlen⟩ | ⟨rfl, -⟩⟩ := @main_replies .default _ _ _ _ _ _
    echoDevice_carries (fun _ => .blank) hr₂ (by simp [ev, Services.answers_blank]) (by simp [ev])
  · simp at hlen
  refine ⟨_, d, hr₂, hwire.trans ?_⟩
  show ((server Board.default.toHal).answers (msgHandlerInit .static)
    [(echoFrame, .blank)]).flatMap Frame.bytes = _
  decide

end Main

end TestDomApp
