import TestDomApp.DomApp.Equiv.EchoMain
import TestDomApp.DomApp.Equiv.Session

/-!
# The two programs against each other

`domapp` is run on the requests of the client, and the client on the bytes that `domapp` writes.
The service returns the payload of every request (`data_answer_echo`), on any hardware and whatever
the other services are, so the client gets through all its rounds, with one exception: it does not
accept the longest payload, which `domapp` echoes like any other (`mainLoop_served`).
-/

namespace TestDomApp

open Transition

/-- The reply to an echo request carries what the request carries. -/
theorem data_answer_echo {f : Frame} (hm : Asks (f.request .null) .msghandEchoMsg) (hal : Hal)
    (h : HandlerState) (fs : FrameServices) :
    ((server hal).answer h (f, fs)).data = f.data := by
  show (replyOf _ _ _ f (outcome (f.request .null))).data = _
  rw [outcome_of_asks hm (by decide)]
  show ((f.data.drop 0).take f.data.length).take maxdataValue = f.data
  rw [List.drop_zero, List.take_length, List.take_of_length_le f.len_le]

namespace EchoClient

variable {hal : Hal} {msgHdr : MsgPtr → MessageStruct} {mem : Memory} {fd : Filedes}
  {tr : List (Step Main LoopEvent)} {d : DomApp} {c : EchoClient} {p : Payload}
  {reqs : List Frame}

theorem asks_requestFrame (m : MessageStruct) (p : Payload) (c : EchoClient) :
    Asks ((requestFrame m p c).request .null) .msghandEchoMsg := c.asks_setRequest m p

/-- What `domapp` has written for requests with the payload are as many replies with it. -/
theorem exists_replies (hfd : fd.Carries reqs)
    (hreqs : ∀ f ∈ reqs, ∃ m c₀, f = requestFrame m p c₀)
    (hr : Run (Main.Next hal) (.loopHead (DomApp.start msgHdr mem fd)) tr (.loopHead d))
    (hok : ∀ x ∈ tr, x.label.fstatFails = false ∧ x.label.tx = .all) :
    ∃ gs : List Frame, d.wire = gs.flatMap Frame.bytes ∧ gs.length = tr.length ∧
      ∀ g ∈ gs, g.data = p.bytes := by
  have hreply : ∀ x ∈ tr, ∀ f ∈ reqs, x.label.svc.Replies hal .blank f := by
    intro x _ f hf
    obtain ⟨m, c₀, rfl⟩ := hreqs f hf
    exact Services.replies_echo (asks_requestFrame m p c₀) hal _ _
  obtain ⟨s, ⟨hrunning, hd⟩, -, hwire, hpos⟩ :=
    Main.run_smooth hfd (fun _ => .blank) hr hreply hok
  refine ⟨_, hd.wire.trans hwire, ?_, ?_⟩
  · rcases hpos with ⟨-, hle⟩ | ⟨hstopped, -⟩
    · simpa using hle
    · rw [hrunning] at hstopped
      exact absurd hstopped (by decide)
  · apply Machine.forall_mem_answers
    rintro h ⟨f, fs⟩ hx
    obtain ⟨m, c₀, rfl⟩ := hreqs f (List.of_mem_zip hx).1
    exact data_answer_echo (asks_requestFrame m p c₀) hal h fs

/-- **The client against `domapp`.**  `domapp`, over whichever transport, on whatever hardware and
with whatever other services, has gone through any number of iterations without failures, on
requests of the client, and what it has written arrives at the client, however it is cut.  Then the
client, in as many rounds, accepts every reply if the payload is not as long as a message can be,
and otherwise not: it rejects the longest payload, although that comes back unharmed. -/
theorem mainLoop_served (hfd : fd.Carries reqs)
    (hreqs : ∀ f ∈ reqs, ∃ m c₀, f = requestFrame m p c₀)
    (hr : Run (Main.Next hal) (.loopHead (DomApp.start msgHdr mem fd)) tr (.loopHead d))
    (hok : ∀ x ∈ tr, x.label.fstatFails = false ∧ x.label.tx = .all)
    {ending : Ending} {sched : ℕ → ℕ} (hio : c.iofile = .sock ⟨d.wire, ending, sched⟩) :
    ∃ reports c', c.mainLoop p (List.replicate tr.length .all) = some (reports, c') ∧
      (reports = List.replicate tr.length .correct ↔
        tr = [] ∨ p.bytes.length < maxdataValue) := by
  obtain ⟨gs, hwire, hgs, hdata⟩ := exists_replies hfd hreqs hr hok
  have hcarries : c.iofile.Carries gs := by
    rw [hio, hwire]
    exact Filedes.carries_sock (fun g hg => hdata g hg ▸ p.ne_nil) ending sched
  obtain ⟨last, -, c', hloop⟩ := mainLoop_reports p (List.replicate tr.length .all) hcarries
  refine ⟨_, c', hloop, ?_⟩
  have hiff : p.reports last (List.replicate tr.length .all) gs =
      List.replicate (List.replicate tr.length WriteResult.all).length .correct ↔ _ :=
    Payload.reports_eq_replicate_iff
  rw [List.length_replicate] at hiff
  have hsent : ∀ tx ∈ List.replicate tr.length WriteResult.all,
      0 < tx.value (msgHdrLen + p.bytes.length) := by
    intro tx htx
    obtain rfl := List.eq_of_mem_replicate htx
    show (0 : ℤ) < (msgHdrLen + p.bytes.length : ℕ)
    unfold msgHdrLen
    omega
  have htake : gs.take tr.length = gs := List.take_of_length_le hgs.le
  rw [hiff, htake]
  constructor
  · rintro ⟨-, -, hcorrect⟩
    by_cases hne : tr = []
    · exact Or.inl hne
    · obtain ⟨g, hg⟩ := List.exists_mem_of_length_pos (hgs ▸ List.length_pos_iff.mpr hne)
      exact Or.inr (Payload.verdict_correct_iff.mp (hcorrect g hg)).2
  · rintro (rfl | hlt)
    · have hnil : gs = [] := List.eq_nil_of_length_eq_zero hgs
      exact ⟨hsent, hgs.ge, by simp [hnil]⟩
    · exact ⟨hsent, hgs.ge, fun g hg => Payload.verdict_correct_iff.mpr ⟨hdata g hg, hlt⟩⟩

/-- The request of a client that has just started, with the message of the source. -/
def firstRequest : Frame := (awaiting (replyFrame 1)).requestFrame ⟨default, .null⟩ .testEcho

/-- A device that delivers it, and then fails. -/
def requestDevice : Filedes :=
  .chr fun k => match k with
    | 0 => .frame firstRequest.bytes firstRequest.bytes_ne_nil firstRequest.length_bytes_le
    | _ => .fail 0

/-- One round with the message of the source, which `domapp` reads from a device. -/
theorem mainLoop_served_once :
    ∃ d c c', Main.iterate .default ⟨false, .blank, .all⟩ (DomApp.boot requestDevice) =
        .loopHead d ∧ c.iofile = .sock ⟨d.wire, .eof, fun _ => 0⟩ ∧
      mainLoop .testEcho [.all] c = some ([.correct], c') := by
  have hfd : requestDevice.Carries [firstRequest] := ⟨firstRequest.delivers_bytes, 0, rfl⟩
  have hreply : Services.blank.Replies .default .blank firstRequest :=
    Services.replies_echo (asks_requestFrame _ _ _) _ _ _
  have hr : Run (Main.Next .default) (.loopHead (DomApp.boot requestDevice)) _ _ :=
    Run.nil.snoc (e := ⟨false, .blank, .all⟩) ⟨_, rfl, rfl⟩
  obtain ⟨s, hreal, -, -, ⟨hrunning, -⟩ | ⟨-, hlen⟩⟩ := Main.run_smooth hfd (fun _ => .blank) hr
    (by simpa using hreply) (by simp)
  swap
  · simp at hlen
  cases hst : Main.iterate .default ⟨false, .blank, .all⟩ (DomApp.boot requestDevice) with
  | loopHead d =>
    rw [hst] at hr
    obtain ⟨reports, c', hloop, hiff⟩ := mainLoop_served
      (c := { awaiting firstRequest with iofile := .sock ⟨d.wire, .eof, fun _ => 0⟩ }) hfd
      (fun f hf => ⟨_, _, List.mem_singleton.mp hf⟩) hr (by simp) rfl
    obtain rfl := hiff.mpr (Or.inr (by decide))
    exact ⟨d, _, c', rfl, rfl, hloop⟩
  | exited ret d =>
    rw [hst] at hreal
    exact absurd (hrunning.symm.trans hreal.1) (by decide)
  | undefined =>
    rw [hst] at hreal
    exact hreal.elim

end EchoClient

end TestDomApp
