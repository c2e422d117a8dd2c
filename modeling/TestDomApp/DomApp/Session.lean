import TestDomApp.DomApp.Main
import TestDomApp.Message.Stream
import TestDomApp.MsgHandler.Server

/-!
# Serving

What a run of `domapp` amounts to: the requests that its input carries are answered one after
another by `server`, and the replies go out in the same order.  A `Session` is the state of the
service, the requests still to come and the bytes that have gone out; there is nothing in it of
buffers, memory, or the pieces in which `recv` delivers a request.
-/

namespace TestDomApp

open Transition

/-- What the environment does while one request is served. -/
structure ServeEvent where
  /-- The request cannot be asked for. -/
  fstatFails : Bool
  fs : FrameServices
  tx : WriteResult

/-- The service at work. -/
structure Session where
  /-- Requests are still served. -/
  running : Bool
  handler : HandlerState
  pending : List Frame
  wire : List UInt8

namespace Session

/-- The session that `main` opens on these requests. -/
def start (reqs : List Frame) : Session := ⟨true, msgHandlerInit .static, reqs, []⟩

/-- The next request is answered, and as much of the reply goes out as the `write` accepts.  The
session ends when there is no request, or the `write` fails. -/
def serve (hal : Hal) (ev : ServeEvent) (s : Session) : Session :=
  match ev.fstatFails, s.pending with
  | false, f :: fs =>
    let (sts, out) := write ev.tx ((server hal).answer s.handler (f, ev.fs)).bytes
    { running := decide (0 ≤ sts)
      handler := (server hal).next s.handler (f, ev.fs)
      pending := fs
      wire := s.wire ++ out }
  | _, _ => { s with running := false }

/-- The steps of a session. -/
def Next (hal : Hal) (s : Session) (ev : ServeEvent) (s' : Session) : Prop :=
  s.running = true ∧ s' = s.serve hal ev

theorem Next.unique {hal : Hal} {s t u : Session} {ev : ServeEvent} (ht : s.Next hal ev t)
    (hu : s.Next hal ev u) : t = u := ht.2.trans hu.2.symm

/-- Nothing goes wrong while a request is served. -/
def IsSmooth (ev : ServeEvent) : Prop := ev.fstatFails = false ∧ ev.tx = .all

variable {hal : Hal} {s : Session} {ev : ServeEvent}

theorem serve_cons {f : Frame} {fs : List Frame} (hs : s.pending = f :: fs) (hev : IsSmooth ev) :
    s.serve hal ev = ⟨true, (server hal).next s.handler (f, ev.fs), fs,
      s.wire ++ ((server hal).answer s.handler (f, ev.fs)).bytes⟩ := by
  obtain ⟨hfstat, htx⟩ := hev
  rw [serve, hfstat, hs, htx]
  rfl

theorem serve_nil (hs : s.pending = []) : s.serve hal ev = { s with running := false } := by
  rw [serve, hs]
  split
  · exact absurd ‹[] = _› (List.cons_ne_nil _ _).symm
  · rfl

theorem serve_pending_subset : (s.serve hal ev).pending ⊆ s.pending := by
  unfold serve
  split
  · rename_i hs
    rw [hs]
    exact List.subset_cons_self _ _
  · exact List.Subset.refl _

/-- One more element to zip with takes the next one there is. -/
theorem zip_concat {α β : Type*} (xs : List α) (ys : List β) (y : β) :
    xs.zip (ys ++ [y]) = xs.zip ys ++ (xs.drop ys.length).head?.toList.map (·, y) := by
  induction ys generalizing xs with
  | nil => cases xs <;> simp
  | cons z ys ih =>
    cases xs with
    | nil => rfl
    | cons x xs =>
      rw [List.cons_append, List.zip_cons_cons, ih xs, List.zip_cons_cons, List.cons_append,
        List.length_cons, List.drop_succ_cons]

variable {reqs : List Frame} {tr : List (Step Session ServeEvent)}

/-- **A session without failures** answers the requests one by one, and ends after the last. -/
theorem run_smooth (hr : Run (Next hal) (start reqs) tr s) (hok : ∀ x ∈ tr, IsSmooth x.label) :
    let xs := reqs.zip (tr.map fun x => x.label.fs)
    s.handler = (server hal).after (msgHandlerInit .static) xs ∧
    s.wire = ((server hal).answers (msgHandlerInit .static) xs).flatMap Frame.bytes ∧
    (s.running = true ∧ tr.length ≤ reqs.length ∧ s.pending = reqs.drop tr.length ∨
      s.running = false ∧ tr.length = reqs.length + 1) := by
  intro xs
  induction hr with
  | nil =>
    have hxs : xs = [] := List.zip_nil_right
    rw [hxs]
    exact ⟨rfl, rfl, Or.inl ⟨rfl, Nat.zero_le _, rfl⟩⟩
  | @snoc tr t u ev hr hn ih =>
    obtain ⟨hrunning, rfl⟩ := hn
    obtain ⟨hhandler, hwire, hpos⟩ := ih fun x hx => hok x (List.mem_append_left _ hx)
    have hev : IsSmooth ev := hok _ (List.mem_append_right _ (List.mem_singleton_self _))
    rcases hpos with ⟨-, hle, hpending⟩ | ⟨hstopped, -⟩
    swap
    · rw [hrunning] at hstopped
      exact absurd hstopped (by decide)
    have hzip : xs = reqs.zip (tr.map fun x => x.label.fs) ++
        t.pending.head?.toList.map (·, ev.fs) := by
      have hconcat := zip_concat reqs (tr.map fun x => x.label.fs) ev.fs
      rw [List.length_map, ← hpending] at hconcat
      rw [← hconcat]
      show reqs.zip ((tr ++ [_]).map _) = _
      rw [List.map_append]
      rfl
    rw [List.length_append, List.length_singleton, hzip, Machine.after_append,
      Machine.answers_append, ← hhandler, List.flatMap_append, ← hwire]
    cases hreqs : t.pending with
    | nil =>
      -- The last request has been served.
      rw [serve_nil hreqs]
      refine ⟨rfl, (List.append_nil _).symm, Or.inr ⟨rfl, ?_⟩⟩
      rw [hreqs] at hpending
      have hge := List.drop_eq_nil_iff.mp hpending.symm
      omega
    | cons f fs =>
      rw [serve_cons hreqs hev]
      refine ⟨rfl, ?_, Or.inl ⟨rfl, ?_, ?_⟩⟩
      · simp
      · have hlen := congrArg List.length (hpending.symm.trans hreqs)
        rw [List.length_drop, List.length_cons] at hlen
        omega
      · rw [← List.drop_drop, ← hpending, hreqs]
        rfl

end Session

end TestDomApp
