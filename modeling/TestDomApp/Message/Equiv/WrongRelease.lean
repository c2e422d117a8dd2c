import Mathlib.Data.List.Perm.Basic
import TestDomApp.Message.Equiv.Buffers

/-!
# Wrong releases

What the pool does when threads release what they do not hold.  `messageBuffers_release` looks at
one slot only, the one it is about to write to.  That slot is taken exactly when no buffer is
missing from the free list, so what is refused and counted are the releases that find the list full,
and slots and cursors fit together whatever is released (`pool_consistent`).

Whether the buffer is in the list already is not looked at.  As long as such releases come only
when the list is full, no buffer is in it twice, and between two allocations of a buffer it has been
released (`double_release`).
-/

namespace TestDomApp

open Transition CyclicBuffer

namespace MessageBuffers

variable {b s : MessageBuffers} {free : List MsgPtr} {m : MsgPtr}

/-- A call, with the pool before and after it. -/
abbrev Call := Step MessageBuffers (PoolOp × Option MsgPtr)

/-- The buffers in the free list, in the order of the array. -/
def entries (b : MessageBuffers) : List MsgPtr := (List.range maxMsg).filterMap b.msgFreeList

/-- No slot of the free list is null. -/
def IsFull (b : MessageBuffers) : Prop := ∀ i < maxMsg, b.msgFreeList i ≠ none

instance (b : MessageBuffers) : Decidable b.IsFull :=
  inferInstanceAs (Decidable (∀ i < maxMsg, b.msgFreeList i ≠ none))

namespace Call

/-- The message `m` is released. -/
def Releases (x : Call) (m : MsgPtr) : Prop := x.label.1 = .release (some m)

/-- The buffer `m` is handed out. -/
def HandsOut (x : Call) (m : MsgPtr) : Prop := x.label = (.allocate, some m)

/-- Something is released with no slot null. -/
def isFullRelease (x : Call) : Bool := x.label.1.isRelease && decide x.pre.IsFull

/-- Nothing is done but to count. -/
def Refused (x : Call) : Prop :=
  x.post = { x.pre with freeListCorrupt := Int.bmod (x.pre.freeListCorrupt + 1) (2 ^ 32) }

end Call

open Call

/-- A buffer that is in the free list is released only while no slot is null. -/
def RepeatsWhenFull (tr : List Call) : Prop :=
  ∀ x ∈ tr, ∀ m, x.Releases m → m ∈ x.pre.entries → x.pre.IsFull

/-! ### The free list -/

theorem Free.entries_perm (h : b.Free free) : b.entries.Perm free := Held.entries_perm h

theorem Free.mem_entries (h : b.Free free) : m ∈ b.entries ↔ m ∈ free := h.entries_perm.mem_iff

theorem Free.isFull_iff (h : b.Free free) : b.IsFull ↔ free.length = maxMsg :=
  h.forall_slot_ne_none_iff

/-- A release that is refused leaves the free list alone. -/
theorem entries_of_refused {x : Call} (h : x.Refused) : x.post.entries = x.pre.entries := by
  rw [h]
  rfl

/-! ### Runs of calls -/

variable {tr : List Call}

/-- However wrong the releases, the cursors delimit what is free. -/
theorem run_free (hr : Run Next b.init tr s) (hops : ∀ x ∈ tr, x.label.1.NonNull) :
    ∃ free, s.Free free := by
  apply hr.invariant_of_mem (I := fun s => ∃ free, s.Free free) ⟨allHdrs, b.free_init⟩
  rintro x hx hn ⟨free, hfree⟩
  obtain ⟨free', -, hfree'⟩ := hfree.effect hn (hops x hx)
  exact ⟨free', hfree'⟩

/-- **What each call of a run does.** -/
theorem run_effect (hr : Run Next b.init tr s) (hops : ∀ x ∈ tr, x.label.1.NonNull) {x : Call}
    (hx : x ∈ tr) :
    ∃ free free', x.pre.Free free ∧ x.pre.Effect free x.label x.post free' ∧ x.post.Free free' := by
  obtain ⟨tr₁, hpfx, hr₁, hn⟩ := hr.of_mem hx
  obtain ⟨free, hfree⟩ := run_free hr₁ fun y hy =>
    hops y (hpfx.subset (List.mem_append_left _ hy))
  obtain ⟨free', heff, hfree'⟩ := hfree.effect hn (hops x hx)
  exact ⟨free, free', hfree, heff, hfree'⟩

/-- A release is refused exactly when no slot is null. -/
theorem refused_iff (hr : Run Next b.init tr s) (hops : ∀ x ∈ tr, x.label.1.NonNull) {x : Call}
    (hx : x ∈ tr) (hrel : x.Releases m) : x.Refused ↔ x.pre.IsFull := by
  obtain ⟨free, free', hfree, heff, hfree'⟩ := run_effect hr hops hx
  obtain ⟨b₁, ⟨op, r⟩, b₂⟩ := x
  obtain rfl : op = .release (some m) := hrel
  dsimp only at hfree heff hfree' ⊢
  rw [hfree.isFull_iff]
  cases heff with
  | refused m free hfull => exact iff_of_true rfl hfull
  | putBack m free hlt hcorrupt =>
    refine iff_of_false ?_ (Nat.ne_of_lt hlt)
    intro href
    -- The list has grown.
    have hperm := hfree'.entries_perm
    rw [show b₂.entries = b₁.entries from entries_of_refused href] at hperm
    have hlen := (hfree.entries_perm.symm.trans hperm).length_eq
    rw [List.length_append, List.length_singleton] at hlen
    omega

/-! ### Consistency -/

/-- The releases of a run that find no slot null. -/
def fullReleases (tr : List Call) : ℕ := tr.countP isFullRelease

/-- A call counts a corruption when it is a release that finds no slot null. -/
theorem Effect.freeListCorrupt_eq {l : PoolOp × Option MsgPtr} {b' : MessageBuffers}
    {free' : List MsgPtr} (heff : b.Effect free l b' free') (hfree : b.Free free) :
    b'.freeListCorrupt =
      if isFullRelease ⟨b, l, b'⟩ then Int.bmod (b.freeListCorrupt + 1) (2 ^ 32)
      else b.freeListCorrupt := by
  have hfull := hfree.isFull_iff
  unfold isFullRelease
  cases heff with
  | exhausted => rfl
  | handedOut m free hcorrupt => exact hcorrupt
  | putBack m free hlt hcorrupt => simpa [hfull, Nat.ne_of_lt hlt] using hcorrupt
  | refused m free hlen => simp [hfull, hlen, PoolOp.isRelease]
  | written m msg free => rfl

/-- The count of corruptions is that of the releases that find no slot null. -/
theorem run_freeListCorrupt (hb : b.freeListCorrupt = 0) (hr : Run Next b.init tr s)
    (hops : ∀ x ∈ tr, x.label.1.NonNull) :
    s.freeListCorrupt = Int.bmod (fullReleases tr) (2 ^ 32) := by
  induction hr with
  | nil =>
    rw [freeListCorrupt_init, hb]
    rfl
  | snoc hr hn ih =>
    have hcount := ih fun x hx => hops x (List.mem_append_left _ hx)
    obtain ⟨free, free', hfree, heff, -⟩ :=
      run_effect (hr.snoc hn) hops (List.mem_append_right _ (List.mem_singleton_self _))
    rw [heff.freeListCorrupt_eq hfree, fullReleases, List.countP_append, List.countP_singleton,
      ← fullReleases]
    dsimp only at hcount ⊢
    rw [hcount]
    split_ifs
    · rw [Int.bmod_add_bmod, Nat.cast_add, Nat.cast_one]
    · rfl

/-- **The pool stays consistent under wrong releases.**  In every run of calls that release anything
but null, both cursors stay inside the free list; the slots that are not null are those from
`nextMsgFree` up to but not including `lastMsgFree`, cyclically, or all or none if the cursors meet;
`messageBuffers_freeCnt` counts them; `freeListCorrupt` counts the releases made while no slot was
null, as long as their number fits; and those changed nothing else. -/
theorem pool_consistent (hb : b.freeListCorrupt = 0) (hr : Run Next b.init tr s)
    (hops : ∀ x ∈ tr, x.label.1.NonNull) :
    s.nextMsgFree < maxMsg ∧ s.lastMsgFree < maxMsg ∧
    (s.nextMsgFree ≠ s.lastMsgFree → ∀ i < maxMsg,
      (s.msgFreeList i ≠ none ↔ IsBetween s.nextMsgFree s.lastMsgFree i)) ∧
    (s.nextMsgFree = s.lastMsgFree →
      (∀ i < maxMsg, s.msgFreeList i ≠ none) ∨ ∀ i < maxMsg, s.msgFreeList i = none) ∧
    s.freeCnt = ((List.range maxMsg).countP fun i => (s.msgFreeList i).isSome : ℕ) ∧
    (fullReleases tr < 2 ^ 31 → s.freeListCorrupt = fullReleases tr) ∧
    ∀ x ∈ tr, x.isFullRelease = true → x.Refused := by
  obtain ⟨free, hfree⟩ := run_free hr hops
  refine ⟨hfree.head_lt, hfree.tail_lt, ?_, hfree.slots_of_head_eq_tail, ?_, ?_, ?_⟩
  · intro hne i hi
    exact hfree.slot_ne_none_iff hne hi
  · rw [freeCnt_eq hfree, ← List.length_filterMap_eq_countP]
    exact congrArg Nat.cast hfree.entries_perm.length_eq.symm
  · intro hlt
    rw [run_freeListCorrupt hb hr hops]
    exact Int.bmod_eq_of_le (by omega) (by omega)
  · intro x hx hfull
    obtain ⟨hrel, hfull⟩ := Bool.and_eq_true_iff.mp hfull
    obtain ⟨m, hrel⟩ := (hops x hx).exists_of_isRelease hrel
    exact (refused_iff hr hops hx hrel).mpr (of_decide_eq_true hfull)

/-- Sixteen buffers are free, and a message that is not one of them is released. -/
theorem pool_consistent_foreign :
    ∃ (b s : MessageBuffers) (tr : List Call), Run Next b.init tr s ∧
      s.freeCnt = 16 ∧ s.freeListCorrupt = 1 := by
  let b := static fun _ => ⟨default, .null⟩
  have h₁ : b.init.Next (.release (some (.other 0)), none) (b.init.release (some (.other 0))) := rfl
  have hr := Run.nil.snoc h₁
  have hops : ∀ x ∈ ([⟨b.init, (.release (some (.other 0)), none),
      b.init.release (some (.other 0))⟩] : List Call), x.label.1.NonNull := by
    intro x hx
    obtain rfl := List.mem_singleton.mp hx
    trivial
  obtain ⟨-, -, -, -, hcnt, hcorrupt, -⟩ := pool_consistent (b := b) rfl hr hops
  exact ⟨b, _, _, hr, hcnt, hcorrupt (by decide)⟩

/-! ### Repeated releases -/

/-- A call that finds no buffer twice in the list leaves none twice, unless it releases one that is
there while a slot is null. -/
theorem Effect.nodup_iff {l : PoolOp × Option MsgPtr} {b' : MessageBuffers} {free' : List MsgPtr}
    (heff : b.Effect free l b' free') (hnodup : free.Nodup) :
    free'.Nodup ↔ ∀ m, l.1 = .release (some m) → m ∈ free → free.length = maxMsg := by
  cases heff with
  | exhausted => exact iff_of_true hnodup nofun
  | handedOut m free' hcorrupt => exact iff_of_true hnodup.of_cons nofun
  | putBack m free hlt hcorrupt =>
    constructor
    · rintro hconcat m' hrel hm
      obtain rfl := Option.some.inj (PoolOp.release.inj hrel)
      exact absurd (List.mem_singleton_self _) (List.disjoint_of_nodup_append hconcat hm)
    · intro hfull
      rw [← List.concat_eq_append]
      exact hnodup.concat fun hm => absurd (hfull m rfl hm) (Nat.ne_of_lt hlt)
  | refused m free hlen => exact iff_of_true hnodup fun _ _ _ => hlen
  | written m msg free => exact iff_of_true hnodup nofun

/-- No buffer is ever twice in the list exactly when repeated releases come only while it is
full. -/
theorem nodup_iff_repeatsWhenFull (hr : Run Next b.init tr s)
    (hops : ∀ x ∈ tr, x.label.1.NonNull) :
    (∀ tr₁ t, tr₁ <+: tr → Run Next b.init tr₁ t → t.entries.Nodup) ↔ RepeatsWhenFull tr := by
  refine hr.forall_prefix_iff (P := fun _ t => t.entries.Nodup) ?_ ?_
  · exact b.free_init.entries_perm.nodup_iff.mpr nodup_allHdrs
  · intro tr₁ x hpfx _ _ hnodup
    have hx : x ∈ tr := hpfx.subset (List.mem_append_right _ (List.mem_singleton_self x))
    obtain ⟨free, free', hfree, heff, hfree'⟩ := run_effect hr hops hx
    rw [hfree.entries_perm.nodup_iff] at hnodup
    rw [hfree'.entries_perm.nodup_iff, heff.nodup_iff hnodup]
    simp only [Releases, hfree.mem_entries, hfree.isFull_iff]

/-- A buffer that comes to be in the free list has been released, and the release accepted. -/
theorem exists_accepted (hr : Run Next b.init tr s) (hops : ∀ x ∈ tr, x.label.1.NonNull) {x : Call}
    (hx : x ∈ tr) (hpre : m ∉ x.pre.entries) (hpost : m ∈ x.post.entries) :
    x.Releases m ∧ ¬ x.Refused := by
  obtain ⟨free, free', hfree, heff, hfree'⟩ := run_effect hr hops hx
  obtain ⟨b₁, l, b₂⟩ := x
  dsimp only at hfree heff hfree' hpre hpost
  rw [hfree.mem_entries] at hpre
  rw [hfree'.mem_entries] at hpost
  cases heff with
  | exhausted => exact absurd hpost hpre
  | handedOut m' free' hcorrupt => exact absurd (List.mem_cons_of_mem _ hpost) hpre
  | putBack m' free hlt hcorrupt =>
    obtain rfl : m = m' := by simpa [hpre] using hpost
    refine ⟨rfl, ?_⟩
    rw [refused_iff hr hops hx rfl, hfree.isFull_iff]
    exact Nat.ne_of_lt hlt
  | refused m' free hlen => exact absurd hpost hpre
  | written m' msg free => exact absurd hpost hpre

/-- A buffer is the first one in the list before it is handed out. -/
theorem handsOut_effect (hr : Run Next b.init tr s) (hops : ∀ x ∈ tr, x.label.1.NonNull) {x : Call}
    (hx : x ∈ tr) (hout : x.HandsOut m) :
    ∃ free, x.pre.Free (m :: free) ∧ x.post.Free free := by
  obtain ⟨free, free', hfree, heff, hfree'⟩ := run_effect hr hops hx
  obtain ⟨b₁, l, b₂⟩ := x
  obtain rfl : l = (.allocate, some m) := hout
  dsimp only at hfree heff hfree' ⊢
  cases heff with
  | handedOut m free' hcorrupt => exact ⟨free', hfree, hfree'⟩

/-- **When a double release is caught.**  In every run of calls that release buffers of the pool, a
release of a buffer that is in the free list already is refused exactly when no slot is null.  No
buffer is ever twice in the list exactly when all such releases find no slot null; and then, between
any two allocations that deliver the same buffer, a release of it was accepted. -/
theorem double_release (hr : Run Next b.init tr s) (hops : ∀ x ∈ tr, x.label.1.OfPool) :
    (∀ x ∈ tr, ∀ m, x.Releases m → m ∈ x.pre.entries → (x.Refused ↔ x.pre.IsFull)) ∧
    ((∀ tr₁ t, tr₁ <+: tr → Run Next b.init tr₁ t → t.entries.Nodup) ↔ RepeatsWhenFull tr) ∧
    (RepeatsWhenFull tr → ∀ (tr₁ tr₂ tr₃ : List Call) (x y : Call) (m : MsgPtr),
      tr = tr₁ ++ x :: (tr₂ ++ y :: tr₃) → x.HandsOut m → y.HandsOut m →
      ∃ z ∈ tr₂, Releases z m ∧ ¬ Refused z) := by
  have hops : ∀ x ∈ tr, x.label.1.NonNull := fun x hx => (hops x hx).nonNull
  have hiff := nodup_iff_repeatsWhenFull hr hops
  refine ⟨fun x hx m hrel _ => refused_iff hr hops hx hrel, hiff, ?_⟩
  rintro hfull tr₁ tr₂ tr₃ x y m rfl hx hy
  have hx_mem : x ∈ tr₁ ++ x :: (tr₂ ++ y :: tr₃) := by simp
  have hy_mem : y ∈ tr₁ ++ x :: (tr₂ ++ y :: tr₃) := by simp
  -- After the one the buffer is not in the list, before the other it is.
  have hpost : m ∉ x.post.entries := by
    obtain ⟨free, hfree, hfree'⟩ := handsOut_effect hr hops hx_mem hx
    have hnodup := hiff.mpr hfull tr₁ x.pre (List.prefix_append _ _) hr.of_append_cons.1
    rw [hfree.entries_perm.nodup_iff, List.nodup_cons] at hnodup
    rw [hfree'.mem_entries]
    exact hnodup.1
  have hpre : m ∈ y.pre.entries := by
    obtain ⟨free, hfree, -⟩ := handsOut_effect hr hops hy_mem hy
    rw [hfree.mem_entries]
    exact List.mem_cons_self
  obtain ⟨z, hz, hzpre, hzpost⟩ := hr.between.exists_step (P := fun s => m ∈ s.entries) hpost hpre
  exact ⟨z, hz, exists_accepted hr hops (by simp [hz]) hzpre hzpost⟩

/-- A buffer is allocated and released twice.  The second time the list is full. -/
theorem double_release_full :
    ∃ (b : MessageBuffers) (x y z : Call) (s : MessageBuffers), Run Next b.init [x, y, z] s ∧
      z.Releases (.msgHdr 0) ∧ z.Refused ∧ s.entries.Nodup := by
  let b := static fun _ => ⟨default, .null⟩
  let m := MsgPtr.msgHdr 0
  have hr := ((Run.nil.snoc (next_call b.init .allocate)).snoc
    (next_call _ (.release (some m)))).snoc (next_call _ (.release (some m)))
  simp only [List.nil_append, List.cons_append] at hr
  obtain ⟨hrefused, hnodup, -⟩ := double_release hr (by
    simp only [List.forall_mem_cons]
    exact ⟨trivial, ⟨0, by decide, rfl⟩, ⟨0, by decide, rfl⟩, List.forall_mem_nil _⟩)
  simp only [List.forall_mem_cons] at hrefused
  refine ⟨b, _, _, _, _, hr, rfl, (hrefused.2.2.1 m rfl (by decide)).mpr (by decide), ?_⟩
  refine hnodup.mpr ?_ _ _ (List.prefix_refl _) hr
  simp only [RepeatsWhenFull, List.forall_mem_cons]
  refine ⟨nofun, ?_, fun _ _ _ => by decide, List.forall_mem_nil _⟩
  -- The buffer was not in the list before its first release.
  rintro m' hrel hm
  obtain rfl : m = m' := Option.some.inj (PoolOp.release.inj hrel)
  exact absurd hm (by decide)

/-- Two buffers are allocated, and one of them is released twice: both releases are accepted. -/
theorem double_release_accepted :
    ¬ ∀ (b s : MessageBuffers) (tr : List Call), Run Next b.init tr s →
      (∀ x ∈ tr, x.label.1.OfPool) →
      ∀ x ∈ tr, ∀ m, x.Releases m → m ∈ x.pre.entries → x.Refused := by
  intro hall
  let b := static fun _ => ⟨default, .null⟩
  let m := MsgPtr.msgHdr 0
  have hr := (((Run.nil.snoc (next_call b.init .allocate)).snoc (next_call _ .allocate)).snoc
    (next_call _ (.release (some m)))).snoc (next_call _ (.release (some m)))
  simp only [List.nil_append, List.cons_append] at hr
  have hrefused := hall _ _ _ hr (by
    simp only [List.forall_mem_cons]
    exact ⟨trivial, trivial, ⟨0, by decide, rfl⟩, ⟨0, by decide, rfl⟩, List.forall_mem_nil _⟩)
  simp only [List.forall_mem_cons] at hrefused
  have hentries := entries_of_refused (hrefused.2.2.2.1 m rfl (by decide))
  -- The buffer is there once before, and twice afterwards.
  revert hentries
  decide

end MessageBuffers

end TestDomApp
