import TestDomApp.Message.Equiv.Delivery

/-!
# The queue by its history

`Message_send` decides by the position of the cursors, which no caller sees.  But the get cursor is
the number of messages delivered, modulo the size of the ring (`nextElemGet_eq`), so what a call
returns follows from the messages stored and delivered before it (`results_by_history`): the queue
is a sequential object, whatever the threads do.  While a message is queued, a send is refused in
two of every `MESSAGE_QUEUE_SIZE` positions and falls off the end of `Message_send` in the others;
and the first that falls off is the last thing that happens on the queue (`dead_iff`).
-/

namespace TestDomApp

open Transition CyclicBuffer

variable {τ α : Type*}

/-- The result of an operation while the messages `items` are queued and `n` have been delivered
before. -/
def resultAfter (items : List α) (n : ℕ) : QueueOp τ α → QueueResult α
  | .send _ _ | .forward _ _ =>
    match items with
    | [] => .returned memSuccess none
    | _ :: _ =>
      if n % messageQueueSize = 0 ∨ n % messageQueueSize = messageQueueSize - 1 then
        .returned memError none
      else .fellOff
  | .receive _ | .resume _ =>
    match items with
    | [] => .waits
    | msg :: _ => .returned memSuccess (some msg)
  | .receiveNonblock _ =>
    match items with
    | [] => .returned memError none
    | msg :: _ => .returned memSuccess (some msg)
  | .wake _ => .woken

/-- The thread is at the point where it can take the step, but for the mutex. -/
def QueueOp.Ready (s : QueueSystem τ α) : QueueOp τ α → Prop
  | .send t _ | .forward t _ | .receive t | .receiveNonblock t => s.inWait t = false
  | .resume t => s.inWait t = true ∧ s.mq.queueCV t = false
  | .wake t => s.mq.queueCV t = true

/-- A parked thread is woken. -/
def QueueOp.IsWake (op : QueueOp τ α) : Prop := ∃ t, op = .wake t

namespace QueueSystem

/-- The messages accepted and not yet received, in order. -/
def pending (tr : List (Step (QueueSystem τ α) (QueueOp τ α × QueueResult α))) : List α :=
  (accepted tr).drop (delivered tr).length

variable [DecidableEq τ] {s₀ s s' : QueueSystem τ α} {l : QueueOp τ α × QueueResult α}
  {tr : List (Step (QueueSystem τ α) (QueueOp τ α × QueueResult α))}

/-! ### Results -/

/-- The ring holds what is pending. -/
theorem ring_pending (hc : s₀.Created) (hr : Run Next s₀ tr s) : s.Ring (pending tr) := by
  obtain ⟨items, hring, hlaw⟩ := run_fifo hc hr
  rw [pending, hlaw, List.drop_left]
  exact hring

omit [DecidableEq τ] in
theorem delivered_concat (x : Step (QueueSystem τ α) (QueueOp τ α × QueueResult α)) :
    delivered (tr ++ [x]) = delivered tr ++ (fifoLabel x.label).popped?.toList := by
  rw [delivered, List.map_append, BoundedFifo.popped_append, List.map_singleton,
    BoundedFifo.popped_singleton, delivered]

/-- A step that takes a message moves the get cursor, and no other step does. -/
theorem nextElemGet_step {items : List α} (h : s.Ring items) (hn : s.Next l s') :
    s'.mq.nextElemGet =
      if (fifoLabel l).popped?.isSome then succ messageQueueSize s.mq.nextElemGet
      else s.mq.nextElemGet := by
  cases hn.effect with
  | stores hop heq => rcases hop with rfl | rfl <;> rfl
  | refuses hop hne => rfl
  | fallsOff hop hne => rfl
  | takes hop hne =>
    obtain ⟨msg, items', -, hslot, -⟩ := h.exists_cons hne
    rw [hslot]
    rcases hop with rfl | rfl <;> rfl
  | parks hop heq => rfl
  | takesNow t hne =>
    obtain ⟨msg, items', -, hslot, -⟩ := h.exists_cons hne
    rw [hslot]
    rfl
  | findsNone t heq => rfl
  | wakes t => rfl

/-- **The get cursor counts the deliveries**, around the ring. -/
theorem nextElemGet_eq (hc : s₀.Created) (hr : Run Next s₀ tr s) :
    s.mq.nextElemGet = (delivered tr).length % messageQueueSize := by
  induction hr with
  | nil =>
    obtain ⟨slots, hmq⟩ := hc.mq_eq
    rw [hmq]
    rfl
  | @snoc tr s s' l hr hn ih =>
    have hring := ring_pending hc hr
    rw [nextElemGet_step hring hn, delivered_concat, List.length_append]
    cases hpop : (fifoLabel l).popped? with
    | none =>
      rw [Option.toList_none, List.length_nil, Nat.add_zero, ← ih]
      rfl
    | some msg =>
      rw [Option.toList_some, List.length_singleton, Option.isSome_some, if_pos rfl,
        succ_eq_mod hring.queued.head_lt, ih, Nat.mod_add_mod]

omit [DecidableEq τ] in
/-- One message is queued, under a get cursor that has seen `n` deliveries: when a send is refused,
by the cursors and by `n`. -/
theorem refuses_iff {items : List α} (h : s.Ring items) (hne : items ≠ []) :
    (s.mq.nextElemPut < s.mq.nextElemGet ∨
      s.mq.nextElemPut ≠ messageQueueSize - 1 ∧ s.mq.nextElemGet = 0) ↔
    s.mq.nextElemGet = 0 ∨ s.mq.nextElemGet = messageQueueSize - 1 := by
  have hlen : items.length = 1 := by
    have hpos := List.length_pos_iff.mpr hne
    have hle := h.le_one
    omega
  have hput := h.queued.tail_eq
  have hget := h.queued.head_lt
  rw [hlen] at hput
  unfold messageQueueSize at *
  omega

/-- The result of a send to a queue that is not empty. -/
theorem send_result_of_ne {t : τ} {msg : α} (hop : l.1.IsSend t msg) (hn : s.Next l s')
    (hne : s.mq.nextElemPut ≠ s.mq.nextElemGet) :
    l.2 = if s.mq.nextElemPut < s.mq.nextElemGet ∨
        s.mq.nextElemPut ≠ messageQueueSize - 1 ∧ s.mq.nextElemGet = 0 then
      .returned memError none else .fellOff := by
  have hs := next_send hop hn
  rw [MessageQueue.send_of_ne hne] at hs
  split_ifs at hs ⊢
  · exact (Prod.mk.inj hs).1.symm
  · exact (Prod.mk.inj hs).1.symm

/-- The result of a send, by the messages queued and the number delivered. -/
theorem send_result {items : List α} {n : ℕ} (h : s.Ring items)
    (hget : s.mq.nextElemGet = n % messageQueueSize) {t : τ} {msg : α} (hop : l.1.IsSend t msg)
    (hn : s.Next l s') (hne : s.mq.nextElemPut ≠ s.mq.nextElemGet) :
    l.2 = resultAfter items n l.1 := by
  have hitems : items ≠ [] := fun he => hne (h.get_eq_put_iff.mpr he).symm
  rw [send_result_of_ne hop hn hne, if_congr (refuses_iff h hitems) rfl rfl, hget]
  obtain ⟨m, items', rfl⟩ := List.exists_cons_of_ne_nil hitems
  rcases hop with h | h
  · rw [h]
    rfl
  · rw [h]
    rfl

/-- **One step** has the result that belongs to the messages queued and the number delivered. -/
theorem result_of_ring {items : List α} {n : ℕ} (h : s.Ring items)
    (hget : s.mq.nextElemGet = n % messageQueueSize) (hn : s.Next l s') :
    l.2 = resultAfter items n l.1 := by
  cases hn.effect with
  | stores hop heq =>
    obtain rfl := h.get_eq_put_iff.mp heq.symm
    rcases hop with rfl | rfl <;> rfl
  | refuses hop hne => exact send_result h hget hop hn hne
  | fallsOff hop hne => exact send_result h hget hop hn hne
  | takes hop hne =>
    obtain ⟨msg, items', rfl, hslot, -⟩ := h.exists_cons hne
    rw [hslot]
    rcases hop with rfl | rfl <;> rfl
  | parks hop heq =>
    obtain rfl := h.get_eq_put_iff.mp heq
    rcases hop with rfl | rfl <;> rfl
  | takesNow t hne =>
    obtain ⟨msg, items', rfl, hslot, -⟩ := h.exists_cons hne
    rw [hslot]
    rfl
  | findsNone t heq =>
    obtain rfl := h.get_eq_put_iff.mp heq
    rfl
  | wakes t => rfl

/-- **The results follow from the history.**  Whatever the order of the threads' steps, each has the
result that belongs to the messages queued and to the number delivered before it. -/
theorem results_by_history (hc : s₀.Created) (hr : Run Next s₀ tr s) :
    ∀ tr₁ x, tr₁ ++ [x] <+: tr →
      x.label.2 = resultAfter (pending tr₁) (delivered tr₁).length x.label.1 := by
  rintro tr₁ x ⟨tr₂, rfl⟩
  rw [← List.append_cons] at hr
  obtain ⟨hr₁, hn⟩ := hr.of_append_cons
  exact result_of_ring (ring_pending hc hr₁) (nextElemGet_eq hc hr₁) hn

/-- A message is sent and taken, another is sent, and the send after it falls off. -/
theorem exists_fellOff :
    ∃ (tr : List (Step (QueueSystem ℕ ℕ) (QueueOp ℕ ℕ × QueueResult ℕ))) (s : QueueSystem ℕ ℕ),
      Run Next fresh tr s ∧ tr.length = 4 ∧ ∃ x ∈ tr, x.label.2 = .fellOff := by
  let slots₁ : ℕ → Option ℕ := Function.update (fun _ => none) 0 (some 10)
  let slots₂ : ℕ → Option ℕ := Function.update slots₁ 1 (some 11)
  have h₁ : Next (fresh : QueueSystem ℕ ℕ) (.send 0 10, .returned memSuccess none)
    (idle none slots₁ 1 0) := rfl
  have h₂ : Next (idle none slots₁ 1 0) (.receiveNonblock 1, .returned memSuccess (some 10))
    (idle none slots₁ 1 1) := rfl
  have h₃ : Next (idle none slots₁ 1 1) (.send 0 11, .returned memSuccess none)
    (idle none slots₂ 2 1) := rfl
  have h₄ : Next (idle none slots₂ 2 1) (.send 0 12, .fellOff) (idle (some 0) slots₂ 2 1) := rfl
  exact ⟨_, _, (((Run.nil.snoc h₁).snoc h₂).snoc h₃).snoc h₄, rfl, _,
    List.mem_append_right _ (List.mem_singleton_self _), rfl⟩

theorem results_by_history_four :
    ∃ (tr : List (Step (QueueSystem ℕ ℕ) (QueueOp ℕ ℕ × QueueResult ℕ))), tr.length = 4 ∧
      ∀ tr₁ x, tr₁ ++ [x] <+: tr →
        x.label.2 = resultAfter (pending tr₁) (delivered tr₁).length x.label.1 := by
  obtain ⟨tr, s, hr, hlen, -⟩ := exists_fellOff
  exact ⟨tr, hlen, results_by_history fresh_created hr⟩

/-! ### The end of a queue -/

/-- A step other than a wake-up needs the mutex, and every step a thread at the right point. -/
theorem enabled_iff (op : QueueOp τ α) :
    (∃ res s', s.Next (op, res) s') ↔ op.Ready s ∧ (op.IsWake ∨ s.mq.queueInfo = none) := by
  have hsome : (∃ res s', s.Next (op, res) s') ↔ (s.step op).isSome := by
    rw [Option.isSome_iff_exists, Prod.exists]
    rfl
  rw [hsome]
  unfold QueueOp.IsWake
  cases op <;> simp [QueueSystem.step, QueueOp.Ready, and_comm]

/-- Without the mutex a parked thread can be woken, and nothing else can happen. -/
theorem isWake_of_held (hn : s.Next l s') (hheld : s.mq.queueInfo ≠ none) : l.1.IsWake := by
  have henabled := (enabled_iff l.1).mp ⟨l.2, s', hn⟩
  exact henabled.2.resolve_right hheld

theorem woken_of_isWake (hn : s.Next l s') (hw : l.1.IsWake) : l.2 = .woken := by
  obtain ⟨op, res⟩ := l
  obtain ⟨t, rfl⟩ : ∃ t, op = .wake t := hw
  simp only [Next, QueueSystem.step, Option.ite_none_right_eq_some, Option.some.injEq] at hn
  exact (Prod.mk.inj hn.2).1.symm

theorem queueInfo_step (hn : s.Next l s') :
    s'.mq.queueInfo = none ↔ l.2 ≠ .fellOff ∧ s.mq.queueInfo = none := by
  by_cases hheld : s.mq.queueInfo = none
  · rw [and_iff_left hheld]
    cases hn.effect <;> simp [hheld]
  · obtain ⟨t, ht⟩ := isWake_of_held hn hheld
    obtain ⟨op, res⟩ := l
    obtain rfl : op = .wake t := ht
    refine iff_of_false ?_ fun h => hheld h.2
    cases hn.effect with
    | stores hop _ => rcases hop with h | h <;> cases h
    | refuses hop _ => rcases hop with h | h <;> cases h
    | fallsOff hop _ => rcases hop with h | h <;> cases h
    | takes hop _ => rcases hop with h | h <;> cases h
    | parks hop _ => rcases hop with h | h <;> cases h
    | wakes t => exact hheld

/-- The mutex is free as long as no send has fallen off. -/
theorem queueInfo_eq_none_iff (hc : s₀.Created) (hr : Run Next s₀ tr s) :
    s.mq.queueInfo = none ↔ ∀ x ∈ tr, x.label.2 ≠ .fellOff := by
  induction hr with
  | nil =>
    obtain ⟨slots, hmq⟩ := hc.mq_eq
    rw [hmq]
    exact iff_of_true rfl (List.forall_mem_nil _)
  | snoc hr hn ih =>
    rw [queueInfo_step hn, ih, List.forall_mem_append, List.forall_mem_singleton, and_comm]

omit [DecidableEq τ] in
/-- Steps that neither store nor deliver leave what is pending. -/
theorem pending_append {tr₁ tr₂ : List (Step (QueueSystem τ α) (QueueOp τ α × QueueResult α))}
    (hskip : ∀ y ∈ tr₂, fifoLabel y.label = .skip) : pending (tr₁ ++ tr₂) = pending tr₁ := by
  have hpushed : accepted tr₂ = [] := by
    rw [accepted, BoundedFifo.pushed, List.filterMap_eq_nil_iff]
    rintro _ hl
    obtain ⟨y, hy, rfl⟩ := List.mem_map.mp hl
    rw [hskip y hy]
    rfl
  have hpopped : delivered tr₂ = [] := by
    rw [delivered, BoundedFifo.popped, List.filterMap_eq_nil_iff]
    rintro _ hl
    obtain ⟨y, hy, rfl⟩ := List.mem_map.mp hl
    rw [hskip y hy]
    rfl
  have happ : accepted (tr₁ ++ tr₂) = accepted tr₁ ++ accepted tr₂ := by
    rw [accepted, List.map_append, BoundedFifo.pushed_append, accepted, accepted]
  have happ' : delivered (tr₁ ++ tr₂) = delivered tr₁ ++ delivered tr₂ := by
    rw [delivered, List.map_append, BoundedFifo.popped_append, delivered, delivered]
  rw [pending, happ, happ', hpushed, hpopped, List.append_nil, List.append_nil, pending]

/-- **A send that falls off is the end of the queue.**  Until then every thread at the right point
can take its step; from then on nothing but wake-ups happens, and the messages queued stay where
they are. -/
theorem dead_iff (hc : s₀.Created) (hr : Run Next s₀ tr s) :
    (∀ op, (∃ res s', s.Next (op, res) s') ↔
      op.Ready s ∧ (op.IsWake ∨ ∀ x ∈ tr, x.label.2 ≠ .fellOff)) ∧
    ∀ tr₁ x tr₂, tr = tr₁ ++ x :: tr₂ → x.label.2 = .fellOff →
      (∀ y ∈ tr₂, y.label.1.IsWake) ∧ pending tr = pending tr₁ := by
  refine ⟨?_, ?_⟩
  · intro op
    rw [enabled_iff, queueInfo_eq_none_iff hc hr]
  · rintro tr₁ x tr₂ rfl hx
    have hwake : ∀ y ∈ tr₂, y.label.1.IsWake := by
      intro y hy
      obtain ⟨tr₃, tr₄, rfl⟩ := List.append_of_mem hy
      rw [← List.cons_append, ← List.append_assoc] at hr
      obtain ⟨hr₁, hn⟩ := hr.of_append_cons
      apply isWake_of_held hn
      rw [Ne, queueInfo_eq_none_iff hc hr₁]
      intro hall
      exact hall x (List.mem_append_right _ List.mem_cons_self) hx
    refine ⟨hwake, pending_append ?_⟩
    intro y hy
    have hres : y.label.2 = .fellOff ∨ y.label.2 = .woken := by
      rcases List.mem_cons.mp hy with rfl | hy
      · exact Or.inl hx
      · obtain ⟨_, -, -, hn⟩ := hr.of_mem (List.mem_append_right _ (List.mem_cons_of_mem _ hy))
        exact Or.inr (woken_of_isWake hn (hwake y hy))
    rcases hres with hres | hres
    · rw [fifoLabel, hres]
    · rw [fifoLabel, hres]

/-- After the send that fell off no receive is possible. -/
theorem dead_iff_four :
    ∃ (tr : List (Step (QueueSystem ℕ ℕ) (QueueOp ℕ ℕ × QueueResult ℕ))) (s : QueueSystem ℕ ℕ),
      Run Next fresh tr s ∧ tr.length = 4 ∧
      ¬ ∃ res s', s.Next (.receiveNonblock 1, res) s' := by
  obtain ⟨tr, s, hr, hlen, x, hx, hfell⟩ := exists_fellOff
  refine ⟨tr, s, hr, hlen, fun hnext => ?_⟩
  rcases ((dead_iff fresh_created hr).1 (.receiveNonblock 1)).mp hnext with ⟨-, ⟨t, ht⟩ | hall⟩
  · cases ht
  · exact hall x hx hfell

end QueueSystem

end TestDomApp
