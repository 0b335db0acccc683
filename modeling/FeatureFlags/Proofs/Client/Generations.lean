import FeatureFlags.Client.Control

/-!
# What the generations guarantee

Every start and every stop counts the generation up, and a loop publishes only while its
generation is the current one. Along every schedule the generations keep three facts
(`Control.Inv`): no loop is of a later generation than the counter, the running loop is of
the current one and was not sent the stop, and a loop of the current generation is the
running one. So a loop that is not running publishes nothing, and a loop that was sent the
stop belongs to a retired run.

From that, over every schedule of calls and loop steps:

* a loop publishes only `connecting` and `streaming`, and only while it runs; it ends only
  by taking the stop it was sent (`Control.state_of_loop_step`, `Control.ended_of_step`);
* the loops of the runs before a start never change the state again
  (`Control.loop_step_quiet_after_start`);
* a `stop` resumes only once its loop has ended, and publishes `stopped`; after a `cancel`
  that found a run, and after a `stop` during whose wait no run was started, the state stays
  `stopped` until the next start (`Control.stopped_runAll`).

`Control.Guarantees` gathers these, and `Control.reachable_guarantees` proves them of every
reachable state.

The publish at the end of `stop` does not look at the generation: a `stop` whose wait
outlasts a `start` publishes `stopped` over the new run, whose loop then publishes again
with no start after the stop. And a second `stop` during the wait of the first finds no run
and returns at once, before anything publishes `stopped`
(`Control.stop_publishes_over_restart`).
-/

namespace FeatureFlags

namespace Control

variable {c c' : Control} {i j k g : Nat} {a : ControlStep}

/-- Loop `i` as the generations see it: its generation, and whether it was sent the stop. -/
def runOf (c : Control) (i : Nat) : Option (Nat × Bool) :=
  c.loops[i]?.map fun l => (l.generation, l.stopSent)

/-- What the generations keep along every schedule. -/
structure Inv (c : Control) : Prop where
  /-- No loop is of a later generation than the counter. -/
  generation_le : ∀ i g b, c.runOf i = some (g, b) → g ≤ c.generation
  /-- The running loop is of the current generation, and was not sent the stop. -/
  running : ∀ i, c.running = some i → c.runOf i = some (c.generation, false)
  /-- A loop of the current generation is the running one. -/
  current : ∀ i b, c.runOf i = some (c.generation, b) → c.running = some i

/-! ### What each operation changes -/

@[simp] theorem publish_generation (s : SubscriptionState) :
    (c.publish g s).generation = c.generation := by
  unfold publish; split <;> rfl

@[simp] theorem publish_running (s : SubscriptionState) : (c.publish g s).running = c.running := by
  unfold publish; split <;> rfl

@[simp] theorem publish_loops (s : SubscriptionState) : (c.publish g s).loops = c.loops := by
  unfold publish; split <;> rfl

theorem publish_state (s : SubscriptionState) :
    (c.publish g s).state = if g = c.generation then s else c.state := by
  unfold publish; split <;> rfl

@[simp] theorem runOf_publish (s : SubscriptionState) : (c.publish g s).runOf j = c.runOf j := by
  simp only [runOf, publish_loops]

@[simp] theorem pointOf_publish (s : SubscriptionState) :
    (c.publish g s).pointOf j = c.pointOf j := by
  simp only [pointOf, publish_loops]

@[simp] theorem setPoint_generation (p : LoopPoint) : (c.setPoint i p).generation = c.generation :=
  rfl

@[simp] theorem setPoint_running (p : LoopPoint) : (c.setPoint i p).running = c.running := rfl

@[simp] theorem setPoint_state (p : LoopPoint) : (c.setPoint i p).state = c.state := rfl

@[simp] theorem sendStop_generation : (c.sendStop i).generation = c.generation := rfl

@[simp] theorem sendStop_running : (c.sendStop i).running = c.running := rfl

@[simp] theorem runOf_setPoint (p : LoopPoint) : (c.setPoint i p).runOf j = c.runOf j := by
  simp only [runOf, setPoint, List.getElem?_modify]
  cases c.loops[j]? with
  | none => rfl
  | some l => simp only [Option.map_some]; split <;> rfl

theorem pointOf_setPoint (p : LoopPoint) :
    (c.setPoint i p).pointOf j = if i = j then (c.pointOf j).map fun _ => p else c.pointOf j := by
  simp only [pointOf, setPoint, List.getElem?_modify]
  cases c.loops[j]? with
  | none => split <;> rfl
  | some l => split <;> rfl

theorem runOf_sendStop :
    (c.sendStop i).runOf j = (c.runOf j).map fun r => if i = j then (r.1, true) else r := by
  simp only [runOf, sendStop, List.getElem?_modify]
  cases c.loops[j]? with
  | none => rfl
  | some l => simp only [Option.map_some]; split <;> rfl

@[simp] theorem pointOf_sendStop : (c.sendStop i).pointOf j = c.pointOf j := by
  simp only [pointOf, sendStop, List.getElem?_modify]
  cases c.loops[j]? with
  | none => rfl
  | some l => simp only [Option.map_some]; split <;> rfl

/-- A loop has a run exactly when it was spawned. -/
theorem lt_length_of_runOf {r : Nat × Bool} (h : c.runOf i = some r) : i < c.loops.length := by
  rcases Nat.lt_or_ge i c.loops.length with hlt | hge
  · exact hlt
  · rw [runOf, List.getElem?_eq_none hge] at h
    cases h

/-- The spawned loop is the last one, of the next generation and not sent the stop. -/
theorem runOf_spawn :
    c.spawn.runOf j = if j = c.loops.length then some (c.generation + 1, false) else c.runOf j := by
  simp only [runOf, spawn]
  split
  · rename_i hj
    subst hj
    simp
  · rename_i hj
    rcases Nat.lt_or_gt_of_ne hj with hlt | hgt
    · rw [List.getElem?_append_left hlt]
    · rw [List.getElem?_eq_none (by simp only [List.length_append, List.length_singleton]; omega),
        List.getElem?_eq_none (by omega)]

theorem pointOf_spawn :
    c.spawn.pointOf j = if j = c.loops.length then some .spawned else c.pointOf j := by
  simp only [pointOf, spawn]
  split
  · rename_i hj
    subst hj
    simp
  · rename_i hj
    rcases Nat.lt_or_gt_of_ne hj with hlt | hgt
    · rw [List.getElem?_append_left hlt]
    · rw [List.getElem?_eq_none (by simp only [List.length_append, List.length_singleton]; omega),
        List.getElem?_eq_none (by omega)]

theorem running_start : c.start.running = some c.loops.length := by
  unfold start; split <;> rfl

theorem length_start : c.start.loops.length = c.loops.length + 1 := by
  unfold start
  split <;> simp [sendStop, spawn]

theorem pointOf_start :
    c.start.pointOf j = if j = c.loops.length then some .spawned else c.pointOf j := by
  unfold start
  split
  · rw [pointOf_sendStop, pointOf_spawn]
  · rw [pointOf_spawn]

theorem retire_eq_some {c₁ : Control} (h : c.retire = some (i, c₁)) :
    c.running = some i ∧
      c₁ = { c.sendStop i with generation := c.generation + 1, running := none } := by
  unfold retire at h
  cases hr : c.running with
  | none => rw [hr] at h; cases h
  | some j =>
    rw [hr, Option.map_some, Option.some.injEq, Prod.mk.injEq] at h
    obtain ⟨rfl, rfl⟩ := h
    exact ⟨rfl, rfl⟩

theorem retire_eq_none (h : c.running = none) : c.retire = none := by
  simp [retire, h]

/-- A call that finds no run changes nothing. -/
theorem cancel_of_none (h : c.running = none) : c.cancel = c := by
  simp [cancel, retire_eq_none h]

theorem stopBegin_of_none (h : c.running = none) : c.stopBegin = c := by
  simp [stopBegin, retire_eq_none h]

/-- A `cancel` that finds a run empties the slot and publishes `stopped`. -/
theorem cancel_of_running (h : c.running ≠ none) :
    c.cancel.running = none ∧ c.cancel.state = .stopped := by
  obtain ⟨i, hi⟩ := Option.ne_none_iff_exists'.1 h
  simp [cancel, retire, hi]

theorem pointOf_cancel : c.cancel.pointOf j = c.pointOf j := by
  unfold cancel
  split
  · rename_i i c₁ hr
    obtain ⟨-, rfl⟩ := retire_eq_some hr
    exact pointOf_sendStop
  · rfl

theorem pointOf_stopBegin : c.stopBegin.pointOf j = c.pointOf j := by
  unfold stopBegin
  split
  · rename_i i c₁ hr
    obtain ⟨-, rfl⟩ := retire_eq_some hr
    exact pointOf_sendStop
  · rfl

theorem running_cancel_or : c.cancel.running = none ∨ c.cancel.running = c.running := by
  unfold cancel
  split
  · rename_i i c₁ hr
    obtain ⟨-, rfl⟩ := retire_eq_some hr
    exact .inl rfl
  · exact .inr rfl

theorem running_stopBegin_or : c.stopBegin.running = none ∨ c.stopBegin.running = c.running := by
  unfold stopBegin
  split
  · rename_i i c₁ hr
    obtain ⟨-, rfl⟩ := retire_eq_some hr
    exact .inl rfl
  · exact .inr rfl

theorem length_cancel : c.cancel.loops.length = c.loops.length := by
  unfold cancel
  split
  · rename_i i c₁ hr
    obtain ⟨-, rfl⟩ := retire_eq_some hr
    simp [sendStop]
  · rfl

theorem length_stopBegin : c.stopBegin.loops.length = c.loops.length := by
  unfold stopBegin
  split
  · rename_i i c₁ hr
    obtain ⟨-, rfl⟩ := retire_eq_some hr
    simp [sendStop]
  · rfl

/-- A suspended `stop` resumes only once its loop has ended, and publishes `stopped`; it
    changes nothing else but the list of suspended stops. -/
theorem stopEnd_eq_some (h : c.stopEnd k = some c') :
    ∃ i, c.stopping[k]? = some i ∧ c.pointOf i = some .ended ∧
      c' = { c with stopping := c.stopping.eraseIdx k, state := .stopped } := by
  unfold stopEnd at h
  split at h
  · rename_i i hi
    split at h
    · cases h
      exact ⟨i, hi, ‹_›, rfl⟩
    · cases h
  · cases h

theorem move_eq_some {p q : LoopPoint} {s : Option SubscriptionState}
    (h : c.move i p q s = some c') :
    ∃ l, c.loops[i]? = some l ∧ l.point = p ∧
      c' = (s.map ((c.setPoint i q).publish l.generation)).getD (c.setPoint i q) := by
  unfold move at h
  split at h
  · rename_i l hl
    split at h
    · cases h
      exact ⟨l, hl, ‹_›, rfl⟩
    · cases h
  · cases h

theorem takeStop_eq_some (h : c.takeStop i = some c') :
    ∃ l, c.loops[i]? = some l ∧ l.stopSent = true ∧ l.point.awaitsStop = true ∧
      c' = (c.setPoint i .ended).publish l.generation .stopped := by
  unfold takeStop at h
  split at h
  · rename_i l hl
    split at h
    · rename_i hsent
      cases h
      rw [Bool.and_eq_true] at hsent
      exact ⟨l, hl, hsent.1, hsent.2, rfl⟩
    · cases h
  · cases h

/-- A loop moved to another await is there, and no other loop moves. -/
theorem pointOf_move {p q : LoopPoint} {s : Option SubscriptionState}
    (h : c.move i p q s = some c') : c'.pointOf j = if i = j then some q else c.pointOf j := by
  obtain ⟨l, hl, -, rfl⟩ := move_eq_some h
  have hset : (c.setPoint i q).pointOf j = if i = j then some q else c.pointOf j := by
    rw [pointOf_setPoint]
    split
    · rename_i hij
      subst hij
      simp [pointOf, hl]
    · rfl
  cases s with
  | none => exact hset
  | some t => rw [Option.map_some, Option.getD_some, pointOf_publish, hset]

/-! ### The invariant -/

theorem Inv.init : Inv init where
  generation_le _ _ _ h := by cases h
  running _ h := by cases h
  current _ _ h := by cases h

/-- A loop of a run that is not the running one is of a retired generation. -/
theorem Inv.stale (h : Inv c) {b : Bool} (hr : c.runOf i = some (g, b))
    (hne : c.running ≠ some i) : g < c.generation := by
  have hle := h.generation_le i g b hr
  rcases Nat.lt_or_ge g c.generation with hlt | hge
  · exact hlt
  · exact absurd (h.current i b (by rw [hr, show g = c.generation by omega])) hne

/-- A loop that was sent the stop is not the running one. -/
theorem Inv.not_running_of_stopSent (h : Inv c) (hr : c.runOf i = some (g, true)) :
    c.running ≠ some i := by
  intro hi
  rw [h.running i hi] at hr
  simp at hr

/-- What keeps the generation, the slot and the runs of the loops keeps the invariant. -/
theorem Inv.of_runOf (h : Inv c) (hg : c'.generation = c.generation)
    (hr : c'.running = c.running) (hruns : ∀ j, c'.runOf j = c.runOf j) : Inv c' where
  generation_le i g b hi := by
    rw [hg]
    exact h.generation_le i g b (by rwa [← hruns])
  running i hi := by
    rw [hruns, hg]
    exact h.running i (by rwa [← hr])
  current i b hi := by
    rw [hr]
    exact h.current i b (by rwa [← hruns, ← hg])

theorem Inv.spawn (h : Inv c) : Inv c.spawn where
  generation_le i g b hi := by
    rw [runOf_spawn] at hi
    split at hi
    · cases hi
      exact Nat.le_refl _
    · have := h.generation_le i g b hi
      show g ≤ c.generation + 1
      omega
  running i hi := by
    cases hi
    rw [runOf_spawn, if_pos rfl]
    rfl
  current i b hi := by
    rw [runOf_spawn] at hi
    split at hi
    · rename_i hj
      rw [hj]
      rfl
    · have : c.generation + 1 ≤ c.generation := h.generation_le i _ b hi
      omega

/-- Sending the stop keeps every loop's generation. -/
theorem Inv.generation_le_sendStop (h : Inv c) {b : Bool} (hj : (c.sendStop i).runOf j = some (g, b)) :
    g ≤ c.generation := by
  rw [runOf_sendStop] at hj
  obtain ⟨⟨g', b'⟩, hr, hrj⟩ := Option.map_eq_some_iff.1 hj
  have := h.generation_le j g' b' hr
  split at hrj <;> cases hrj <;> exact this

/-- Sending the stop to a loop that is not running keeps the invariant. -/
theorem Inv.sendStop (h : Inv c) (hi : c.running ≠ some i) : Inv (c.sendStop i) where
  generation_le _ _ _ hj := h.generation_le_sendStop hj
  running j hj := by
    have hne : i ≠ j := fun hij => hi (hij ▸ hj)
    rw [runOf_sendStop, h.running j hj]
    simp [hne]
  current j b hj := by
    rw [runOf_sendStop] at hj
    obtain ⟨⟨g', b'⟩, hr, hrj⟩ := Option.map_eq_some_iff.1 hj
    refine h.current j b' ?_
    split at hrj <;> cases hrj <;> exact hr

theorem Inv.start (h : Inv c) : Inv c.start := by
  unfold Control.start
  split
  · rename_i p hp
    -- The replaced loop was spawned before, so it is not the new running one.
    have hlt : p < c.loops.length := lt_length_of_runOf (h.running p hp)
    refine h.spawn.sendStop fun hp' => ?_
    simp only [Control.spawn, Option.some.injEq] at hp'
    omega
  · exact h.spawn

/-- Retiring the run leaves no loop of the current generation and an empty slot. -/
theorem Inv.retire (h : Inv c) {c₁ : Control} (hr : c.retire = some (i, c₁)) : Inv c₁ := by
  obtain ⟨-, rfl⟩ := retire_eq_some hr
  refine ⟨fun j g b hj => ?_, fun j hj => ?_, fun j b hj => ?_⟩
  · have := h.generation_le_sendStop hj
    show g ≤ c.generation + 1
    omega
  · cases hj
  · -- No loop is of the next generation yet.
    have : c.generation + 1 ≤ c.generation := h.generation_le_sendStop hj
    omega

theorem Inv.cancel (h : Inv c) : Inv c.cancel := by
  unfold Control.cancel
  split
  · rename_i i c₁ hr
    exact (h.retire hr).of_runOf rfl rfl fun _ => rfl
  · exact h

theorem Inv.stopBegin (h : Inv c) : Inv c.stopBegin := by
  unfold Control.stopBegin
  split
  · rename_i i c₁ hr
    exact (h.retire hr).of_runOf rfl rfl fun _ => rfl
  · exact h

theorem Inv.move (h : Inv c) {p q : LoopPoint} {s : Option SubscriptionState}
    (hm : c.move i p q s = some c') : Inv c' := by
  obtain ⟨l, -, -, rfl⟩ := move_eq_some hm
  cases s with
  | none => exact h.of_runOf rfl rfl fun _ => runOf_setPoint _
  | some t => exact h.of_runOf (by simp) (by simp) fun _ => by simp

theorem Inv.takeStop (h : Inv c) (ht : c.takeStop i = some c') : Inv c' := by
  obtain ⟨l, -, -, -, rfl⟩ := takeStop_eq_some ht
  exact h.of_runOf (by simp) (by simp) fun _ => by simp

/-- One step keeps the invariant. -/
theorem Inv.step (h : Inv c) (hs : c.step a = some c') : Inv c' := by
  cases a with
  | start => cases hs; exact h.start
  | cancel => cases hs; exact h.cancel
  | stopBegin => cases hs; exact h.stopBegin
  | stopEnd k =>
    obtain ⟨i, -, -, rfl⟩ := stopEnd_eq_some hs
    exact h.of_runOf rfl rfl fun _ => rfl
  | poll i => exact h.move hs
  | connected i opened => cases opened <;> exact h.move hs
  | event i => exact h.move hs
  | handled i => exact h.move hs
  | streamEnds i => exact h.move hs
  | waited i => exact h.move hs
  | stopTaken i => exact h.takeStop hs

/-- A whole schedule keeps the invariant. -/
theorem Inv.runAll : ∀ {c c' : Control} {sched : List ControlStep}, Inv c →
    c.runAll sched = some c' → Inv c'
  | _, _, [], h, hr => by cases hr; exact h
  | _, _, _ :: _, h, hr => by
    obtain ⟨c₁, h₁, hrest⟩ := Option.bind_eq_some_iff.1 hr
    exact (h.step h₁).runAll hrest

theorem Reachable.inv (h : Reachable c) : Inv c := by
  induction h with
  | init => exact Inv.init
  | step a _ hs ih => exact ih.step hs

theorem Reachable.runAll : ∀ {c c' : Control} {sched : List ControlStep}, Reachable c →
    c.runAll sched = some c' → Reachable c'
  | _, _, [], h, hr => by cases hr; exact h
  | _, _, a :: _, h, hr => by
    obtain ⟨c₁, h₁, hrest⟩ := Option.bind_eq_some_iff.1 hr
    exact (Reachable.step a h h₁).runAll hrest

/-! ### What loops do -/

/-- A loop's step keeps the slot, the generation and the number of loops. -/
theorem loop_step_frame (ha : a.loop? = some i) (hs : c.step a = some c') :
    c'.running = c.running ∧ c'.generation = c.generation ∧ c'.loops.length = c.loops.length := by
  have hmove : ∀ {p q : LoopPoint} {s : Option SubscriptionState}, c.move i p q s = some c' →
      c'.running = c.running ∧ c'.generation = c.generation ∧
        c'.loops.length = c.loops.length := by
    intro p q s hm
    obtain ⟨l, -, -, rfl⟩ := move_eq_some hm
    cases s <;> simp [setPoint]
  cases a with
  | start | cancel | stopBegin | stopEnd _ => cases ha
  | poll j | event j | handled j | streamEnds j | waited j => cases ha; exact hmove hs
  | connected j opened => cases ha; cases opened <;> exact hmove hs
  | stopTaken j =>
    cases ha
    obtain ⟨l, -, -, -, rfl⟩ := takeStop_eq_some hs
    simp [setPoint]

/-- A loop moving to its next await publishes, if anything, only while it runs. -/
theorem Inv.state_of_move (h : Inv c) {p q : LoopPoint} {s : Option SubscriptionState}
    (hm : c.move i p q s = some c') :
    c'.state = c.state ∨ c.running = some i ∧ ∃ t, s = some t ∧ c'.state = t := by
  obtain ⟨l, hl, -, rfl⟩ := move_eq_some hm
  cases s with
  | none => exact .inl rfl
  | some t =>
    rw [Option.map_some, Option.getD_some, publish_state, setPoint_generation, setPoint_state]
    split
    · rename_i hg
      exact .inr ⟨h.current i l.stopSent (by simp [runOf, hl, hg]), t, rfl, rfl⟩
    · exact .inl rfl

/-- A loop taking the stop publishes nothing: the stop went to a retired run. -/
theorem Inv.state_of_takeStop (h : Inv c) (ht : c.takeStop i = some c') : c'.state = c.state := by
  obtain ⟨l, hl, hsent, -, rfl⟩ := takeStop_eq_some ht
  have hr : c.runOf i = some (l.generation, true) := by simp [runOf, hl, hsent]
  have hstale := h.stale hr (h.not_running_of_stopSent hr)
  rw [publish_state, setPoint_generation, if_neg (Nat.ne_of_lt hstale), setPoint_state]

/-- A loop's step publishes only `connecting` and `streaming`, and only while the loop
    runs. -/
theorem Inv.state_of_loop_step (h : Inv c) (ha : a.loop? = some i) (hs : c.step a = some c') :
    c'.state = c.state ∨
      c.running = some i ∧ (c'.state = .connecting ∨ c'.state = .streaming) := by
  have hmove : ∀ {p q : LoopPoint} {s : Option SubscriptionState},
      (∀ t, s = some t → t = .connecting ∨ t = .streaming) → c.move i p q s = some c' →
      c'.state = c.state ∨
        c.running = some i ∧ (c'.state = .connecting ∨ c'.state = .streaming) := by
    intro p q s hpub hm
    rcases h.state_of_move hm with h' | ⟨hr, t, rfl, ht⟩
    · exact .inl h'
    · exact .inr ⟨hr, ht ▸ hpub t rfl⟩
  cases a with
  | start | cancel | stopBegin | stopEnd _ => cases ha
  | poll j | event j | handled j | streamEnds j | waited j => cases ha; exact hmove (by simp) hs
  | connected j opened => cases ha; cases opened <;> exact hmove (by simp) hs
  | stopTaken j => cases ha; exact .inl (h.state_of_takeStop hs)

/-- A loop ends only by taking the stop it was sent. -/
theorem ended_of_step (hs : c.step a = some c') (hend : c'.pointOf j = some .ended)
    (hnot : c.pointOf j ≠ some .ended) :
    a = .stopTaken j ∧ ∃ l, c.loops[j]? = some l ∧ l.stopSent = true := by
  -- A move goes to an await, never to the end.
  have hmove : ∀ {i : Nat} {p q : LoopPoint} {s : Option SubscriptionState}, q ≠ .ended →
      c.move i p q s = some c' → False := by
    intro i p q s hq hm
    rw [pointOf_move hm] at hend
    split at hend
    · exact hq (Option.some.inj hend)
    · exact hnot hend
  cases a with
  | start =>
    cases hs
    rw [pointOf_start] at hend
    split at hend
    · cases hend
    · exact absurd hend hnot
  | cancel => cases hs; exact absurd (by rwa [pointOf_cancel] at hend) hnot
  | stopBegin => cases hs; exact absurd (by rwa [pointOf_stopBegin] at hend) hnot
  | stopEnd k =>
    obtain ⟨i, -, -, rfl⟩ := stopEnd_eq_some hs
    exact absurd hend hnot
  | poll i | event i | handled i | streamEnds i | waited i => exact (hmove (by decide) hs).elim
  | connected i opened => cases opened <;> exact (hmove (by decide) hs).elim
  | stopTaken i =>
    obtain ⟨l, hl, hsent, -, rfl⟩ := takeStop_eq_some hs
    rw [pointOf_publish, pointOf_setPoint] at hend
    split at hend
    · rename_i hij
      subst hij
      exact ⟨rfl, l, hl, hsent⟩
    · exact absurd hend hnot

/-! ### The slot and the runs before a start -/

/-- A step fills the slot only by starting a run, with the loop it spawns. -/
theorem running_of_step (hs : c.step a = some c') (hr : c'.running = some j) :
    c.running = some j ∨ a = .start ∧ j = c.loops.length := by
  cases a with
  | start =>
    cases hs
    rw [running_start, Option.some.injEq] at hr
    exact .inr ⟨rfl, hr.symm⟩
  | cancel =>
    cases hs
    rcases running_cancel_or (c := c) with h | h <;> rw [h] at hr
    · cases hr
    · exact .inl hr
  | stopBegin =>
    cases hs
    rcases running_stopBegin_or (c := c) with h | h <;> rw [h] at hr
    · cases hr
    · exact .inl hr
  | stopEnd k =>
    obtain ⟨i, -, -, rfl⟩ := stopEnd_eq_some hs
    exact .inl hr
  | poll i | connected i _ | event i | handled i | streamEnds i | waited i | stopTaken i =>
    rw [(loop_step_frame rfl hs).1] at hr
    exact .inl hr

/-- No step removes a loop. -/
theorem length_le_of_step (hs : c.step a = some c') : c.loops.length ≤ c'.loops.length := by
  cases a with
  | start => cases hs; rw [length_start]; exact Nat.le_succ _
  | cancel => cases hs; exact Nat.le_of_eq length_cancel.symm
  | stopBegin => cases hs; exact Nat.le_of_eq length_stopBegin.symm
  | stopEnd k =>
    obtain ⟨i, -, -, rfl⟩ := stopEnd_eq_some hs
    exact Nat.le_refl _
  | poll i | connected i _ | event i | handled i | streamEnds i | waited i | stopTaken i =>
    exact Nat.le_of_eq (loop_step_frame rfl hs).2.2.symm

/-- A spawned loop out of the slot stays out of it along every schedule: the slot only ever
    takes a newly spawned loop. -/
theorem not_running_runAll : ∀ {c c' : Control} {sched : List ControlStep},
    c.runAll sched = some c' → i < c.loops.length → c.running ≠ some i → c'.running ≠ some i
  | _, _, [], hr, _, hi => by cases hr; exact hi
  | _, _, _ :: _, hr, hlt, hi => by
    obtain ⟨c₁, h₁, hrest⟩ := Option.bind_eq_some_iff.1 hr
    refine not_running_runAll hrest (Nat.lt_of_lt_of_le hlt (length_le_of_step h₁)) fun h' => ?_
    rcases running_of_step h₁ h' with h'' | ⟨-, h''⟩
    · exact hi h''
    · omega

/-- After a start, the loops spawned before it never change the state again, along any
    schedule. -/
theorem Inv.loop_step_quiet_after_start (h : Inv c) {sched : List ControlStep}
    {c₁ c₂ : Control} (hrun : c.start.runAll sched = some c₁) (hi : i < c.loops.length)
    (ha : a.loop? = some i) (hs : c₁.step a = some c₂) : c₂.state = c₁.state := by
  have hnot : c₁.running ≠ some i := by
    refine not_running_runAll hrun (by rw [length_start]; omega) ?_
    rw [running_start, Ne, Option.some.injEq]
    omega
  rcases (h.start.runAll hrun).state_of_loop_step ha hs with h' | ⟨hr, -⟩
  · exact h'
  · exact absurd hr hnot

/-! ### Stopped until the next start -/

/-- With the slot empty and `stopped` published, every step but a start keeps both: no loop
    runs, so none publishes. -/
theorem Inv.stopped_step (h : Inv c) (hr : c.running = none) (hst : c.state = .stopped)
    (ha : a ≠ .start) (hs : c.step a = some c') : c'.running = none ∧ c'.state = .stopped := by
  cases a with
  | start => exact absurd rfl ha
  | cancel => cases hs; rw [cancel_of_none hr]; exact ⟨hr, hst⟩
  | stopBegin => cases hs; rw [stopBegin_of_none hr]; exact ⟨hr, hst⟩
  | stopEnd k =>
    obtain ⟨i, -, -, rfl⟩ := stopEnd_eq_some hs
    exact ⟨hr, rfl⟩
  | poll i | connected i _ | event i | handled i | streamEnds i | waited i | stopTaken i =>
    refine ⟨(loop_step_frame rfl hs).1.trans hr, ?_⟩
    rcases h.state_of_loop_step rfl hs with h' | ⟨h', -⟩
    · exact h'.trans hst
    · rw [hr] at h'
      cases h'

/-- With the slot empty and `stopped` published, every schedule without a start keeps both. -/
theorem Inv.stopped_runAll : ∀ {c c' : Control} {sched : List ControlStep}, Inv c →
    c.running = none → c.state = .stopped → .start ∉ sched → c.runAll sched = some c' →
      c'.running = none ∧ c'.state = .stopped
  | _, _, [], _, hr, hst, _, hrun => by cases hrun; exact ⟨hr, hst⟩
  | _, _, a :: _, h, hr, hst, hno, hrun => by
    obtain ⟨c₁, h₁, hrest⟩ := Option.bind_eq_some_iff.1 hrun
    have ha : a ≠ .start := fun ha => hno (ha ▸ List.mem_cons_self)
    obtain ⟨hr₁, hst₁⟩ := h.stopped_step hr hst ha h₁
    exact (h.step h₁).stopped_runAll hr₁ hst₁ (fun hmem => hno (List.mem_cons_of_mem _ hmem)) hrest

/-! ### The protocol -/

/-- What the handle and the loops guarantee of the published state, at a state of a
    schedule. -/
structure Guarantees (c : Control) : Prop where
  /-- A loop publishes only `connecting` and `streaming`, and only while it runs. -/
  loop_publishes : ∀ a i c', a.loop? = some i → c.step a = some c' →
    c'.state = c.state ∨ c.running = some i ∧ (c'.state = .connecting ∨ c'.state = .streaming)
  /-- A loop ends only by taking the stop it was sent. -/
  loop_ends : ∀ a j c', c.step a = some c' → c'.pointOf j = some .ended →
    c.pointOf j ≠ some .ended → a = .stopTaken j ∧ ∃ l, c.loops[j]? = some l ∧ l.stopSent = true
  /-- After a start, the loops spawned before it never change the state again. -/
  earlier_loops_quiet : ∀ sched c₁ a i c₂, c.start.runAll sched = some c₁ → i < c.loops.length →
    a.loop? = some i → c₁.step a = some c₂ → c₂.state = c₁.state
  /-- A suspended `stop` resumes only once its loop has ended, and publishes `stopped`, leaving
      the slot as it finds it. -/
  stop_resumes : ∀ k c', c.step (.stopEnd k) = some c' →
    (∃ i, c.stopping[k]? = some i ∧ c.pointOf i = some .ended) ∧ c'.state = .stopped ∧
      c'.running = c.running
  /-- A `cancel` that finds a run empties the slot and publishes `stopped`. -/
  cancel_stops : c.running ≠ none → c.cancel.running = none ∧ c.cancel.state = .stopped
  /-- With the slot empty and `stopped` published, the state stays so until the next start. -/
  stopped_until_start : c.running = none → c.state = .stopped → ∀ sched c', .start ∉ sched →
    c.runAll sched = some c' → c'.running = none ∧ c'.state = .stopped

/-- Every state that a schedule of `start`, `cancel` and `stop` calls and loop steps reaches,
    in any order, keeps the guarantees. -/
theorem reachable_guarantees (hc : Reachable c) : c.Guarantees where
  loop_publishes _ _ _ ha hs := hc.inv.state_of_loop_step ha hs
  loop_ends _ _ _ hs hend hnot := ended_of_step hs hend hnot
  earlier_loops_quiet _ _ _ _ _ hrun hi ha hs := hc.inv.loop_step_quiet_after_start hrun hi ha hs
  stop_resumes _ _ hs := by
    obtain ⟨i, hi, hend, rfl⟩ := stopEnd_eq_some hs
    exact ⟨⟨i, hi, hend⟩, rfl, rfl⟩
  cancel_stops := cancel_of_running
  stopped_until_start hr hst _ _ hno hrun := hc.inv.stopped_runAll hr hst hno hrun

/-- The guarantees hold where a start has come while a stop waits for its loop. -/
theorem reachable_guarantees_restartDuringStop :
    ∃ c, init.runAll [.start, .poll 0, .stopBegin, .start] = some c ∧ Reachable c ∧
      c.Guarantees := by
  obtain ⟨c, hc⟩ : ∃ c, init.runAll [.start, .poll 0, .stopBegin, .start] = some c := ⟨_, rfl⟩
  have hreach : Reachable c := Reachable.init.runAll hc
  exact ⟨c, hc, hreach, reachable_guarantees hreach⟩

/-- A `stop` whose wait outlasts a `start` publishes `stopped` over the new run, and the new
    run's loop then publishes `streaming` with no start after the `stop`. A second `stop`
    during the wait of the first finds no run and returns at once, with `streaming` still
    published. -/
theorem stop_publishes_over_restart :
    (∃ c₁ c₂ c₃,
      init.runAll [.start, .poll 0, .stopBegin, .start, .poll 1, .stopTaken 0] = some c₁ ∧
        c₁.running = some 1 ∧ c₁.state = .connecting ∧
        c₁.step (.stopEnd 0) = some c₂ ∧ c₂.state = .stopped ∧ c₂.running = some 1 ∧
        c₂.step (.connected 1 true) = some c₃ ∧ c₃.state = .streaming) ∧
    (∃ c, init.runAll [.start, .poll 0, .connected 0 true, .stopBegin, .stopBegin] = some c ∧
      c.running = none ∧ c.state = .streaming ∧ c.stopping = [0]) :=
  ⟨⟨_, _, _, rfl, rfl, rfl, rfl, rfl, rfl, rfl, rfl⟩, ⟨_, rfl, rfl, rfl, rfl⟩⟩

end Control

end FeatureFlags
