import Mathlib
import FeatureFlags.Client.FlushSchedule

/-!
# No evaluation count is lost

Over every schedule of counts and flushes (`Flushes.Reachable`), what was counted of a
feature is never more than what the posts the service took sent of it, with what the counts
still hold of it: a flush takes off only what it sent, and only once the service took it.
The counts never hold a zero.

That is all the client promises. Two flushes may overlap: the second takes its snapshot
while the first awaits its answer, so both send the same counts. When the service takes
both, each takes its snapshot off the counts, the second from counts the first already
emptied, and the subtraction stops at zero: the counts sent twice are posted twice
(`Flushes.overlapping_flushes_post_twice`). Without overlapping flushes, what was counted is
exactly what was posted and what is held.

* `Analytics.countOf_bump`, `Analytics.countOf_subtract`: counting adds one to the count of
  the feature; a flush's subtraction takes the count it sent off each count;
* `Flushes.Inv`: the invariant, kept by every step (`Flushes.Inv.step`);
* `Flushes.counts_never_lost`: the accounting above, after every schedule.
-/

namespace FeatureFlags

namespace Analytics

/-- The count of a feature in a list of counts: that of its first entry, zero when it has
    none. -/
def countOf (counts : List (String × Nat)) (feature : String) : Nat :=
  ((counts.find? (·.1 == feature)).map (·.2)).getD 0

/-- The features of a list of counts. -/
def features (counts : List (String × Nat)) : List String := counts.map (·.1)

variable {counts held sent : List (String × Nat)} {name f : String}

@[simp] theorem countOf_nil (f : String) : countOf [] f = 0 := rfl

@[simp] theorem countOf_cons (k : String) (n : Nat) (counts : List (String × Nat)) (f : String) :
    countOf ((k, n) :: counts) f = if k = f then n else countOf counts f := by
  by_cases h : k = f <;> simp [countOf, h]

theorem countOf_of_not_mem (h : f ∉ features counts) : countOf counts f = 0 := by
  induction counts with
  | nil => rfl
  | cons e counts ih =>
    obtain ⟨k, n⟩ := e
    simp only [features, List.map_cons, List.mem_cons, not_or] at h
    simp [Ne.symm h.1, ih h.2]

/-! ## Counting -/

/-- Counting an evaluation adds one to the count of its feature. -/
theorem countOf_bump (name : String) (counts : List (String × Nat)) (f : String) :
    countOf (bump name counts) f = countOf counts f + if f = name then 1 else 0 := by
  induction counts with
  | nil =>
    by_cases h : f = name
    · subst h
      simp [bump]
    · simp [bump, h, Ne.symm h]
  | cons e counts ih =>
    obtain ⟨k, n⟩ := e
    by_cases hk : k = name
    · subst hk
      by_cases hf : k = f <;> simp [bump, hf, Ne.symm]
    · simp only [bump, beq_iff_eq, hk, if_false, countOf_cons, ih]
      by_cases hf : k = f
      · subst hf
        simp [hk]
      · simp [hf]

theorem mem_features_bump :
    f ∈ features (bump name counts) ↔ f = name ∨ f ∈ features counts := by
  induction counts with
  | nil => simp [bump, features]
  | cons e counts ih =>
    obtain ⟨k, n⟩ := e
    simp only [features] at ih
    by_cases hk : k = name
    · subst hk
      simp [bump, features]
    · simp only [bump, beq_iff_eq, hk, if_false, features, List.map_cons, List.mem_cons, ih]
      tauto

theorem nodup_features_bump (h : (features counts).Nodup) :
    (features (bump name counts)).Nodup := by
  induction counts with
  | nil => simp [bump, features]
  | cons e counts ih =>
    obtain ⟨k, n⟩ := e
    simp only [features, List.map_cons, List.nodup_cons] at h ih
    by_cases hk : k = name
    · subst hk
      simpa [bump, features] using h
    · simp only [bump, beq_iff_eq, hk, if_false, features, List.map_cons, List.nodup_cons]
      refine ⟨?_, ih h.2⟩
      -- the feature of the head is neither the one counted nor one of the rest
      rw [← features, mem_features_bump]
      exact fun h' => h'.elim hk h.1

theorem ne_zero_of_mem_bump (h : ∀ e ∈ counts, e.2 ≠ 0) : ∀ e ∈ bump name counts, e.2 ≠ 0 := by
  induction counts with
  | nil => simp [bump]
  | cons e counts ih =>
    obtain ⟨k, n⟩ := e
    have hn : n ≠ 0 := h (k, n) List.mem_cons_self
    have hrest := ih fun e he => h e (List.mem_cons_of_mem _ he)
    by_cases hk : k = name
    · simp only [bump, hk, beq_self_eq_true, if_true, List.mem_cons, forall_eq_or_imp]
      exact ⟨Nat.succ_ne_zero n, fun e he => h e (List.mem_cons_of_mem _ he)⟩
    · simp only [bump, beq_iff_eq, hk, if_false, List.mem_cons, forall_eq_or_imp]
      exact ⟨hn, hrest⟩

/-! ## Taking sent counts off -/

@[simp] theorem subtract_nil (sent : List (String × Nat)) : subtract [] sent = [] := rfl

theorem subtract_cons (k : String) (n : Nat) (held sent : List (String × Nat)) :
    subtract ((k, n) :: held) sent =
      if n - countOf sent k = 0 then subtract held sent
      else (k, n - countOf sent k) :: subtract held sent := by
  unfold subtract
  rw [List.filterMap_cons]
  by_cases h : n - countOf sent k = 0 <;> simp [countOf] at h ⊢ <;> simp [h]

theorem features_subtract_sublist (held sent : List (String × Nat)) :
    (features (subtract held sent)).Sublist (features held) := by
  induction held with
  | nil => simp [features]
  | cons e held ih =>
    obtain ⟨k, n⟩ := e
    rw [subtract_cons]
    split
    · exact ih.cons k
    · exact ih.cons_cons k

/-- A flush takes the count it sent off each count, down to zero at most. -/
theorem countOf_subtract (h : (features held).Nodup) (sent : List (String × Nat)) (f : String) :
    countOf (subtract held sent) f = countOf held f - countOf sent f := by
  induction held with
  | nil => simp
  | cons e held ih =>
    obtain ⟨k, n⟩ := e
    simp only [features, List.map_cons, List.nodup_cons] at h
    rw [subtract_cons]
    by_cases hk : k = f
    · subst hk
      -- the first count of the feature is its only one
      have hrest : countOf held k = 0 := countOf_of_not_mem h.1
      split
      · rename_i hzero
        rw [ih h.2, hrest, countOf_cons, if_pos rfl, hzero, Nat.zero_sub]
      · rw [countOf_cons, countOf_cons, if_pos rfl, if_pos rfl]
    · split <;> simp [hk, ih h.2]

theorem ne_zero_of_mem_subtract : ∀ e ∈ subtract held sent, e.2 ≠ 0 := by
  induction held with
  | nil => simp
  | cons e held ih =>
    obtain ⟨k, n⟩ := e
    rw [subtract_cons]
    split
    · exact ih
    · rename_i hleft
      simp only [List.mem_cons, forall_eq_or_imp]
      exact ⟨hleft, ih⟩

end Analytics

open Analytics

namespace Flushes

variable {s s' : Flushes} {k : Nat} {taken : Bool}

/-- What the posts the service took sent of a feature, in all. -/
def postedOf (s : Flushes) (f : String) : Nat := (s.posted.map (countOf · f)).sum

/-- What a schedule keeps: the counts name each feature once and hold no zero, nothing
    counted is lost, and while no two flushes overlapped, the one flush awaiting its answer
    sent no more than the counts now hold, and nothing counted was posted twice. -/
structure Inv (s : Flushes) : Prop where
  nodup : (features s.counts).Nodup
  ne_zero : ∀ e ∈ s.counts, e.2 ≠ 0
  kept : ∀ f, s.tracked.count f ≤ s.postedOf f + countOf s.counts f
  serial : s.overlaps = 0 → s.inFlight.length ≤ 1 ∧
    (∀ sent ∈ s.inFlight, ∀ f, countOf sent f ≤ countOf s.counts f) ∧
    ∀ f, s.tracked.count f = s.postedOf f + countOf s.counts f

theorem Inv.init : Inv Flushes.init where
  nodup := List.nodup_nil
  ne_zero := by simp [Flushes.init]
  kept := by simp [Flushes.init, postedOf]
  serial := by simp [Flushes.init, postedOf]

theorem Inv.track (h : Inv s) (feature : String) : Inv (s.track feature) where
  nodup := nodup_features_bump h.nodup
  ne_zero := ne_zero_of_mem_bump h.ne_zero
  kept f := by
    have := h.kept f
    simp only [Flushes.track, postedOf, List.count_append, List.count_singleton,
      countOf_bump] at this ⊢
    by_cases hf : f = feature
    · subst hf
      simp
      omega
    · simp [hf, Ne.symm hf]
      omega
  serial hover := by
    obtain ⟨hlen, hsent, hexact⟩ := h.serial hover
    refine ⟨hlen, fun sent hs f => ?_, fun f => ?_⟩
    · simp only [Flushes.track, countOf_bump]
      exact Nat.le_add_right_of_le (hsent sent hs f)
    · have := hexact f
      simp only [Flushes.track, postedOf, List.count_append, List.count_singleton,
        countOf_bump] at this ⊢
      by_cases hf : f = feature
      · subst hf
        simp
        omega
      · simp [hf, Ne.symm hf]
        omega

theorem Inv.flush (h : Inv s) : Inv s.flush := by
  unfold Flushes.flush
  split
  · exact h
  · refine ⟨h.nodup, h.ne_zero, h.kept, fun hover => ?_⟩
    -- no overlap after the flush: none was awaiting its answer, and it sent the counts
    have hempty : s.inFlight = [] := by
      by_contra hne
      simp [List.isEmpty_iff, hne] at hover
    have hover' : s.overlaps = 0 := by simpa [hempty] using hover
    refine ⟨by simp [hempty], fun sent hs f => ?_, (h.serial hover').2.2⟩
    simp only [hempty, List.nil_append, List.mem_singleton] at hs
    rw [hs]

/-- What an answer does: the flush answered leaves the flights, and when the service took
    its post, its snapshot is posted and taken off the counts. -/
theorem answered_eq_some (hs : s.answered k taken = some s') :
    ∃ sent, s.inFlight[k]? = some sent ∧ s'.inFlight = s.inFlight.eraseIdx k ∧
      s'.tracked = s.tracked ∧ s'.overlaps = s.overlaps ∧
      (taken = true → s'.counts = subtract s.counts sent ∧ s'.posted = s.posted ++ [sent]) ∧
      (taken = false → s'.counts = s.counts ∧ s'.posted = s.posted) := by
  unfold answered at hs
  split at hs
  · rename_i sent hsent
    cases hs
    cases taken <;> exact ⟨sent, hsent, rfl, rfl, rfl, by simp, by simp⟩
  · cases hs

theorem Inv.answered (h : Inv s) (hs : s.answered k taken = some s') : Inv s' := by
  obtain ⟨sent, hsent, hflight, htracked, hover, htaken, hfailed⟩ := answered_eq_some hs
  cases taken with
  | false =>
    obtain ⟨hcounts, hposted⟩ := hfailed rfl
    have hpost : s'.postedOf = s.postedOf := by
      unfold postedOf
      rw [hposted]
    refine ⟨hcounts ▸ h.nodup, hcounts ▸ h.ne_zero, ?_, fun hover' => ?_⟩
    · rw [htracked, hpost, hcounts]
      exact h.kept
    · obtain ⟨hlen, hle, hexact⟩ := h.serial (hover ▸ hover')
      refine ⟨?_, fun sent' hs' f => ?_, ?_⟩
      · rw [hflight]
        exact (List.length_eraseIdx_le _ _).trans hlen
      · rw [hcounts]
        exact hle sent' (List.mem_of_mem_eraseIdx (hflight ▸ hs')) f
      · rw [htracked, hpost, hcounts]
        exact hexact
  | true =>
    obtain ⟨hcounts, hposted⟩ := htaken rfl
    have hpost (f : String) : s'.postedOf f = s.postedOf f + countOf sent f := by
      simp [postedOf, hposted]
    have hcount (f : String) : countOf s'.counts f = countOf s.counts f - countOf sent f := by
      rw [hcounts, countOf_subtract h.nodup]
    refine ⟨?_, hcounts ▸ ne_zero_of_mem_subtract, fun f => ?_, fun hover' => ?_⟩
    · rw [hcounts]
      exact h.nodup.sublist (features_subtract_sublist _ _)
    · have := h.kept f
      rw [htracked, hpost, hcount]
      omega
    · -- without overlaps the flush answered was the only one, and sent no more than is held
      obtain ⟨hlen, hle, hexact⟩ := h.serial (hover ▸ hover')
      have hk : k < s.inFlight.length := (List.getElem?_eq_some_iff.1 hsent).1
      have hmem : sent ∈ s.inFlight := List.mem_of_getElem? hsent
      refine ⟨?_, fun sent' hs' => ?_, fun f => ?_⟩
      · rw [hflight]
        exact (List.length_eraseIdx_le _ _).trans hlen
      · have : s'.inFlight = [] := by
          rw [hflight, List.eraseIdx_eq_nil_iff]
          omega
        simp [this] at hs'
      · have := hexact f
        have := hle sent hmem f
        rw [htracked, hpost, hcount]
        omega

theorem Inv.step (h : Inv s) {a : FlushStep} (hs : s.step a = some s') : Inv s' := by
  cases a with
  | track feature =>
    cases hs
    exact h.track feature
  | flush =>
    cases hs
    exact h.flush
  | answered k taken => exact h.answered hs

theorem Reachable.inv (h : Reachable s) : Inv s := by
  induction h with
  | init => exact Inv.init
  | step a _ hs ih => exact ih.step hs

theorem Reachable.runAll : ∀ {s s' : Flushes} {sched : List FlushStep}, Reachable s →
    s.runAll sched = some s' → Reachable s'
  | _, _, [], h, hrun => by
    cases hrun
    exact h
  | s, _, a :: sched, h, hrun => by
    simp only [Flushes.runAll, Option.bind_eq_some_iff] at hrun
    obtain ⟨s₁, hs₁, hrun⟩ := hrun
    exact Reachable.runAll (h.step a hs₁) hrun

/-- Over every schedule of counts and flushes, nothing counted is lost: what was counted
    of a feature is at most what the posts the service took sent of it, with what the
    counts hold of it (none when they have no entry); the counts never hold a zero; and
    while no two flushes overlapped, what was counted is exactly that. -/
theorem counts_never_lost (hs : Reachable s) :
    (∀ f, s.tracked.count f ≤ s.postedOf f + countOf s.counts f) ∧
      (∀ e ∈ s.counts, e.2 ≠ 0) ∧
      (s.overlaps = 0 → ∀ f, s.tracked.count f = s.postedOf f + countOf s.counts f) := by
  have h := hs.inv
  exact ⟨h.kept, h.ne_zero, fun hover => (h.serial hover).2.2⟩

/-- An evaluation counted, a flush, another count while it awaits its answer, and the answer. -/
def countedDuringFlush : List FlushStep :=
  [.track "f", .flush, .track "f", .answered 0 true]

theorem counts_never_lost_countedDuringFlush :
    ∃ s, init.runAll countedDuringFlush = some s ∧ Reachable s ∧ s.overlaps = 0 ∧
      s.tracked.count "f" = 2 ∧ s.postedOf "f" = 1 ∧ countOf s.counts "f" = 1 ∧
      ((∀ f, s.tracked.count f ≤ s.postedOf f + countOf s.counts f) ∧
        (∀ e ∈ s.counts, e.2 ≠ 0) ∧
        (s.overlaps = 0 → ∀ f, s.tracked.count f = s.postedOf f + countOf s.counts f)) := by
  obtain ⟨s, hrun⟩ : ∃ s, init.runAll countedDuringFlush = some s := ⟨_, rfl⟩
  have hs : Reachable s := Reachable.init.runAll hrun
  refine ⟨s, hrun, hs, ?_, ?_, ?_, ?_, counts_never_lost hs⟩ <;>
    (cases hrun; decide)

/-- Two flushes that overlap, both taken by the service. -/
def overlappingFlushes : List FlushStep :=
  [.track "f", .flush, .flush, .answered 0 true, .answered 0 true]

/-- Overlapping flushes post one evaluation twice: counted once, posted twice, and no
    longer held. -/
theorem overlapping_flushes_post_twice :
    ∃ s, init.runAll overlappingFlushes = some s ∧ Reachable s ∧
      s.tracked.count "f" = 1 ∧ s.postedOf "f" = 2 ∧ countOf s.counts "f" = 0 := by
  obtain ⟨s, hrun⟩ : ∃ s, init.runAll overlappingFlushes = some s := ⟨_, rfl⟩
  refine ⟨s, hrun, Reachable.init.runAll hrun, ?_, ?_, ?_⟩ <;>
    (cases hrun; decide)

end Flushes

end FeatureFlags
