import Mathlib
import FeatureFlags.Client.Subscription
import FeatureFlags.Proofs.Json.Numbers

/-!
# Push refreshes

Over a run of push events, the subscription refreshes the client once for every event that
announces flags newer than all it accepted before, and for no other event.

An event *announces* an update time when its name is absent, `message` or
`environment_updated`, and its data is not blank and reads as a push event
(`PushEvent.announced?`). It is *accepted* when that time is strictly later than the
tracker, which starts at the freshness of the flags and is raised to the time of every
event accepted. Each accepted event makes three calls, in this order: drop the cache,
raise the tracker to its time, fetch the flags (`refreshCalls`).

`handle_run_refreshCalls`: handling the events one by one, while the refresher is there and
nothing else writes the freshness, does what these calls do, whatever the refresher does;
once the refresher is gone, no event changes anything.

The run is an induction over the events from the step lemmas `PushEvent.handle_of_accepted`
and `PushEvent.handle_of_not_accepted`. Its invariant is that the tracker is not NaN: it
starts at a number, and is raised only to times the JSON reader returned, which are finite
(`FlagEvent.isFinite_updatedAt`). Between such times the handler's test "not at most the
tracker" is the test "strictly later" (`Float.not_le_iff_lt`), and raising the tracker
moves it exactly to the time.
-/

namespace FeatureFlags

/-! ## The calls made on push events -/

/-- A call the subscription makes on a push event. -/
inductive RefreshCall where
  /-- Drops every cached answer. -/
  | invalidate
  /-- Raises the freshness to a time. -/
  | raise (t : Float)
  /-- Fetches the flags again. -/
  | refresh

/-- Makes a call on a state, through a refresher and where the state keeps its freshness. -/
def RefreshCall.perform {σ : Type} (cell : FreshnessCell σ) (r : FlagRefresher σ) (s : σ) :
    RefreshCall → σ
  | .invalidate => r.invalidate s
  | .raise t => cell.set s ⟨t⟩
  | .refresh => r.refresh s

/-- The update time an event announces: its name is absent, `message` or
    `environment_updated`, and its data is not blank and is a push event. -/
def PushEvent.announced? (e : PushEvent) : Option Float :=
  if !e.isFlagUpdate || (String.trimSpace e.data).isEmpty then none
  else
    match FlagEvent.parse e.data with
    | .ok update => some update.updatedAt
    | .error _ => none

/-- The time an event is accepted at, from a tracker at `known`: the time it announces,
    when strictly later. -/
def PushEvent.acceptedAt? (e : PushEvent) (known : Float) : Option Float :=
  e.announced?.filter fun t => decide (known < t)

/-- The calls made on a run of events from a tracker at `known`: for every event accepted,
    a drop of the cache, a raise to its time and a fetch; the tracker is then at its time. -/
def refreshCalls (known : Float) : List PushEvent → List RefreshCall
  | [] => []
  | e :: rest =>
    match e.acceptedAt? known with
    | some t => .invalidate :: .raise t :: .refresh :: refreshCalls t rest
    | none => refreshCalls known rest

/-- A refresher that writes no freshness: nothing but the subscription moves it. -/
structure FlagRefresher.KeepsFreshness {σ : Type} (r : FlagRefresher σ) (cell : FreshnessCell σ) :
    Prop where
  invalidate : ∀ s, cell.get (r.invalidate s) = cell.get s
  refresh : ∀ s, cell.get (r.refresh s) = cell.get s

/-! ## Which events are accepted -/

/-- Every time an event announces is finite. -/
theorem PushEvent.isFinite_of_announced {e : PushEvent} {t : Float} (h : e.announced? = some t) :
    t.isFinite := by
  unfold announced? at h
  split at h
  · cases h
  · split at h
    · rename_i update hparse
      cases h
      exact FlagEvent.isFinite_updatedAt hparse
    · cases h

/-- An event announces newer flags exactly when it announces a time that is not at most the
    freshness. -/
theorem PushEvent.newerThan?_eq_filter (e : PushEvent) (known : Freshness) :
    e.newerThan? known = e.announced?.filter fun t => !decide (t ≤ known.latest) := by
  unfold newerThan? announced?
  split
  · rfl
  · cases FlagEvent.parse e.data with
    | ok update => by_cases h : update.updatedAt ≤ known.latest <;> simp [Option.filter_some, h]
    | error _ => rfl

/-- From a tracker that is not NaN, an event announces newer flags exactly when it is
    accepted. -/
theorem PushEvent.newerThan?_eq_acceptedAt? (e : PushEvent) {known : Freshness}
    (hknown : known.latest.isNaN = false) : e.newerThan? known = e.acceptedAt? known.latest := by
  rw [newerThan?_eq_filter, acceptedAt?]
  cases ha : e.announced? with
  | none => rfl
  | some t =>
    have ht := Float.isNaN_eq_false_of_isFinite (isFinite_of_announced ha)
    -- the handler skips a time at most the tracker; between numbers that is "not later"
    simp only [Option.filter_some, Bool.not_eq_true', decide_eq_false_iff_not,
      Float.not_le_iff_lt ht hknown, decide_eq_true_eq]

/-- An accepted time is finite and strictly later than the tracker. -/
theorem PushEvent.acceptedAt?_eq_some {e : PushEvent} {known t : Float}
    (h : e.acceptedAt? known = some t) : t.isFinite ∧ known < t := by
  obtain ⟨ha, hlt⟩ := Option.filter_eq_some_iff.1 h
  exact ⟨isFinite_of_announced ha, of_decide_eq_true hlt⟩

/-- A finite time later than the freshness moves it to that time. -/
theorem Freshness.observe_of_lt {f : Freshness} {t : Float} (ht : t.isFinite)
    (h : f.latest < t) : (f.observe t).1 = ⟨t⟩ := by
  have hmoves : f.moves t = true := by
    simp only [moves, Float.isNaN_eq_false_of_isFinite ht, Float.isInf_eq_false_of_isFinite ht,
      Bool.not_false, Bool.true_and, decide_eq_true_eq]
    exact h
  simp only [observe, hmoves, if_true]

/-! ## One event -/

section Step

variable {σ : Type} {cell : FreshnessCell σ} {r : FlagRefresher σ} {s : σ} {e : PushEvent}

/-- An accepted event drops the cache, raises the tracker to its time, and fetches. -/
theorem PushEvent.handle_of_accepted (hr : r.KeepsFreshness cell)
    (hs : (cell.get s).latest.isNaN = false) {t : Float}
    (h : e.acceptedAt? (cell.get s).latest = some t) :
    e.handle cell (some r) s = r.refresh (cell.set (r.invalidate s) ⟨t⟩) := by
  have hnewer := (e.newerThan?_eq_acceptedAt? hs).trans h
  obtain ⟨hfin, hlt⟩ := acceptedAt?_eq_some h
  -- the tracker the handler raises after the drop is still the one it compared with
  have hraise : ((cell.get (r.invalidate s)).observe t).1 = ⟨t⟩ := by
    rw [hr.invalidate]
    exact Freshness.observe_of_lt hfin hlt
  simp only [handle, hnewer, hraise]

/-- An event not accepted changes nothing. -/
theorem PushEvent.handle_of_not_accepted (hs : (cell.get s).latest.isNaN = false)
    (h : e.acceptedAt? (cell.get s).latest = none) : e.handle cell (some r) s = s := by
  simp only [handle, e.newerThan?_eq_acceptedAt? hs, h]

/-- Without a refresher, no event changes anything. -/
theorem PushEvent.handle_none (cell : FreshnessCell σ) (s : σ) (e : PushEvent) :
    e.handle cell none s = s := by
  unfold handle
  split <;> simp_all

/-- After an accepted event, the tracker is at its time. -/
theorem FlagRefresher.KeepsFreshness.tracker_after_raise (hr : r.KeepsFreshness cell) (t : Float) :
    cell.get (r.refresh (cell.set (r.invalidate s) ⟨t⟩)) = ⟨t⟩ := by
  rw [hr.refresh, cell.get_set]

end Step

/-! ## A run of events -/

/-- Handling a run of events, while the refresher is there and nothing else writes the
    freshness, does what the calls of `refreshCalls` do from the tracker it starts at: one
    drop of the cache, raise of the tracker and fetch for every event announcing a time
    later than all accepted before it, and nothing for the others. Once the refresher is
    gone, no event changes anything. -/
theorem handle_run_refreshCalls {σ : Type} (cell : FreshnessCell σ) (r : FlagRefresher σ)
    (hr : r.KeepsFreshness cell) (s : σ) (hs : (cell.get s).latest.isNaN = false)
    (events : List PushEvent) :
    events.foldl (PushEvent.handle cell (some r)) s =
        (refreshCalls (cell.get s).latest events).foldl (RefreshCall.perform cell r) s ∧
      events.foldl (PushEvent.handle cell none) s = s := by
  refine ⟨?_, List.foldl_fixed' (PushEvent.handle_none cell s) events⟩
  -- induction over the events, for every state whose tracker is not NaN
  induction events generalizing s with
  | nil => rfl
  | cons e rest ih =>
    simp only [List.foldl_cons, refreshCalls]
    cases h : e.acceptedAt? (cell.get s).latest with
    | none =>
      rw [PushEvent.handle_of_not_accepted hs h]
      exact ih s hs
    | some t =>
      have ht := (PushEvent.acceptedAt?_eq_some h).1
      have htracker := hr.tracker_after_raise (s := s) t
      have hnan : (cell.get (r.refresh (cell.set (r.invalidate s) ⟨t⟩))).latest.isNaN = false := by
        rw [htracker]
        exact Float.isNaN_eq_false_of_isFinite ht
      -- the handler's step is the three calls, and the rest runs from the raised tracker
      rw [PushEvent.handle_of_accepted hr hs h, ih _ hnan, htracker]
      rfl

/-- A freshness beside the counts of the calls a refresher got. -/
structure CallCounts where
  freshness : Freshness
  invalidations : Nat
  refreshes : Nat

/-- Where counted calls keep their freshness. -/
def CallCounts.cell : FreshnessCell CallCounts where
  get c := c.freshness
  set c f := { c with freshness := f }
  get_set _ _ := rfl

/-- A refresher that only counts its calls. -/
def CallCounts.refresher : FlagRefresher CallCounts where
  invalidate c := { c with invalidations := c.invalidations + 1 }
  refresh c := { c with refreshes := c.refreshes + 1 }

/-- Three updates of the environment: at 10, at 10 again, then at 5. -/
def repeatedUpdates : List PushEvent :=
  let update (data : String) : PushEvent :=
    { kind := some "environment_updated", data, id := none, retry := none }
  [update "\x7b\"updated_at\": 10.0\x7d", update "\x7b\"updated_at\": 10.0\x7d",
    update "\x7b\"updated_at\": 5.0\x7d"]

theorem handle_run_refreshCalls_counted :
    CallCounts.refresher.KeepsFreshness CallCounts.cell ∧
      (CallCounts.cell.get ⟨Freshness.initial, 0, 0⟩).latest.isNaN = false ∧
      (repeatedUpdates.foldl (PushEvent.handle CallCounts.cell (some CallCounts.refresher))
          ⟨Freshness.initial, 0, 0⟩ =
        (refreshCalls Freshness.initial.latest repeatedUpdates).foldl
          (RefreshCall.perform CallCounts.cell CallCounts.refresher) ⟨Freshness.initial, 0, 0⟩ ∧
      repeatedUpdates.foldl (PushEvent.handle CallCounts.cell none) ⟨Freshness.initial, 0, 0⟩ =
        ⟨Freshness.initial, 0, 0⟩) :=
  have hkeeps : CallCounts.refresher.KeepsFreshness CallCounts.cell := ⟨fun _ => rfl, fun _ => rfl⟩
  ⟨hkeeps, rfl,
    handle_run_refreshCalls CallCounts.cell CallCounts.refresher hkeeps _ rfl repeatedUpdates⟩

-- the second update is not newer and the third is older: one drop, one fetch, freshness 10
example :
    let c := repeatedUpdates.foldl (PushEvent.handle CallCounts.cell (some CallCounts.refresher))
      ⟨Freshness.initial, 0, 0⟩
    c.invalidations = 1 ∧ c.refreshes = 1 ∧ (c.freshness.latest == 10.0) = true := by
  decide +kernel

end FeatureFlags
