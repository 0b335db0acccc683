import Mathlib
import FeatureFlags.Proofs.Number.Finite
import FeatureFlags.Flag.Entity

/-!
# The freshness is a running maximum

The freshness starts at `0.0` and is moved by `Freshness.observe` only to a finite time
strictly later than it. Whoever observes times (a fetched answer, a push event), each
observation is one atomic step, so a run of observations from several callers is one list
of times in the order the steps took place: `Freshness.observeAll`.

*The finite maximum* of a list of times is the largest of `0.0` and its finite times,
written as a positive zero when it is zero (`Freshness.IsFiniteMax`). It is one double
whatever the order of the list (`Freshness.IsFiniteMax.unique`), though NaN compares with
nothing and the two zeros compare equal.

* `Freshness.observeAll_isFiniteMax`: after every run, the freshness is the finite maximum
  of the times observed: never NaN, an infinity or `-0.0`;
* `Freshness.observeAll_perm`: so every interleaving of the same observations ends at the
  same freshness;
* `Freshness.observe_moved_iff`, `Freshness.latest_le_observe`: an observation reports a
  move exactly when it raised the freshness, and never lowers it.

The arguments read the order of doubles from Lean's logical model of `Float`: between
doubles that are not NaN it is a total preorder (`Float.le_trans`, `Float.not_le_iff_lt`),
in which only the two zeros are equal without being the same double
(`Float.eq_of_le_of_le`).
-/

open Float.Model UnpackedFloat

namespace FeatureFlags

namespace Binary64

/-! ## The order of unpacked doubles -/

theorem isLE_then_compare {e₁ e₂ : Int} {m₁ m₂ : Nat} :
    ((compare e₁ e₂).then (compare m₁ m₂)).isLE ↔ e₁ < e₂ ∨ (e₁ = e₂ ∧ m₁ ≤ m₂) := by
  rw [← Nat.isLE_compare, ← Int.compare_eq_lt, ← Int.compare_eq_eq]
  cases compare e₁ e₂ <;> cases compare m₁ m₂ <;> decide

theorem isGE_then_compare {e₁ e₂ : Int} {m₁ m₂ : Nat} :
    ((compare e₁ e₂).then (compare m₁ m₂)).isGE ↔ e₂ < e₁ ∨ (e₁ = e₂ ∧ m₂ ≤ m₁) := by
  rw [← Nat.isGE_compare, ← Int.compare_eq_gt, ← Int.compare_eq_eq]
  cases compare e₁ e₂ <;> cases compare m₁ m₂ <;> decide

theorem compare_signs :
    compare Sign.negative Sign.positive = .lt ∧ compare Sign.positive Sign.negative = .gt ∧
      compare Sign.negative Sign.negative = .eq ∧ compare Sign.positive Sign.positive = .eq :=
  ⟨rfl, rfl, rfl, rfl⟩

/-- "At most" is transitive. -/
theorem compare_le_trans {u v w : UnpackedFloat} (h₁ : (u.compare v).any (·.isLE))
    (h₂ : (v.compare w).any (·.isLE)) : (u.compare w).any (·.isLE) := by
  -- every triple of constructors and signs; numbers of one sign compare exponents, then
  -- mantissas, reversed for negative numbers
  rcases u with s₁ | _ | s₁ | ⟨s₁, m₁, e₁, _⟩ <;> rcases v with s₂ | _ | s₂ | ⟨s₂, m₂, e₂, _⟩ <;>
    rcases w with s₃ | _ | s₃ | ⟨s₃, m₃, e₃, _⟩ <;>
    (try cases s₁) <;> (try cases s₂) <;> (try cases s₃) <;>
    simp_all [UnpackedFloat.compare, Ordering.isLE_swap, isLE_then_compare, isGE_then_compare,
      compare_signs] <;> omega

/-- A double that is not NaN is equal to itself. -/
theorem compare_self {u : UnpackedFloat} (hu : u ≠ .notANumber) : u.compare u = some .eq := by
  rcases u with s | _ | s | ⟨s, m, e, _⟩
  · cases s <;> rfl
  · exact absurd rfl hu
  · cases s <;> rfl
  · cases s <;> simp [UnpackedFloat.compare]

/-- Doubles equal in the order are the same, or are both zeros. -/
theorem eq_of_compare_eq {u v : UnpackedFloat} (h : u.compare v = some .eq) :
    u = v ∨ ∃ s t, u = .zero s ∧ v = .zero t := by
  rcases u with s₁ | _ | s₁ | ⟨s₁, m₁, e₁, _⟩ <;> rcases v with s₂ | _ | s₂ | ⟨s₂, m₂, e₂, _⟩ <;>
    (try cases s₁) <;> (try cases s₂) <;>
    simp_all [UnpackedFloat.compare, Ordering.swap_eq_eq, Ordering.then_eq_eq, compare_signs]

end Binary64

open Binary64

/-! ## The order of doubles -/

namespace Float

variable {x y z : Float}

theorem isNaN_iff_unpack : x.isNaN = true ↔ x.toModel.unpack = .notANumber :=
  UnpackedFloat.isNaN_iff

/-- Doubles with the same unpacked form are the same double. -/
theorem eq_of_unpack_eq (h : x.toModel.unpack = y.toModel.unpack) : x = y := by
  obtain ⟨⟨bx, hx⟩⟩ := x
  obtain ⟨⟨by', hy⟩⟩ := y
  have hbits := (unpack_inj_of_valid hx hy).1 h
  simp only [Float.ofModel.injEq, Float.Model.mk.injEq]
  exact UInt64.toBitVec_inj.1 hbits

/-- Only doubles that are not NaN compare. -/
theorem isNaN_eq_false_of_le (h : x ≤ y) : x.isNaN = false ∧ y.isNaN = false := by
  rw [Float.le_iff_compare] at h
  have hsome : x.toModel.unpack.compare y.toModel.unpack ≠ none := fun hn => by simp [hn] at h
  rw [ne_eq, compare_eq_none_iff, not_or] at hsome
  simp only [Bool.eq_false_iff, ne_eq, isNaN_iff_unpack]
  exact hsome

theorem le_of_lt (h : x < y) : x ≤ y := by
  rw [Float.lt_iff_compare, beq_iff_eq] at h
  rw [Float.le_iff_compare, h]
  rfl

theorem le_trans (h₁ : x ≤ y) (h₂ : y ≤ z) : x ≤ z :=
  Float.le_iff_compare.2 (compare_le_trans (Float.le_iff_compare.1 h₁) (Float.le_iff_compare.1 h₂))

theorem le_refl (hx : x.isNaN = false) : x ≤ x := by
  rw [Bool.eq_false_iff, ne_eq, isNaN_iff_unpack] at hx
  rw [Float.le_iff_compare, compare_self hx]
  rfl

theorem lt_irrefl (x : Float) : ¬ x < x := fun h => by
  have hx := (isNaN_eq_false_of_le (le_of_lt h)).1
  rw [Bool.eq_false_iff, ne_eq, isNaN_iff_unpack] at hx
  rw [Float.lt_iff_compare, compare_self hx] at h
  exact absurd h (by decide)

theorem not_lt_iff_le (hx : x.isNaN = false) (hy : y.isNaN = false) : ¬ x < y ↔ y ≤ x := by
  rw [← Float.not_le_iff_lt hy hx, not_not]

theorem lt_of_le_of_lt (h₁ : x ≤ y) (h₂ : y < z) : x < z := by
  have hx := (isNaN_eq_false_of_le h₁).1
  have ⟨hy, hz⟩ := isNaN_eq_false_of_le (le_of_lt h₂)
  by_contra h
  have hzy : z ≤ y := le_trans ((not_lt_iff_le hx hz).1 h) h₁
  exact (Float.not_le_iff_lt hz hy).2 h₂ hzy

/-- Doubles at most each other are the same double, unless one of them is `-0.0`. -/
theorem eq_of_le_of_le (hx : x ≠ -0.0) (hy : y ≠ -0.0) (h₁ : x ≤ y) (h₂ : y ≤ x) : x = y := by
  rw [Float.le_iff_compare] at h₁ h₂
  rw [compare_swap] at h₂
  have heq : x.toModel.unpack.compare y.toModel.unpack = some .eq := by
    rcases h : x.toModel.unpack.compare y.toModel.unpack with _ | o
    · simp [h] at h₁
    · cases o <;> simp_all
  -- a zero that is not `-0.0` is `0.0`
  have positive {w : Float} (hw : w ≠ -0.0) {s : Sign} (hs : w.toModel.unpack = .zero s) :
      w.toModel.unpack = (0.0 : Float).toModel.unpack := by
    cases s
    · exact absurd (eq_of_unpack_eq (hs.trans rfl)) hw
    · exact hs
  rcases eq_of_compare_eq heq with h | ⟨s, t, hs, ht⟩
  · exact eq_of_unpack_eq h
  · exact eq_of_unpack_eq ((positive hx hs).trans (positive hy ht).symm)

end Float

/-! ## Observations -/

namespace Freshness

variable {f : Freshness} {t : Float} {ts us : List Float}

/-- Observes the times of a list, one after another. -/
def observeAll (f : Freshness) (ts : List Float) : Freshness :=
  ts.foldl (fun f t => (f.observe t).1) f

@[simp] theorem observeAll_nil (f : Freshness) : f.observeAll [] = f := rfl

@[simp] theorem observeAll_append (f : Freshness) (ts us : List Float) :
    f.observeAll (ts ++ us) = (f.observeAll ts).observeAll us := by
  simp [observeAll, List.foldl_append]

@[simp] theorem observeAll_cons (f : Freshness) (t : Float) (ts : List Float) :
    f.observeAll (t :: ts) = (f.observe t).1.observeAll ts := rfl

/-- A time moves the freshness exactly when it is finite and later. -/
theorem moves_eq (f : Freshness) (t : Float) :
    f.moves t = (t.isFinite && decide (f.latest < t)) := by
  rw [moves, Float.isFinite_eq_not_isNaN_and_not_isInf]

/-- An observation moves the freshness to a finite, later time and says so, or changes
    nothing and says so. -/
theorem observe_cases (f : Freshness) (t : Float) :
    (t.isFinite ∧ f.latest < t ∧ f.observe t = (⟨t⟩, true)) ∨
      (¬ (t.isFinite ∧ f.latest < t) ∧ f.observe t = (f, false)) := by
  by_cases h : t.isFinite ∧ f.latest < t
  · have hm : f.moves t = true := by simp [moves_eq, h.1, h.2]
    exact .inl ⟨h.1, h.2, by simp [observe, hm]⟩
  · have hm : f.moves t = false := by
      simpa [moves_eq, Bool.and_eq_true, decide_eq_true_eq] using h
    exact .inr ⟨h, by simp [observe, hm]⟩

/-! ## The finite maximum -/

/-- `m` is the largest of `0.0` and the finite times among `ts`, and is `0.0` rather than
    `-0.0` when it is zero. -/
structure IsFiniteMax (ts : List Float) (m : Float) : Prop where
  finite : m.isFinite
  ne_neg_zero : m ≠ -0.0
  zero_le : 0.0 ≤ m
  le : ∀ t ∈ ts, t.isFinite → t ≤ m
  mem : m = 0.0 ∨ m ∈ ts

theorem isFiniteMax_nil : IsFiniteMax [] 0.0 where
  finite := by decide +kernel
  ne_neg_zero := by decide +kernel
  zero_le := by decide +kernel
  le := fun _ h => absurd h List.not_mem_nil
  mem := .inl rfl

theorem IsFiniteMax.isNaN_eq_false {m : Float} (h : IsFiniteMax ts m) : m.isNaN = false :=
  Float.isNaN_eq_false_of_isFinite h.finite

/-- Observing a time keeps the freshness the finite maximum of the times observed. -/
theorem IsFiniteMax.observe (h : IsFiniteMax ts f.latest) (t : Float) :
    IsFiniteMax (ts ++ [t]) (f.observe t).1.latest := by
  rcases observe_cases f t with ⟨hfin, hlt, hobs⟩ | ⟨hnot, hobs⟩
  · -- moved: `t` is later than the freshness, itself at least `0.0` and every time before
    rw [hobs]
    have hzero : (0.0 : Float) < t := Float.lt_of_le_of_lt h.zero_le hlt
    refine ⟨hfin, ?_, Float.le_of_lt hzero, ?_, .inr (List.mem_append_right _ (List.mem_singleton_self t))⟩
    · rintro rfl
      exact absurd hzero (by decide +kernel)
    · intro u hu hufin
      rcases List.mem_append.1 hu with hu | hu
      · exact Float.le_of_lt (Float.lt_of_le_of_lt (h.le u hu hufin) hlt)
      · rw [List.mem_singleton.1 hu]
        exact Float.le_refl (Float.isNaN_eq_false_of_isFinite hfin)
  · -- not moved: a finite `t` is then at most the freshness
    rw [hobs]
    refine ⟨h.finite, h.ne_neg_zero, h.zero_le, ?_, h.mem.imp id (List.mem_append_left _)⟩
    intro u hu hufin
    rcases List.mem_append.1 hu with hu | hu
    · exact h.le u hu hufin
    · rw [List.mem_singleton.1 hu] at hufin ⊢
      exact (Float.not_lt_iff_le h.isNaN_eq_false (Float.isNaN_eq_false_of_isFinite hufin)).1
        fun hlt => hnot ⟨hufin, hlt⟩

/-- Observing more times keeps the freshness the finite maximum of all times observed. -/
theorem IsFiniteMax.observeAll (h : IsFiniteMax ts f.latest) (us : List Float) :
    IsFiniteMax (ts ++ us) (f.observeAll us).latest := by
  -- the freshness and the times observed so far both grow along the run
  induction us generalizing f ts with
  | nil => simpa using h
  | cons u us ih =>
    have := ih (h.observe u)
    rwa [List.append_assoc, List.singleton_append] at this

/-- After every run of observations, the freshness is the finite maximum of the times. -/
theorem observeAll_isFiniteMax (ts : List Float) : IsFiniteMax ts (initial.observeAll ts).latest :=
  isFiniteMax_nil.observeAll ts

example : (initial.observeAll [-0.0, 10.5, 3.0, 10.5, 0.0 / 0.0, 1.0 / 0.0, 11.0]).latest = 11.0 := by
  decide +kernel

/-- The finite maximum is one double. -/
theorem IsFiniteMax.unique {m m' : Float} (h : IsFiniteMax ts m) (h' : IsFiniteMax ts m') :
    m = m' := by
  have le_of {a b : Float} (ha : IsFiniteMax ts a) (hb : IsFiniteMax ts b) : a ≤ b := by
    rcases ha.mem with rfl | hmem
    · exact hb.zero_le
    · exact hb.le a hmem ha.finite
  exact Float.eq_of_le_of_le h.ne_neg_zero h'.ne_neg_zero (le_of h h') (le_of h' h)

theorem IsFiniteMax.of_perm {m : Float} (hp : ts.Perm us) (h : IsFiniteMax ts m) :
    IsFiniteMax us m where
  finite := h.finite
  ne_neg_zero := h.ne_neg_zero
  zero_le := h.zero_le
  le t ht := h.le t (hp.mem_iff.2 ht)
  mem := h.mem.imp id hp.mem_iff.1

/-- Every interleaving of the same observations ends at the same freshness. -/
theorem observeAll_perm (hp : ts.Perm us) :
    (initial.observeAll ts).latest = (initial.observeAll us).latest :=
  ((observeAll_isFiniteMax ts).of_perm hp).unique (observeAll_isFiniteMax us)

/-! ## One observation -/

/-- An observation reports a move exactly when it raised the freshness. -/
theorem observe_moved_iff (f : Freshness) (t : Float) :
    (f.observe t).2 = true ↔ f.latest < (f.observe t).1.latest := by
  rcases observe_cases f t with ⟨-, hlt, hobs⟩ | ⟨-, hobs⟩
  · simp [hobs, hlt]
  · simp [hobs, Float.lt_irrefl]

/-- An observation never lowers the freshness. -/
theorem latest_le_observe (hf : f.latest.isNaN = false) (t : Float) :
    f.latest ≤ (f.observe t).1.latest := by
  rcases observe_cases f t with ⟨-, hlt, hobs⟩ | ⟨-, hobs⟩
  · rw [hobs]
    exact Float.le_of_lt hlt
  · rw [hobs]
    exact Float.le_refl hf

/-- After every run of observations the freshness is the finite maximum of the times, and
    the next observation reports a move exactly when it raises the freshness, which it
    never lowers. -/
theorem observe_running_max (ts : List Float) (t : Float) :
    IsFiniteMax ts (initial.observeAll ts).latest ∧
      (((initial.observeAll ts).observe t).2 = true ↔
        (initial.observeAll ts).latest < ((initial.observeAll ts).observe t).1.latest) ∧
      (initial.observeAll ts).latest ≤ ((initial.observeAll ts).observe t).1.latest := by
  have h := observeAll_isFiniteMax ts
  exact ⟨h, observe_moved_iff _ t, latest_le_observe h.isNaN_eq_false t⟩

end Freshness

end FeatureFlags
