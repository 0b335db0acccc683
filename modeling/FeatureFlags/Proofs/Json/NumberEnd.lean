import Mathlib
import FeatureFlags.Proofs.Json.Reading
import FeatureFlags.Proofs.Json.Numbers

/-!
# Where a number ends

A number is read up to the first byte that cannot continue it, and no further. The reader of a
number looks at the byte after the number's text only to see that it is no digit, point or
exponent mark, and it does the same whether that byte is a comma, a closing bracket or brace,
or the end of the text. So a number read from a whole text is read the same in front of any of
these, and the reader stops just before it.

This is stated with `JsonReader.Ignores tail r`: wherever `r` succeeds, it has read only bytes
it had in front of it; and from the same place with `tail` after those bytes, it returns the
same value and leaves `tail` after what it left. It composes along `>>=`. The readers of a
number differ only at the end of the bytes, and there each of them either does the same with
`tail` in front or has already failed.

* `JsonReader.ignores_readNumber`: a number reads the same before the end of a value;
* `JsonReader.Ignores.takes`: a reader that reads a whole text and ignores what follows reads
  it in front of anything that may follow a value.
-/

namespace FeatureFlags

namespace Cursor

theorem rest_advance (c : Cursor) : c.advance.rest = c.rest.tail := by
  unfold advance
  split
  · rename_i h
    rw [h]
    rfl
  · rename_i b rest h
    rw [h]
    split <;> rfl

theorem depth_advance (c : Cursor) : c.advance.depth = c.depth := by
  unfold advance
  split
  · rfl
  · split <;> rfl

theorem rest_advanceBy (n : Nat) : ∀ c : Cursor, (c.advanceBy n).rest = c.rest.drop n := by
  induction n with
  | zero => exact fun _ => rfl
  | succ n ih =>
    intro c
    rw [advanceBy, ih, rest_advance, List.drop_tail, Nat.add_comm]

theorem depth_advanceBy (n : Nat) : ∀ c : Cursor, (c.advanceBy n).depth = c.depth := by
  induction n with
  | zero => exact fun _ => rfl
  | succ n ih =>
    intro c
    rw [advanceBy, ih, depth_advance]

theorem rest_advanceBy_ne_nil {c : Cursor} {n : Nat} (h : n < c.rest.length) :
    (c.advanceBy n).rest ≠ [] := by
  rw [rest_advanceBy]
  exact List.ne_nil_of_length_pos (by rw [List.length_drop]; omega)

end Cursor

namespace JsonReader

variable {α β : Type}

/-! ### What may follow a value -/

/-- Whether bytes may follow a value inside an array or object, or end the text: nothing, a
    comma, a closing bracket or a closing brace. -/
def AfterValue (tail : List UInt8) : Prop := ∀ b ∈ tail.head?, b = 44 ∨ b = 93 ∨ b = 125

theorem AfterValue.not_isDigit {tail : List UInt8} (h : AfterValue tail) :
    ∀ b ∈ tail.head?, isDigit b = false := by
  intro b hb
  rcases h b hb with rfl | rfl | rfl <;> rfl

theorem digitsWithin_append {tail : List UInt8} (h : ∀ b ∈ tail.head?, isDigit b = false)
    (limit : Nat) (bytes : List UInt8) (acc count : Nat) :
    digitsWithin limit (bytes ++ tail) acc count = digitsWithin limit bytes acc count := by
  induction bytes generalizing acc count with
  | nil =>
    cases tail with
    | nil => rfl
    | cons b t => simp [digitsWithin, h b rfl]
  | cons b bytes ih => simp only [List.cons_append, digitsWithin, ih]

theorem digitCount_append {tail : List UInt8} (h : ∀ b ∈ tail.head?, isDigit b = false)
    (bytes : List UInt8) (count : Nat) : digitCount (bytes ++ tail) count = digitCount bytes count := by
  induction bytes generalizing count with
  | nil =>
    cases tail with
    | nil => rfl
    | cons b t => simp [digitCount, h b rfl]
  | cons b bytes ih => simp only [List.cons_append, digitCount, ih]

/-- The digits taken are among the bytes; a digit left because it would not fit is one of them
    too. -/
theorem digitsWithin_count_le (limit : Nat) (bytes : List UInt8) (acc count : Nat) :
    (digitsWithin limit bytes acc count).2.1 ≤ count + bytes.length ∧
      ((digitsWithin limit bytes acc count).2.2 = true →
        (digitsWithin limit bytes acc count).2.1 < count + bytes.length) := by
  induction bytes generalizing acc count with
  | nil => simp [digitsWithin]
  | cons b bytes ih =>
    simp only [digitsWithin, List.length_cons]
    split_ifs
    · -- A digit that would not fit is left, and counted as there.
      exact ⟨by dsimp only; omega, fun _ => by dsimp only; omega⟩
    · obtain ⟨hle, hlt⟩ := ih (acc * 10 + digitValue b) (count + 1)
      exact ⟨by omega, fun h => by have := hlt h; omega⟩
    · exact ⟨by dsimp only; omega, fun h => nomatch h⟩

theorem digitsWithin_taken_le {limit acc a n : Nat} {o : Bool} {bytes : List UInt8}
    (h : digitsWithin limit bytes acc 0 = (a, n, o)) :
    n ≤ bytes.length ∧ (o = true → n < bytes.length) := by
  have hle := digitsWithin_count_le limit bytes acc 0
  rw [h, Nat.zero_add] at hle
  exact hle

theorem digitCount_le (bytes : List UInt8) (count : Nat) :
    digitCount bytes count ≤ count + bytes.length := by
  induction bytes generalizing count with
  | nil => simp [digitCount]
  | cons b bytes ih =>
    simp only [digitCount, List.length_cons]
    split_ifs
    · have := ih (count + 1)
      omega
    · omega

/-! ### Readers that ignore what follows -/

theorem eq_of_run_bind {x : JsonReader α} {f : α → JsonReader β} {c c' : Cursor} {v : β}
    (h : (x >>= f).run.run c = (.ok v, c')) :
    ∃ a c₁, x.run.run c = (.ok a, c₁) ∧ (f a).run.run c₁ = (.ok v, c') := by
  rw [run_bind] at h
  rcases hx : x.run.run c with ⟨_ | a, c₁⟩
  · rw [hx] at h
    cases h
  · rw [hx] at h
    exact ⟨a, c₁, rfl, h⟩

theorem run_pure (a : α) (c : Cursor) : (Pure.pure a : JsonReader α).run.run c = (.ok a, c) := rfl

theorem run_next_of_nil {c : Cursor} (h : c.rest = []) : next.run.run c = (.ok none, c) := by
  rw [run_next, h]
  simp [Cursor.advance, h]

theorem run_eat_of_nil {c : Cursor} (h : c.rest = []) : eat.run.run c = (.ok (), c) := by
  rw [run_eat]
  simp [Cursor.advance, h]

/-- `r` from `c`, and `r'` from any place with `tail` after the bytes of `c`, agree: wherever the
    first succeeds it has read only bytes in front of it, and the second gives the same value,
    leaves `tail` after what the first left, and stays as deep. -/
def Agrees (tail : List UInt8) (c : Cursor) (r r' : JsonReader α) : Prop :=
  ∀ v c', r.run.run c = (.ok v, c') → c'.rest <:+ c.rest ∧
    ∀ e : Cursor, e.rest = c.rest ++ tail →
      ∃ e', r'.run.run e = (.ok v, e') ∧ e'.rest = c'.rest ++ tail ∧ e'.depth = e.depth

/-- `r` reads the same with `tail` after the bytes it reads, from every place. -/
def Ignores (tail : List UInt8) (r : JsonReader α) : Prop := ∀ c, Agrees tail c r r

/-- Whether `r` fails from `c`. -/
def Fails (r : JsonReader α) (c : Cursor) : Prop := ∀ v c', r.run.run c ≠ (.ok v, c')

section Agrees

variable {tail : List UInt8} {c : Cursor}

theorem Agrees.of_fails {r r' : JsonReader α} (h : Fails r c) : Agrees tail c r r' :=
  fun v c' hrun => absurd hrun (h v c')

theorem Agrees.bind {x x' : JsonReader α} {f f' : α → JsonReader β} (hx : Agrees tail c x x')
    (hf : ∀ a c₁, x.run.run c = (.ok a, c₁) → Agrees tail c₁ (f a) (f' a)) :
    Agrees tail c (x >>= f) (x' >>= f') := by
  intro v c' hrun
  obtain ⟨a, c₁, hrun₁, hrun₂⟩ := eq_of_run_bind hrun
  obtain ⟨hsuffix₁, hx'⟩ := hx a c₁ hrun₁
  obtain ⟨hsuffix₂, hf'⟩ := hf a c₁ hrun₁ v c' hrun₂
  refine ⟨hsuffix₂.trans hsuffix₁, fun e he => ?_⟩
  obtain ⟨e₁, hrun₁', hrest₁, hdepth₁⟩ := hx' e he
  obtain ⟨e', hrun₂', hrest₂, hdepth₂⟩ := hf' e₁ hrest₁
  exact ⟨e', by rw [run_bind_of_ok hrun₁', hrun₂'], hrest₂, hdepth₂.trans hdepth₁⟩

theorem Agrees.pure (a : α) : Agrees tail c (Pure.pure a) (Pure.pure a) := by
  intro v c' hrun
  cases hrun
  exact ⟨List.suffix_refl _, fun e he => ⟨e, rfl, he, rfl⟩⟩

theorem Agrees.eat (h : c.rest ≠ []) : Agrees tail c JsonReader.eat JsonReader.eat := by
  intro v c' hrun
  cases hrun
  refine ⟨by rw [Cursor.rest_advance]; exact List.tail_suffix _, fun e he => ?_⟩
  refine ⟨e.advance, run_eat e, ?_, Cursor.depth_advance e⟩
  rw [Cursor.rest_advance, Cursor.rest_advance, he, List.tail_append_of_ne_nil h]

theorem Agrees.eatN {n : Nat} (h : n ≤ c.rest.length) :
    Agrees tail c (JsonReader.eatN n) (JsonReader.eatN n) := by
  intro v c' hrun
  cases hrun
  refine ⟨by rw [Cursor.rest_advanceBy]; exact List.drop_suffix _ _, fun e he => ?_⟩
  refine ⟨e.advanceBy n, run_eatN n e, ?_, Cursor.depth_advanceBy n e⟩
  rw [Cursor.rest_advanceBy, Cursor.rest_advanceBy, he, List.drop_append_of_le_length h]

/-- Taking `n` bytes that are there, and going on from after them. -/
theorem Agrees.eatN_bind {n : Nat} (h : n ≤ c.rest.length) {k k' : Unit → JsonReader β}
    (hk : Agrees tail (c.advanceBy n) (k ()) (k' ())) :
    Agrees tail c (JsonReader.eatN n >>= k) (JsonReader.eatN n >>= k') :=
  (Agrees.eatN h).bind fun _ c₁ hrun => by
    cases hrun
    exact hk

/-- Looking at the next byte: the two readers go on with what they see. -/
theorem Agrees.peek_bind {f f' : Option UInt8 → JsonReader β}
    (h : Agrees tail c (f c.rest.head?) (f' (c.rest ++ tail).head?)) :
    Agrees tail c (peek >>= f) (peek >>= f') := by
  intro v c' hrun
  rw [run_bind_of_ok (run_peek c)] at hrun
  obtain ⟨hsuffix, h'⟩ := h v c' hrun
  refine ⟨hsuffix, fun e he => ?_⟩
  rw [run_bind_of_ok (run_peek e), he]
  exact h' e he

/-- Looking at the cursor: the two readers go on with what they see. -/
theorem Agrees.get_bind {f f' : Cursor → JsonReader β}
    (h : ∀ e : Cursor, e.rest = c.rest ++ tail → Agrees tail c (f c) (f' e)) :
    Agrees tail c (get >>= f) (get >>= f') := by
  intro v c' hrun
  rw [run_bind_of_ok (run_get c)] at hrun
  have hsuffix := (h { c with rest := c.rest ++ tail } rfl v c' hrun).1
  refine ⟨hsuffix, fun e he => ?_⟩
  rw [run_bind_of_ok (run_get e)]
  exact (h e he v c' hrun).2 e he

theorem Agrees.next (h : c.rest ≠ []) : Agrees tail c JsonReader.next JsonReader.next := by
  obtain ⟨b, rest, hc⟩ := List.exists_cons_of_ne_nil h
  unfold JsonReader.next
  refine Agrees.peek_bind ?_
  rw [hc, List.cons_append, List.head?_cons, List.head?_cons]
  exact (Agrees.eat h).bind fun _ _ _ => Agrees.pure _

end Agrees

section Ignores

variable {tail : List UInt8}

theorem Ignores.pure (a : α) : Ignores tail (Pure.pure a : JsonReader α) :=
  fun _ => Agrees.pure a

theorem Ignores.bind {x : JsonReader α} {f : α → JsonReader β} (hx : Ignores tail x)
    (hf : ∀ a, Ignores tail (f a)) : Ignores tail (x >>= f) :=
  fun c => (hx c).bind fun a c₁ _ => hf a c₁

theorem fails_failHere (code : JsonErrorCode) (c : Cursor) : Fails (failHere code : JsonReader α) c :=
  fun _ _ h => nomatch h

theorem fails_failAhead (code : JsonErrorCode) (c : Cursor) :
    Fails (failAhead code : JsonReader α) c :=
  fun _ _ h => nomatch h

/-- Looking at the next byte, when the reader fails whatever it sees. -/
theorem fails_peek_bind {f : Option UInt8 → JsonReader β} (hf : ∀ o c, Fails (f o) c)
    (c : Cursor) : Fails (peek >>= f) c := by
  intro v c' hrun
  rw [run_bind_of_ok (run_peek c)] at hrun
  exact hf _ c v c' hrun

theorem Ignores.failHere (code : JsonErrorCode) : Ignores tail (failHere code : JsonReader α) :=
  fun c => Agrees.of_fails (fails_failHere code c)

theorem Ignores.failAhead (code : JsonErrorCode) : Ignores tail (failAhead code : JsonReader α) :=
  fun c => Agrees.of_fails (fails_failAhead code c)

/-- Looking at the next byte, when the reader goes on the same way at the end of the bytes as
    in front of `tail`. -/
theorem Ignores.peek_bind {f : Option UInt8 → JsonReader β}
    (hf : ∀ c : Cursor, Agrees tail c (f c.rest.head?) (f c.rest.head?))
    (hend : ∀ b ∈ tail.head?, f (some b) = f none) : Ignores tail (peek >>= f) := by
  intro c
  refine Agrees.peek_bind ?_
  cases hc : c.rest with
  | cons b rest => simpa [hc] using hf c
  | nil =>
    -- At the end the reader sees nothing, and in front of `tail` what starts it.
    have h := hf c
    rw [hc, List.head?_nil] at h
    rw [List.nil_append, List.head?_nil]
    cases ht : tail.head? with
    | none => exact h
    | some t =>
      rw [hend t ht]
      exact h

/-- Taking the next byte, when there being none fails. -/
theorem Ignores.next_bind {f : Option UInt8 → JsonReader β} (hf : ∀ b, Ignores tail (f (some b)))
    (hnone : ∀ c, Fails (f none) c) : Ignores tail (next >>= f) := by
  intro c
  cases hc : c.rest with
  | nil =>
    -- At the end nothing is taken, and what follows fails.
    refine Agrees.of_fails fun v c' hrun => ?_
    rw [run_bind_of_ok (run_next_of_nil hc)] at hrun
    exact hnone c v c' hrun
  | cons b rest =>
    have hne : c.rest ≠ [] := by simp [hc]
    refine (Agrees.next hne).bind fun o c₁ hrun => ?_
    rw [run_next, hc] at hrun
    cases hrun
    exact hf b _

/-- Taking one byte, when what follows fails at the end of the bytes. -/
theorem Ignores.eat_bind {k : Unit → JsonReader β} (hk : Ignores tail (k ()))
    (hend : ∀ c : Cursor, c.rest = [] → Fails (k ()) c) : Ignores tail (eat >>= k) := by
  intro c
  by_cases hc : c.rest = []
  · refine Agrees.of_fails fun v c' hrun => ?_
    rw [run_bind_of_ok (run_eat_of_nil hc)] at hrun
    exact hend c hc v c' hrun
  · exact (Agrees.eat hc).bind fun _ c₁ _ => hk c₁

/-- A run of digits, all dropped. -/
theorem Ignores.digitCount_bind (hT : ∀ b ∈ tail.head?, isDigit b = false) {k : JsonReader β}
    (hk : Ignores tail k) :
    Ignores tail (get >>= fun c => eatN (digitCount c.rest 0) >>= fun _ => k) := by
  intro c
  refine Agrees.get_bind fun e he => ?_
  rw [he, digitCount_append hT]
  have hle := digitCount_le c.rest 0
  exact Agrees.eatN_bind (by omega) (hk _)

end Ignores

/-! ### The readers of a number -/

theorem ignores_fromParts {tail : List UInt8} (positive : Bool) (significand : Nat)
    (exponent : Int) : Ignores tail (fromParts positive significand exponent) := by
  unfold fromParts
  split
  · exact Ignores.pure _
  · exact Ignores.failHere _

section Number

variable {tail : List UInt8} (hT : AfterValue tail)
include hT

theorem ignores_exponentOverflow (positive zeroSignificand positiveExp : Bool) :
    Ignores tail (exponentOverflow positive zeroSignificand positiveExp) := by
  unfold exponentOverflow
  split
  · exact Ignores.failHere _
  · exact Ignores.digitCount_bind hT.not_isDigit (Ignores.pure _)

theorem ignores_readExponent (positive : Bool) (significand : Nat) (start : Int) :
    Ignores tail (readExponent positive significand start) := by
  unfold readExponent
  refine Ignores.eat_bind (Ignores.peek_bind (fun c => ?_) ?_) ?_
  · extract_lets jp
    have hjp : ∀ pe, Ignores tail (jp pe) := by
      intro pe
      refine Ignores.next_bind (fun b => ?_) fun c => fails_failHere _ c
      split
      · contradiction
      rename_i b' hb
      cases hb
      split
      · exact Ignores.failHere _
      refine fun c => Agrees.get_bind fun e he => ?_
      rw [he, digitsWithin_append hT.not_isDigit]
      rcases hx : digitsWithin maxExponent c.rest (digitValue b) 0 with ⟨a, n, o⟩
      obtain ⟨hle, hlt⟩ := digitsWithin_taken_le hx
      refine Agrees.eatN_bind hle ?_
      cases o
      · exact ignores_fromParts _ _ _ _
      · exact (Agrees.eat (Cursor.rest_advanceBy_ne_nil (hlt rfl))).bind
          fun _ c₁ _ => ignores_exponentOverflow hT _ _ _ c₁
    -- A sign is taken when there is one; the digits follow either way.
    split
    · rename_i hsign
      have hne : c.rest ≠ [] := fun h => by simp [h] at hsign
      exact (Agrees.eat hne).bind fun _ c₁ _ => (Agrees.pure true).bind fun pe c₂ _ => hjp pe c₂
    · rename_i hsign
      have hne : c.rest ≠ [] := fun h => by simp [h] at hsign
      exact (Agrees.eat hne).bind fun _ c₁ _ => (Agrees.pure false).bind fun pe c₂ _ => hjp pe c₂
    · exact (Agrees.pure true).bind fun pe c₂ _ => hjp pe c₂
  · intro b hb
    rcases hT b hb with rfl | rfl | rfl <;> rfl
  · -- At the end there is no sign and no digit.
    intro c hc v c' hrun
    rw [run_bind_of_ok (run_peek c), hc, List.head?_nil] at hrun
    dsimp only at hrun
    rw [run_bind_of_ok (run_pure true c), run_bind_of_ok (run_next_of_nil hc)] at hrun
    exact fails_failHere _ c v c' hrun

theorem ignores_afterOverflow (positive : Bool) (significand : Nat) (exponent : Int) :
    Ignores tail (afterOverflow positive significand exponent) := by
  unfold afterOverflow
  refine Ignores.digitCount_bind hT.not_isDigit (Ignores.peek_bind (fun c => ?_) ?_)
  · split
    · exact ignores_readExponent hT _ _ _ c
    · exact ignores_readExponent hT _ _ _ c
    · exact ignores_fromParts _ _ _ c
  · intro b hb
    rcases hT b hb with rfl | rfl | rfl <;> rfl

theorem ignores_readFraction (positive : Bool) (significand : Nat) (before : Int) :
    Ignores tail (readFraction positive significand before) := by
  unfold readFraction
  refine Ignores.eat_bind (fun c => Agrees.get_bind fun e he => ?_) ?_
  · rw [he, digitsWithin_append hT.not_isDigit]
    rcases hx : digitsWithin maxSignificand c.rest significand 0 with ⟨a, n, o⟩
    obtain ⟨hle, -⟩ := digitsWithin_taken_le hx
    refine Agrees.eatN_bind hle ?_
    dsimp only
    split_ifs
    · exact ignores_afterOverflow hT _ _ _ _
    · -- A point needs at least one digit after it.
      exact Agrees.of_fails (fails_peek_bind (fun o c => by split <;> exact fails_failAhead _ c) _)
    · refine Ignores.peek_bind (fun c => ?_) (fun b hb => ?_) _
      · split
        · exact ignores_readExponent hT _ _ _ c
        · exact ignores_readExponent hT _ _ _ c
        · exact ignores_fromParts _ _ _ c
      · rcases hT b hb with rfl | rfl | rfl <;> rfl
  · -- At the end there is no digit after the point.
    intro c hc v c' hrun
    rw [run_bind_of_ok (run_get c), hc] at hrun
    have hnone : digitsWithin maxSignificand [] significand 0 = (significand, 0, false) := rfl
    rw [hnone] at hrun
    dsimp only at hrun
    rw [run_bind_of_ok (run_eatN 0 c)] at hrun
    exact fails_peek_bind (fun o c => by split <;> exact fails_failAhead _ c) _ v c' hrun

theorem ignores_readLongInteger (positive : Bool) (significand : Nat) :
    Ignores tail (readLongInteger positive significand) := by
  unfold readLongInteger
  refine fun c => Agrees.get_bind fun e he => ?_
  dsimp only
  rw [he, digitCount_append hT.not_isDigit]
  have hle := digitCount_le c.rest 0
  refine Agrees.eatN_bind (by omega) (Ignores.peek_bind (fun c => ?_) ?_ _)
  · split
    · exact ignores_readFraction hT _ _ _ c
    · exact ignores_readExponent hT _ _ _ c
    · exact ignores_readExponent hT _ _ _ c
    · exact ignores_fromParts _ _ _ c
  · intro b hb
    rcases hT b hb with rfl | rfl | rfl <;> rfl

theorem ignores_readAfterInteger (positive : Bool) (significand : Nat) :
    Ignores tail (readAfterInteger positive significand) := by
  unfold readAfterInteger
  refine Ignores.peek_bind (fun c => ?_) ?_
  · split
    · exact (ignores_readFraction hT _ _ _).bind (fun _ => Ignores.pure _) c
    · exact (ignores_readExponent hT _ _ _).bind (fun _ => Ignores.pure _) c
    · exact (ignores_readExponent hT _ _ _).bind (fun _ => Ignores.pure _) c
    · split_ifs <;> exact Ignores.pure _ c
  · intro b hb
    rcases hT b hb with rfl | rfl | rfl <;> rfl

/-- A number, after its sign, is read the same in front of anything that may follow a value. -/
theorem ignores_readNumber (positive : Bool) : Ignores tail (readNumber positive) := by
  unfold readNumber
  refine Ignores.next_bind (fun b => ?_) fun c => fails_failHere _ c
  split
  · contradiction
  · -- A leading zero: no digit may follow it.
    refine Ignores.peek_bind (fun c => ?_) ?_
    · split
      · split_ifs
        · exact Ignores.failAhead _ c
        · exact ignores_readAfterInteger hT _ _ c
      · exact ignores_readAfterInteger hT _ _ c
    · intro b hb
      rcases hT b hb with rfl | rfl | rfl <;> rfl
  · rename_i b' _ hb
    cases hb
    split_ifs
    · refine fun c => Agrees.get_bind fun e he => ?_
      rw [he, digitsWithin_append hT.not_isDigit]
      rcases hx : digitsWithin maxSignificand c.rest (digitValue b) 0 with ⟨a, n, o⟩
      obtain ⟨hle, -⟩ := digitsWithin_taken_le hx
      refine Agrees.eatN_bind hle ?_
      cases o
      · exact ignores_readAfterInteger hT _ _ _
      · exact (ignores_readLongInteger hT _ _).bind (fun _ => Ignores.pure _) _
    · exact Ignores.failHere _

end Number

/-! ### Bridging to a whole text -/

/-- A reader that takes its whole bytes, and reads the same in front of `tail`, reads them in
    front of `tail` from every place. -/
theorem Ignores.takes {tail : List UInt8} {r : JsonReader α} (h : Ignores tail r) {c c' : Cursor}
    {v : α} (hrun : r.run.run c = (.ok v, c')) (hend : c'.rest = []) (d : Nat) :
    Takes r c.rest v tail d := by
  intro e he _
  obtain ⟨e', hrun', hrest, hdepth⟩ := (h c v c' hrun).2 e he
  exact ⟨e', hrun', by rw [hrest, hend, List.nil_append], hdepth⟩

/-- A reader that succeeds after being placed succeeded before. -/
theorem ok_of_run_placed {r : JsonReader α} {c c' : Cursor} {a : α}
    (h : (placed r).run.run c = (.ok a, c')) : r.run.run c = (.ok a, c') := by
  rcases hr : r.run.run c with ⟨_ | b, c₁⟩
  · -- An error is placed and raised again.
    simp only [placed, ExceptT.run_tryCatch, StateT.run_bind, hr] at h
    rename_i e
    have hplace : ∀ c₂ : Cursor, ∃ e', (place e).run.run c₂ = (.ok e', c₂) := by
      intro c₂
      unfold place
      split
      · exact ⟨e, rfl⟩
      · exact ⟨_, rfl⟩
    obtain ⟨e', hp⟩ := hplace c₁
    have hthrow : (ExceptT.run (place e >>= fun e' => throw e' : JsonReader α)).run c₁ =
        (.error e', c₁) := by
      rw [run_bind_of_ok hp]
      rfl
    cases h.symm.trans hthrow
  · rw [run_placed_of_ok hr] at h
    exact h

/-- A whole text read by a shape: the value is read, and only blanks are left after it. -/
theorem run_of_parseBytes {shape : JsonShape} {bytes : List UInt8} {j : Json}
    (h : JsonShape.parseBytes shape bytes = .ok j) :
    ∃ c', (JsonShape.readBy (8 * bytes.length + 16) shape).run.run (Cursor.start bytes) =
      (.ok j, c') ∧ c'.skipBlanks.rest = [] := by
  unfold JsonShape.parseBytes at h
  have hpair : ∀ p : Except JsonError Json × Cursor, p.1 = .ok j → p = (.ok j, p.2) :=
    fun p hp => by rw [← hp]
  obtain ⟨v, c₁, hread, hrest⟩ := eq_of_run_bind (hpair _ h)
  rw [run_bind_of_ok (run_peekAfterBlanks c₁)] at hrest
  cases hhead : c₁.skipBlanks.rest.head? with
  | some b =>
    rw [hhead] at hrest
    exact absurd hrest (fails_failAhead _ _ _ _)
  | none =>
    rw [hhead, run_pure] at hrest
    obtain ⟨hv, -⟩ := Prod.mk.inj hrest
    cases hv
    exact ⟨c₁, hread, List.head?_eq_none_iff.1 hhead⟩

end JsonReader

/-! ### The text of a double -/

namespace Json

/-- Whether no character of a text is a blank. -/
def NoBlank (s : String) : Prop := ∀ c ∈ s.toList, c.isWhitespace = false

theorem noBlank_append {s t : String} (hs : NoBlank s) (ht : NoBlank t) : NoBlank (s ++ t) := by
  intro c hc
  rw [String.toList_append, List.mem_append] at hc
  exact hc.elim (hs c) (ht c)

theorem noBlank_ofList {cs : List Char} (h : ∀ c ∈ cs, c.isWhitespace = false) :
    NoBlank (String.ofList cs) := by
  intro c hc
  rw [String.toList_ofList] at hc
  exact h c hc

/-- A fixed text is checked character by character. -/
theorem noBlank_of_all {s : String} (h : s.toList.all (fun c => !c.isWhitespace) = true) :
    NoBlank s := by
  intro c hc
  simpa using List.all_eq_true.1 h c hc

theorem noBlank_toString (n : Nat) : NoBlank (toString n) := by
  intro c hc
  rw [Nat.toString_eq_repr, Nat.toList_repr] at hc
  have hd := Nat.isDigit_of_mem_toDigits (by decide) (by decide) hc
  simp only [Char.isDigit, Bool.and_eq_true, decide_eq_true_eq] at hd
  simp only [Char.isWhitespace, Bool.or_eq_false_iff, decide_eq_false_iff_not]
  -- A digit is none of the four blanks.
  refine ⟨⟨⟨?_, ?_⟩, ?_⟩, ?_⟩ <;> intro h <;> rw [h] at hd <;> exact absurd hd (by decide)

theorem noBlank_zeros (n : Nat) : NoBlank (FloatLayout.zeros n) :=
  noBlank_ofList fun c hc => by rw [List.eq_of_mem_replicate hc]; rfl

theorem noBlank_positional (layout : FloatLayout) (d : Decimal) : NoBlank (layout.positional d) := by
  have hdigits := noBlank_toString d.digits
  unfold FloatLayout.positional
  dsimp only
  split_ifs
  · exact noBlank_append (noBlank_append hdigits (noBlank_zeros _)) (noBlank_of_all (by decide))
  · exact noBlank_append (noBlank_append hdigits (noBlank_zeros _)) (noBlank_of_all (by decide))
  · refine noBlank_append (noBlank_append ?_ (noBlank_of_all (by decide))) ?_
    · exact noBlank_ofList fun c hc => hdigits c (List.mem_of_mem_take hc)
    · exact noBlank_ofList fun c hc => hdigits c (List.mem_of_mem_drop hc)
  · exact noBlank_append (noBlank_append (noBlank_of_all (by decide)) (noBlank_zeros _)) hdigits

theorem noBlank_scientific (layout : FloatLayout) (d : Decimal) : NoBlank (layout.scientific d) := by
  have hdigits := noBlank_toString d.digits
  unfold FloatLayout.scientific
  dsimp only
  refine noBlank_append (noBlank_append (noBlank_append ?_ (noBlank_of_all (by decide))) ?_)
    (noBlank_toString _)
  · -- The mantissa is the digits with a point after the first.
    split
    · rename_i first rest _ hsplit
      refine noBlank_ofList fun c hc => ?_
      rcases List.mem_cons.1 hc with rfl | hc
      · exact hdigits _ (by rw [hsplit]; exact List.mem_cons_self)
      rcases List.mem_cons.1 hc with rfl | hc
      · rfl
      · exact hdigits _ (by rw [hsplit]; exact List.mem_cons_of_mem _ hc)
    · exact hdigits
  · split_ifs
    · exact noBlank_of_all (by decide)
    · exact noBlank_of_all (by decide)
    · exact noBlank_of_all (by decide)

theorem noBlank_magnitude (layout : FloatLayout) (d : Decimal) : NoBlank (layout.magnitude d) := by
  unfold FloatLayout.magnitude
  dsimp only
  split_ifs
  · exact noBlank_of_all (by decide)
  · exact noBlank_of_all (by decide)
  · exact noBlank_positional layout d
  · exact noBlank_scientific layout d

theorem noBlank_render (layout : FloatLayout) (hnan : NoBlank layout.nanText)
    (hinf : NoBlank layout.infinityText) (x : Float) : NoBlank (layout.render x) := by
  unfold FloatLayout.render
  split
  · split_ifs
    · exact hnan
    · exact noBlank_append (noBlank_of_all (by decide)) hinf
    · exact hinf
  · refine noBlank_append ?_ (noBlank_magnitude _ _)
    split_ifs
    · exact noBlank_of_all (by decide)
    · exact noBlank_of_all (by decide)

/-- The text of a double holds no blank. -/
theorem noBlank_floatText (x : Float) : NoBlank (floatText x) := by
  unfold floatText
  split_ifs
  · exact noBlank_of_all (by decide)
  · exact noBlank_render _ (noBlank_of_all (by decide)) (noBlank_of_all (by decide)) x

/-- A text without blank characters is written without blank bytes. -/
theorem isBlank_of_mem_encode {s : String} (h : NoBlank s) {b : UInt8} (hb : b ∈ Utf8.encode s) :
    Cursor.isBlank b = false := by
  obtain ⟨c, hc, hbc⟩ := List.mem_flatMap.1 hb
  have hw := h c hc
  simp only [Cursor.isBlank, Bool.or_eq_false_iff, decide_eq_false_iff_not, ← UInt8.toNat_inj,
    UInt8.reduceToNat]
  by_cases hascii : c.toNat < 128
  · -- An ASCII character is its own byte, and none of the blanks.
    have hone : Utf8.encodeChar c = [c.toNat.toUInt8] := by simp [Utf8.encodeChar, hascii]
    rw [hone, List.mem_singleton] at hbc
    have hbyte : b.toNat = c.toNat := by rw [hbc]; exact Utf8.toNat_toUInt8_of_lt (by omega)
    simp only [Char.isWhitespace, Bool.or_eq_false_iff, decide_eq_false_iff_not] at hw
    obtain ⟨⟨⟨hspace, htab⟩, hcr⟩, hlf⟩ := hw
    rw [hbyte]
    exact ⟨⟨⟨fun h => hspace (Char.toNat_inj.1 h), fun h => htab (Char.toNat_inj.1 h)⟩,
      fun h => hlf (Char.toNat_inj.1 h)⟩, fun h => hcr (Char.toNat_inj.1 h)⟩
  · have := Utf8.le_toNat_of_mem_encodeChar (by omega) hbc
    omega

/-- A double whose text, read back as a double, is the double again. Printing a double
    promises this of every finite one; a NaN or an infinity is written `null`, which is no
    double. -/
def ReadsBack (x : Float) : Prop := JsonShape.parse .real (floatText x) = .ok (.number (.float x))

end Json

namespace Cursor

/-- Blanks skipped up to the end: every byte was a blank. By induction on the fuel, which
    is the number of bytes. -/
theorem isBlank_of_skipBlanks_go : ∀ (fuel : Nat) (c : Cursor), c.rest.length ≤ fuel →
    (skipBlanks.go fuel c).rest = [] → ∀ b ∈ c.rest, isBlank b = true
  | 0, c, hlen, _ => by
    rw [List.length_eq_zero_iff.1 (Nat.le_zero.1 hlen)]
    exact fun _ hb => absurd hb List.not_mem_nil
  | fuel + 1, c, hlen, h => by
    unfold skipBlanks.go at h
    cases hc : c.rest with
    | nil => exact fun _ hb => absurd hb List.not_mem_nil
    | cons b rest =>
      rw [hc] at h
      dsimp only at h
      split_ifs at h with hb
      · have hadv : c.advance.rest = rest := by rw [rest_advance, hc]; rfl
        have ih := isBlank_of_skipBlanks_go fuel c.advance
          (by rw [hadv]; rw [hc, List.length_cons] at hlen; omega) h
        rw [hadv] at ih
        intro b' hb'
        rcases List.mem_cons.1 hb' with rfl | hb'
        · exact hb
        · exact ih b' hb'
      · rw [hc] at h
        exact absurd h (List.cons_ne_nil _ _)

theorem isBlank_of_skipBlanks {c : Cursor} (h : c.skipBlanks.rest = []) :
    ∀ b ∈ c.rest, isBlank b = true :=
  isBlank_of_skipBlanks_go _ c (Nat.le_refl _) h

end Cursor

namespace JsonReader

/-- A number read from the bytes of a text without blanks, with only blanks left after it, took
    all of them: what it left is among the bytes. -/
theorem rest_nil_of_readNumber {bytes : List UInt8} (hbytes : ∀ b ∈ bytes, Cursor.isBlank b = false)
    {positive : Bool} {c c' : Cursor} {n : JsonNumber} (hsub : c.rest <:+ bytes)
    (hrun : (readNumber positive).run.run c = (.ok n, c')) (hskip : c'.skipBlanks.rest = []) :
    c'.rest = [] := by
  have hafter : AfterValue [] := fun _ hb => nomatch hb
  have hsuffix := (ignores_readNumber hafter positive c n c' hrun).1
  cases hc : c'.rest with
  | nil => rfl
  | cons b rest =>
    have hblank := Cursor.isBlank_of_skipBlanks hskip b (by rw [hc]; exact List.mem_cons_self)
    have hmem : b ∈ bytes := (hsuffix.trans hsub).subset (by rw [hc]; exact List.mem_cons_self)
    rw [hbytes b hmem] at hblank
    exact absurd hblank Bool.false_ne_true

/-- The text of a double that reads back is a number: a minus and the digits, or a digit first.
    The number reader reads it, after its sign, in front of anything that may follow a value. -/
theorem readNumber_of_readsBack {x : Float} (h : Json.ReadsBack x) :
    (∃ digits n, Utf8.encode (Json.floatText x) = 45 :: digits ∧ n.toFloat = x ∧
        ∀ tail d, AfterValue tail → Takes (readNumber false) digits n tail d) ∨
      (∃ b rest n, Utf8.encode (Json.floatText x) = b :: rest ∧ isDigit b = true ∧
        n.toFloat = x ∧ ∀ tail d, AfterValue tail → Takes (readNumber true) (b :: rest) n tail d) := by
  unfold Json.ReadsBack JsonShape.parse at h
  have hnb : ∀ b ∈ Utf8.encode (Json.floatText x), Cursor.isBlank b = false :=
    fun b hb => Json.isBlank_of_mem_encode (Json.noBlank_floatText x) hb
  obtain ⟨c', hrun, hskip⟩ := run_of_parseBytes h
  generalize Utf8.encode (Json.floatText x) = bytes at hrun hnb ⊢
  rw [JsonShape.readBy] at hrun
  replace hrun := ok_of_run_placed hrun
  obtain ⟨o, c₁, hpeek, hread⟩ := eq_of_run_bind hrun
  have hstart : (Cursor.start bytes).skipBlanks = Cursor.start bytes :=
    Cursor.skipBlanks_of_head fun b hb => hnb b (List.mem_of_mem_head? hb)
  rw [run_peekAfterBlanks, hstart] at hpeek
  cases hpeek
  cases bytes with
  | nil => exact absurd hread (fails_failAhead _ _ _ _)
  | cons b rest =>
    have hsub : ∀ c : Cursor, c.rest = rest → c.rest <:+ b :: rest :=
      fun c hc => hc ▸ List.suffix_cons b rest
    rw [show (Cursor.start (b :: rest)).rest.head? = some b from rfl] at hread
    dsimp only at hread
    split_ifs at hread with h45 hdigit
    · -- A minus, then the number.
      subst h45
      obtain ⟨_, c₂, heat, hnum⟩ := eq_of_run_bind hread
      rw [run_eat] at heat
      cases heat
      obtain ⟨n, c₃, hnumber, hpure⟩ := eq_of_run_bind hnum
      rw [run_pure] at hpure
      obtain ⟨hv, rfl⟩ := Prod.mk.inj hpure
      have hadv : (Cursor.start (45 :: rest)).advance.rest = rest := rfl
      have hend := rest_nil_of_readNumber hnb (hsub _ hadv) hnumber hskip
      refine .inl ⟨rest, n, rfl, by cases hv; rfl, fun tail d hT => ?_⟩
      rw [← hadv]
      exact (ignores_readNumber hT false).takes hnumber hend d
    · -- A digit starts the number.
      obtain ⟨n, c₃, hnumber, hpure⟩ := eq_of_run_bind hread
      rw [run_pure] at hpure
      obtain ⟨hv, rfl⟩ := Prod.mk.inj hpure
      have hend := rest_nil_of_readNumber hnb (List.suffix_refl _) hnumber hskip
      refine .inr ⟨b, rest, n, rfl, hdigit, by cases hv; rfl, fun tail d hT => ?_⟩
      exact (ignores_readNumber hT true).takes hnumber hend d
    · -- Anything else is refused.
      exact absurd (ok_of_triple (JsonShape.refuse_spec .real) _ _ (by rw [hread])) id

end JsonReader

end FeatureFlags
