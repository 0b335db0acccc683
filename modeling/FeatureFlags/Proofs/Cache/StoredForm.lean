import Mathlib
import FeatureFlags.Cache.Codec
import FeatureFlags.Proofs.Text.Utf8

/-!
# The stored form reads back

An entry written to bytes reads back from them, with the times of its records rounded down
to whole milliseconds, and writing fails, always with `TooLarge`, exactly when a length or
a count does not fit in 32 bits.

Reading is stated with `Codec.Reads d v bytes`: the reader `d` takes exactly `bytes` from
the front of its input, whatever follows, and gives `v`. It composes along `>>=`, so each
reader of the layout is proved from the readers of its fields, in the order of the layout.
Writing is stated with `Codec.WritesWhen fits x`: `x` writes some bytes when `fits` holds,
and fails with `TooLarge` otherwise; it composes along `>>=` as well, the conditions adding
up in the order of the layout.

A record reads back when it is as the types of its fields have it (`CacheRecord.WellFormed`):
a key text, a 16-bit status, times within the calendar range, and vary keys with names in
increasing order, as a map keeps them.

* `Codec.Reads.getRecord`: a well-formed record reads back from its bytes, rounded down;
* `Codec.writesWhen_encode`: an entry is written exactly when its lengths fit;
* `Codec.decode_encode`: the round trip, and the failure of writing.
-/

namespace FeatureFlags

/-! ### Times -/

namespace Instant

/-- An instant within the calendar range, from the first instant to the last. -/
def InRange (t : Instant) : Prop :=
  minMillis * 1000000 ≤ t.nanos ∧ t.nanos ≤ last.nanos

instance : DecidablePred InRange := fun t =>
  inferInstanceAs (Decidable (minMillis * 1000000 ≤ t.nanos ∧ t.nanos ≤ last.nanos))

/-- An instant rounded down to a whole millisecond. -/
def floorMillis (t : Instant) : Instant :=
  ⟨t.millis * 1000000⟩

theorem millis_mem_of_inRange {t : Instant} (h : t.InRange) :
    minMillis ≤ t.millis ∧ t.millis ≤ maxMillis := by
  simp only [InRange, last, minMillis, maxMillis] at h
  simp only [millis, minMillis, maxMillis]
  omega

/-- The milliseconds of an instant in range give back the instant, rounded down. -/
theorem ofMillis?_millis {t : Instant} (h : t.InRange) :
    ofMillis? t.millis = some t.floorMillis := by
  have hms := millis_mem_of_inRange h
  simp only [ofMillis?, hms.1, hms.2, decide_true, Bool.and_self, if_true, floorMillis]

theorem last_inRange : last.InRange := by
  simp only [InRange, last, minMillis, maxMillis]
  omega

/-- The last instant is written as its last whole millisecond. -/
theorem millis_last : last.millis = 8210266876799999 := by
  simp only [millis, last, maxMillis]
  omega

end Instant

/-! ### Vary keys in order -/

namespace VaryKeys

theorem insert_go_of_lt {name value : String} :
    ∀ {l : List (String × String)}, (∀ p ∈ l, p.1 < name) →
      insert.go name value l = l ++ [(name, value)]
  | [], _ => rfl
  | (k, v) :: rest, h => by
    have hk : k < name := h (k, v) List.mem_cons_self
    have hne : name ≠ k := fun he => String.lt_irrefl k (he ▸ hk)
    simp only [insert.go, if_neg (String.lt_asymm hk), if_neg hne]
    rw [insert_go_of_lt fun p hp => h p (List.mem_cons_of_mem _ hp), List.cons_append]

/-- Inserting a pair adds it, and keeps or replaces the others. -/
theorem mem_insert_go {name value : String} {p : String × String} :
    ∀ {l : List (String × String)}, p ∈ insert.go name value l → p = (name, value) ∨ p ∈ l
  | [], h => by simpa [insert.go] using h
  | (k, v) :: rest, h => by
    simp only [insert.go] at h
    split at h
    · simpa using h
    · split at h
      · -- The pair of the same name is replaced.
        rcases List.mem_cons.1 h with h | h
        · exact .inl h
        · exact .inr (List.mem_cons_of_mem _ h)
      · rcases List.mem_cons.1 h with h | h
        · exact .inr (h ▸ List.mem_cons_self ..)
        · rcases mem_insert_go h with h | h
          · exact .inl h
          · exact .inr (List.mem_cons_of_mem _ h)

/-- Pairs in increasing order of names, after names all smaller, are inserted one after the
    other at the end. -/
theorem foldl_insert_of_pairwise :
    ∀ {l : List (String × String)} {acc : VaryKeys}, l.Pairwise (fun a b => a.1 < b.1) →
      (∀ p ∈ acc.pairs, ∀ q ∈ l, p.1 < q.1) →
      l.foldl (fun vk (kv : String × String) => vk.insert kv.1 kv.2) acc = ⟨acc.pairs ++ l⟩
  | [], acc, _, _ => by simp
  | (k, v) :: rest, acc, hl, hacc => by
    rw [List.pairwise_cons] at hl
    have hins : acc.insert k v = ⟨acc.pairs ++ [(k, v)]⟩ := by
      simp only [insert]
      rw [insert_go_of_lt fun p hp => hacc p hp (k, v) List.mem_cons_self]
    rw [List.foldl_cons, hins, foldl_insert_of_pairwise hl.2]
    · simp
    · intro p hp q hq
      rcases List.mem_append.1 hp with hp | hp
      · exact hacc p hp q (List.mem_cons_of_mem _ hq)
      · rw [List.mem_singleton.1 hp]
        exact hl.1 q hq

/-- Vary keys read from pairs with names in increasing order, each once, are those pairs. -/
theorem ofList_of_pairwise {pairs : List (String × String)}
    (h : pairs.Pairwise fun a b => a.1 < b.1) : ofList pairs = ⟨pairs⟩ := by
  simp only [ofList]
  rw [foldl_insert_of_pairwise h (by simp)]
  rfl

end VaryKeys

/-! ### Records and entries -/

namespace CacheRecord

/-- The record with its three times rounded down to whole milliseconds. -/
def floorMillis (r : CacheRecord) : CacheRecord :=
  { r with
    requestTime := r.requestTime.floorMillis
    responseTime := r.responseTime.floorMillis
    expiresAt := r.expiresAt.floorMillis }

/-- A record as the types of its fields have it: a key of 32 lowercase hexadecimal digits, a
    16-bit status, times within the calendar range, and vary keys with names in increasing
    order, each once. -/
structure WellFormed (r : CacheRecord) : Prop where
  key : CacheKey.isKeyText r.key.text = true
  status : r.status < 2 ^ 16
  requestTime : r.requestTime.InRange
  responseTime : r.responseTime.InRange
  expiresAt : r.expiresAt.InRange
  vary : r.vary.pairs.Pairwise fun a b => a.1 < b.1

end CacheRecord

namespace Codec

/-- A text of fewer than 2^32 UTF-8 bytes. -/
def TextFits (s : String) : Prop :=
  Utf8.byteLength s < 2 ^ 32

/-- Fewer than 2^32 pairs, each name and value a text that fits. -/
def PairsFit (ps : List (String × String)) : Prop :=
  ps.length < 2 ^ 32 ∧ ∀ p ∈ ps, TextFits p.1 ∧ TextFits p.2

end Codec

/-- Every length and count of a record is below 2^32. -/
structure CacheRecord.LengthsFit (r : CacheRecord) : Prop where
  key : Codec.TextFits r.key.text
  url : Codec.TextFits r.url
  headers : Codec.PairsFit r.headers
  vary : Codec.PairsFit r.vary.pairs
  body : r.body.length < 2 ^ 32

/-- Every length and count of an entry is below 2^32. -/
def CacheEntry.LengthsFit (e : CacheEntry) : Prop :=
  e.records.length < 2 ^ 32 ∧ ∀ r ∈ e.records, r.LengthsFit

theorem Except.bind_eq_ok {ε α β : Type} {x : Except ε α} {f : α → Except ε β} {b : β} :
    (x >>= f) = .ok b ↔ ∃ a, x = .ok a ∧ f a = .ok b := by
  cases x <;> simp [bind, Except.bind]

namespace Codec

/-! ### Big-endian numbers -/

@[simp] theorem length_bigEndian (n : Nat) : ∀ w, (bigEndian n w).length = w
  | 0 => rfl
  | w + 1 => by simp [bigEndian, length_bigEndian]

theorem ofBigEndian_append_singleton (l : List UInt8) (b : UInt8) :
    ofBigEndian (l ++ [b]) = ofBigEndian l * 256 + b.toNat := by
  simp [ofBigEndian, List.foldl_append]

/-- Big-endian bytes give back the number, modulo their range. -/
theorem ofBigEndian_bigEndian (n : Nat) : ∀ w, ofBigEndian (bigEndian n w) = n % 256 ^ w
  | 0 => by simp [bigEndian, ofBigEndian, Nat.mod_one]
  | w + 1 => by
    have hb : ((n % 256).toUInt8).toNat = n % 256 :=
      UInt8.toNat_ofNat_of_lt' (Nat.mod_lt _ (by omega))
    rw [bigEndian, ofBigEndian_append_singleton, ofBigEndian_bigEndian, hb, Nat.pow_succ',
      Nat.mod_mul, Nat.mul_comm, Nat.add_comm]

/-! ### Reading -/

/-- `d` reads `v` from the front of `bytes`, whatever bytes follow them, and leaves those. -/
def Reads {α : Type} (d : Decoder α) (v : α) (bytes : List UInt8) : Prop :=
  ∀ rest, d.run ⟨bytes ++ rest, (bytes ++ rest).length⟩ = .ok (v, ⟨rest, rest.length⟩)

section Reads

variable {α β : Type}

theorem Reads.pure (v : α) : Reads (Pure.pure v) v [] := fun _ => rfl

/-- Reading one value and then another reads them from consecutive bytes. -/
theorem Reads.bind {d : Decoder α} {f : α → Decoder β} {a : α} {b : β}
    {bytes₁ bytes₂ : List UInt8} (hd : Reads d a bytes₁) (hf : Reads (f a) b bytes₂) :
    Reads (d >>= f) b (bytes₁ ++ bytes₂) := by
  intro rest
  rw [StateT.run_bind, List.append_assoc, hd (bytes₂ ++ rest)]
  exact hf rest

theorem Reads.bind_of_eq {d : Decoder α} {f : α → Decoder β} {a : α} {b : β}
    {bytes : List UInt8} (hd : Reads d a bytes) (hf : f a = Pure.pure b) :
    Reads (d >>= f) b bytes := by
  have h := hd.bind (hf ▸ Reads.pure b)
  rwa [List.append_nil] at h

/-- What follows a reader runs on the bytes it leaves. -/
theorem Reads.run_bind {d : Decoder α} {f : α → Decoder β} {a : α} {bytes : List UInt8}
    (hd : Reads d a bytes) (rest : List UInt8) :
    (d >>= f).run ⟨bytes ++ rest, (bytes ++ rest).length⟩ = (f a).run ⟨rest, rest.length⟩ := by
  rw [StateT.run_bind, hd rest]
  rfl

end Reads

theorem Reads.take (bytes : List UInt8) : Reads (Codec.take bytes.length) bytes bytes := by
  intro rest
  simp only [Codec.take, StateT.run_bind, StateT.run_get, pure_bind, List.length_append]
  rw [if_neg (by omega)]
  simp only [StateT.run_bind, StateT.run_set, StateT.run_pure, pure_bind, List.drop_left,
    List.take_left, Nat.add_sub_cancel_left]
  rfl

theorem Reads.getUnsigned {n w : Nat} (h : n < 256 ^ w) :
    Reads (Codec.getUnsigned w) n (bigEndian n w) := by
  have ht := Reads.take (bigEndian n w)
  rw [length_bigEndian] at ht
  exact ht.bind_of_eq (by simp only [ofBigEndian_bigEndian, Nat.mod_eq_of_lt h])

/-- A signed 64-bit number reads back through two's complement. -/
theorem Reads.getI64 {m : Int} (h₁ : -2 ^ 63 ≤ m) (h₂ : m < 2 ^ 63) :
    Reads Codec.getI64 m (putI64 m) := by
  have hn : (m % (Nat.pow 2 64 : Int)).toNat < 256 ^ 8 := by
    simp only [Nat.pow_eq]
    omega
  refine (Reads.getUnsigned hn).bind_of_eq ?_
  simp only [Nat.pow_eq]
  congr 1
  -- A negative number is written as itself plus 2^64, at or above 2^63.
  split_ifs <;> omega

/-- A time in range reads back rounded down to a whole millisecond. -/
theorem Reads.getTime {t : Instant} (h : t.InRange) :
    Reads Codec.getTime t.floorMillis (putI64 t.millis) := by
  have hms := Instant.millis_mem_of_inRange h
  have hi : Reads Codec.getI64 t.millis (putI64 t.millis) := by
    refine Reads.getI64 ?_ ?_
    · simp only [Instant.minMillis] at hms
      omega
    · simp only [Instant.maxMillis] at hms
      omega
  exact hi.bind_of_eq (by simp only [Instant.ofMillis?_millis h])

theorem putLen_eq_ok {n : Nat} {bytes : List UInt8} (h : putLen n = .ok bytes) :
    n < 2 ^ 32 ∧ bytes = putU32 n := by
  unfold putLen at h
  split at h
  · cases h
    exact ⟨by simpa using ‹n < Nat.pow 2 32›, rfl⟩
  · cases h

/-- A text reads back from the bytes it is written as. -/
theorem Reads.getStr {s : String} {bytes : List UInt8} (h : putStr s = .ok bytes) :
    Reads Codec.getStr s bytes := by
  simp only [putStr] at h
  obtain ⟨len, hlen, hb⟩ := Except.bind_eq_ok.1 h
  obtain ⟨hlt, rfl⟩ := putLen_eq_ok hlen
  cases hb
  have hn : (Utf8.encode s).length < 256 ^ 4 := by omega
  exact (Reads.getUnsigned hn).bind
    ((Reads.take _).bind_of_eq (by simp only [Utf8.validate_encode]))

/-- Pairs read back from the bytes their names and values are written as; the induction is
    on the pairs, each read after those before it. -/
theorem Reads.getPairsFrom : ∀ (ps acc : List (String × String)) {bytes : List UInt8},
    putPairItems ps = .ok bytes →
      Reads (Codec.getPairsFrom ps.length acc) (acc.reverse ++ ps) bytes
  | [], acc, bytes, h => by
    cases h
    rw [List.append_nil]
    exact Reads.pure acc.reverse
  | (k, v) :: ps, acc, bytes, h => by
    obtain ⟨kb, hk, h⟩ := Except.bind_eq_ok.1 h
    obtain ⟨vb, hv, h⟩ := Except.bind_eq_ok.1 h
    obtain ⟨rb, hr, h⟩ := Except.bind_eq_ok.1 h
    cases h
    have hrest := Reads.getPairsFrom ps ((k, v) :: acc) hr
    rw [List.reverse_cons, List.append_assoc, List.singleton_append] at hrest
    rw [List.append_assoc]
    exact (Reads.getStr hk).bind ((Reads.getStr hv).bind hrest)

theorem Reads.getPairs {ps : List (String × String)} {bytes : List UInt8}
    (h : putPairs ps = .ok bytes) : Reads Codec.getPairs ps bytes := by
  obtain ⟨cb, hc, h⟩ := Except.bind_eq_ok.1 h
  obtain ⟨ib, hi, h⟩ := Except.bind_eq_ok.1 h
  cases h
  obtain ⟨hlt, rfl⟩ := putLen_eq_ok hc
  have hn : ps.length < 256 ^ 4 := by omega
  exact (Reads.getUnsigned hn).bind (Reads.getPairsFrom ps [] hi)

/-- A well-formed record reads back from the bytes it is written as, with its times
    rounded down to whole milliseconds. -/
theorem Reads.getRecord {r : CacheRecord} {bytes : List UInt8} (hwf : r.WellFormed)
    (h : putRecord r = .ok bytes) : Reads Codec.getRecord r.floorMillis bytes := by
  obtain ⟨kb, hk, h⟩ := Except.bind_eq_ok.1 h
  obtain ⟨ub, hu, h⟩ := Except.bind_eq_ok.1 h
  obtain ⟨hb, hh, h⟩ := Except.bind_eq_ok.1 h
  obtain ⟨vb, hv, h⟩ := Except.bind_eq_ok.1 h
  obtain ⟨lb, hl, h⟩ := Except.bind_eq_ok.1 h
  cases h
  obtain ⟨hlt, rfl⟩ := putLen_eq_ok hl
  have hstatus : r.status < 256 ^ 2 := by have := hwf.status; omega
  have hbody : r.body.length < 256 ^ 4 := by omega
  have hkey : CacheKey.ofHex? r.key.text = some r.key := by
    simp only [CacheKey.ofHex?, hwf.key, if_true]
  simp only [List.append_assoc]
  -- The fields in the order of the layout; the key text is checked and gives the key back.
  refine (Reads.getStr hk).bind ?_
  simp only [hkey, pure_bind]
  refine (Reads.getStr hu).bind ((Reads.getUnsigned hstatus).bind ((Reads.getPairs hh).bind ?_))
  refine (Reads.getTime hwf.requestTime).bind ((Reads.getTime hwf.responseTime).bind
    ((Reads.getTime hwf.expiresAt).bind ?_))
  refine (Reads.getPairs hv).bind ((Reads.getUnsigned hbody).bind ((Reads.take _).bind_of_eq ?_))
  simp only [VaryKeys.ofList_of_pairwise hwf.vary]
  rfl

/-- Well-formed records read back, one after the other, from the bytes they are written as. -/
theorem Reads.getRecordsFrom : ∀ (rs acc : List CacheRecord) {bytes : List UInt8},
    (∀ r ∈ rs, r.WellFormed) → putRecords rs = .ok bytes →
      Reads (Codec.getRecordsFrom rs.length acc) (acc.reverse ++ rs.map CacheRecord.floorMillis)
        bytes
  | [], acc, bytes, _, h => by
    cases h
    rw [List.map_nil, List.append_nil]
    exact Reads.pure acc.reverse
  | r :: rs, acc, bytes, hwf, h => by
    obtain ⟨rb, hr, h⟩ := Except.bind_eq_ok.1 h
    obtain ⟨sb, hs, h⟩ := Except.bind_eq_ok.1 h
    cases h
    have hrest := Reads.getRecordsFrom rs (r.floorMillis :: acc)
      (fun r' hr' => hwf r' (List.mem_cons_of_mem _ hr')) hs
    rw [List.reverse_cons, List.append_assoc, List.singleton_append] at hrest
    exact (Reads.getRecord (hwf r List.mem_cons_self) hr).bind hrest

/-- An entry of well-formed records reads back from the bytes it is written as, with the
    times of its records rounded down to whole milliseconds. -/
theorem decode_of_encode {e : CacheEntry} {bytes : List UInt8}
    (hwf : ∀ r ∈ e.records, r.WellFormed) (h : encode e = .ok bytes) :
    decode bytes = .ok ⟨e.records.map CacheRecord.floorMillis⟩ := by
  obtain ⟨cb, hc, h⟩ := Except.bind_eq_ok.1 h
  obtain ⟨rb, hr, h⟩ := Except.bind_eq_ok.1 h
  cases h
  obtain ⟨hlt, rfl⟩ := putLen_eq_ok hc
  have hmagic : Reads (Codec.take 4) magic magic := Reads.take magic
  have hversion : Reads (Codec.getUnsigned 1) 1 [1] := Reads.getUnsigned (by decide)
  have hcount : Reads (Codec.getUnsigned 4) e.records.length (putU32 e.records.length) :=
    Reads.getUnsigned (by omega)
  have hrecords := Reads.getRecordsFrom e.records [] hwf hr
  rw [List.reverse_nil, List.nil_append] at hrecords
  unfold decode
  simp only [List.append_assoc]
  -- The magic bytes and the version pass their checks; the records leave no byte over.
  rw [← List.append_nil rb, hmagic.run_bind]
  simp only [ne_eq, not_true_eq_false, if_false]
  rw [hversion.run_bind]
  simp only [not_true_eq_false, if_false]
  rw [hcount.run_bind, hrecords.run_bind]
  simp only [StateT.run_bind, StateT.run_get, pure_bind, List.length_nil, gt_iff_lt, Nat.lt_irrefl,
    if_false, StateT.run_pure]
  rfl

/-! ### Writing -/

/-- A writer's outcome: it writes some bytes when `fits` holds, and fails with `TooLarge`
    otherwise. -/
structure WritesWhen {α : Type} (fits : Prop) (x : Except CacheError α) : Prop where
  ok : fits → ∃ bytes, x = .ok bytes
  tooLarge : ¬fits → ∃ m, x = .error (.tooLarge m)

section WritesWhen

variable {α β : Type} {p q : Prop}

theorem WritesWhen.pure (a : α) : WritesWhen True (Pure.pure a : Except CacheError α) :=
  ⟨fun _ => ⟨a, rfl⟩, fun h => absurd trivial h⟩

/-- Writing one part and then another writes when both fit, and fails with `TooLarge` at
    the first that does not. -/
theorem WritesWhen.bind {x : Except CacheError α} {f : α → Except CacheError β}
    (hx : WritesWhen p x) (hf : ∀ a, WritesWhen q (f a)) : WritesWhen (p ∧ q) (x >>= f) where
  ok := fun ⟨hp, hq⟩ => by
    obtain ⟨a, ha⟩ := hx.ok hp
    obtain ⟨b, hb⟩ := (hf a).ok hq
    exact ⟨b, by rw [ha]; exact hb⟩
  tooLarge := fun h => by
    by_cases hp : p
    · obtain ⟨a, ha⟩ := hx.ok hp
      obtain ⟨m, hm⟩ := (hf a).tooLarge fun hq => h ⟨hp, hq⟩
      exact ⟨m, by rw [ha]; exact hm⟩
    · obtain ⟨m, hm⟩ := hx.tooLarge hp
      exact ⟨m, by rw [hm]; rfl⟩

theorem WritesWhen.of_iff {x : Except CacheError α} (hx : WritesWhen p x) (h : p ↔ q) :
    WritesWhen q x :=
  ⟨fun hq => hx.ok (h.2 hq), fun hq => hx.tooLarge fun hp => hq (h.1 hp)⟩

end WritesWhen

theorem writesWhen_putLen (n : Nat) : WritesWhen (n < 2 ^ 32) (putLen n) := by
  unfold putLen
  split
  · exact ⟨fun _ => ⟨_, rfl⟩, fun h => absurd (by simpa using ‹n < Nat.pow 2 32›) h⟩
  · exact ⟨fun h => absurd (by simpa using h) ‹¬n < Nat.pow 2 32›, fun _ => ⟨_, rfl⟩⟩

theorem writesWhen_putStr (s : String) : WritesWhen (TextFits s) (putStr s) :=
  ((writesWhen_putLen _).bind fun _ => WritesWhen.pure _).of_iff (iff_of_eq (and_true _))

theorem writesWhen_putPairItems :
    ∀ ps : List (String × String),
      WritesWhen (∀ p ∈ ps, TextFits p.1 ∧ TextFits p.2) (putPairItems ps)
  | [] => (WritesWhen.pure []).of_iff (by simp)
  | (k, v) :: ps =>
    ((writesWhen_putStr k).bind fun _ => (writesWhen_putStr v).bind fun _ =>
      (writesWhen_putPairItems ps).bind fun _ => WritesWhen.pure _).of_iff
      (by simp only [List.forall_mem_cons, and_true, and_assoc])

theorem writesWhen_putPairs (ps : List (String × String)) :
    WritesWhen (PairsFit ps) (putPairs ps) :=
  ((writesWhen_putLen _).bind fun _ => (writesWhen_putPairItems ps).bind fun _ =>
    WritesWhen.pure _).of_iff (by simp only [PairsFit, and_true])

/-- A record is written exactly when its lengths fit. -/
theorem writesWhen_putRecord (r : CacheRecord) : WritesWhen r.LengthsFit (putRecord r) :=
  ((writesWhen_putStr _).bind fun _ => (writesWhen_putStr _).bind fun _ =>
    (writesWhen_putPairs _).bind fun _ => (writesWhen_putPairs _).bind fun _ =>
    (writesWhen_putLen _).bind fun _ => WritesWhen.pure _).of_iff
    ⟨fun ⟨hk, hu, hh, hv, hb, _⟩ => ⟨hk, hu, hh, hv, hb⟩,
      fun ⟨hk, hu, hh, hv, hb⟩ => ⟨hk, hu, hh, hv, hb, trivial⟩⟩

theorem writesWhen_putRecords :
    ∀ rs : List CacheRecord, WritesWhen (∀ r ∈ rs, r.LengthsFit) (putRecords rs)
  | [] => (WritesWhen.pure []).of_iff (by simp)
  | r :: rs =>
    ((writesWhen_putRecord r).bind fun _ => (writesWhen_putRecords rs).bind fun _ =>
      WritesWhen.pure _).of_iff (by simp only [List.forall_mem_cons, and_true])

/-- An entry is written exactly when its lengths fit, and otherwise writing fails with
    `TooLarge`. -/
theorem writesWhen_encode (e : CacheEntry) : WritesWhen e.LengthsFit (encode e) :=
  ((writesWhen_putLen _).bind fun _ => (writesWhen_putRecords _).bind fun _ =>
    WritesWhen.pure _).of_iff (by simp only [CacheEntry.LengthsFit, and_true])

/-! ### The round trip -/

/-- An entry of well-formed records whose lengths fit is written, and reads back with the
    times of its records rounded down to whole milliseconds; writing fails with `TooLarge`
    exactly when a length or a count is at least 2^32. -/
theorem decode_encode (e : CacheEntry) (hwf : ∀ r ∈ e.records, r.WellFormed) :
    (e.LengthsFit → ∃ bytes, encode e = .ok bytes ∧
      decode bytes = .ok ⟨e.records.map CacheRecord.floorMillis⟩) ∧
    ((∃ m, encode e = .error (.tooLarge m)) ↔ ¬e.LengthsFit) := by
  have hw := writesWhen_encode e
  refine ⟨fun hfit => ?_, ⟨fun ⟨m, hm⟩ hfit => ?_, hw.tooLarge⟩⟩
  · obtain ⟨bytes, hb⟩ := hw.ok hfit
    exact ⟨bytes, hb, decode_of_encode hwf hb⟩
  · -- An entry that fits is written, so writing it does not fail.
    obtain ⟨bytes, hb⟩ := hw.ok hfit
    rw [hm] at hb
    cases hb

/-- A record answered with a vary key, expiring at the last instant. -/
def lastingRecord : CacheRecord where
  key := ⟨"d41d8cd98f00b204e9800998ecf8427e"⟩
  url := "http://mock/api/v1/flags/"
  status := 200
  headers := [("content-type", "application/json"), ("etag", "\"v1\"")]
  body := [91, 93]
  requestTime := ⟨1700000000000123456⟩
  responseTime := ⟨1700000000250999999⟩
  expiresAt := Instant.last
  vary := ⟨[("accept", "application/json")]⟩

theorem wellFormed_lastingRecord : lastingRecord.WellFormed where
  key := by decide
  status := by decide
  requestTime := by decide
  responseTime := by decide
  expiresAt := Instant.last_inRange
  vary := List.pairwise_singleton _ _

/-- The round trip of an entry holding `lastingRecord`, whose expiry, the last instant, is
    written as its last whole millisecond. -/
theorem decode_encode_lastingRecord :
    (∀ r ∈ [lastingRecord], r.WellFormed) ∧
      ((CacheEntry.LengthsFit ⟨[lastingRecord]⟩ → ∃ bytes, encode ⟨[lastingRecord]⟩ = .ok bytes ∧
        decode bytes = .ok ⟨[lastingRecord].map CacheRecord.floorMillis⟩) ∧
      ((∃ m, encode ⟨[lastingRecord]⟩ = .error (.tooLarge m)) ↔
        ¬CacheEntry.LengthsFit ⟨[lastingRecord]⟩)) :=
  have hwf : ∀ r ∈ [lastingRecord], r.WellFormed := by
    simp only [List.mem_singleton, forall_eq]
    exact wellFormed_lastingRecord
  ⟨hwf, decode_encode ⟨[lastingRecord]⟩ hwf⟩

end Codec

end FeatureFlags
