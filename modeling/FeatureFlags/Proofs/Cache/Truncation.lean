import Mathlib
import FeatureFlags.Proofs.Cache.StoredForm

/-!
# The stored form delimits itself

Every field of the stored form carries its length, or has a fixed width, and the reader
takes the record count from the front and refuses bytes left over. So the bytes an entry
is written as are read exactly: a cut anywhere in them, inside a count, a length, a time or
a body, makes reading fail, and so does any byte added after them; reading fails only with
`Corrupt`. This holds of every entry that can be written, whatever its fields hold: where
the reader refuses a field (a key text that is not a key, a time out of range), it refuses
it the same way on every cut past that field.

It is stated with `Codec.Frames d bytes o`: run on `bytes` followed by anything, `d` ends as
`o`, a value that leaves exactly what follows or a `Corrupt` error, and run on a proper
prefix of `bytes` alone, it fails with `Corrupt`. Like `Codec.Reads`, it composes along
`>>=`, field by field in the order of the layout.

* `Codec.frames_getRecord`: a record is framed by the bytes it is written as;
* `Codec.decode_rejects_cut_and_extension`: reading fails, with `Corrupt`, on every proper
  prefix of the bytes an entry is written as, and on those bytes followed by any more.
-/

namespace FeatureFlags

namespace Codec

/-- A prefix of `c₁ ++ c₂` is a proper prefix of `c₁`, or `c₁` followed by a prefix of `c₂`. -/
theorem prefix_append_cases {p c₁ c₂ : List UInt8} (h : p <+: c₁ ++ c₂) :
    (p <+: c₁ ∧ p.length < c₁.length) ∨ ∃ q, p = c₁ ++ q ∧ q <+: c₂ := by
  rcases List.prefix_or_prefix_of_prefix h (List.prefix_append c₁ c₂) with hp | hc
  · rcases Nat.lt_or_ge p.length c₁.length with hlt | hge
    · exact .inl ⟨hp, hlt⟩
    · refine .inr ⟨[], ?_, List.nil_prefix⟩
      rw [List.append_nil]
      exact hp.eq_of_length (Nat.le_antisymm hp.length_le hge)
  · obtain ⟨q, rfl⟩ := hc
    exact .inr ⟨q, rfl, (List.prefix_append_right_inj c₁).1 h⟩

/-- `d` fails with `Corrupt` on every proper prefix of `bytes`, run alone. -/
def Cuts {α : Type} (d : Decoder α) (bytes : List UInt8) : Prop :=
  ∀ p, p <+: bytes → p.length < bytes.length → ∃ m, d.run ⟨p, p.length⟩ = .error (.corrupt m)

/-- `d` reads exactly `bytes`: run on them followed by anything, it ends as `o`, a value that
    leaves what follows or a `Corrupt` error; run on a proper prefix of them alone, it fails
    with `Corrupt`. -/
structure Frames {α : Type} (d : Decoder α) (bytes : List UInt8) (o : Except CacheError α) :
    Prop where
  ends : ∀ rest, d.run ⟨bytes ++ rest, (bytes ++ rest).length⟩ =
    o.map fun v => (v, ⟨rest, rest.length⟩)
  corrupt : ∀ err, o = .error err → ∃ m, err = .corrupt m
  cuts : Cuts d bytes

section Frames

variable {α β : Type}

theorem cuts_nil (d : Decoder α) : Cuts d [] := fun _ _ hlt => absurd hlt (Nat.not_lt_zero _)

theorem Frames.pure (v : α) : Frames (Pure.pure v) [] (.ok v) where
  ends _ := rfl
  corrupt _ h := by cases h
  cuts := cuts_nil _

/-- A failure is the outcome of any bytes, and of every prefix of them. -/
theorem Frames.throw (m : String) (bytes : List UInt8) :
    Frames (MonadExcept.throw (CacheError.corrupt m) : Decoder α) bytes (.error (.corrupt m)) where
  ends _ := rfl
  corrupt _ h := ⟨m, (Except.error.inj h).symm⟩
  cuts _ _ _ := ⟨m, rfl⟩

/-- Reading a field and then what follows, from its bytes and then theirs, fails on a cut of
    the field, or, past it, on a cut of what follows. -/
theorem Frames.cuts_bind {f : α → Decoder β} {d : Decoder α} {c₁ c₂ : List UInt8}
    {o : Except CacheError α} (hd : Frames d c₁ o) (hf : ∀ a, o = .ok a → Cuts (f a) c₂) :
    Cuts (d >>= f) (c₁ ++ c₂) := by
  intro p hp hlt
  rcases prefix_append_cases hp with ⟨hp₁, hlt₁⟩ | ⟨q, rfl, hq⟩
  · -- A cut inside the field.
    obtain ⟨m, hm⟩ := hd.cuts p hp₁ hlt₁
    exact ⟨m, by rw [StateT.run_bind, hm]; rfl⟩
  · -- A cut past the field: the field ends as it does on the whole bytes.
    have hqlt : q.length < c₂.length := by simpa using hlt
    rcases o with e | a
    · obtain ⟨m, rfl⟩ := hd.corrupt e rfl
      exact ⟨m, by rw [StateT.run_bind, hd.ends q]; rfl⟩
    · obtain ⟨m, hm⟩ := hf a rfl q hq hqlt
      exact ⟨m, by rw [StateT.run_bind, hd.ends q]; exact hm⟩

theorem Frames.bind_ok {f : α → Decoder β} {d : Decoder α} {a : α} {c₁ c₂ : List UInt8}
    {o : Except CacheError β} (hd : Frames d c₁ (.ok a)) (hf : Frames (f a) c₂ o) :
    Frames (d >>= f) (c₁ ++ c₂) o where
  ends rest := by
    rw [StateT.run_bind, List.append_assoc, hd.ends (c₂ ++ rest)]
    exact hf.ends rest
  corrupt := hf.corrupt
  cuts := hd.cuts_bind fun a' ha => by
    cases ha
    exact hf.cuts

/-- Nothing is read after a field that fails. -/
theorem Frames.bind_error {f : α → Decoder β} {d : Decoder α} {e : CacheError}
    {c₁ : List UInt8} (hd : Frames d c₁ (.error e)) (c₂ : List UInt8) :
    Frames (d >>= f) (c₁ ++ c₂) (.error e) where
  ends rest := by
    rw [StateT.run_bind, List.append_assoc, hd.ends (c₂ ++ rest)]
    rfl
  corrupt _ h := hd.corrupt _ (by cases h; rfl)
  cuts := hd.cuts_bind fun _ ha => by cases ha

/-- A field read, and what follows read from the next bytes whatever the field gave. -/
theorem Frames.bind {f : α → Decoder β} {d : Decoder α} {c₁ c₂ : List UInt8}
    {o : Except CacheError α} (hd : Frames d c₁ o)
    (hf : ∀ a, o = .ok a → ∃ o', Frames (f a) c₂ o') :
    ∃ o', Frames (d >>= f) (c₁ ++ c₂) o' := by
  rcases o with e | a
  · exact ⟨_, hd.bind_error c₂⟩
  · obtain ⟨o', ho'⟩ := hf a rfl
    exact ⟨o', hd.bind_ok ho'⟩

theorem Frames.bind_pure {f : α → Decoder β} {d : Decoder α} {a : α} {b : β}
    {bytes : List UInt8} (hd : Frames d bytes (.ok a)) (hf : f a = Pure.pure b) :
    Frames (d >>= f) bytes (.ok b) := by
  have h := hd.bind_ok (hf ▸ Frames.pure b)
  rwa [List.append_nil] at h

theorem Frames.throw_bind {f : α → Decoder β} (m : String) (bytes : List UInt8) :
    Frames (MonadExcept.throw (CacheError.corrupt m) >>= f) bytes (.error (.corrupt m)) := by
  have h : Frames ((MonadExcept.throw (CacheError.corrupt m) : Decoder α) >>= f) ([] ++ bytes)
      (.error (.corrupt m)) := (Frames.throw m []).bind_error bytes
  rwa [List.nil_append] at h

/-- What follows a field that read `a` runs on the bytes after the field. -/
theorem Frames.run_bind_ok {f : α → Decoder β} {d : Decoder α} {a : α} {bytes : List UInt8}
    (hd : Frames d bytes (.ok a)) (rest : List UInt8) :
    (d >>= f).run ⟨bytes ++ rest, (bytes ++ rest).length⟩ = (f a).run ⟨rest, rest.length⟩ := by
  rw [StateT.run_bind, hd.ends rest]
  rfl

theorem Frames.run_bind_error {f : α → Decoder β} {d : Decoder α} {e : CacheError}
    {bytes : List UInt8} (hd : Frames d bytes (.error e)) (rest : List UInt8) :
    (d >>= f).run ⟨bytes ++ rest, (bytes ++ rest).length⟩ = .error e := by
  rw [StateT.run_bind, hd.ends rest]
  rfl

/-- The values read on a cut fail as the reads do. -/
theorem Cuts.map_fst {d : Decoder α} {bytes : List UInt8} (h : Cuts d bytes) :
    ∀ p, p <+: bytes → p.length < bytes.length →
      ∃ m, (d.run ⟨p, p.length⟩).map Prod.fst = .error (.corrupt m) := by
  intro p hp hlt
  obtain ⟨m, hm⟩ := h p hp hlt
  exact ⟨m, by rw [hm]; rfl⟩

end Frames

/-! ### The fields of a record -/

theorem Frames.take (bytes : List UInt8) : Frames (Codec.take bytes.length) bytes (.ok bytes) where
  ends := Reads.take bytes
  corrupt _ h := by cases h
  cuts p _ hlt := by
    simp only [Codec.take, StateT.run_bind, StateT.run_get, pure_bind]
    rw [if_pos hlt]
    exact ⟨_, rfl⟩

/-- A number is read from its big-endian bytes, modulo their range. -/
theorem Frames.getUnsigned (n w : Nat) :
    Frames (Codec.getUnsigned w) (bigEndian n w) (.ok (n % 256 ^ w)) := by
  have ht := Frames.take (bigEndian n w)
  rw [length_bigEndian] at ht
  exact ht.bind_pure (by simp only [ofBigEndian_bigEndian])

theorem Frames.getLength {n : Nat} (h : n < 2 ^ 32) :
    Frames (Codec.getUnsigned 4) (putU32 n) (.ok n) := by
  have hn := Frames.getUnsigned n 4
  rwa [Nat.mod_eq_of_lt (by omega)] at hn

/-- A signed 64-bit number is read from its eight bytes, whatever it is. -/
theorem Frames.getI64 (m : Int) : ∃ v, Frames Codec.getI64 (putI64 m) (.ok v) := by
  exact ⟨_, (Frames.getUnsigned _ 8).bind_pure rfl⟩

/-- A time is read from its eight bytes, or refused there when it is out of range. -/
theorem Frames.getTime (m : Int) : ∃ o, Frames Codec.getTime (putI64 m) o := by
  obtain ⟨v, hv⟩ := Frames.getI64 m
  rw [← List.append_nil (putI64 m)]
  refine hv.bind fun ms _ => ?_
  split
  · exact ⟨_, Frames.pure _⟩
  · exact ⟨_, Frames.throw _ []⟩

theorem Frames.getStr {s : String} {bytes : List UInt8} (h : putStr s = .ok bytes) :
    Frames Codec.getStr bytes (.ok s) := by
  simp only [putStr] at h
  obtain ⟨len, hlen, hb⟩ := Except.bind_eq_ok.1 h
  obtain ⟨hlt, rfl⟩ := putLen_eq_ok hlen
  cases hb
  exact (Frames.getLength hlt).bind_ok
    ((Frames.take _).bind_pure (by simp only [Utf8.validate_encode]))

/-- Pairs are read from the bytes their names and values are written as; the induction is
    on the pairs, each read after those before it. -/
theorem Frames.getPairsFrom : ∀ (ps acc : List (String × String)) {bytes : List UInt8},
    putPairItems ps = .ok bytes →
      Frames (Codec.getPairsFrom ps.length acc) bytes (.ok (acc.reverse ++ ps))
  | [], acc, bytes, h => by
    cases h
    rw [List.append_nil]
    exact Frames.pure acc.reverse
  | (k, v) :: ps, acc, bytes, h => by
    obtain ⟨kb, hk, h⟩ := Except.bind_eq_ok.1 h
    obtain ⟨vb, hv, h⟩ := Except.bind_eq_ok.1 h
    obtain ⟨rb, hr, h⟩ := Except.bind_eq_ok.1 h
    cases h
    have hrest := Frames.getPairsFrom ps ((k, v) :: acc) hr
    rw [List.reverse_cons, List.append_assoc, List.singleton_append] at hrest
    rw [List.append_assoc]
    exact (Frames.getStr hk).bind_ok ((Frames.getStr hv).bind_ok hrest)

theorem Frames.getPairs {ps : List (String × String)} {bytes : List UInt8}
    (h : putPairs ps = .ok bytes) : Frames Codec.getPairs bytes (.ok ps) := by
  obtain ⟨cb, hc, h⟩ := Except.bind_eq_ok.1 h
  obtain ⟨ib, hi, h⟩ := Except.bind_eq_ok.1 h
  cases h
  obtain ⟨hlt, rfl⟩ := putLen_eq_ok hc
  exact (Frames.getLength hlt).bind_ok (Frames.getPairsFrom ps [] hi)

/-- A record is framed by the bytes it is written as, whatever its fields hold: it reads
    back, or fails at the first field the reader refuses. -/
theorem frames_getRecord {r : CacheRecord} {bytes : List UInt8} (h : putRecord r = .ok bytes) :
    ∃ o, Frames getRecord bytes o := by
  obtain ⟨kb, hk, h⟩ := Except.bind_eq_ok.1 h
  obtain ⟨ub, hu, h⟩ := Except.bind_eq_ok.1 h
  obtain ⟨hb, hh, h⟩ := Except.bind_eq_ok.1 h
  obtain ⟨vb, hv, h⟩ := Except.bind_eq_ok.1 h
  obtain ⟨lb, hl, h⟩ := Except.bind_eq_ok.1 h
  cases h
  obtain ⟨hlt, rfl⟩ := putLen_eq_ok hl
  simp only [List.append_assoc]
  unfold getRecord
  refine (Frames.getStr hk).bind fun keyText hkey => ?_
  cases hkey
  -- The key text is checked: one that is not a key fails the record there.
  rcases hid : CacheKey.ofHex? r.key.text with _ | key
  · exact ⟨_, Frames.throw_bind _ _⟩
  simp only [pure_bind]
  refine (Frames.getStr hu).bind fun url hurl => ?_
  cases hurl
  refine (Frames.getUnsigned r.status 2).bind fun status _ => ?_
  refine (Frames.getPairs hh).bind fun headers _ => ?_
  -- Each time is read from its eight bytes, or refused there.
  obtain ⟨o₁, h₁⟩ := Frames.getTime r.requestTime.millis
  refine h₁.bind fun requestTime _ => ?_
  obtain ⟨o₂, h₂⟩ := Frames.getTime r.responseTime.millis
  refine h₂.bind fun responseTime _ => ?_
  obtain ⟨o₃, h₃⟩ := Frames.getTime r.expiresAt.millis
  refine h₃.bind fun expiresAt _ => ?_
  refine (Frames.getPairs hv).bind fun pairs _ => ?_
  refine (Frames.getLength hlt).bind fun len hlen => ?_
  cases hlen
  exact ⟨_, (Frames.take r.body).bind_pure rfl⟩

/-- Records are framed, one after the other, by the bytes they are written as. -/
theorem frames_getRecordsFrom : ∀ (rs acc : List CacheRecord) {bytes : List UInt8},
    putRecords rs = .ok bytes → ∃ o, Frames (getRecordsFrom rs.length acc) bytes o
  | [], acc, bytes, h => by
    cases h
    exact ⟨_, Frames.pure acc.reverse⟩
  | r :: rs, acc, bytes, h => by
    obtain ⟨rb, hr, h⟩ := Except.bind_eq_ok.1 h
    obtain ⟨sb, hs, h⟩ := Except.bind_eq_ok.1 h
    cases h
    obtain ⟨o, ho⟩ := frames_getRecord hr
    exact ho.bind fun r' _ => frames_getRecordsFrom rs (r' :: acc) hs

/-! ### Cut and extended entries -/

/-- Reading fails, with `Corrupt`, on every proper prefix of the bytes an entry is written
    as, and on those bytes followed by any more: a cut falls in some field, which then runs
    out of bytes, and bytes after the last record are refused as left over. -/
theorem decode_rejects_cut_and_extension {e : CacheEntry} {bytes : List UInt8}
    (h : encode e = .ok bytes) :
    (∀ p, p <+: bytes → p.length < bytes.length → ∃ m, decode p = .error (.corrupt m)) ∧
    (∀ extra, extra ≠ [] → ∃ m, decode (bytes ++ extra) = .error (.corrupt m)) := by
  obtain ⟨cb, hc, h⟩ := Except.bind_eq_ok.1 h
  obtain ⟨rb, hr, h⟩ := Except.bind_eq_ok.1 h
  cases h
  obtain ⟨hlt, rfl⟩ := putLen_eq_ok hc
  have hmagic : Frames (Codec.take 4) magic (.ok magic) := Frames.take magic
  have hversion : Frames (Codec.getUnsigned 1) [1] (.ok 1) := Frames.getUnsigned 1 1
  have hcount := Frames.getLength hlt
  obtain ⟨o, hrecords⟩ := frames_getRecordsFrom e.records [] hr
  simp only [List.append_assoc]
  constructor
  · -- A cut falls in the magic bytes, the version, the count or the records.
    intro p hp hplt
    unfold decode
    refine Cuts.map_fst ?_ p hp hplt
    refine hmagic.cuts_bind fun a ha => ?_
    cases ha
    simp only [ne_eq, not_true_eq_false, if_false]
    refine hversion.cuts_bind fun v hv => ?_
    cases hv
    simp only [not_true_eq_false, if_false]
    refine hcount.cuts_bind fun n hn => ?_
    cases hn
    rw [← List.append_nil rb]
    exact hrecords.cuts_bind fun _ _ => cuts_nil _
  · intro extra hextra
    unfold decode
    dsimp only
    rw [hmagic.run_bind_ok]
    simp only [ne_eq, not_true_eq_false, if_false]
    rw [hversion.run_bind_ok]
    simp only [not_true_eq_false, if_false]
    rw [hcount.run_bind_ok]
    rcases o with err | records
    · -- The records fail on the bytes after them as on the whole.
      obtain ⟨m, rfl⟩ := hrecords.corrupt err rfl
      exact ⟨m, by rw [hrecords.run_bind_error]; rfl⟩
    · -- The records end where they did, and the added bytes are left over.
      have hpos : extra.length > 0 := List.length_pos_of_ne_nil hextra
      rw [hrecords.run_bind_ok]
      simp only [StateT.run_bind, StateT.run_get, pure_bind, hpos, if_true]
      exact ⟨_, rfl⟩

/-- The bytes of an entry holding `lastingRecord` are refused when cut or extended. -/
theorem decode_rejects_cut_and_extension_lastingRecord :
    ∃ bytes, encode ⟨[lastingRecord]⟩ = .ok bytes ∧
      (∀ p, p <+: bytes → p.length < bytes.length → ∃ m, decode p = .error (.corrupt m)) ∧
      (∀ extra, extra ≠ [] → ∃ m, decode (bytes ++ extra) = .error (.corrupt m)) := by
  obtain ⟨bytes, hb⟩ : ∃ bytes, encode ⟨[lastingRecord]⟩ = .ok bytes := ⟨_, rfl⟩
  exact ⟨bytes, hb, decode_rejects_cut_and_extension hb⟩

end Codec

end FeatureFlags
