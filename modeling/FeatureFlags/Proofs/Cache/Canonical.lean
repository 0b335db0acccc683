import FeatureFlags.Proofs.Cache.Decoded

/-!
# Stored forms read back as written

Reading bytes into an entry loses nothing but the order of the vary pairs. Every other
field has one written form: a length or a count in 32 bits, a status in 16, a time in whole
milliseconds, a text in UTF-8, a key in its 32 digits. So the bytes an entry is read from
are the written form of the entry they list (`Codec.decode_listed`), with its vary pairs in
their written order, and reading only makes those pairs into vary keys
(`CacheRecord.mergeVary`): sorted by name, the last value of a repeated name kept.

Writing is a prefix code: when the written forms of two records start the same bytes, they
are the same bytes, and the two records have the same vary pairs (`Codec.putRecord_cancel`),
as every field carries its length or has a fixed width.

Reading is stated with `Codec.Consumes d P`: whatever `d` reads, from any input, it reads
from the front of it, and `P` holds of the value, of the bytes it took and of those it
left. Like `Codec.Reads`, it composes along `>>=`, field by field in the order of the layout.

* `Codec.decode_listed`: bytes read as an entry are the written form of the entry they list;
* `Codec.encode_eq_iff_vary_increasing`: an entry read from bytes is written back as those
  bytes exactly when every record lists its vary pairs with names in increasing order.
-/

namespace FeatureFlags

namespace CacheRecord

/-- The record with its vary pairs made into vary keys, as reading does: sorted by name, the
    last value of a repeated name kept. -/
def mergeVary (r : CacheRecord) : CacheRecord :=
  { r with vary := VaryKeys.ofList r.vary.pairs }

theorem mergeVary_of_pairwise {r : CacheRecord}
    (h : r.vary.pairs.Pairwise fun a b => a.1 < b.1) : r.mergeVary = r := by
  simp only [mergeVary, VaryKeys.ofList_of_pairwise h]

end CacheRecord

theorem Except.map_eq_ok {ε α β : Type} {f : α → β} {x : Except ε α} {b : β} :
    x.map f = .ok b ↔ ∃ a, x = .ok a ∧ f a = b := by
  cases x <;> simp [Except.map]

/-- An instant made from milliseconds has those milliseconds. -/
theorem Instant.millis_of_ofMillis? {ms : Int} {t : Instant} (h : Instant.ofMillis? ms = some t) :
    t.millis = ms := by
  unfold Instant.ofMillis? at h
  split at h
  · cases h
    simp [Instant.millis]
  · cases h

namespace Codec

/-- Bytes are the big-endian bytes of their value, as many of them. -/
theorem bigEndian_ofBigEndian (bytes : List UInt8) :
    bigEndian (ofBigEndian bytes) bytes.length = bytes := by
  induction bytes using List.reverseRecOn with
  | nil => rfl
  | append_singleton l b ih =>
    have hb : b.toNat < 256 := b.toNat_lt
    have hdiv : (ofBigEndian l * 256 + b.toNat) / 256 = ofBigEndian l := by omega
    have hmod : ((ofBigEndian l * 256 + b.toNat) % 256).toUInt8 = b := by
      rw [Nat.mul_comm, Nat.mul_add_mod, Nat.mod_eq_of_lt hb]
      exact UInt8.ofNat_toNat
    rw [ofBigEndian_append_singleton, List.length_append, List.length_singleton, bigEndian,
      hdiv, hmod, ih]

/-! ### Readers that read from the front -/

/-- Run on `bytes`, whatever `d` reads it reads from the front: `bytes` are the bytes it took
    followed by those it left, which it counts, and `P` holds of the value, the bytes taken
    and the bytes left. -/
def ConsumesFrom {α : Type} (d : Decoder α) (bytes : List UInt8)
    (P : α → List UInt8 → List UInt8 → Prop) : Prop :=
  ∀ v out, d.run ⟨bytes, bytes.length⟩ = .ok (v, out) →
    out.left = out.rest.length ∧ ∃ used, bytes = used ++ out.rest ∧ P v used out.rest

/-- Whatever `d` reads, from any input, it reads from the front, and `P` holds of the value,
    the bytes taken and the bytes left. -/
def Consumes {α : Type} (d : Decoder α) (P : α → List UInt8 → List UInt8 → Prop) : Prop :=
  ∀ bytes, ConsumesFrom d bytes P

section Consumes

variable {α β : Type}

theorem ConsumesFrom.pure {P : α → List UInt8 → List UInt8 → Prop} {v : α} {bytes : List UInt8}
    (h : P v [] bytes) : ConsumesFrom (Pure.pure v) bytes P := by
  intro w out hrun
  cases hrun
  exact ⟨rfl, [], rfl, h⟩

theorem Consumes.pure {P : α → List UInt8 → List UInt8 → Prop} {v : α} (h : ∀ rest, P v [] rest) :
    Consumes (Pure.pure v) P :=
  fun bytes => ConsumesFrom.pure (h bytes)

theorem Consumes.throw {P : α → List UInt8 → List UInt8 → Prop} (e : CacheError) :
    Consumes (MonadExcept.throw e) P := by
  intro bytes w out hrun
  cases hrun

theorem Consumes.mono {d : Decoder α} {P Q : α → List UInt8 → List UInt8 → Prop}
    (hd : Consumes d P) (h : ∀ v used rest, P v used rest → Q v used rest) : Consumes d Q := by
  intro bytes v out hrun
  obtain ⟨hleft, used, hbytes, hP⟩ := hd bytes v out hrun
  exact ⟨hleft, used, hbytes, h _ _ _ hP⟩

/-- Reading one value and then another reads them from consecutive bytes; the second runs on
    the bytes the first left, and may use what the first gives. -/
theorem Consumes.bind {d : Decoder α} {f : α → Decoder β} {P : α → List UInt8 → List UInt8 → Prop}
    {Q : β → List UInt8 → List UInt8 → Prop} (hd : Consumes d P)
    (hf : ∀ a used rest, P a used rest →
      ConsumesFrom (f a) rest fun b more rest' => Q b (used ++ more) rest') :
    Consumes (d >>= f) Q := by
  intro bytes v out hrun
  rw [StateT.run_bind] at hrun
  obtain ⟨⟨a, ⟨rest, left⟩⟩, ha, hrest⟩ := Except.bind_eq_ok.1 hrun
  obtain ⟨hleft, used, hbytes, hP⟩ := hd bytes a _ ha
  -- What the first reader left is counted, so the second starts on a fresh input.
  dsimp only at hleft hbytes hP
  subst hleft
  obtain ⟨hleft', more, hmore, hQ⟩ := hf a used rest hP v out hrest
  exact ⟨hleft', used ++ more, by rw [hbytes, hmore, List.append_assoc], hQ⟩

/-- `Consumes.bind` for a first reader whose fact does not look at the bytes it left. -/
theorem Consumes.seq {d : Decoder α} {f : α → Decoder β} {P : α → List UInt8 → Prop}
    {Q : β → List UInt8 → List UInt8 → Prop} (hd : Consumes d fun a used _ => P a used)
    (hf : ∀ a used, P a used → Consumes (f a) fun b more rest => Q b (used ++ more) rest) :
    Consumes (d >>= f) Q :=
  hd.bind fun a used rest hP => hf a used hP rest

/-- Nothing is read after a failure. -/
theorem Consumes.throw_bind {f : α → Decoder β} {Q : β → List UInt8 → List UInt8 → Prop}
    (e : CacheError) : Consumes (MonadExcept.throw e >>= f) Q :=
  (Consumes.throw (P := fun _ _ _ => False) e).bind fun _ _ _ h => h.elim

end Consumes

/-! ### The fields -/

theorem consumes_get : Consumes get fun s used rest => used = [] ∧ s = ⟨rest, rest.length⟩ := by
  intro bytes v out hrun
  cases hrun
  exact ⟨rfl, [], rfl, rfl, rfl⟩

theorem consumes_take (n : Nat) :
    Consumes (take n) fun bytes used _ => used = bytes ∧ bytes.length = n := by
  intro bytes v out hrun
  simp only [take, StateT.run_bind, StateT.run_get, pure_bind] at hrun
  split at hrun
  · cases hrun
  · rename_i hlen
    simp only [StateT.run_bind, StateT.run_set, StateT.run_pure, pure_bind] at hrun
    cases hrun
    refine ⟨by simp, bytes.take n, (List.take_append_drop n bytes).symm, rfl, ?_⟩
    simp only [List.length_take]
    omega

theorem consumes_getUnsigned (width : Nat) :
    Consumes (getUnsigned width) fun n used _ => n < 256 ^ width ∧ used = bigEndian n width := by
  unfold getUnsigned
  refine (consumes_take width).seq fun bytes used ⟨hused, hlen⟩ => Consumes.pure fun _ => ?_
  exact ⟨hlen ▸ ofBigEndian_lt bytes, by rw [List.append_nil, hused, ← hlen, bigEndian_ofBigEndian]⟩

/-- A signed 64-bit number is read from its two's complement. -/
theorem consumes_getI64 : Consumes getI64 fun m used _ => used = putI64 m := by
  unfold getI64
  refine (consumes_getUnsigned 8).seq fun n used ⟨hn, hused⟩ => Consumes.pure fun _ => ?_
  rw [List.append_nil, hused, putI64]
  congr 1
  simp only [Nat.pow_eq] at hn ⊢
  split_ifs <;> omega

theorem consumes_getTime : Consumes getTime fun t used _ => used = putI64 t.millis := by
  unfold getTime
  refine consumes_getI64.seq fun ms used hused => ?_
  split
  · rename_i t ht
    exact Consumes.pure fun _ => by rw [List.append_nil, hused, Instant.millis_of_ofMillis? ht]
  · exact Consumes.throw _

/-- A text is read from the bytes it is written as. -/
theorem consumes_getStr : Consumes getStr fun s used _ => putStr s = .ok used := by
  unfold getStr
  refine (consumes_getUnsigned 4).seq fun len used ⟨hlen, hused⟩ => ?_
  refine (consumes_take len).seq fun raw more ⟨hmore, hraw⟩ => ?_
  split
  · rename_i s hs
    refine Consumes.pure fun _ => ?_
    have hfit : len < Nat.pow 2 32 := by simpa using hlen
    simp only [putStr, putLen, Utf8.encode_of_validate hs, hraw, if_pos hfit, hused, hmore,
      putU32, List.append_nil]
    rfl
  · exact Consumes.throw _

/-- Pairs are read from the bytes their names and values are written as; the induction is on
    the count, each pair read after those before it. -/
theorem consumes_getPairsFrom : ∀ (n : Nat) (acc : List (String × String)),
    Consumes (getPairsFrom n acc) fun ps used _ =>
      ∃ listed, ps = acc.reverse ++ listed ∧ listed.length = n ∧ putPairItems listed = .ok used
  | 0, acc => Consumes.pure fun _ => ⟨[], by simp, rfl, rfl⟩
  | n + 1, acc => by
    unfold getPairsFrom
    refine consumes_getStr.seq fun name u₁ h₁ => consumes_getStr.seq fun value u₂ h₂ => ?_
    refine (consumes_getPairsFrom n ((name, value) :: acc)).mono ?_
    rintro ps u₃ - ⟨listed, rfl, hlen, h₃⟩
    refine ⟨(name, value) :: listed, by simp, by simp [hlen], ?_⟩
    simp only [putPairItems, h₁, h₂, h₃, List.append_assoc]
    rfl

theorem consumes_getPairs : Consumes getPairs fun ps used _ => putPairs ps = .ok used := by
  unfold getPairs
  refine (consumes_getUnsigned 4).seq fun n used ⟨hn, hused⟩ => ?_
  refine (consumes_getPairsFrom n []).mono ?_
  rintro ps more - ⟨listed, hps, hlen, hitems⟩
  rw [List.reverse_nil, List.nil_append] at hps
  subst hps hlen
  have hfit : ps.length < Nat.pow 2 32 := by simpa using hn
  simp only [putPairs, putLen, if_pos hfit, hitems, hused, putU32]
  rfl

/-- A record is read from the written form of the record its bytes list, and is that record
    with its vary pairs made into vary keys. -/
theorem consumes_getRecord : Consumes getRecord fun r used _ =>
    ∃ listed : CacheRecord, putRecord listed = .ok used ∧ r = listed.mergeVary := by
  unfold getRecord
  refine consumes_getStr.seq fun keyText u₁ hkey => ?_
  dsimp only
  split
  case h_2 => exact Consumes.throw_bind _
  rename_i key hkeyText
  have hkt : key.text = keyText := by rw [(CacheKey.ofHex?_eq_some hkeyText).1]
  rw [pure_bind]
  refine consumes_getStr.seq fun url u₂ hurl => ?_
  refine (consumes_getUnsigned 2).seq fun status u₃ ⟨_, hstatus⟩ => ?_
  refine consumes_getPairs.seq fun headers u₄ hheaders => ?_
  refine consumes_getTime.seq fun requestTime u₅ hrequest => ?_
  refine consumes_getTime.seq fun responseTime u₆ hresponse => ?_
  refine consumes_getTime.seq fun expiresAt u₇ hexpires => ?_
  refine consumes_getPairs.seq fun pairs u₈ hpairs => ?_
  refine (consumes_getUnsigned 4).seq fun bodyLen u₉ ⟨hlen, hbodyLen⟩ => ?_
  refine (consumes_take bodyLen).seq fun body u₁₀ ⟨hbody, hbodyLength⟩ => ?_
  refine Consumes.pure fun _ =>
    ⟨{ key := key, url := url, status := status, headers := headers, body := body,
       requestTime := requestTime, responseTime := responseTime, expiresAt := expiresAt,
       vary := ⟨pairs⟩ }, ?_, rfl⟩
  have hfit : body.length < Nat.pow 2 32 := by
    rw [hbodyLength]
    simpa using hlen
  -- The fields in the order of the layout, each written as it was read.
  simp only [putRecord, hkt, hkey, hurl, hheaders, hpairs, putLen, hfit, if_true, bind_pure_comp]
  simp only [hstatus, hrequest, hresponse, hexpires, hbodyLen, hbody, hbodyLength,
    putU32, List.append_nil, List.append_assoc]
  rfl

/-- Records are read from the written forms of the records the bytes list. -/
theorem consumes_getRecordsFrom : ∀ (n : Nat) (acc : List CacheRecord),
    Consumes (getRecordsFrom n acc) fun rs used _ =>
      ∃ listed : List CacheRecord, rs = acc.reverse ++ listed.map CacheRecord.mergeVary ∧
        listed.length = n ∧ putRecords listed = .ok used := by
  intro n
  induction n with
  | zero => exact fun acc => Consumes.pure fun _ => ⟨[], by simp, rfl, rfl⟩
  | succ n ih =>
    intro acc
    unfold getRecordsFrom
    refine consumes_getRecord.seq fun r u₁ hfirst => ?_
    obtain ⟨first, h₁, hr⟩ := hfirst
    refine (ih (r :: acc)).mono ?_
    rintro rs u₂ - ⟨listed, rfl, hlen, h₂⟩
    refine ⟨first :: listed, by simp [hr], by simp [hlen], ?_⟩
    simp only [putRecords, h₁, h₂]
    rfl

/-- Bytes read as an entry are the written form of the entry they list, whose records'
    vary pairs reading makes into vary keys. -/
theorem decode_listed {bytes : List UInt8} {e : CacheEntry} (h : decode bytes = .ok e) :
    ∃ listed : CacheEntry, encode listed = .ok bytes ∧
      e.records = listed.records.map CacheRecord.mergeVary := by
  unfold decode at h
  obtain ⟨⟨v, out⟩, hrun, rfl⟩ := Except.map_eq_ok.1 h
  suffices hread : Consumes _ fun (e : CacheEntry) used rest => rest = [] ∧
      ∃ listed : CacheEntry, encode listed = .ok used ∧
        e.records = listed.records.map CacheRecord.mergeVary by
    obtain ⟨-, used, hbytes, hrest, hlisted⟩ := hread bytes _ out hrun
    rw [hrest, List.append_nil] at hbytes
    exact hbytes ▸ hlisted
  dsimp only
  refine (consumes_take 4).seq fun magicBytes u₁ ⟨hmagic, _⟩ => ?_
  split
  · exact Consumes.throw_bind _
  rename_i hm
  rw [not_ne_iff] at hm
  refine (consumes_getUnsigned 1).seq fun version u₂ ⟨_, hversion⟩ => ?_
  split
  · exact Consumes.throw_bind _
  rename_i hv
  rw [not_ne_iff] at hv
  refine (consumes_getUnsigned 4).seq fun count u₃ ⟨hcount, hcountBytes⟩ => ?_
  refine (consumes_getRecordsFrom count []).seq fun records u₄ ⟨listed, hrecords, hlen, hput⟩ => ?_
  -- The last check: no byte is left over.
  refine consumes_get.bind fun s u₅ rest ⟨hu₅, hs⟩ => ?_
  split
  · exact Consumes.throw_bind _ rest
  rename_i hleft
  refine ConsumesFrom.pure ⟨?_, ⟨listed⟩, ?_, by simpa using hrecords⟩
  · subst hs
    simpa using hleft
  · have hfit : count < Nat.pow 2 32 := by simpa using hcount
    simp only [encode, putLen, hlen, if_pos hfit, hput, hmagic, hm, hversion, hv, hcountBytes,
      hu₅, putU32, List.append_nil, List.append_assoc]
    rfl

/-! ### Writing is a prefix code -/

/-- A reader gives one value from the front of an input: two forms it reads, when they start
    the same bytes, are the same bytes and give the same value. -/
theorem Reads.cancel {α : Type} {d : Decoder α} {v v' : α} {b b' rest rest' : List UInt8}
    (h : Reads d v b) (h' : Reads d v' b') (heq : b ++ rest = b' ++ rest') :
    v = v' ∧ b = b' ∧ rest = rest' := by
  have hrun := h rest
  rw [heq, h' rest'] at hrun
  simp only [Except.ok.injEq, Prod.mk.injEq, Input.mk.injEq] at hrun
  obtain ⟨rfl, rfl, -⟩ := hrun
  exact ⟨rfl, List.append_cancel_right heq, rfl⟩

/-- A body is read after its length. -/
theorem Reads.body {body : List UInt8} (h : body.length < 2 ^ 32) :
    Reads (Codec.getUnsigned 4 >>= Codec.take) body (putU32 body.length ++ body) :=
  have hn : body.length < 256 ^ 4 := by omega
  (Reads.getUnsigned hn).bind (Reads.take body)

/-- When the written forms of two records start the same bytes, they are the same bytes, and
    the records have the same vary pairs: every field carries its length or has a fixed
    width, so the two forms are taken apart field by field at the same places. -/
theorem putRecord_cancel {r r' : CacheRecord} {b b' rest rest' : List UInt8}
    (h : putRecord r = .ok b) (h' : putRecord r' = .ok b') (heq : b ++ rest = b' ++ rest') :
    r.vary = r'.vary ∧ b = b' ∧ rest = rest' := by
  obtain ⟨kb, hk, h⟩ := Except.bind_eq_ok.1 h
  obtain ⟨ub, hu, h⟩ := Except.bind_eq_ok.1 h
  obtain ⟨hb, hh, h⟩ := Except.bind_eq_ok.1 h
  obtain ⟨vb, hv, h⟩ := Except.bind_eq_ok.1 h
  obtain ⟨lb, hl, h⟩ := Except.bind_eq_ok.1 h
  cases h
  obtain ⟨kb', hk', h'⟩ := Except.bind_eq_ok.1 h'
  obtain ⟨ub', hu', h'⟩ := Except.bind_eq_ok.1 h'
  obtain ⟨hb', hh', h'⟩ := Except.bind_eq_ok.1 h'
  obtain ⟨vb', hv', h'⟩ := Except.bind_eq_ok.1 h'
  obtain ⟨lb', hl', h'⟩ := Except.bind_eq_ok.1 h'
  cases h'
  obtain ⟨hfit, rfl⟩ := putLen_eq_ok hl
  obtain ⟨hfit', rfl⟩ := putLen_eq_ok hl'
  have heq₀ := heq
  simp only [List.append_assoc] at heq
  -- The fields in the order of the layout: key, URL, status, headers, three times, vary
  -- pairs, and the body after its length.
  obtain ⟨-, -, heq⟩ := Reads.cancel (Reads.getStr hk) (Reads.getStr hk') heq
  obtain ⟨-, -, heq⟩ := Reads.cancel (Reads.getStr hu) (Reads.getStr hu') heq
  obtain ⟨-, heq⟩ := List.append_inj heq (by simp)
  obtain ⟨-, -, heq⟩ := Reads.cancel (Reads.getPairs hh) (Reads.getPairs hh') heq
  obtain ⟨-, heq⟩ := List.append_inj heq (by simp [putI64])
  obtain ⟨-, heq⟩ := List.append_inj heq (by simp [putI64])
  obtain ⟨-, heq⟩ := List.append_inj heq (by simp [putI64])
  obtain ⟨hvary, -, heq⟩ := Reads.cancel (Reads.getPairs hv) (Reads.getPairs hv') heq
  rw [← List.append_assoc, ← List.append_assoc] at heq
  obtain ⟨-, -, rfl⟩ := Reads.cancel (Reads.body hfit) (Reads.body hfit') heq
  exact ⟨congrArg VaryKeys.mk hvary, List.append_cancel_right heq₀, rfl⟩

/-- Lists of records of one length whose written forms start the same bytes have the same
    vary pairs, record by record. -/
theorem putRecords_cancel : ∀ {rs rs' : List CacheRecord} {b b' rest rest' : List UInt8},
    putRecords rs = .ok b → putRecords rs' = .ok b' → rs.length = rs'.length →
      b ++ rest = b' ++ rest' → rs.map (·.vary) = rs'.map (·.vary) ∧ rest = rest'
  | [], [], _, _, _, _, h, h', _, heq => by
    cases h
    cases h'
    exact ⟨rfl, heq⟩
  | [], _ :: _, _, _, _, _, _, _, hlen, _ => absurd hlen (by simp)
  | _ :: _, [], _, _, _, _, _, _, hlen, _ => absurd hlen (by simp)
  | r :: rs, r' :: rs', _, _, _, _, h, h', hlen, heq => by
    obtain ⟨rb, hr, h⟩ := Except.bind_eq_ok.1 h
    obtain ⟨sb, hs, h⟩ := Except.bind_eq_ok.1 h
    cases h
    obtain ⟨rb', hr', h'⟩ := Except.bind_eq_ok.1 h'
    obtain ⟨sb', hs', h'⟩ := Except.bind_eq_ok.1 h'
    cases h'
    simp only [List.append_assoc] at heq
    obtain ⟨hv, -, heq⟩ := putRecord_cancel hr hr' heq
    obtain ⟨hvs, hrest⟩ := putRecords_cancel hs hs' (by simpa using hlen) heq
    exact ⟨by simp only [List.map_cons, hv, hvs], hrest⟩

/-- Two entries written as the same bytes have the same vary pairs, record by record. -/
theorem vary_eq_of_encode_eq {e e' : CacheEntry} {bytes : List UInt8}
    (h : encode e = .ok bytes) (h' : encode e' = .ok bytes) :
    e.records.map (·.vary) = e'.records.map (·.vary) := by
  obtain ⟨cb, hc, h⟩ := Except.bind_eq_ok.1 h
  obtain ⟨rb, hr, h⟩ := Except.bind_eq_ok.1 h
  cases h
  obtain ⟨cb', hc', h'⟩ := Except.bind_eq_ok.1 h'
  obtain ⟨rb', hr', h'⟩ := Except.bind_eq_ok.1 h'
  have heq : magic ++ [1] ++ cb ++ rb = magic ++ [1] ++ cb' ++ rb' := (Except.ok.inj h').symm
  obtain ⟨hlt, rfl⟩ := putLen_eq_ok hc
  obtain ⟨hlt', rfl⟩ := putLen_eq_ok hc'
  -- The magic bytes and the version, then the record counts, which are equal.
  obtain ⟨hcount, heq⟩ := List.append_inj heq (by simp [putU32])
  have hlen : e.records.length = e'.records.length := by
    have := congrArg ofBigEndian (List.append_inj_right hcount rfl)
    rwa [putU32, putU32, ofBigEndian_bigEndian, ofBigEndian_bigEndian,
      Nat.mod_eq_of_lt (by omega), Nat.mod_eq_of_lt (by omega)] at this
  rw [← List.append_nil rb, ← List.append_nil rb'] at heq
  exact (putRecords_cancel hr hr' hlen heq).1

/-! ### Canonical stored forms -/

/-- An entry read from bytes is written back as those bytes exactly when every record the
    bytes list has its vary pairs in increasing order of names; otherwise reading has merged or
    reordered them, and the entry is written as other bytes. The bytes list an entry that the
    one read differs from only there. -/
theorem encode_eq_iff_vary_increasing {bytes : List UInt8} {e : CacheEntry}
    (h : decode bytes = .ok e) :
    (∃ listed : CacheEntry, encode listed = .ok bytes ∧
      e.records = listed.records.map CacheRecord.mergeVary) ∧
    (encode e = .ok bytes ↔ ∀ listed : CacheEntry, encode listed = .ok bytes →
      ∀ r ∈ listed.records, r.vary.pairs.Pairwise fun a b => a.1 < b.1) := by
  obtain ⟨listed, hlisted, hrecords⟩ := decode_listed h
  refine ⟨⟨listed, hlisted, hrecords⟩, fun hback other hother r hr => ?_, fun hall => ?_⟩
  · -- Writing is a prefix code, so `other` lists the vary pairs of `e`, which reading sorted.
    have hmem : r.vary ∈ e.records.map (·.vary) := by
      rw [vary_eq_of_encode_eq hback hother]
      exact List.mem_map_of_mem hr
    obtain ⟨q, hq, hqv⟩ := List.mem_map.1 hmem
    rw [← hqv]
    exact (wellFormed_of_decode h q hq).1.vary
  · -- Reading kept every vary pair in place, so it gave the entry the bytes list.
    have he : e = listed := by
      obtain ⟨records⟩ := e
      obtain ⟨listedRecords⟩ := listed
      simp only at hrecords hall ⊢
      rw [hrecords, List.map_congr_left fun r hr =>
        CacheRecord.mergeVary_of_pairwise (hall ⟨listedRecords⟩ hlisted r hr), List.map_id']
    rw [he]
    exact hlisted

/-- A record answered with two vary keys, listed out of name order. -/
def varyOutOfOrder : CacheRecord where
  key := ⟨"d41d8cd98f00b204e9800998ecf8427e"⟩
  url := "http://mock/api/v1/flags/"
  status := 200
  headers := [("etag", "\"v1\"")]
  body := [91, 93]
  requestTime := ⟨1700000000000000000⟩
  responseTime := ⟨1700000000250000000⟩
  expiresAt := ⟨1700000060250000000⟩
  vary := ⟨[("x-environment-key", "ser.test"), ("accept", "application/json")]⟩

/-- The written form of the entry holding `varyOutOfOrder`. -/
def varyOutOfOrderBytes : List UInt8 := (encode ⟨[varyOutOfOrder]⟩).toOption.getD []

/-- The bytes of `varyOutOfOrder` read as an entry whose vary keys are sorted: it is not
    written back as those bytes. -/
theorem encode_eq_iff_vary_increasing_outOfOrder :
    decode varyOutOfOrderBytes = .ok ⟨[varyOutOfOrder.mergeVary]⟩ ∧
      ((∃ listed : CacheEntry, encode listed = .ok varyOutOfOrderBytes ∧
        [varyOutOfOrder.mergeVary] = listed.records.map CacheRecord.mergeVary) ∧
      (encode ⟨[varyOutOfOrder.mergeVary]⟩ = .ok varyOutOfOrderBytes ↔
        ∀ listed : CacheEntry, encode listed = .ok varyOutOfOrderBytes →
          ∀ r ∈ listed.records, r.vary.pairs.Pairwise fun a b => a.1 < b.1)) :=
  have h : decode varyOutOfOrderBytes = .ok ⟨[varyOutOfOrder.mergeVary]⟩ := by
    have hopt : (decode varyOutOfOrderBytes).toOption = some ⟨[varyOutOfOrder.mergeVary]⟩ := by
      decide +kernel
    revert hopt
    cases decode varyOutOfOrderBytes <;> simp [Except.toOption]
  ⟨h, encode_eq_iff_vary_increasing h⟩

end Codec

end FeatureFlags
