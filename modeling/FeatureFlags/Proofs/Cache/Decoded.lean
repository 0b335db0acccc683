import FeatureFlags.Proofs.Cache.StoredForm
import FeatureFlags.Proofs.Cache.KeyText

/-!
# What stored bytes can hold

Whatever bytes a cache file holds, the records read from them are well-formed
(`CacheRecord.WellFormed`) and their times are whole milliseconds: the reader checks the
key text and the calendar range of each time, reads the status from two bytes, builds the
vary keys in order of names, and makes each time from whole milliseconds. So a record read
from a file is written back as it was read, and reads back equal.

Reading is stated with `Codec.Yields d P`: whatever `d` reads, from any input, satisfies
`P`. It composes along `>>=`, so the reader of a record is taken field by field, in the
order of the layout.

* `Codec.yields_getRecord`: a record read is well-formed, with whole-millisecond times;
* `Codec.wellFormed_of_decode`: so is every record of a decoded entry.
-/

namespace FeatureFlags

/-! ### Times and vary keys as read -/

namespace Instant

/-- An instant made from milliseconds is in range and a whole millisecond. -/
theorem inRange_of_ofMillis? {ms : Int} {t : Instant} (h : ofMillis? ms = some t) :
    t.InRange ∧ t.floorMillis = t := by
  unfold ofMillis? at h
  split at h
  · rename_i hms
    cases h
    simp only [Bool.and_eq_true, decide_eq_true_eq] at hms
    refine ⟨?_, ?_⟩
    · simp only [InRange, last, minMillis, maxMillis] at hms ⊢
      omega
    · simp only [floorMillis, millis]
      congr 1
      omega
  · cases h

end Instant

namespace VaryKeys

/-- Inserting a pair keeps the names in increasing order. -/
theorem pairwise_insert_go {name value : String} :
    ∀ {l : List (String × String)}, l.Pairwise (fun a b => a.1 < b.1) →
      (insert.go name value l).Pairwise fun a b => a.1 < b.1
  | [], _ => List.pairwise_singleton _ _
  | (k, v) :: rest, hl => by
    rw [List.pairwise_cons] at hl
    simp only [insert.go]
    split
    · rename_i hlt
      refine List.Pairwise.cons ?_ (List.Pairwise.cons hl.1 hl.2)
      intro q hq
      rcases List.mem_cons.1 hq with rfl | hq
      · exact hlt
      · exact String.lt_trans hlt (hl.1 q hq)
    · split
      · -- The pair of the same name is replaced.
        rename_i heq
        subst heq
        exact List.Pairwise.cons hl.1 hl.2
      · rename_i hnlt hne
        have hlt : k < name := lt_of_le_of_ne (not_lt.1 hnlt) fun h => hne h.symm
        refine List.Pairwise.cons ?_ (pairwise_insert_go hl.2)
        intro q hq
        rcases mem_insert_go hq with rfl | hq
        · exact hlt
        · exact hl.1 q hq

/-- Vary keys built from any pairs have their names in increasing order. -/
theorem pairwise_ofList (pairs : List (String × String)) :
    (ofList pairs).pairs.Pairwise fun a b => a.1 < b.1 := by
  suffices h : ∀ (l : List (String × String)) (acc : VaryKeys),
      acc.pairs.Pairwise (fun a b => a.1 < b.1) →
      (l.foldl (fun vk (kv : String × String) => vk.insert kv.1 kv.2) acc).pairs.Pairwise
        fun a b => a.1 < b.1 from h pairs {} List.Pairwise.nil
  intro l
  induction l with
  | nil => exact fun _ h => h
  | cons p rest ih => exact fun acc hacc => ih _ (pairwise_insert_go hacc)

end VaryKeys

namespace Codec

/-! ### Readers and what they give -/

/-- Whatever `d` reads, from any input, satisfies `P`. -/
def Yields {α : Type} (d : Decoder α) (P : α → Prop) : Prop :=
  ∀ input v rest, d.run input = .ok (v, rest) → P v

section Yields

variable {α β : Type}

theorem Yields.any (d : Decoder α) : Yields d fun _ => True := fun _ _ _ _ => trivial

theorem Yields.pure {P : α → Prop} {v : α} (h : P v) : Yields (Pure.pure v) P := by
  intro input w rest hrun
  cases hrun
  exact h

theorem Yields.throw {P : α → Prop} (e : CacheError) : Yields (MonadExcept.throw e) P := by
  intro input w rest hrun
  cases hrun

/-- A value read and then another: what the first gives may be used to show what the second
    gives. -/
theorem Yields.bind {d : Decoder α} {f : α → Decoder β} {P : α → Prop} {Q : β → Prop}
    (hd : Yields d P) (hf : ∀ a, P a → Yields (f a) Q) : Yields (d >>= f) Q := by
  intro input v rest hrun
  rw [StateT.run_bind] at hrun
  obtain ⟨⟨a, mid⟩, ha, hrest⟩ := Except.bind_eq_ok.1 hrun
  exact hf a (hd _ _ _ ha) _ _ _ hrest

/-- Nothing is read after a failure. -/
theorem Yields.throw_bind {f : α → Decoder β} {Q : β → Prop} (e : CacheError) :
    Yields (MonadExcept.throw e >>= f) Q :=
  (Yields.throw (P := fun _ => False) e).bind fun _ h => h.elim

end Yields

/-- Big-endian bytes give a number below the range of their count. -/
theorem ofBigEndian_lt (bytes : List UInt8) : ofBigEndian bytes < 256 ^ bytes.length := by
  induction bytes using List.reverseRecOn with
  | nil => simp [ofBigEndian]
  | append_singleton l b ih =>
    rw [ofBigEndian_append_singleton, List.length_append, List.length_singleton, Nat.pow_succ]
    have hb : b.toNat < 256 := b.toNat_lt
    calc ofBigEndian l * 256 + b.toNat
        < ofBigEndian l * 256 + 256 := by omega
      _ = (ofBigEndian l + 1) * 256 := by ring
      _ ≤ 256 ^ l.length * 256 := Nat.mul_le_mul_right _ ih

theorem yields_take (n : Nat) : Yields (take n) fun bytes => bytes.length ≤ n := by
  unfold take
  refine (Yields.any _).bind fun s _ => ?_
  split
  · exact Yields.throw _
  · exact (Yields.any _).bind fun _ _ => Yields.pure (List.length_take_le _ _)

theorem yields_getUnsigned (width : Nat) : Yields (getUnsigned width) (· < 256 ^ width) := by
  unfold getUnsigned
  refine (yields_take width).bind fun bytes hlen => Yields.pure ?_
  exact lt_of_lt_of_le (ofBigEndian_lt bytes) (Nat.pow_le_pow_right (by omega) hlen)

/-- A time read is in range and a whole millisecond. -/
theorem yields_getTime : Yields getTime fun t => t.InRange ∧ t.floorMillis = t := by
  unfold getTime
  refine (Yields.any _).bind fun ms _ => ?_
  split
  · exact Yields.pure (Instant.inRange_of_ofMillis? ‹_›)
  · exact Yields.throw _

/-- A record read is well-formed, and its times are whole milliseconds. -/
theorem yields_getRecord : Yields getRecord fun r => r.WellFormed ∧ r.floorMillis = r := by
  unfold getRecord
  refine (Yields.any _).bind fun keyText _ => ?_
  dsimp only
  split
  case h_2 => exact Yields.throw_bind _
  rename_i key hkey
  have hkey : CacheKey.isKeyText key.text = true := by
    rw [(CacheKey.ofHex?_eq_some hkey).1]
    exact (CacheKey.ofHex?_eq_some hkey).2
  rw [pure_bind]
  refine (Yields.any _).bind fun url _ => ?_
  refine (yields_getUnsigned 2).bind fun status hstatus => ?_
  refine (Yields.any _).bind fun headers _ => ?_
  refine yields_getTime.bind fun requestTime hrequest => ?_
  refine yields_getTime.bind fun responseTime hresponse => ?_
  refine yields_getTime.bind fun expiresAt hexpires => ?_
  refine (Yields.any _).bind fun pairs _ => ?_
  refine (Yields.any _).bind fun bodyLen _ => ?_
  refine (Yields.any _).bind fun body _ => Yields.pure ⟨?_, ?_⟩
  · exact {
      key := hkey
      status := hstatus
      requestTime := hrequest.1
      responseTime := hresponse.1
      expiresAt := hexpires.1
      vary := VaryKeys.pairwise_ofList pairs }
  · simp only [CacheRecord.floorMillis, hrequest.2, hresponse.2, hexpires.2]

/-- Records read one after the other, after some that satisfy `P`, all satisfy `P`. -/
theorem yields_getRecordsFrom {P : CacheRecord → Prop} (hP : Yields getRecord P) :
    ∀ (n : Nat) (acc : List CacheRecord), (∀ r ∈ acc, P r) →
      Yields (getRecordsFrom n acc) fun records => ∀ r ∈ records, P r
  | 0, acc, hacc => Yields.pure fun r hr => hacc r (List.mem_reverse.1 hr)
  | n + 1, acc, hacc => by
    unfold getRecordsFrom
    refine hP.bind fun r hr => yields_getRecordsFrom hP n (r :: acc) ?_
    intro q hq
    rcases List.mem_cons.1 hq with rfl | hq
    · exact hr
    · exact hacc q hq

/-- What a reader gives, run on some bytes, satisfies what it yields. -/
theorem Yields.of_map {α : Type} {d : Decoder α} {P : α → Prop} (hd : Yields d P) {input : Input}
    {v : α} (h : (d.run input).map (·.1) = .ok v) : P v := by
  rcases hrun : d.run input with e | ⟨w, rest⟩
  · rw [hrun] at h
    cases h
  · rw [hrun] at h
    cases h
    exact hd _ _ _ hrun

/-- Every record of an entry read from any bytes is well-formed, with whole-millisecond
    times. -/
theorem wellFormed_of_decode {bytes : List UInt8} {e : CacheEntry} (h : decode bytes = .ok e) :
    ∀ r ∈ e.records, r.WellFormed ∧ r.floorMillis = r := by
  unfold decode at h
  refine Yields.of_map (P := fun e : CacheEntry => ∀ r ∈ e.records, r.WellFormed ∧ r.floorMillis = r)
    ?_ h
  dsimp only
  refine (Yields.any _).bind fun magicBytes _ => ?_
  split
  · exact Yields.throw_bind _
  refine (Yields.any _).bind fun version _ => ?_
  split
  · exact Yields.throw_bind _
  refine (Yields.any _).bind fun count _ => ?_
  refine (yields_getRecordsFrom yields_getRecord count [] nofun).bind fun records hrecords => ?_
  refine (Yields.any _).bind fun s _ => ?_
  split
  · exact Yields.throw_bind _
  · exact Yields.pure hrecords

end Codec

end FeatureFlags
