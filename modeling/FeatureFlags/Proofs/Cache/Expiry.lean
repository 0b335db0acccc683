import Mathlib
import FeatureFlags.Proofs.Service.Revalidation

/-!
# When a record expires

A record made from a response, or renewed by a revalidation, expires a time to live after
its response, and never past the last instant of the calendar range: a time to live too
long for that range, up to any number of seconds, expires the record at the last instant.
Adding a span is saturating arithmetic. The span is first cut to `2^63 - 1` milliseconds,
already far longer than the whole range, and a sum past the end is the last instant. So the
expiry is the smaller of the response time plus the time to live and the last instant, in
nanoseconds and exactly.

Everything else follows from that one equation (`Instant.addSpan_nanos`): a record expires
no earlier than its response, it is fresh exactly before that expiry, a record made stale is
stale from its response on, and the expiry stays in the calendar range, so the record is
written and read back like every other; the last instant is written as its last whole
millisecond, `8210266876799999`.

* `Instant.addSpan_nanos`: a span added to an instant in range, saturating;
* `CacheRecord.expiry_saturates`: the expiry of a record made or renewed, what it decides,
  and the stored form of the record.
-/

namespace FeatureFlags

namespace Instant

/-- The longest span added reaches past the last instant from the first one. -/
theorem last_lt_add_maxSpan : last.nanos < minMillis * 1000000 + maxSpan := by
  simp only [last, maxMillis, minMillis, maxSpan]
  norm_num

/-- A span added to an instant in range gives the instant that many nanoseconds later, or
    the last instant when that is past it. -/
theorem addSpan_nanos {t : Instant} (h : t.InRange) (d : Duration) :
    (t.addSpan d).nanos = min (t.nanos + d.totalNanos) last.nanos := by
  obtain ⟨hlo, -⟩ := h
  have hmax := last_lt_add_maxSpan
  unfold addSpan
  dsimp only
  -- Whether the span was cut or not, a sum past the end is the last instant.
  split_ifs with hpast
  · omega
  · dsimp only
    omega

/-- The longest time to live the client passes, `2^64 - 1` seconds, reaches the last instant. -/
example : Instant.addSpan ⟨1700000000250999999⟩ (.ofSecs (2 ^ 64 - 1)) = last := by decide

/-- The whole milliseconds of an instant at most the last one. -/
theorem millis_min (a : Int) :
    (⟨min a last.nanos⟩ : Instant).millis = min (a / 1000000) maxMillis := by
  simp only [millis, last, maxMillis]
  omega

end Instant

namespace CacheRecord

/-- A record made stale is fresh only before its response. -/
theorem isFresh_forceStale (r : CacheRecord) (now : Instant) :
    r.forceStale.isFresh now = true ↔ now.nanos < r.responseTime.nanos := by
  simp only [isFresh, forceStale, Instant.before]
  exact decide_eq_true_iff

/-- A record as its fields have it, with any expiry in range, is written and read back. -/
theorem encode_single {r : CacheRecord} (hwf : r.WellFormed) (hfit : r.LengthsFit) :
    ∃ bytes, Codec.encode ⟨[r]⟩ = .ok bytes ∧ Codec.decode bytes = .ok ⟨[r.floorMillis]⟩ := by
  have hentry : CacheEntry.LengthsFit ⟨[r]⟩ := by
    refine ⟨by simp, fun r' hr' => ?_⟩
    rw [List.mem_singleton.1 hr']
    exact hfit
  obtain ⟨bytes, hb⟩ := (Codec.writesWhen_encode ⟨[r]⟩).ok hentry
  refine ⟨bytes, hb, ?_⟩
  have hrecords : ∀ r' ∈ [r], r'.WellFormed := by
    simp only [List.mem_singleton, forall_eq]
    exact hwf
  exact Codec.decode_of_encode hrecords hb

/-- The expiry of a record made from a response, or renewed by a revalidation, saturates at
    the last instant: it is the response time plus the time to live, or the last instant
    when that is past it. So it is never before the response; the record is fresh exactly
    before it; a record made stale is stale from its response on; and the expiry is in range
    and written as its whole milliseconds, at most `8210266876799999`, so that a record whose
    other fields are as their types have them is written and read back. -/
theorem expiry_saturates (key : CacheKey) (url : String) (status : Nat)
    (headers : List (String × String)) (body : List UInt8) (requestTime responseTime : Instant)
    (ttl : Duration) (vary : VaryKeys) (hrt : responseTime.InRange) :
    ∀ r : CacheRecord,
      (r = create key url status headers body requestTime responseTime ttl vary ∨
        ∃ r₀ : CacheRecord, r = r₀.refresh requestTime responseTime ttl) →
      r.responseTime = responseTime ∧
      r.expiresAt.nanos = min (responseTime.nanos + ttl.totalNanos) Instant.last.nanos ∧
      responseTime.nanos ≤ r.expiresAt.nanos ∧
      (∀ now : Instant, r.isFresh now = true ↔
        now.nanos < min (responseTime.nanos + ttl.totalNanos) Instant.last.nanos) ∧
      (∀ now : Instant, responseTime.nanos ≤ now.nanos → r.forceStale.isFresh now = false) ∧
      r.expiresAt.InRange ∧
      r.expiresAt.millis = min ((responseTime.nanos + ttl.totalNanos) / 1000000) 8210266876799999 ∧
      (CacheKey.isKeyText r.key.text = true → r.status < 2 ^ 16 → r.requestTime.InRange →
        r.vary.pairs.Pairwise (fun a b => a.1 < b.1) → r.LengthsFit →
        ∃ bytes, Codec.encode ⟨[r]⟩ = .ok bytes ∧ Codec.decode bytes = .ok ⟨[r.floorMillis]⟩) := by
  intro r hr
  -- Both ways of setting the expiry add the time to live to the response time.
  have htimes : r.responseTime = responseTime ∧ r.expiresAt = responseTime.addSpan ttl := by
    rcases hr with rfl | ⟨r₀, rfl⟩
    · exact ⟨rfl, rfl⟩
    · exact ⟨rfl, rfl⟩
  obtain ⟨hresp, hexp⟩ := htimes
  have hnanos : r.expiresAt.nanos = min (responseTime.nanos + ttl.totalNanos) Instant.last.nanos := by
    rw [hexp, Instant.addSpan_nanos hrt]
  have hinRange : r.expiresAt.InRange := hexp ▸ Instant.inRange_addSpan hrt ttl
  have hlast := hrt.2
  refine ⟨hresp, hnanos, by omega, fun now => ?_, fun now hnow => ?_, hinRange, ?_,
    fun hkey hstatus hreq hvary hfit => encode_single ⟨hkey, hstatus, hreq, hresp ▸ hrt, hinRange, hvary⟩ hfit⟩
  · simp [isFresh, Instant.before, hnanos]
  · have hstale := (isFresh_forceStale r now).not.2 (by rw [hresp]; omega)
    simpa using hstale
  · have hmillis := Instant.millis_min (responseTime.nanos + ttl.totalNanos)
    rw [← hnanos] at hmillis
    exact hmillis

/-- The longest time to live the client passes: `2^64 - 1` seconds. -/
def longestTtl : Duration := .ofSecs (2 ^ 64 - 1)

/-- A response received in November 2023, in nanoseconds since the epoch. -/
def arrival : Instant := ⟨1700000000250999999⟩

/-- A record made or renewed at `arrival` with the longest time to live the client passes. -/
theorem expiry_saturates_longestTtl :
    arrival.InRange ∧
      ∀ r : CacheRecord,
        (r = create ⟨"d41d8cd98f00b204e9800998ecf8427e"⟩ "http://mock/api/v1/flags/" 200 [] []
            ⟨1700000000000123456⟩ arrival longestTtl {} ∨
          ∃ r₀ : CacheRecord, r = r₀.refresh ⟨1700000000000123456⟩ arrival longestTtl) →
        r.responseTime = arrival ∧
        r.expiresAt.nanos = min (arrival.nanos + longestTtl.totalNanos) Instant.last.nanos ∧
        arrival.nanos ≤ r.expiresAt.nanos ∧
        (∀ now : Instant, r.isFresh now = true ↔
          now.nanos < min (arrival.nanos + longestTtl.totalNanos) Instant.last.nanos) ∧
        (∀ now : Instant, arrival.nanos ≤ now.nanos → r.forceStale.isFresh now = false) ∧
        r.expiresAt.InRange ∧
        r.expiresAt.millis =
          min ((arrival.nanos + longestTtl.totalNanos) / 1000000) 8210266876799999 ∧
        (CacheKey.isKeyText r.key.text = true → r.status < 2 ^ 16 → r.requestTime.InRange →
          r.vary.pairs.Pairwise (fun a b => a.1 < b.1) → r.LengthsFit →
          ∃ bytes, Codec.encode ⟨[r]⟩ = .ok bytes ∧
            Codec.decode bytes = .ok ⟨[r.floorMillis]⟩) :=
  have hrt : arrival.InRange := by decide
  ⟨hrt, expiry_saturates _ _ _ _ _ _ _ _ _ hrt⟩

end CacheRecord

end FeatureFlags
