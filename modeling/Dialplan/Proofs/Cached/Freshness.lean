import Dialplan.Build.Value
import Dialplan.Connect.Cache

/-! How long a record is fresh. The lifetime of a record is counted in words of milliseconds, so a
lifetime that does not fit loses its high bits. Below that freshness is exact, and above it a
record is stale too early, but never fresh too long (`freshness`). -/

namespace Dialplan

namespace Duration

theorem toNat_millisWord_eq_mod (d : Duration) : d.millisWord.toNat = d.millis % UInt64.size :=
  UInt64.toNat_ofNat'

/-- The milliseconds of a length of time fit into a word. -/
theorem millis_lt_size_iff {d : Duration} : d.millis < UInt64.size ↔ d < ofMillis UInt64.size :=
  Nat.div_lt_iff_lt_mul (by decide)

/-- A length of time whose milliseconds fit in a word. -/
theorem toNat_millisWord {d : Duration} (h : d < ofMillis UInt64.size) :
    d.millisWord.toNat = d.millis := by
  rw [toNat_millisWord_eq_mod, Nat.mod_eq_of_lt (millis_lt_size_iff.mpr h)]

end Duration

namespace CacheRecord

/-- Is a moment at most so much later than a record was written? The times are compared exactly. -/
def InLifetime (cached : CacheRecord) (ttl : Duration) (now : UInt64) : Prop :=
  Duration.ofMillis now.toNat ≤ Duration.ofMillis cached.timestamp.toNat + ttl

/-- The last word up to which a record is fresh, if there is one: the milliseconds of the lifetime
are cut off to a word. -/
def freshFor (cached : CacheRecord) (ttl : Duration) : Nat :=
  cached.timestamp.toNat + ttl.millis % UInt64.size

/-- What is promised of the freshness of a record that may live for some time. -/
structure Fades (cached : CacheRecord) (ttl : Duration) : Prop where
  /-- Freshness is exact if the lifetime fits into a word of milliseconds, and otherwise only at
  moments that what is left of it covers. -/
  exact_iff : ∀ now, (cached.isFresh ttl now = true ↔ cached.InLifetime ttl now) ↔
    ttl < Duration.ofMillis UInt64.size ∨ now.toNat ≤ cached.freshFor ttl
  /-- A record is never fresh after its lifetime. -/
  inLifetime : ∀ now, cached.isFresh ttl now = true → cached.InLifetime ttl now
  /-- A stale record stays stale. -/
  stale : ∀ now later, now ≤ later → cached.isFresh ttl now = false →
    cached.isFresh ttl later = false
  /-- A longer lifetime that fits leaves a fresh record fresh. -/
  longer : ∀ longer now, ttl ≤ longer → longer < Duration.ofMillis UInt64.size →
    cached.isFresh ttl now = true → cached.isFresh longer now = true

variable {cached : CacheRecord} {ttl : Duration} {now : UInt64}

/-- The parts of a millisecond do not count. -/
theorem inLifetime_iff : cached.InLifetime ttl now ↔
    now.toNat ≤ cached.timestamp.toNat + ttl.millis := by
  have hpos : 0 < Duration.perMilli := by decide
  rw [InLifetime, Duration.ofMillis, Duration.ofMillis, ← Nat.le_div_iff_mul_le hpos,
    Nat.mul_comm cached.timestamp.toNat, Nat.mul_add_div hpos]
  rfl

theorem isFresh_iff : cached.isFresh ttl now = true ↔ now.toNat ≤ cached.freshFor ttl := by
  rw [isFresh, decide_eq_true_iff, freshUntil, Nat.le_min, Duration.toNat_millisWord_eq_mod]
  exact and_iff_left (Nat.le_pred_of_lt now.toNat_lt_size)

theorem freshFor_eq (h : ttl < Duration.ofMillis UInt64.size) :
    cached.freshFor ttl = cached.timestamp.toNat + ttl.millis := by
  rw [freshFor, Nat.mod_eq_of_lt (Duration.millis_lt_size_iff.mpr h)]

theorem freshFor_le (cached : CacheRecord) (ttl : Duration) :
    cached.freshFor ttl ≤ cached.timestamp.toNat + ttl.millis :=
  Nat.add_le_add_left (Nat.mod_le _ _) _

/-- A lifetime that does not fit covers all moments that there are. -/
theorem inLifetime_of_size_le (h : ¬ ttl < Duration.ofMillis UInt64.size) :
    cached.InLifetime ttl now := by
  rw [inLifetime_iff]
  have hsize : UInt64.size ≤ ttl.millis := Nat.not_lt.mp (mt Duration.millis_lt_size_iff.mp h)
  have hlt := now.toNat_lt_size
  omega

end CacheRecord

/-- How long a record is fresh, whenever it was written and however long it may live. -/
theorem freshness (cached : CacheRecord) (ttl : Duration) : cached.Fades ttl where
  exact_iff now := by
    rw [CacheRecord.isFresh_iff]
    by_cases hfits : ttl < Duration.ofMillis UInt64.size
    · rw [CacheRecord.inLifetime_iff, CacheRecord.freshFor_eq hfits]
      exact iff_of_true Iff.rfl (.inl hfits)
    · rw [iff_true_right (CacheRecord.inLifetime_of_size_le hfits), or_iff_right hfits]
  inLifetime now h := CacheRecord.inLifetime_iff.mpr
    (Nat.le_trans (CacheRecord.isFresh_iff.mp h) (cached.freshFor_le ttl))
  stale now later hle h := by
    rw [Bool.eq_false_iff] at h ⊢
    exact mt (fun hlater => CacheRecord.isFresh_iff.mpr
      (Nat.le_trans (UInt64.le_iff_toNat_le.mp hle) (CacheRecord.isFresh_iff.mp hlater))) h
  longer longer now hle hfits h := by
    rw [CacheRecord.isFresh_iff, CacheRecord.freshFor_eq hfits]
    have hmillis : ttl.millis ≤ longer.millis := Nat.div_le_div_right hle
    exact Nat.le_trans (CacheRecord.isFresh_iff.mp h)
      (Nat.le_trans (cached.freshFor_le ttl) (Nat.add_le_add_left hmillis _))

/-- A lifetime of `2 ^ 64` milliseconds, as a program's number comes out in whole seconds. -/
def overlongLifetime : Duration := 18446744073709552 * Duration.perSecond

def secondOldRecord : CacheRecord := ⟨1000, "a", 5⟩

/-- A program may ask for this lifetime. A record that is a second old is stale then, although it
is in its lifetime, and although it would be fresh with a lifetime of a second. -/
theorem overlong_lifetime_stale :
    Build.Value.toDuration (.number (.real ⟨false, UInt64.size * Binary64.one⟩)) "cached" =
      .ok overlongLifetime ∧
    ¬ (secondOldRecord.isFresh overlongLifetime 2000 = true ↔
      secondOldRecord.InLifetime overlongLifetime 2000) ∧
    secondOldRecord.isFresh (Duration.ofMillis 1000) 2000 = true := by
  have hasked : Duration.ofMillisReal? ⟨false, UInt64.size * Binary64.one⟩ =
      some overlongLifetime := by decide +kernel
  have hliving : secondOldRecord.InLifetime overlongLifetime 2000 :=
    CacheRecord.inLifetime_iff.mpr (by decide)
  have hstale : secondOldRecord.isFresh overlongLifetime 2000 = false := by decide
  refine ⟨?_, fun hiff => ?_, by decide⟩
  · rw [Build.Value.toDuration, hasked]
    rfl
  · cases hstale.symm.trans (hiff.mpr hliving)

end Dialplan
