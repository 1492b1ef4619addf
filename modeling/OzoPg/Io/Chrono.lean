import OzoPg.Types.Interval
import OzoPg.Types.TimePoint
import OzoPg.Io.RoundTrip

/-!
# Durations and time points on the wire

`send_impl` and `recv_impl` of `std::chrono::microseconds` and of
`std::chrono::system_clock::time_point`, which the round trip of `OzoPg.Io.RoundTrip` leaves out
because their conversions do arithmetic.

* `interval_encoding` — durations are sent in a canonical form and read back as they were;
* `timestamp_faithful_iff` — the received timestamps that become the time point they stand for;
* `timestamp_truncation` — what a time point loses on the wire, and that it keeps its place.
-/

namespace OzoPg

open Decoder
open Checked (Fits)

/-! ## Durations -/

/-- The three numbers of an interval are read as they are written. -/
theorem memberReads_readPgInterval (interval : PgInterval) :
    MemberReads readPgInterval (writePgInterval interval) interval := by
  rw [writePgInterval, List.append_assoc]
  refine (memberReads_writeIntegral interval.microseconds).bind ?_
  refine (memberReads_writeIntegral interval.days).bind ?_
  rw [← List.append_nil (writeIntegral interval.months)]
  exact (memberReads_writeIntegral interval.months).bind (MemberReads.pure _)

/-- A duration comes back as the two conversions make it. -/
theorem reads_recvImpl_interval (size : SizeType) (x : Int64) :
    Reads Istream.ofBytes (Scalar.interval.recvImpl size) (Scalar.interval.sendImpl x)
      (toChronoDuration (fromChronoDuration x)) :=
  (memberReads_readPgInterval _).read.map toChronoDuration

/-- Every duration is sent as its whole days and the rest below one day, and is read back as it
was, both without overflow. -/
theorem interval_encoding (x : Int64) :
    fromChronoDuration? x = some (fromChronoDuration x) ∧
      IsCanonical x (fromChronoDuration x) ∧
      toChronoDuration? (fromChronoDuration x) = some x ∧
      toChronoDuration (fromChronoDuration x) = x ∧
      ∀ size, Reads Istream.ofBytes (Scalar.interval.recvImpl size)
        (Scalar.interval.sendImpl x) x := by
  have hchecked := toChronoDuration?_fromChronoDuration x
  have hback := toChronoDuration_of_checked hchecked
  refine ⟨fromChronoDuration?_eq x, isCanonical_fromChronoDuration x, hchecked, hback, ?_⟩
  intro size
  have hreads := reads_recvImpl_interval size x
  rwa [hback] at hreads

/-! ## Time points -/

/-- Any eight bytes are a timestamp. -/
theorem reads_recvImpl_timestamp (size : SizeType) (v : Int64) :
    Reads Istream.ofBytes (Scalar.timestamp.recvImpl size) (writeIntegral v) (toTimePoint v) :=
  (memberReads_writeIntegral v).read.map toTimePoint

/-- The received timestamp `v` is rejected, or it becomes, without overflow, the time point
exactly `v` microseconds after 2000-01-01, which is sent back as `v`. -/
def FaithfulOrRejected (v : Int64) : Prop :=
  ∀ size rest,
    (∃ e, Scalar.timestamp.recvImpl size (Istream.ofBytes (writeIntegral v ++ rest)) = .error e) ∨
    ∃ t : Int64,
      Scalar.timestamp.recvImpl size (Istream.ofBytes (writeIntegral v ++ rest))
        = .ok (t, Istream.ofBytes rest) ∧
      toTimePoint? v = some t ∧
      t.toInt = epoch.toInt + v.toInt * 1000 ∧
      fromTimePoint? t = some v ∧
      Scalar.timestamp.sendImpl t = writeIntegral v

theorem faithfulOrRejected_of_representable {v : Int64} (h : Representable v) :
    FaithfulOrRejected v := by
  intro size rest
  have hback := fromTimePoint_toTimePoint h
  refine .inr ⟨toTimePoint v, reads_recvImpl_timestamp size v rest, toTimePoint?_eq h, ?_, ?_, ?_⟩
  · rw [toInt_toTimePoint h, toInt_epoch]
  · rw [fromTimePoint?_eq (fits_toTimePoint_sub h), hback]
  · show writeIntegral (fromTimePoint (toTimePoint v)) = writeIntegral v
    rw [hback]

/-- Nothing is rejected, so a value that overflows is not faithful either. -/
theorem not_faithfulOrRejected {v : Int64} (h : ¬ Representable v) : ¬ FaithfulOrRejected v := by
  intro hfaithful
  rcases hfaithful 8 [] with ⟨e, herror⟩ | ⟨t, -, hchecked, -⟩
  · rw [reads_recvImpl_timestamp 8 v []] at herror
    cases herror
  · rw [toTimePoint?_eq_none h] at hchecked
    cases hchecked

theorem timestamp_faithful_iff (v : Int64) : FaithfulOrRejected v ↔ Representable v := by
  constructor
  · intro h
    by_contra hnot
    exact not_faithfulOrRejected hnot h
  · exact faithfulOrRejected_of_representable

/-- The values PostgreSQL uses for `infinity` and `-infinity` come out as the last microsecond
of 1999 and the first of 2000. -/
theorem infinity_not_faithful :
    ¬ FaithfulOrRejected Int64.maxValue ∧ toTimePoint Int64.maxValue = epoch - 1000 ∧
      ¬ FaithfulOrRejected Int64.minValue ∧ toTimePoint Int64.minValue = epoch :=
  ⟨not_faithfulOrRejected (by decide), by decide, not_faithfulOrRejected (by decide), by decide⟩

/-- The time point `t` is sent and read back without overflow as `t` without the part below a
microsecond of its distance to 2000-01-01. -/
structure TruncatesToMicroseconds (t : Int64) : Prop where
  send : fromTimePoint? t = some (fromTimePoint t)
  recv : toTimePoint? (fromTimePoint t) = some (toTimePoint (fromTimePoint t))
  wire : ∀ size, Reads Istream.ofBytes (Scalar.timestamp.recvImpl size)
    (Scalar.timestamp.sendImpl t) (toTimePoint (fromTimePoint t))
  value : (toTimePoint (fromTimePoint t)).toInt
    = epoch.toInt + (t.toInt - epoch.toInt).tdiv 1000 * 1000
  near : ((toTimePoint (fromTimePoint t)).toInt - t.toInt).natAbs < 1000
  whole : 1000 ∣ t.toInt → toTimePoint (fromTimePoint t) = t

/-- A time point whose distance to the epoch is representable survives but for its nanoseconds. -/
theorem truncatesToMicroseconds {t : Int64} (h : Fits (t.toInt - epoch.toInt)) :
    TruncatesToMicroseconds t := by
  rw [toInt_epoch] at h
  have hvalue := toInt_toTimePoint_fromTimePoint h
  have hspec := Checked.tdiv_tmod_spec (t.toInt - 946684800000000000) (d := 1000) (by decide)
  refine ⟨fromTimePoint?_eq h, toTimePoint?_eq (representable_fromTimePoint h), ?_, ?_, ?_, ?_⟩
  · exact fun size => reads_recvImpl_timestamp size _
  · rw [hvalue, toInt_epoch]
  · omega
  · intro hwhole
    apply Int64.toInt_inj.mp
    omega

/-- Truncation toward 2000-01-01 is monotone on both sides of it. -/
theorem fromTimePoint_monotone {t t' : Int64} (h : Fits (t.toInt - epoch.toInt))
    (h' : Fits (t'.toInt - epoch.toInt)) (hle : t ≤ t') : fromTimePoint t ≤ fromTimePoint t' := by
  rw [toInt_epoch] at h h'
  rw [Int64.le_iff_toInt_le] at hle ⊢
  rw [toInt_fromTimePoint h, toInt_fromTimePoint h']
  exact Int.tdiv_le_tdiv (by decide) (by omega)

/-- The order of received timestamps is that of the time points. -/
theorem toTimePoint_monotone {v v' : Int64} (h : Representable v) (h' : Representable v')
    (hle : v ≤ v') : toTimePoint v ≤ toTimePoint v' := by
  rw [Int64.le_iff_toInt_le] at hle ⊢
  rw [toInt_toTimePoint h, toInt_toTimePoint h']
  omega

/-- A time point whose distance to 2000-01-01 is representable loses less than a microsecond on
the wire, and two of them stay in order there and back. -/
theorem timestamp_truncation (t : Int64) (h : Fits (t.toInt - epoch.toInt)) :
    TruncatesToMicroseconds t ∧
      ∀ t' : Int64, Fits (t'.toInt - epoch.toInt) → t ≤ t' →
        fromTimePoint t ≤ fromTimePoint t' ∧
          toTimePoint (fromTimePoint t) ≤ toTimePoint (fromTimePoint t') := by
  refine ⟨truncatesToMicroseconds h, ?_⟩
  intro t' h' hle
  have hencoded := fromTimePoint_monotone h h' hle
  rw [toInt_epoch] at h h'
  exact ⟨hencoded, toTimePoint_monotone (representable_fromTimePoint h)
    (representable_fromTimePoint h') hencoded⟩

theorem timestamp_truncation_at_unix_epoch :
    Fits ((0 : Int64).toInt - epoch.toInt) ∧ TruncatesToMicroseconds 0 ∧
      fromTimePoint 0 ≤ fromTimePoint 1999 :=
  ⟨by decide, (timestamp_truncation 0 (by decide)).1,
    ((timestamp_truncation 0 (by decide)).2 1999 (by decide) (by decide)).1⟩

end OzoPg
