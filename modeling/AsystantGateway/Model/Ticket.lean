import AsystantGateway.Library.CheckedInt
import AsystantGateway.Model.Error
import AsystantGateway.Model.Identity

/-!
# The claims check

A ticket's times are signed by a product but chosen by whoever holds its
secret: any 64-bit integers. They are compared with a clock reading in whole
seconds by machine arithmetic, and it is the order of the comparisons that
keeps every sum and difference in range. The check is modelled with arithmetic
that notices overflow, so that its absence is a theorem.
-/

namespace AsystantGateway

open CheckedInt

/-- One second in nanoseconds. -/
def secondNanos : Int := 1000000000

/-- How long a session lasts at most: ten minutes. -/
def sessionNanos : Int := 10 * 60 * secondNanos

/-- The last second of the date library. -/
def maxTimestamp : Int := 8210266876799

/-- The first second of the date library. -/
def minTimestamp : Int := -8334601228800

/-- The last second of the year 9999. Up to there the stored text of an instant
has a year of four digits and orders as the instant does. -/
def lastTextTimestamp : Int := 253402300799

/-- A reading of the system clock: later than the first two minutes of 1970,
and with ten minutes to go before the end of the year 9999. -/
structure Reading where
  nanos : Instant
  started : 120 * secondNanos ≤ nanos
  representable : sessionNanos + nanos ≤ lastTextTimestamp * secondNanos

namespace Reading

/-- The whole seconds of a reading. -/
def timestamp (reading : Reading) : Int64 :=
  .ofInt (reading.nanos / secondNanos)

theorem toInt_timestamp (reading : Reading) :
    reading.timestamp.toInt = reading.nanos / secondNanos := by
  have started := reading.started
  have representable := reading.representable
  unfold sessionNanos secondNanos at representable
  unfold secondNanos at started
  unfold lastTextTimestamp at representable
  unfold timestamp secondNanos
  exact Int64.toInt_ofInt_of_le (by omega) (by omega)

theorem timestamp_bounds (reading : Reading) :
    120 ≤ reading.timestamp.toInt ∧
      reading.timestamp.toInt ≤ lastTextTimestamp := by
  have started := reading.started
  have representable := reading.representable
  rw [toInt_timestamp]
  unfold lastTextTimestamp at representable ⊢
  unfold sessionNanos secondNanos at representable
  unfold secondNanos at started ⊢
  constructor <;> omega

end Reading

/-- The instant of a whole second, when the date library has it. -/
def fromTimestamp (seconds : Int64) : Option Instant :=
  if minTimestamp ≤ seconds.toInt ∧ seconds.toInt ≤ maxTimestamp then
    some (seconds.toInt * secondNanos)
  else
    none

namespace TicketClaims

/-- The claims that must be present and short. -/
def texts (claims : TicketClaims) : List String :=
  [claims.iss, claims.sub, claims.tenant, claims.sid, claims.jti]

/-- Check the claims at a time in whole seconds. The comparisons are made in
this order and stop at the first that refuses; `none` is an overflow. -/
def validate
    (claims : TicketClaims)
    (now : Int64) : Option (Except AppError Unit) :=
  if claims.texts.any (fun text => text = "" || text.utf8ByteSize > 200) ∨
      claims.sessionExp ≤ now ∨ claims.exp ≤ now then
    some (.error .authentication)
  else do
    let latest ← checkedAdd now 5
    if claims.iat > latest then
      some (.error .authentication)
    else
      let earliest ← checkedSub now 120
      if claims.iat < earliest then
        some (.error .authentication)
      else
        let lifetime ← checkedSub claims.exp claims.iat
        if lifetime > 120 ∨ claims.exp ≤ claims.iat then
          some (.error .authentication)
        else
          some (.ok ())

/-- What the check accepts, in exact arithmetic. -/
structure Acceptable (claims : TicketClaims) (now : Int) : Prop where
  texts : ∀ text ∈ claims.texts, text ≠ "" ∧ text.utf8ByteSize ≤ 200
  sessionAlive : now < claims.sessionExp.toInt
  alive : now < claims.exp.toInt
  notFuture : claims.iat.toInt ≤ now + 5
  recent : now - 120 ≤ claims.iat.toInt
  lifetime : claims.exp.toInt - claims.iat.toInt ≤ 120
  ordered : claims.iat.toInt < claims.exp.toInt

/-- On every clock reading the check accepts exactly the acceptable claims,
refuses all others, and never overflows. -/
theorem validate_eq
    (claims : TicketClaims)
    (reading : Reading) :
    (claims.Acceptable reading.timestamp.toInt ∧
        claims.validate reading.timestamp = some (.ok ())) ∨
      (¬ claims.Acceptable reading.timestamp.toInt ∧
        claims.validate reading.timestamp =
          some (.error .authentication)) := by
  obtain ⟨started, representable⟩ := reading.timestamp_bounds
  unfold lastTextTimestamp at representable
  generalize reading.timestamp = now at started representable ⊢
  unfold validate
  by_cases early : claims.texts.any
      (fun text => text = "" || text.utf8ByteSize > 200) ∨
        claims.sessionExp ≤ now ∨ claims.exp ≤ now
  · refine .inr ⟨?_, if_pos early⟩
    rintro ⟨texts, sessionAlive, alive, -, -, -, -⟩
    rcases early with bad | sessionDead | dead
    · obtain ⟨text, member, isBad⟩ := List.any_eq_true.mp bad
      obtain ⟨present, short⟩ := texts text member
      simp only [present, decide_false, Bool.false_or,
        decide_eq_true_eq] at isBad
      omega
    · rw [Int64.le_iff_toInt_le] at sessionDead
      omega
    · rw [Int64.le_iff_toInt_le] at dead
      omega
  · rw [if_neg early]
    rw [not_or, not_or, Int64.le_iff_toInt_le, Int64.le_iff_toInt_le] at early
    obtain ⟨textsGood, sessionAlive, alive⟩ := early
    obtain ⟨latest, latestFits⟩ : ∃ latest, checkedAdd now 5 = some latest :=
      exists_fit (by simp; omega) (by simp; omega)
    obtain ⟨earliest, earliestFits⟩ :
        ∃ earliest, checkedSub now 120 = some earliest :=
      exists_fit (by simp; omega) (by simp; omega)
    have latestValue : latest.toInt = now.toInt + 5 :=
      checkedAdd_eq_some_iff.mp latestFits
    have earliestValue : earliest.toInt = now.toInt - 120 :=
      checkedSub_eq_some_iff.mp earliestFits
    simp only [latestFits, earliestFits, Option.bind_eq_bind,
      Option.bind_some, gt_iff_lt, Int64.lt_iff_toInt_lt,
      Int64.le_iff_toInt_le, latestValue, earliestValue]
    have expBound := claims.exp.toInt_lt
    by_cases future : now.toInt + 5 < claims.iat.toInt
    · refine .inr ⟨fun acceptable => ?_, if_pos future⟩
      have := acceptable.notFuture
      omega
    · rw [if_neg future]
      by_cases stale : claims.iat.toInt < now.toInt - 120
      · refine .inr ⟨fun acceptable => ?_, if_pos stale⟩
        have := acceptable.recent
        omega
      · rw [if_neg stale]
        -- The earlier comparisons keep this difference within 64 bits.
        obtain ⟨lifetime, lifetimeFits⟩ :
            ∃ lifetime, checkedSub claims.exp claims.iat = some lifetime :=
          exists_fit (by omega) (by omega)
        have lifetimeValue := checkedSub_eq_some_iff.mp lifetimeFits
        have limit : (120 : Int64).toInt = 120 := by decide
        simp only [lifetimeFits, Option.bind_some, lifetimeValue, limit]
        by_cases tooLong : 120 < claims.exp.toInt - claims.iat.toInt ∨
            claims.exp.toInt ≤ claims.iat.toInt
        · refine .inr ⟨fun acceptable => ?_, if_pos tooLong⟩
          have short := acceptable.lifetime
          have ordered := acceptable.ordered
          omega
        · refine .inl ⟨⟨?_, by omega, by omega, by omega, by omega, by omega,
            by omega⟩, if_neg tooLong⟩
          intro text member
          have good : ¬ (text = "" ∨ 200 < text.utf8ByteSize) := by
            intro bad
            exact textsGood (List.any_eq_true.mpr
              ⟨text, member, by simpa using bad⟩)
          rw [not_or, Nat.not_lt] at good
          exact good

end TicketClaims

end AsystantGateway
