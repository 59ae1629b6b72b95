import DoxGovernance.Auth.Service
import DoxGovernance.Lib.Binary64

/-!
# Access tokens with a lifetime of their own

`create_access_token` takes a lifetime and falls back on the configured one when it is given
none, and also when it is given zero. The expiry is a datetime, so it lies in the years 1 to
9999; its seconds since the epoch are a double, of which the whole part is signed.
-/

set_option autoImplicit false

namespace Dox

/-- What adding a lifetime raises where the sum is no datetime. -/
structure OverflowError where
  message : String := "date value out of range"

/-- Microseconds as in `Datetime.instant` that lie in the years 1 to 9999. -/
def InCalendar (instant : Int) : Prop :=
  86400000000 ≤ instant ∧ instant < 86400000000 * 3652060

instance (instant : Int) : Decidable (InCalendar instant) := inferInstanceAs (Decidable (_ ∧ _))

example : ({year := 9999, month := 12, day := 31} : Date).toordinal + 1 = 3652060 := by
  decide +kernel

/-- The seconds since the epoch. -/
def sinceEpoch (instant : Int) : ℚ := (instant - Datetime.epoch.instant : Int) / 1000000

/-- `datetime.timestamp()`. -/
def timestamp (instant : Int) : ℚ := Binary64.ofRat (sinceEpoch instant)

namespace AuthConfig
variable (config : AuthConfig)

/-- `timedelta(minutes=...)`, in microseconds. -/
def defaultLifetime : Int := 60000000 * config.accessTokenExpireMinutes

/-- `expires_delta or ...`: a lifetime of zero is false. -/
def lifetime : Option Int → Int
  | none => config.defaultLifetime
  | some delta => if delta = 0 then config.defaultLifetime else delta

def createAccessToken (now : Datetime) (userId : Uuid) (tenantId role : String)
    (expiresDelta : Option Int) : Except OverflowError String :=
  let expire := now.instant + config.lifetime expiresDelta
  if InCalendar expire then
    .ok (config.jwt.encode ⟨Text.uuid userId, tenantId, role, Binary64.toInt (timestamp expire)⟩)
  else .error {}

end AuthConfig

section Expiry
variable {instant : Int}

theorem epoch_instant : Datetime.epoch.instant = 62135683200000000 := by decide +kernel

theorem le_sinceEpoch_iff {n : Int} : (n : ℚ) ≤ sinceEpoch instant ↔
    n ≤ (instant - Datetime.epoch.instant) / 1000000 := by
  rw [sinceEpoch, Int.le_ediv_iff_mul_le (by decide), le_div_iff₀ (by norm_num)]
  norm_cast

theorem sinceEpoch_bounds (h : InCalendar instant) :
    -2 ^ (51 : ℤ) < sinceEpoch instant ∧ sinceEpoch instant < 2 ^ (51 : ℤ) := by
  obtain ⟨hlow, hhigh⟩ := h
  rw [sinceEpoch, lt_div_iff₀ (by norm_num), div_lt_iff₀ (by norm_num), epoch_instant]
  norm_num
  constructor
  · have hcast : (86400000000 : ℚ) ≤ instant := by exact_mod_cast hlow
    linarith
  · have hcast : (instant : ℚ) < 86400000000 * 3652060 := by exact_mod_cast hhigh
    linarith

/-- The signed second reaches those at or before the expiry, and one that it is truncated to. -/
theorem le_expiry_iff (h : InCalendar instant) {n : Int} : n ≤ Binary64.toInt (timestamp instant) ↔
    (n : ℚ) ≤ sinceEpoch instant ∨ Binary64.TruncatesUpTo (sinceEpoch instant) n :=
  Binary64.le_toInt_iff (sinceEpoch_bounds h).1 (sinceEpoch_bounds h).2

/-- From 1970 to the year 2514 a microsecond is more than half a unit of the last place. -/
theorem not_truncatesUpTo (hnonneg : 0 ≤ sinceEpoch instant)
    (hlt : sinceEpoch instant < 2 ^ (34 : ℤ)) (n : Int) :
    ¬Binary64.TruncatesUpTo (sinceEpoch instant) n := by
  rintro ⟨hbelow, ⟨-, hnear⟩ | ⟨hneg, -⟩⟩
  · have hulp := Binary64.ulp_le (by decide) hnonneg hlt
    norm_num at hulp
    have hmicro : (1 : ℚ) / 1000000 ≤ n - sinceEpoch instant := by
      rw [sinceEpoch, div_lt_iff₀ (by norm_num)] at hbelow
      have hint : instant - Datetime.epoch.instant + 1 ≤ n * 1000000 := by exact_mod_cast hbelow
      have hcast : ((instant - Datetime.epoch.instant : Int) : ℚ) + 1 ≤ n * 1000000 := by
        exact_mod_cast hint
      rw [sinceEpoch]
      linarith
    linarith
  · linarith

theorem sinceEpoch_mono {instant' : Int} (h : instant ≤ instant') :
    sinceEpoch instant ≤ sinceEpoch instant' := by
  have hcast : (instant : ℚ) ≤ instant' := by exact_mod_cast h
  rw [sinceEpoch, sinceEpoch, div_le_div_iff_of_pos_right (by norm_num)]
  push_cast
  linarith

end Expiry

/-- Until 2514 a token of the default lifetime is the one that `create_token` issues. -/
theorem createAccessToken_default (config : AuthConfig) (issue : Issue)
    (hnonneg : 0 ≤ sinceEpoch (issue.time.instant + config.defaultLifetime))
    (hlt : sinceEpoch (issue.time.instant + config.defaultLifetime) < 2 ^ (34 : ℤ)) :
    config.createAccessToken issue.time issue.user.id issue.user.tenantId issue.user.role.value
      none = .ok (config.token issue) := by
  have hafter : 0 ≤ issue.time.instant + config.defaultLifetime - Datetime.epoch.instant := by
    rw [sinceEpoch, le_div_iff₀ (by norm_num), zero_mul] at hnonneg
    exact_mod_cast hnonneg
  have hrange : InCalendar (issue.time.instant + config.defaultLifetime) := by
    have hbefore : issue.time.instant + config.defaultLifetime - Datetime.epoch.instant <
        2 ^ 34 * 1000000 := by
      rw [sinceEpoch, div_lt_iff₀ (by norm_num)] at hlt
      exact_mod_cast hlt
    rw [epoch_instant] at hafter hbefore
    unfold InCalendar
    omega
  have hexp : Binary64.toInt (timestamp (issue.time.instant + config.defaultLifetime)) =
      issue.time.timestampAfter config.accessTokenExpireMinutes := by
    refine eq_of_forall_le_iff fun n => ?_
    rw [le_expiry_iff hrange, or_iff_left (not_truncatesUpTo hnonneg hlt n), le_sinceEpoch_iff,
      Datetime.timestampAfter, ← AuthConfig.defaultLifetime, Int.tdiv_eq_ediv_of_nonneg hafter]
  rw [AuthConfig.createAccessToken, AuthConfig.lifetime, if_pos hrange, hexp]
  rfl

/-- The second of the epoch in which an instant lies. -/
def secondOf (instant : Int) : Int := (instant - Datetime.epoch.instant) / 1000000

namespace AuthConfig

/-- A token of an explicit lifetime decodes to its claims until the second in which the lifetime
ends has passed, and is refused after that. -/
def RoundTrips (config : AuthConfig) (userId : Uuid) (tenantId role : String) (delta : Int)
    (issued t : Datetime) : Prop :=
  ∃ token, config.createAccessToken issued userId tenantId role (some delta) = .ok token ∧
    if t.timegm ≤ secondOf (issued.instant + delta) then
      ∃ payload, decodeAccessToken (config.jwt.decode t) token = .ok payload ∧
        payload.sub = Text.uuid userId ∧ payload.tenantId = tenantId ∧ payload.role = role
    else ∃ message, decodeAccessToken (config.jwt.decode t) token = .error (.authentication message)

section RoundTrip
variable {config : AuthConfig} {userId : Uuid} {tenantId role : String} {delta : Int}
  {issued t : Datetime}

theorem lifetime_le (config : AuthConfig) (delta : Int) :
    delta ≤ config.lifetime (some delta) := by
  rw [lifetime]
  split
  · rename_i hzero
    have hnonneg : 0 ≤ config.defaultLifetime := by
      unfold defaultLifetime
      omega
    omega
  · exact le_refl delta

theorem decode_eq_ok_iff {jwt : Jwt} (hjwt : jwt.Correct) {payload decoded : TokenPayload} :
    decodeAccessToken (jwt.decode t) (jwt.encode payload) = .ok decoded ↔
      payload.Live t ∧ decoded = payload := by
  by_cases h : payload.Live t
  · rw [decodeAccessToken, hjwt, if_pos h, and_iff_right h, Except.ok.injEq]
    exact eq_comm
  · rw [decodeAccessToken, hjwt, if_neg h]
    exact iff_of_false (fun heq => nomatch heq) fun hlive => h hlive.1

theorem decode_refuses_iff {jwt : Jwt} (hjwt : jwt.Correct) {payload : TokenPayload} :
    (∃ message, decodeAccessToken (jwt.decode t) (jwt.encode payload) =
      .error (.authentication message)) ↔ ¬payload.Live t := by
  by_cases h : payload.Live t
  · rw [decodeAccessToken, hjwt, if_pos h]
    exact iff_of_false (fun ⟨_, heq⟩ => nomatch heq) fun hdead => hdead h
  · rw [decodeAccessToken, hjwt, if_neg h]
    exact iff_of_true ⟨_, rfl⟩ h

/-- A decoded token is live up to the second that is signed. -/
theorem roundTrips_iff_live (hjwt : config.jwt.Correct) :
    config.RoundTrips userId tenantId role delta issued t ↔
      InCalendar (issued.instant + config.lifetime (some delta)) ∧
      (t.timegm ≤ Binary64.toInt (timestamp (issued.instant + config.lifetime (some delta))) ↔
        t.timegm ≤ secondOf (issued.instant + delta)) := by
  unfold RoundTrips createAccessToken
  dsimp only
  by_cases hrange : InCalendar (issued.instant + config.lifetime (some delta))
  · rw [if_pos hrange, and_iff_right hrange]
    simp only [Except.ok.injEq, exists_eq_left', decode_eq_ok_iff hjwt, decode_refuses_iff hjwt,
      TokenPayload.Live]
    by_cases hdue : t.timegm ≤ secondOf (issued.instant + delta)
    · rw [if_pos hdue, iff_true_right hdue]
      exact ⟨fun ⟨_, h, _⟩ => h.1, fun h => ⟨_, ⟨h, rfl⟩, rfl, rfl, rfl⟩⟩
    · rw [if_neg hdue, iff_false_right hdue]
  · rw [if_neg hrange]
    refine iff_of_false ?_ fun h => hrange h.1
    rintro ⟨token, h, -⟩
    cases h

/-- With a later expiry, the seconds that are reached are the intended ones unless one lies between
the two, or just after the later. -/
theorem reached_iff {x y : ℚ} {n : ℤ} (h : x ≤ y) :
    ((n : ℚ) ≤ y ∨ Binary64.TruncatesUpTo y n ↔ (n : ℚ) ≤ x) ↔
      ¬(x < n ∧ (n : ℚ) ≤ y) ∧ ¬Binary64.TruncatesUpTo y n := by
  constructor
  · intro hreached
    refine ⟨fun hbetween => ?_, fun htruncates => ?_⟩
    · exact absurd (hreached.mp (Or.inl hbetween.2)) (not_le.mpr hbetween.1)
    · exact absurd ((hreached.mp (Or.inr htruncates)).trans h) (not_le.mpr htruncates.1)
  · rintro ⟨hbetween, htruncates⟩
    rw [or_iff_left htruncates]
    exact ⟨fun hle => not_lt.mp fun hlt => hbetween ⟨hlt, hle⟩, fun hle => hle.trans h⟩

end RoundTrip

/-- Tokens of an explicit lifetime work as meant unless their expiry is no datetime, the lifetime
is zero and the check falls between the issue and the end of the default lifetime, or the double
of the expiry is truncated to a second after it. -/
theorem roundTrips_iff {config : AuthConfig} (hjwt : config.jwt.Correct) (userId : Uuid)
    (tenantId role : String) (delta : Int) (issued t : Datetime) :
    config.RoundTrips userId tenantId role delta issued t ↔
      InCalendar (issued.instant + config.lifetime (some delta)) ∧
      ¬(delta = 0 ∧ secondOf issued.instant < t.timegm ∧
        t.timegm ≤ secondOf (issued.instant + config.defaultLifetime)) ∧
      ¬Binary64.TruncatesUpTo (sinceEpoch (issued.instant + config.lifetime (some delta)))
        t.timegm := by
  rw [roundTrips_iff_live hjwt]
  refine and_congr_right fun hrange => ?_
  have hmono := sinceEpoch_mono (Int.add_le_add_left (config.lifetime_le delta) issued.instant)
  rw [le_expiry_iff hrange, secondOf, ← le_sinceEpoch_iff, reached_iff hmono]
  refine and_congr_left fun _ => not_congr ?_
  rw [secondOf, secondOf, ← le_sinceEpoch_iff, ← not_le, ← not_le, ← le_sinceEpoch_iff]
  by_cases hzero : delta = 0
  · rw [hzero, lifetime, if_pos rfl, add_zero, and_iff_right rfl]
  · rw [lifetime, if_neg hzero]
    exact iff_of_false (fun h => h.1 h.2) fun h => hzero h.1

theorem roundTrips_iff_sample :
    sampleConfig.RoundTrips 1 "acme" "viewer" 60000000 sampleNoon sampleNoon := by
  have hjwt : sampleConfig.jwt.Correct := sampleJwt_correct
  refine (roundTrips_iff hjwt 1 "acme" "viewer" 60000000 sampleNoon sampleNoon).mpr
    ⟨by decide +kernel, fun h => absurd h.1 (by decide), fun h => absurd h.1 ?_⟩
  decide +kernel

def nextSecond : Datetime := ⟨sampleNoon.date, 43201000000, by decide⟩

/-- A token without any lifetime is still decoded a second later. -/
theorem zero_lifetime_accepted :
    ¬sampleConfig.RoundTrips 1 "acme" "viewer" 0 sampleNoon nextSecond := by
  intro h
  have hjwt : sampleConfig.jwt.Correct := sampleJwt_correct
  obtain ⟨hrange, hreached⟩ := (roundTrips_iff_live hjwt).mp h
  rw [le_expiry_iff hrange] at hreached
  have hlive : (nextSecond.timegm : ℚ) ≤ sinceEpoch (sampleNoon.instant + 1800000000) := by
    decide +kernel
  have hover : ¬nextSecond.timegm ≤ secondOf (sampleNoon.instant + 0) := by decide +kernel
  exact hover (hreached.mp (Or.inl hlive))

end AuthConfig
end Dox
