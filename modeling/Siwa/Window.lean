import Siwa.Checks

/-! # Verdicts along the clock

`verify_siwa` reads the clock once, in its time-window stage, and compares
`datetime.utcnow()` with the wall-clock values of `expiration_time` and
`not_before`. Run on one request at different clocks, its verdict therefore
moves one way: `MESSAGE_NOT_YET_VALID`, then the window, then
`MESSAGE_EXPIRED`, and never back. The clocks at which a request is accepted
form an interval. -/

namespace Siwa.Window
open Siwa.PyStr Siwa.Message Siwa.Codec Siwa.DateTime Siwa.Verify Siwa.Checks

/-- `q` with `datetime.utcnow()` returning `t`. -/
def atTime (q : Request) (t : NaiveDateTime) : Request := { q with now := t }

/-- Hour `hour` (modulo 24) of the day `plainFields` was issued. -/
def jan1 (hour : Nat) : NaiveDateTime :=
  ⟨2024, 1, 1, hour % 24, 0, 0, 0, ⟨by decide, by decide, by decide, by decide, by decide, by decide,
    Nat.mod_lt _ (by decide), by decide, by decide, by decide⟩⟩

/-- `plainFields` valid from six to eighteen o'clock, UTC. -/
def windowRequest : Request :=
  honestRequest
    { plainFields with
      notBefore := some "2024-01-01T06:00:00Z".toList
      expirationTime := some "2024-01-01T18:00:00Z".toList }
    (.value true) plainFields.address (.ok []) (jan1 12)

/-! ## The two comparisons -/

variable {f : SIWAMessageFields} {t t' : NaiveDateTime}

/-- The expiration check rejects exactly when the expiration time parses and
its wall-clock time is before the clock. -/
theorem expired_eq_ok_true : expired f t = .ok true ↔
    ∃ e x, truthy f.expirationTime = some e ∧ fromIsoFormat (replaceZ e) = .ok x ∧ x.naive < t := by
  unfold expired wallClock
  cases truthy f.expirationTime with
  | none => simp
  | some e => cases h : fromIsoFormat (replaceZ e) <;> simp [h, Except.map]

theorem notYetValid_eq_ok_true : notYetValid f t = .ok true ↔
    ∃ e x, truthy f.notBefore = some e ∧ fromIsoFormat (replaceZ e) = .ok x ∧ t < x.naive := by
  unfold notYetValid wallClock
  cases truthy f.notBefore with
  | none => simp
  | some e => cases h : fromIsoFormat (replaceZ e) <;> simp [h, Except.map]

theorem expired_false_of_le (h : expired f t = .ok false) (ht : t' ≤ t) : expired f t' = .ok false :=
  expired_eq_ok_false.2 fun e he =>
    let ⟨x, hx, hle⟩ := expired_eq_ok_false.1 h e he
    ⟨x, hx, Nat.le_trans ht hle⟩

theorem expired_true_of_le (h : expired f t = .ok true) (ht : t ≤ t') : expired f t' = .ok true :=
  let ⟨e, x, he, hx, hlt⟩ := expired_eq_ok_true.1 h
  expired_eq_ok_true.2 ⟨e, x, he, hx, Nat.lt_of_lt_of_le hlt ht⟩

theorem notYetValid_false_of_le (h : notYetValid f t = .ok false) (ht : t ≤ t') :
    notYetValid f t' = .ok false :=
  notYetValid_eq_ok_false.2 fun e he =>
    let ⟨x, hx, hle⟩ := notYetValid_eq_ok_false.1 h e he
    ⟨x, hx, Nat.le_trans hle ht⟩

theorem notYetValid_true_of_le (h : notYetValid f t = .ok true) (ht : t' ≤ t) :
    notYetValid f t' = .ok true :=
  let ⟨e, x, he, hx, hlt⟩ := notYetValid_eq_ok_true.1 h
  notYetValid_eq_ok_true.2 ⟨e, x, he, hx, Nat.lt_of_le_of_lt ht hlt⟩

/-! ## The checks at two clocks -/

variable {q : Request}

/-- Every check but the time window reads the same request at every clock. -/
theorem passes_atTime {k : Check} (hk : k ≠ .expiry ∧ k ≠ .notBefore) :
    Passes (atTime q t) f k ↔ Passes (atTime q t') f k := by
  cases k <;> simp_all <;> rfl

/-- The checks before the window are reached at every clock alike. -/
theorem reached_atTime {k : Check} (hk : k.rank ≤ 4) :
    Reached (atTime q t) f k → Reached (atTime q t') f k := fun h j hj => by
  have hj4 := Nat.lt_of_lt_of_le hj hk
  exact (passes_atTime (by cases j <;> simp [Check.rank] at hj4 ⊢)).1 (h j hj)

/-- **Acceptance is convex in the clock**: a request accepted at two clocks is
accepted at every clock between them. -/
theorem verifySiwa_valid_between {t₁ t₂ t₃ : NaiveDateTime}
    (h₁ : (verifySiwa (atTime q t₁)).valid = true) (h₃ : (verifySiwa (atTime q t₃)).valid = true)
    (h₁₂ : t₁ ≤ t₂) (h₂₃ : t₂ ≤ t₃) : (verifySiwa (atTime q t₂)).valid = true := by
  obtain ⟨f, hf, hall, hc⟩ := (verifySiwa_valid_iff _).1 h₁
  obtain ⟨f', hf', hall', -⟩ := (verifySiwa_valid_iff _).1 h₃
  have hff : f' = f := Except.ok.inj (hf'.symm.trans hf)
  subst hff
  refine (verifySiwa_valid_iff _).2 ⟨f', hf, fun k => ?_, hc⟩
  by_cases hx : k = .expiry
  · subst hx; exact expired_false_of_le (hall' .expiry) h₂₃
  by_cases hn : k = .notBefore
  · subst hn; exact notYetValid_false_of_le (hall .notBefore) h₁₂
  exact (passes_atTime ⟨hx, hn⟩).1 (hall k)

theorem windowRequest_valid_noon :
    (verifySiwa (atTime windowRequest (jan1 6))).valid = true ∧
      (verifySiwa (atTime windowRequest (jan1 18))).valid = true ∧ jan1 6 ≤ jan1 12 ∧
      jan1 12 ≤ jan1 18 ∧ (verifySiwa (atTime windowRequest (jan1 12))).valid = true :=
  have h₁ : (verifySiwa (atTime windowRequest (jan1 6))).valid = true := by decide
  have h₃ : (verifySiwa (atTime windowRequest (jan1 18))).valid = true := by decide
  ⟨h₁, h₃, by decide, by decide, verifySiwa_valid_between h₁ h₃ (by decide) (by decide)⟩

/-- **An expired message stays expired**: a request rejected as expired at one
clock is rejected as expired at every later clock. -/
theorem verifySiwa_expired_later (h : (verifySiwa (atTime q t)).code = some .messageExpired)
    (ht : t ≤ t') : (verifySiwa (atTime q t')).code = some .messageExpired := by
  obtain ⟨f, k, hf, hk, hr, hfail⟩ := exists_fails_of_code h (by decide)
  cases k <;> simp only [Check.code, reduceCtorEq] at hk
  obtain ⟨msg, hv⟩ := verifySiwa_of_fails (show parseSiwaMessage (atTime q t').message = _ from hf)
    (reached_atTime (show Check.expiry.rank ≤ 4 by decide) hr) (expired_true_of_le hfail ht)
  rw [hv]; rfl

theorem windowRequest_expired_late :
    (verifySiwa (atTime windowRequest (jan1 19))).code = some .messageExpired ∧
      (verifySiwa (atTime windowRequest (jan1 23))).code = some .messageExpired :=
  have h : (verifySiwa (atTime windowRequest (jan1 19))).code = some .messageExpired := by decide
  ⟨h, verifySiwa_expired_later h (by decide)⟩

/-- **A message not yet valid was not valid before**: a request rejected as not
yet valid at one clock is rejected so at every earlier clock. -/
theorem verifySiwa_notYetValid_earlier
    (h : (verifySiwa (atTime q t)).code = some .messageNotYetValid) (ht : t' ≤ t) :
    (verifySiwa (atTime q t')).code = some .messageNotYetValid := by
  obtain ⟨f, k, hf, hk, hr, hfail⟩ := exists_fails_of_code h (by decide)
  cases k <;> simp only [Check.code, reduceCtorEq] at hk
  have hr' : Reached (atTime q t') f .notBefore := by
    intro j hj
    by_cases hx : j = .expiry
    · subst hx; exact expired_false_of_le (hr .expiry (by decide)) ht
    exact (passes_atTime ⟨hx, by rintro rfl; simp [Check.rank] at hj⟩).1 (hr j hj)
  obtain ⟨msg, hv⟩ := verifySiwa_of_fails (show parseSiwaMessage (atTime q t').message = _ from hf)
    hr' (notYetValid_true_of_le hfail ht)
  rw [hv]; rfl

theorem windowRequest_notYetValid_early :
    (verifySiwa (atTime windowRequest (jan1 5))).code = some .messageNotYetValid ∧
      (verifySiwa (atTime windowRequest (jan1 0))).code = some .messageNotYetValid :=
  have h : (verifySiwa (atTime windowRequest (jan1 5))).code = some .messageNotYetValid := by decide
  ⟨h, verifySiwa_notYetValid_earlier h (by decide)⟩

end Siwa.Window
