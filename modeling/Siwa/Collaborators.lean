import Siwa.Checks

/-! # What the pipeline makes of its collaborators' answers

Three stages read a collaborator's answer or a value of the message and could
read it otherwise: the nonce stage tests the validator's verdict, awaiting it
only when it is a coroutine; the time window compares the clock with the
wall-clock fields of a timestamp, its offset dropped; and the signer-type
detection calls `get_code` inside the same `try` as every other stage. Each
section states what the code does for every request, then runs the code on a
request where that differs from what the stage is meant to do. -/

namespace Siwa.Collaborators
open Siwa.PyStr Siwa.Message Siwa.Codec Siwa.DateTime Siwa.Verify Siwa.Checks

/-! ## The nonce verdict -/

/-- The run depends on the validator only through the verdict `not nonce_ok`
tests. -/
theorem verifyRun_nonceValidator_congr (q : Request) (v : Str → Except PyException NonceResult)
    (hv : ∀ n, (v n).bind nonceOk = (q.nonceValidator n).bind nonceOk) :
    verifyRun { q with nonceValidator := v } = verifyRun q := by
  simp only [verifyRun, checkOffline, hv]

/-- **A `Future` verdict is never awaited**: whatever it resolves to, the run is
the one of a validator that returned `True`. -/
theorem verifyRun_future_verdict (q : Request) (resolved : Except PyException Bool) :
    verifyRun { q with nonceValidator := fun _ => .ok (.future resolved) } =
      verifyRun { q with nonceValidator := fun _ => .ok (.value true) } :=
  verifyRun_nonceValidator_congr { q with nonceValidator := fun _ => .ok (.value true) } _
    fun _ => rfl

/-- `plainRequest` with a validator whose awaitable resolves to `False`: a
coroutine is rejected, a `Future` accepted, as `plainRequest` itself is. -/
theorem future_false_verdict_accepted :
    (verifySiwa (honestRequest plainFields (.coroutine (.ok false)) plainFields.address (.ok [])
      noonJan1)).code = some .invalidNonce ∧
    (verifySiwa (honestRequest plainFields (.future (.ok false)) plainFields.address (.ok [])
      noonJan1)).valid = true := by
  have h : verifyRun (honestRequest plainFields (.future (.ok false)) plainFields.address (.ok [])
      noonJan1) = verifyRun plainRequest := verifyRun_future_verdict plainRequest (.ok false)
  refine ⟨by decide, ?_⟩
  rw [verifySiwa, h]
  decide

/-! ## The time window -/

/-- Six in the morning, UTC, on the day `plainFields` was issued. -/
def sixJan1 : NaiveDateTime := ⟨2024, 1, 1, 6, 0, 0, 0, by decide⟩

/-- `plainRequest` at six, with the expiration time `value`. -/
def expiringRequest (value : Str) : Request :=
  honestRequest { plainFields with expirationTime := some value } (.value true)
    plainFields.address (.ok []) sixJan1

/-- `10:00+05:00` and `05:00Z` denote the same instant, an hour before the
clock; the first is accepted and the second rejected as expired. -/
theorem expiry_offset_dropped :
    (fromIsoFormat (replaceZ "2024-01-01T10:00:00+05:00".toList)).toOption.map IsoDateTime.instant =
      (fromIsoFormat (replaceZ "2024-01-01T05:00:00Z".toList)).toOption.map IsoDateTime.instant ∧
    (verifySiwa (expiringRequest "2024-01-01T10:00:00+05:00".toList)).valid = true ∧
    (verifySiwa (expiringRequest "2024-01-01T05:00:00Z".toList)).code = some .messageExpired := by
  decide

/-! ## Signer-type detection -/

/-- Two runs whose results agree in everything but the signer type. -/
def SameDecision (a b : Run) : Prop :=
  { a.result with signerType := none } = { b.result with signerType := none }

@[simp] theorem Run.result_call (c : Call) (run : Run) : (Run.call c run).result = run.result :=
  rfl

/-- The off-chain stages never read the web3 back end. -/
theorem checkOffline_w3 (q : Request) (w3 : Chain) (onchain : SIWAMessageFields → Str → Run) :
    checkOffline { q with w3 := w3 } onchain = checkOffline q onchain := rfl

/-- The off-chain stages carry any relation between two continuations that
holds of equal runs and survives a recorded call. -/
theorem checkOffline_congr (R : Run → Run → Prop) (hrefl : ∀ run, R run run)
    (hcall : ∀ c a b, R a b → R (Run.call c a) (Run.call c b)) (q : Request)
    {k k' : SIWAMessageFields → Str → Run} (hk : ∀ f r, R (k f r) (k' f r)) :
    R (checkOffline q k) (checkOffline q k') := by
  unfold checkOffline
  repeat' split
  all_goals first | exact hrefl _ | exact hcall _ _ _ (hk _ _)

/-- With the same `ownerOf` and a `get_code` that returns, the on-chain stage
decides the same way. -/
theorem ownership_sameDecision {w w' : Chain} (hown : w'.ownerOf = w.ownerOf)
    (hc : ∀ a, ∃ c, w.getCode a = .ok c) (hc' : ∀ a, ∃ c, w'.getCode a = .ok c)
    (registryAddress : Option Str) (f : SIWAMessageFields) (r : Str) :
    SameDecision (ownership w registryAddress f r) (ownership w' registryAddress f r) := by
  unfold ownership
  rw [hown]
  cases registryPart f.agentRegistry with
  | none => rfl
  | some p =>
  dsimp only
  cases toChecksumAddress (regAddress registryAddress p) with
  | error => rfl
  | ok a =>
  dsimp only
  cases w.ownerOf a f.agentId with
  | error => rfl
  | ok o =>
  dsimp only
  by_cases h : pyLower o ≠ pyLower r
  · simp only [if_pos h]; rfl
  simp only [if_neg h]
  cases toChecksumAddress f.address with
  | error => rfl
  | ok b =>
  obtain ⟨c, hc⟩ := hc b
  obtain ⟨c', hc'⟩ := hc' b
  simp only [SameDecision, Run.result_call, hc, hc']
  rfl

/-- **The signer type never changes the decision**, when `get_code` returns:
two back ends with the same `ownerOf` give results that differ at most in
`signer_type`. -/
theorem verifySiwa_getCode_decision (q : Request) (w3 : Chain) (hown : w3.ownerOf = q.w3.ownerOf)
    (hc : ∀ a, ∃ c, q.w3.getCode a = .ok c) (hc' : ∀ a, ∃ c, w3.getCode a = .ok c) :
    { verifySiwa q with signerType := none } =
      { verifySiwa { q with w3 := w3 } with signerType := none } := by
  unfold verifySiwa verifyRun
  rw [checkOffline_w3]
  exact checkOffline_congr SameDecision (fun _ => rfl) (fun _ _ _ h => h) q
    (ownership_sameDecision hown hc hc' q.registryAddress)

/-- A back end with `plainRequest`'s registry at which every address holds
contract code. -/
def contractChain : Chain := ⟨plainRequest.w3.ownerOf, fun _ => .ok [0x60]⟩

theorem plainRequest_contract_decision :
    contractChain.ownerOf = plainRequest.w3.ownerOf ∧
    (∀ a, ∃ c, plainRequest.w3.getCode a = .ok c) ∧ (∀ a, ∃ c, contractChain.getCode a = .ok c) ∧
    (verifySiwa plainRequest).signerType = some .eoa ∧
    (verifySiwa { plainRequest with w3 := contractChain }).signerType = some .sca ∧
    { verifySiwa plainRequest with signerType := none } =
      { verifySiwa { plainRequest with w3 := contractChain } with signerType := none } :=
  ⟨rfl, fun _ => ⟨_, rfl⟩, fun _ => ⟨_, rfl⟩, by decide, by decide,
    verifySiwa_getCode_decision plainRequest contractChain rfl (fun _ => ⟨_, rfl⟩)
      fun _ => ⟨_, rfl⟩⟩

/-- A failed RPC call, as web3 raises it. -/
def rpcError : PyException := .other "ConnectionError".toList "Connection refused".toList

/-- The same request, and the same `ownerOf`, with a `get_code` that returns and
one that raises: the first is accepted and the second fails. -/
theorem getCode_raise_verificationFailed :
    (verifySiwa (honestRequest plainFields (.value true) plainFields.address (.ok [])
      noonJan1)).valid = true ∧
    (verifySiwa (honestRequest plainFields (.value true) plainFields.address (.error rpcError)
      noonJan1)).code = some .verificationFailed := by
  decide

end Siwa.Collaborators
