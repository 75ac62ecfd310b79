import Siwa.Checks

/-! # What a result reports about its run

`verify_siwa` builds a result in three places: `fail`, for a check that
rejects, which copies the parsed fields and always says `onchain`; the success
result; and the outer `except`, which says `offline` with empty fields whatever
the run had parsed. So `verified` and the fields of a failure tell a rejection
from an exception, not an on-chain stage from an off-chain one. An accepted
result's registry has the `eip155:<x>:<R>` form, and nothing compares its `x`
with the chain id the message states. -/

namespace Siwa.Results
open Siwa.PyStr Siwa.Message Siwa.Codec Siwa.DateTime Siwa.Verify Siwa.Checks

/-! ## Failures -/

/-- What a failure result reports: when a check rejected, `onchain` and the
fields the message parsed to; when an exception escaped, `offline` and the
empty defaults. -/
def FailureReport (q : Request) : Prop :=
  ((verifySiwa q).code ≠ some .verificationFailed →
    ∃ f, parseSiwaMessage q.message = .ok f ∧ (verifySiwa q).verified = .onchain ∧
      (verifySiwa q).address = f.address ∧ (verifySiwa q).agentId = f.agentId ∧
      (verifySiwa q).agentRegistry = f.agentRegistry ∧ (verifySiwa q).chainId = f.chainId) ∧
  ((verifySiwa q).code = some .verificationFailed →
    (verifySiwa q).verified = .offline ∧ (verifySiwa q).address = [] ∧
      (verifySiwa q).agentId = 0 ∧ (verifySiwa q).agentRegistry = [] ∧ (verifySiwa q).chainId = 0)

/-- **What a failure reports.** -/
theorem verifySiwa_failure_report (q : Request) (hv : (verifySiwa q).valid = false) :
    FailureReport q := by
  unfold FailureReport verifySiwa at *
  have ho := verifyRun_outcome q
  generalize verifyRun q = run at ho hv ⊢
  cases ho with
  | unparsed | raised | codeRaised => exact ⟨fun h => absurd rfl h, fun _ => ⟨rfl, rfl, rfl, rfl, rfl⟩⟩
  | @rejected f k msg hf =>
    refine ⟨fun _ => ⟨f, hf, rfl, rfl, rfl, rfl, rfl⟩, fun h => ?_⟩
    simp only [Run.result_ok, fail_code, Option.some.injEq] at h
    exact absurd h k.code_ne_verificationFailed
  | accepted => simp at hv

/-- `plainRequest` at another domain. -/
def crossDomainRequest : Request := { plainRequest with expectedDomain := "other.example".toList }

theorem crossDomain_failure_report :
    (verifySiwa crossDomainRequest).valid = false ∧ FailureReport crossDomainRequest := by
  have hv : (verifySiwa crossDomainRequest).valid = false := by decide
  exact ⟨hv, verifySiwa_failure_report crossDomainRequest hv⟩

/-- `plainRequest` with a validator that raises. -/
def raisingValidatorRequest : Request :=
  { plainRequest with
    nonceValidator := fun _ => .error (.other "ConnectionError".toList "nonce store down".toList) }

/-- A request rejected before any chain call is marked `onchain`; a request that
parsed and then raised reports empty fields. -/
theorem failure_verified_and_fields :
    (verifySiwa crossDomainRequest).valid = false ∧
      (verifyRun crossDomainRequest).calls = [] ∧
      (verifySiwa crossDomainRequest).verified = .onchain ∧
    (parseSiwaMessage raisingValidatorRequest.message).toOption.map (·.address) =
        some plainFields.address ∧
      (verifySiwa raisingValidatorRequest).valid = false ∧
      (verifySiwa raisingValidatorRequest).address = [] := by
  decide

/-! ## Accepted identities -/

/-- **The registry of an accepted identity**: it splits into `eip155`, a chain
part `x` and a part `R`; `registry_address or R` checksums, and the owner lookup
at that address passed; the chain id is the one the message states, and is not
compared with `x`. -/
theorem verifySiwa_valid_registry (q : Request) (hv : (verifySiwa q).valid = true) :
    ∃ f x R, parseSiwaMessage q.message = .ok f ∧
      (verifySiwa q).agentRegistry.splitOn ':' = ["eip155".toList, x, R] ∧
      (∃ a o, toChecksumAddress (regAddress q.registryAddress R) = .ok a ∧
        q.w3.ownerOf a f.agentId = .ok o) ∧
      (verifySiwa q).chainId = f.chainId := by
  unfold verifySiwa at *
  have ho := verifyRun_outcome q
  generalize verifyRun q = run at ho hv ⊢
  cases ho with
  | unparsed | rejected | raised | codeRaised => simp [Run.raise] at hv
  | @accepted f p r code hf hall hp =>
  obtain ⟨x, hx⟩ := registryPart_eq_some.1 hp
  obtain ⟨p', o, hp', ho⟩ := hall .registered
  rw [hp] at hp'; cases hp'
  obtain ⟨a, ha, ho⟩ := ownerLookup_eq_ok.1 ho
  exact ⟨f, x, p, hf, hx, ⟨a, o, ha, ho⟩, rfl⟩

theorem plainRequest_valid_registry :
    (verifySiwa plainRequest).valid = true ∧
    ∃ f x R, parseSiwaMessage plainRequest.message = .ok f ∧
      (verifySiwa plainRequest).agentRegistry.splitOn ':' = ["eip155".toList, x, R] ∧
      (∃ a o, toChecksumAddress (regAddress plainRequest.registryAddress R) = .ok a ∧
        plainRequest.w3.ownerOf a f.agentId = .ok o) ∧
      (verifySiwa plainRequest).chainId = f.chainId := by
  have hv : (verifySiwa plainRequest).valid = true := by decide
  exact ⟨hv, verifySiwa_valid_registry plainRequest hv⟩

/-- `plainRequest`, whose registry is on chain 1, with the chain id 8453. -/
def crossChainRequest : Request :=
  honestRequest { plainFields with chainId := 8453 } (.value true) plainFields.address (.ok [])
    noonJan1

/-- An identity accepted with a registry on chain 1 and chain id 8453. -/
theorem crossChain_accepted :
    (verifySiwa crossChainRequest).valid = true ∧
      (verifySiwa crossChainRequest).agentRegistry.splitOn ':' =
        ["eip155".toList, "1".toList, "0x8004AA63B05E4C14eC1Fe6B35AD3bAe8A7Bc9b66".toList] ∧
      (verifySiwa crossChainRequest).chainId = 8453 ∧
      pyStr (verifySiwa crossChainRequest).chainId ≠ "1".toList := by
  decide

end Siwa.Results
