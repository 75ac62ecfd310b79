import Siwa.Codec
import Siwa.Verify

/-! # The pipeline as an ordered list of checks

What `verify_siwa` is for, stated without its code: a request goes through
nine checks in a fixed order; each passes, rejects with its own error code, or
(for the nonce validator and the two timestamps) raises; the first check that
does not pass decides the result; and the collaborator calls a run makes are
those of the checks it reached. `Passes`, `Fails` and `Raises` state each check
on its own, from the request and the fields its message parsed to. `Outcome`
lists the ways a run can end, and `verifyRun_outcome` proves that every run of
the code ends in one of them. -/

namespace Siwa.Checks
open Siwa.PyStr Siwa.Message Siwa.Codec Siwa.DateTime Siwa.Verify

inductive Check
  | signature | address | domain | nonce | expiry | notBefore | registry | registered | owner
deriving DecidableEq, Repr

/-- The position of a check in the pipeline. -/
def Check.rank : Check → Nat
  | .signature => 0 | .address => 1 | .domain => 2 | .nonce => 3 | .expiry => 4
  | .notBefore => 5 | .registry => 6 | .registered => 7 | .owner => 8

/-- The code a check rejects with. -/
def Check.code : Check → SIWAErrorCode
  | .signature | .address => .invalidSignature
  | .domain => .domainMismatch
  | .nonce => .invalidNonce
  | .expiry => .messageExpired
  | .notBefore => .messageNotYetValid
  | .registry => .invalidRegistryFormat
  | .registered => .notRegistered
  | .owner => .notOwner

theorem Check.rank_inj {j k : Check} (h : j.rank = k.rank) : j = k := by
  cases j <;> cases k <;> simp_all [Check.rank]

theorem Check.code_ne_verificationFailed (k : Check) : k.code ≠ .verificationFailed := by
  cases k <;> simp [Check.code]

/-- The owner lookup of a request whose registry's third part is `part`:
`Web3.to_checksum_address`, then `ownerOf`. -/
def ownerLookup (q : Request) (f : SIWAMessageFields) (part : Str) : Except PyException Str :=
  (toChecksumAddress (regAddress q.registryAddress part)).bind fun reg => q.w3.ownerOf reg f.agentId

/-- `get_code` at the message's address, after `Web3.to_checksum_address`. -/
def codeLookup (q : Request) (f : SIWAMessageFields) : Except PyException (List UInt8) :=
  (toChecksumAddress f.address).bind q.w3.getCode

/-- The RPC a lookup at `address` makes: only once the address checksums. -/
def callAt (address : Str) (call : Str → Call) : List Call :=
  ((toChecksumAddress address).toOption.map call).toList

/-- What signature recovery gives on the request. -/
def recovered (q : Request) : Except PyException Str := q.recoverMessage q.message q.signature

/-- Check `k` passes on `q`, whose message parsed to `f`. -/
def Passes (q : Request) (f : SIWAMessageFields) : Check → Prop
  | .signature => ∃ r, recovered q = .ok r
  | .address => ∃ r, recovered q = .ok r ∧ pyLower r = pyLower f.address
  | .domain => f.domain = q.expectedDomain
  | .nonce => (q.nonceValidator f.nonce).bind nonceOk = .ok true
  | .expiry => expired f q.now = .ok false
  | .notBefore => notYetValid f q.now = .ok false
  | .registry => ∃ p, registryPart f.agentRegistry = some p
  | .registered => ∃ p o, registryPart f.agentRegistry = some p ∧ ownerLookup q f p = .ok o
  | .owner => ∃ p o r, registryPart f.agentRegistry = some p ∧ ownerLookup q f p = .ok o ∧
      recovered q = .ok r ∧ pyLower o = pyLower r

/-- Check `k` rejects `q`, whose message parsed to `f`. -/
def Fails (q : Request) (f : SIWAMessageFields) : Check → Prop
  | .signature => ∃ e, recovered q = .error e
  | .address => ∃ r, recovered q = .ok r ∧ pyLower r ≠ pyLower f.address
  | .domain => f.domain ≠ q.expectedDomain
  | .nonce => (q.nonceValidator f.nonce).bind nonceOk = .ok false
  | .expiry => expired f q.now = .ok true
  | .notBefore => notYetValid f q.now = .ok true
  | .registry => registryPart f.agentRegistry = none
  | .registered => ∃ p e, registryPart f.agentRegistry = some p ∧ ownerLookup q f p = .error e
  | .owner => ∃ p o r, registryPart f.agentRegistry = some p ∧ ownerLookup q f p = .ok o ∧
      recovered q = .ok r ∧ pyLower o ≠ pyLower r

/-- Check `k` raises `e`: calling or awaiting the validator, or parsing a timestamp. -/
def Raises (q : Request) (f : SIWAMessageFields) : Check → PyException → Prop
  | .nonce, e => (q.nonceValidator f.nonce).bind nonceOk = .error e
  | .expiry, e => expired f q.now = .error e
  | .notBefore, e => notYetValid f q.now = .error e
  | _, _ => False

/-- Every check before `k` passes. -/
def Reached (q : Request) (f : SIWAMessageFields) (k : Check) : Prop :=
  ∀ j : Check, j.rank < k.rank → Passes q f j

/-- The calls made by a run that stops at check `k`. -/
def Check.calls (q : Request) (f : SIWAMessageFields) : Check → List Call
  | .signature | .address | .domain => []
  | .nonce | .expiry | .notBefore | .registry => [.nonceValidator f.nonce]
  | .registered | .owner => .nonceValidator f.nonce ::
      ((registryPart f.agentRegistry).map fun p =>
        callAt (regAddress q.registryAddress p) (Call.ownerOf · f.agentId)).getD []

/-- The calls of a run that passes every check. -/
def allCalls (q : Request) (f : SIWAMessageFields) (p : Str) : List Call :=
  .nonceValidator f.nonce ::
    (callAt (regAddress q.registryAddress p) (Call.ownerOf · f.agentId) ++ callAt f.address .getCode)

/-- The ways a run of `verify_siwa` ends. -/
inductive Outcome (q : Request) : Run → Prop
  /-- The message does not parse. -/
  | unparsed {e : PyException} : parseSiwaMessage q.message = .error e → Outcome q (.raise e)
  /-- Check `k` is the first that does not pass, and rejects. -/
  | rejected {f : SIWAMessageFields} {k : Check} (msg : Str) :
      parseSiwaMessage q.message = .ok f → Reached q f k → Fails q f k →
      Outcome q ⟨k.calls q f, .ok (fail f k.code msg)⟩
  /-- Check `k` is the first that does not pass, and raises. -/
  | raised {f : SIWAMessageFields} {k : Check} {e : PyException} :
      parseSiwaMessage q.message = .ok f → Reached q f k → Raises q f k e →
      Outcome q ⟨k.calls q f, .error e⟩
  /-- Every check passes and checksumming the address or `get_code` raises. -/
  | codeRaised {f : SIWAMessageFields} {p : Str} {e : PyException} :
      parseSiwaMessage q.message = .ok f → (∀ k, Passes q f k) →
      registryPart f.agentRegistry = some p → codeLookup q f = .error e →
      Outcome q ⟨allCalls q f p, .error e⟩
  /-- Every check passes. -/
  | accepted {f : SIWAMessageFields} {p r : Str} {code : List UInt8} :
      parseSiwaMessage q.message = .ok f → (∀ k, Passes q f k) →
      registryPart f.agentRegistry = some p → recovered q = .ok r →
      codeLookup q f = .ok code →
      Outcome q ⟨allCalls q f p, .ok (accepted f r code)⟩

/-! ## Lookups through the checksum -/

section Lookups

variable {q : Request} {f : SIWAMessageFields} {address : Str} {call : Str → Call}

theorem callAt_of_ok {a : Str} (h : toChecksumAddress address = .ok a) :
    callAt address call = [call a] := by
  simp [callAt, h, Except.toOption]

theorem callAt_of_error {e : PyException} (h : toChecksumAddress address = .error e) :
    callAt address call = [] := by
  simp [callAt, h, Except.toOption]

theorem ownerLookup_eq_ok {p o : Str} : ownerLookup q f p = .ok o ↔
    ∃ a, toChecksumAddress (regAddress q.registryAddress p) = .ok a ∧
      q.w3.ownerOf a f.agentId = .ok o := by
  unfold ownerLookup
  cases toChecksumAddress (regAddress q.registryAddress p) <;> simp [Except.bind]

theorem codeLookup_eq_ok {c : List UInt8} : codeLookup q f = .ok c ↔
    ∃ b, toChecksumAddress f.address = .ok b ∧ q.w3.getCode b = .ok c := by
  unfold codeLookup
  cases toChecksumAddress f.address <;> simp [Except.bind]

/-- `0x` and forty hex digits, lowercased: what `Web3.to_checksum_address`
returns. -/
def HexAddress (a : Str) : Prop :=
  ∃ d : Str, d.length = 40 ∧ d.all isHexDigit = true ∧ a = "0x".toList ++ pyLower d

/-- The call is the validator's, or an RPC at a `HexAddress`. -/
def atHexAddress : Call → Prop
  | .nonceValidator _ => True
  | .ownerOf a _ | .getCode a => HexAddress a

theorem hexAddress_of_toChecksumAddress {v a : Str} (h : toChecksumAddress v = .ok a) :
    HexAddress a :=
  let ⟨hl, hh, ha⟩ := toChecksumAddress_eq_ok.1 h
  ⟨_, hl, hh, ha⟩

theorem atHexAddress_callAt (hcall : ∀ a, HexAddress a → atHexAddress (call a)) :
    ∀ c ∈ callAt address call, atHexAddress c := by
  cases h : toChecksumAddress address with
  | error e => simp [callAt_of_error h]
  | ok a => simpa [callAt_of_ok h] using hcall a (hexAddress_of_toChecksumAddress h)

end Lookups

/-! ## Reaching a check -/

variable {q : Request} {f : SIWAMessageFields}

theorem reached_signature : Reached q f .signature := fun j hj => by
  cases j <;> simp [Check.rank] at hj

theorem Reached.next {k k' : Check} (h : Reached q f k) (hp : Passes q f k)
    (hk : k'.rank = k.rank + 1) : Reached q f k' := fun j hj => by
  rcases Nat.lt_or_ge j.rank k.rank with hlt | hge
  · exact h j hlt
  · exact Check.rank_inj (show j.rank = k.rank by omega) ▸ hp

theorem Reached.mono {j k : Check} (h : Reached q f k) (hjk : j.rank ≤ k.rank) : Reached q f j :=
  fun i hi => h i (by omega)

theorem Reached.all (h : Reached q f .owner) (hp : Passes q f .owner) (k : Check) :
    Passes q f k := by
  by_cases hk : k = .owner
  · exact hk ▸ hp
  · exact h k (by cases k <;> simp_all [Check.rank])

theorem not_passes_of_fails {k : Check} (hf : Fails q f k) (hp : Passes q f k) : False := by
  cases k with
  | signature => obtain ⟨r, hr⟩ := hp; obtain ⟨e, he⟩ := hf; cases hr.symm.trans he
  | address =>
    obtain ⟨r, hr, hl⟩ := hp; obtain ⟨r', hr', hl'⟩ := hf
    cases hr.symm.trans hr'; exact hl' hl
  | domain => exact hf hp
  | nonce | expiry | notBefore => cases hp.symm.trans hf
  | registry => obtain ⟨p, hp⟩ := hp; cases hp.symm.trans hf
  | registered =>
    obtain ⟨p, o, hp, ho⟩ := hp; obtain ⟨p', e, hp', he⟩ := hf
    cases hp.symm.trans hp'; cases ho.symm.trans he
  | owner =>
    obtain ⟨p, o, r, hp, ho, hr, hl⟩ := hp; obtain ⟨p', o', r', hp', ho', hr', hl'⟩ := hf
    cases hp.symm.trans hp'; cases ho.symm.trans ho'; cases hr.symm.trans hr'; exact hl' hl

/-- A run that stops at the registry lookup or the owner comparison called the
validator, then `ownerOf` if the registry address checksums. -/
theorem Check.calls_of_registryPart {p : Str} (hp : registryPart f.agentRegistry = some p)
    {k : Check} (hk : 7 ≤ k.rank) :
    k.calls q f = .nonceValidator f.nonce ::
      callAt (regAddress q.registryAddress p) (Call.ownerOf · f.agentId) := by
  cases k <;> simp [Check.rank, Check.calls, hp] at hk ⊢

/-! ## Every run ends as `Outcome` says -/

/-- The on-chain stage, entered once every off-chain check has passed. -/
theorem ownership_outcome {r : Str} (hf : parseSiwaMessage q.message = .ok f)
    (hr : recovered q = .ok r) (h6 : Reached q f .registry) :
    Outcome q (Run.call (.nonceValidator f.nonce) (ownership q.w3 q.registryAddress f r)) := by
  unfold ownership
  cases hp : registryPart f.agentRegistry with
  | none => exact .rejected _ hf h6 hp
  | some p =>
  have h7 : Reached q f .registered := h6.next ⟨p, hp⟩ rfl
  have hcalls : Check.calls q f .registered = .nonceValidator f.nonce ::
      callAt (regAddress q.registryAddress p) (Call.ownerOf · f.agentId) :=
    Check.calls_of_registryPart hp (by decide)
  dsimp only
  cases ha : toChecksumAddress (regAddress q.registryAddress p) with
  | error e =>
    have h := Outcome.rejected "Agent is not registered on the ERC-8004 Identity Registry".toList
      hf h7 ⟨p, e, hp, by simp [ownerLookup, ha, Except.bind]⟩
    rwa [hcalls, callAt_of_error ha] at h
  | ok a =>
  dsimp only
  cases ho : q.w3.ownerOf a f.agentId with
  | error e =>
    have h := Outcome.rejected "Agent is not registered on the ERC-8004 Identity Registry".toList
      hf h7 ⟨p, e, hp, by simp [ownerLookup, ha, ho, Except.bind]⟩
    rwa [hcalls, callAt_of_ok ha] at h
  | ok o =>
  have hlook : ownerLookup q f p = .ok o := ownerLookup_eq_ok.2 ⟨a, ha, ho⟩
  have h8 : Reached q f .owner := h7.next ⟨p, o, hp, hlook⟩ rfl
  dsimp only
  by_cases hne : pyLower o ≠ pyLower r
  · have h := Outcome.rejected "Signer is not the owner of this agent NFT".toList
      hf h8 ⟨p, o, r, hp, hlook, hr, hne⟩
    rw [if_pos hne]
    rwa [Check.calls_of_registryPart hp (by decide), callAt_of_ok ha] at h
  rw [if_neg hne]
  have hall := h8.all ⟨p, o, r, hp, hlook, hr, not_not.1 hne⟩
  cases hb : toChecksumAddress f.address with
  | error e =>
    have h := Outcome.codeRaised hf hall hp (show codeLookup q f = .error e by
      simp [codeLookup, hb, Except.bind])
    rwa [allCalls, callAt_of_ok ha, callAt_of_error hb] at h
  | ok b =>
  dsimp only
  have hcalls' : allCalls q f p = [.nonceValidator f.nonce, .ownerOf a f.agentId, .getCode b] := by
    rw [allCalls, callAt_of_ok ha, callAt_of_ok hb]
    rfl
  cases hc : q.w3.getCode b with
  | error e =>
    have h := Outcome.codeRaised hf hall hp (show codeLookup q f = .error e by
      simp [codeLookup, hb, hc, Except.bind])
    rwa [hcalls'] at h
  | ok code =>
    have h := Outcome.accepted hf hall hp hr (codeLookup_eq_ok.2 ⟨b, hb, hc⟩)
    rwa [hcalls'] at h

/-- **The code refines the ordered checks**: every run of `verify_siwa`'s `try`
body ends in one of the ways `Outcome` lists. -/
theorem verifyRun_outcome (q : Request) : Outcome q (verifyRun q) := by
  unfold verifyRun checkOffline
  cases hf : parseSiwaMessage q.message with
  | error e => exact .unparsed hf
  | ok f =>
  dsimp only
  have h0 : Reached q f .signature := reached_signature
  cases hr : q.recoverMessage q.message q.signature with
  | error e => exact .rejected _ hf h0 ⟨e, hr⟩
  | ok r =>
  dsimp only
  have h1 : Reached q f .address := h0.next ⟨r, hr⟩ rfl
  by_cases ha : pyLower r ≠ pyLower f.address
  · rw [if_pos ha]; exact .rejected _ hf h1 ⟨r, hr, ha⟩
  have h2 : Reached q f .domain := h1.next ⟨r, hr, not_not.1 ha⟩ rfl
  by_cases hd : f.domain ≠ q.expectedDomain
  · rw [if_neg ha, if_pos hd]; exact .rejected _ hf h2 hd
  have h3 : Reached q f .nonce := h2.next (not_not.1 hd) rfl
  rw [if_neg ha, if_neg hd]
  cases hn : (q.nonceValidator f.nonce).bind nonceOk with
  | error e => exact .raised hf h3 hn
  | ok b =>
  cases b
  · exact .rejected _ hf h3 hn
  have h4 : Reached q f .expiry := h3.next hn rfl
  dsimp only
  cases he : expired f q.now with
  | error e => exact .raised hf h4 he
  | ok b =>
  cases b; swap
  · exact .rejected _ hf h4 he
  have h5 : Reached q f .notBefore := h4.next he rfl
  dsimp only
  cases hb : notYetValid f q.now with
  | error e => exact .raised hf h5 hb
  | ok b =>
  cases b; swap
  · exact .rejected _ hf h5 hb
  exact ownership_outcome hf hr (h5.next hb rfl)

/-! ## Which collaborators a run calls -/

/-- The collaborator calls of one run, as the stages gate them: the validator
is called, on the parsed nonce, exactly when the first three checks pass;
`ownerOf` at most once, only once every check up to the registry format has
passed, on a registry `eip155:<x>:<p>` whose address (`registry_address or p`)
checksums, and at that checksummed address; `get_code` only once every check
has passed, at the checksummed address of the message. -/
def GatedCalls (q : Request) (calls : List Call) : Prop :=
  (calls = [] ∧ ∀ f, parseSiwaMessage q.message = .ok f → ¬Reached q f .nonce) ∨
  ∃ f, parseSiwaMessage q.message = .ok f ∧ Reached q f .nonce ∧
    (calls = [.nonceValidator f.nonce] ∨
      Reached q f .registered ∧ ∃ x p a, f.agentRegistry.splitOn ':' = ["eip155".toList, x, p] ∧
        toChecksumAddress (regAddress q.registryAddress p) = .ok a ∧
        (calls = [.nonceValidator f.nonce, .ownerOf a f.agentId] ∨
          (∀ k, Passes q f k) ∧ ∃ b, toChecksumAddress f.address = .ok b ∧
            calls = [.nonceValidator f.nonce, .ownerOf a f.agentId, .getCode b]))

theorem not_passes_of_raises {k : Check} {e : PyException} (he : Raises q f k e) :
    ¬Passes q f k := by
  cases k <;> simp_all [Raises, Passes]

/-- The calls of a run that stops at check `k`, by the stage `k` belongs to. -/
theorem Reached.calls {k : Check} (hr : Reached q f k) :
    (k.rank < 3 ∧ k.calls q f = []) ∨
    (3 ≤ k.rank ∧ k.calls q f = [.nonceValidator f.nonce]) ∨
    (7 ≤ k.rank ∧ ∃ p a, registryPart f.agentRegistry = some p ∧
      toChecksumAddress (regAddress q.registryAddress p) = .ok a ∧
      k.calls q f = [.nonceValidator f.nonce, .ownerOf a f.agentId]) := by
  cases k with
  | signature | address | domain => exact .inl ⟨by decide, rfl⟩
  | nonce | expiry | notBefore | registry => exact .inr (.inl ⟨by decide, rfl⟩)
  | registered | owner =>
    obtain ⟨p, hp⟩ := hr .registry (by decide)
    cases ha : toChecksumAddress (regAddress q.registryAddress p) with
    | error e =>
      refine .inr (.inl ⟨by decide, ?_⟩)
      rw [Check.calls_of_registryPart hp (by decide), callAt_of_error ha]
    | ok a =>
      refine .inr (.inr ⟨by decide, p, a, hp, ha, ?_⟩)
      rw [Check.calls_of_registryPart hp (by decide), callAt_of_ok ha]

/-- A run that stops at a check it reached made only the calls the stages allow. -/
theorem gatedCalls_stop {k : Check} (hf : parseSiwaMessage q.message = .ok f)
    (hr : Reached q f k) (hk : ¬Passes q f k) : GatedCalls q (k.calls q f) := by
  rcases hr.calls with ⟨hlt, hc⟩ | ⟨hge, hc⟩ | ⟨hge, p, a, hp, ha, hc⟩ <;> rw [hc]
  · refine .inl ⟨rfl, fun f' hf' h3 => hk ?_⟩
    rw [hf] at hf'; cases hf'
    exact h3 k hlt
  · exact .inr ⟨f, hf, hr.mono hge, .inl rfl⟩
  · obtain ⟨x, hx⟩ := registryPart_eq_some.1 hp
    exact .inr ⟨f, hf, hr.mono (le_trans (by decide) hge),
      .inr ⟨hr.mono hge, x, p, a, hx, ha, .inl rfl⟩⟩

/-- **Side effects are gated by the earlier stages.** -/
theorem verifyRun_calls (q : Request) : GatedCalls q (verifyRun q).calls := by
  have ho := verifyRun_outcome q
  generalize verifyRun q = run at ho ⊢
  cases ho with
  | unparsed he => exact .inl ⟨rfl, fun f hf => by rw [hf] at he; cases he⟩
  | rejected _ hf hr hk => exact gatedCalls_stop hf hr (not_passes_of_fails hk)
  | raised hf hr hk => exact gatedCalls_stop hf hr (not_passes_of_raises hk)
  | @codeRaised f p _ hf hall hp _ | @accepted f p _ _ hf hall hp _ _ =>
    obtain ⟨x, hx⟩ := registryPart_eq_some.1 hp
    obtain ⟨p', o, hp', ho⟩ := hall .registered
    rw [hp] at hp'; cases hp'
    obtain ⟨a, ha, -⟩ := ownerLookup_eq_ok.1 ho
    refine .inr ⟨f, hf, fun j _ => hall j, .inr ⟨fun j _ => hall j, x, p, a, hx, ha, ?_⟩⟩
    cases hb : toChecksumAddress f.address with
    | error e => exact .inl (by rw [allCalls, callAt_of_ok ha, callAt_of_error hb]; rfl)
    | ok b => exact .inr ⟨hall, b, rfl, by rw [allCalls, callAt_of_ok ha, callAt_of_ok hb]; rfl⟩

theorem Check.calls_atHexAddress (k : Check) : ∀ c ∈ k.calls q f, atHexAddress c := by
  have hown : ∀ c ∈ ((registryPart f.agentRegistry).map fun p =>
      callAt (regAddress q.registryAddress p) (Call.ownerOf · f.agentId)).getD [],
        atHexAddress c := by
    cases registryPart f.agentRegistry with
    | none => simp
    | some p => exact atHexAddress_callAt fun _ h => h
  cases k <;> simp only [Check.calls, List.forall_mem_cons, List.not_mem_nil] <;>
    first | exact ⟨trivial, hown⟩ | simp [atHexAddress]

theorem allCalls_atHexAddress (p : Str) : ∀ c ∈ allCalls q f p, atHexAddress c := by
  simp only [allCalls, List.forall_mem_cons, List.forall_mem_append]
  exact ⟨trivial, atHexAddress_callAt fun _ h => h, atHexAddress_callAt fun _ h => h⟩

/-- **The back end is asked only about addresses**: every `ownerOf` and
`get_code` call of a run is at `0x` and forty hex digits, as
`Web3.to_checksum_address` returns them; a registry part or message address
that is not one ends the run before the call. -/
theorem verifyRun_atHexAddress (q : Request) : ∀ c ∈ (verifyRun q).calls, atHexAddress c := by
  have ho := verifyRun_outcome q
  generalize verifyRun q = run at ho ⊢
  cases ho with
  | unparsed => simp [Run.raise]
  | rejected | raised => exact Check.calls_atHexAddress _
  | codeRaised | accepted => exact allCalls_atHexAddress _

/-! ## Requests whose collaborators answer -/

/-- A request for the message `buildSiwaMessage fields` at its own domain, whose
signature recovers to the message's address, whose validator returns `verdict`,
whose back end names `owner` as the owner of every token and gives `code` for
`get_code`. The pipeline asks the back end only at addresses that
`toChecksumAddress` returned, so a registry part that is not an address still
gives `NOT_REGISTERED`. -/
def honestRequest (fields : SIWAMessageFields) (verdict : NonceResult) (owner : Str)
    (code : Except PyException (List UInt8)) (now : NaiveDateTime) : Request where
  message := buildSiwaMessage fields
  signature := []
  expectedDomain := fields.domain
  nonceValidator := fun _ => .ok verdict
  w3 := ⟨fun _ _ => .ok owner, fun _ => code⟩
  registryAddress := none
  recoverMessage := fun _ _ => .ok fields.address
  now := now

/-- Noon on the day `plainFields` was issued. -/
def noonJan1 : NaiveDateTime := ⟨2024, 1, 1, 12, 0, 0, 0, by decide⟩

/-- `plainFields`, signed by its own address, with a validator that says yes. -/
def plainRequest : Request :=
  honestRequest plainFields (.value true) plainFields.address (.ok []) noonJan1

/-! ## What an accepted request satisfies -/

/-- What a `valid=True` result says about the request, item by item: the
message parsed; its signature recovers to its address; its domain is the
expected one; the validator was called on its nonce and its verdict was true;
the clock lies in its time window, on wall-clock time (UTC for a value written
with `Z` or with no offset); its registry is `eip155:<x>:<p>`; `registry_address
or p` checksums, and the owner of its agent at that address is the signer; and
the result reports the signer and the message's agent. -/
def SoundlyAccepted (q : Request) : Prop :=
  ∃ f r o p x a, parseSiwaMessage q.message = .ok f ∧
    recovered q = .ok r ∧ pyLower r = pyLower f.address ∧
    f.domain = q.expectedDomain ∧
    .nonceValidator f.nonce ∈ (verifyRun q).calls ∧
    (q.nonceValidator f.nonce = .ok (.value true) ∨
      q.nonceValidator f.nonce = .ok (.coroutine (.ok true))) ∧
    (∀ e, truthy f.expirationTime = some e →
      ∃ t, fromIsoFormat (replaceZ e) = .ok t ∧ q.now ≤ t.naive) ∧
    (∀ e, truthy f.notBefore = some e →
      ∃ t, fromIsoFormat (replaceZ e) = .ok t ∧ t.naive ≤ q.now) ∧
    f.agentRegistry.splitOn ':' = ["eip155".toList, x, p] ∧
    toChecksumAddress (regAddress q.registryAddress p) = .ok a ∧
    q.w3.ownerOf a f.agentId = .ok o ∧ pyLower o = pyLower r ∧
    (verifySiwa q).address = r ∧ (verifySiwa q).agentId = f.agentId ∧
    (verifySiwa q).agentRegistry = f.agentRegistry ∧ (verifySiwa q).chainId = f.chainId

/-- **Soundness of `verify_siwa`**, for a validator that returns a `bool` or a
coroutine. -/
theorem verifySiwa_valid_sound (q : Request) (hnf : ∀ n x, q.nonceValidator n ≠ .ok (.future x))
    (hv : (verifySiwa q).valid = true) : SoundlyAccepted q := by
  unfold SoundlyAccepted verifySiwa at *
  have ho := verifyRun_outcome q
  generalize verifyRun q = run at ho hv ⊢
  cases ho with
  | unparsed | rejected | raised | codeRaised => simp [Run.raise] at hv
  | @accepted f p r code hf hall hp hr hc =>
  obtain ⟨x, hx⟩ := registryPart_eq_some.1 hp
  obtain ⟨p', o, r', hp', ho, hr', hl⟩ := hall .owner
  obtain ⟨r'', hr'', hla⟩ := hall .address
  rw [hp] at hp'; cases hp'
  rw [hr] at hr'; cases hr'
  rw [hr] at hr''; cases hr''
  obtain ⟨a, ha, ho⟩ := ownerLookup_eq_ok.1 ho
  exact ⟨f, r, o, p, x, a, hf, hr, hla, hall .domain, by simp [allCalls],
    nonceOk_eq_true (hall .nonce) (hnf f.nonce), expired_eq_ok_false.1 (hall .expiry),
    notYetValid_eq_ok_false.1 (hall .notBefore), hx, ha, ho, hl, rfl, rfl, rfl, rfl⟩

theorem plainRequest_soundlyAccepted :
    (∀ n x, plainRequest.nonceValidator n ≠ .ok (.future x)) ∧
      (verifySiwa plainRequest).valid = true ∧ SoundlyAccepted plainRequest := by
  have hnf : ∀ n x, plainRequest.nonceValidator n ≠ .ok (.future x) := by
    simp [plainRequest, honestRequest]
  have hv : (verifySiwa plainRequest).valid = true := by decide
  exact ⟨hnf, hv, verifySiwa_valid_sound plainRequest hnf hv⟩

/-- **Completeness**: a request whose message parses and passes every check,
at an address that checksums and whose `get_code` returns, is accepted. -/
theorem verifySiwa_of_passes (hf : parseSiwaMessage q.message = .ok f) (hall : ∀ k, Passes q f k)
    (hc : ∃ c, codeLookup q f = .ok c) :
    ∃ r c, recovered q = .ok r ∧ verifySiwa q = accepted f r c := by
  unfold verifySiwa
  have ho := verifyRun_outcome q
  generalize verifyRun q = run at ho ⊢
  cases ho with
  | unparsed he => rw [hf] at he; cases he
  | rejected _ hf' _ hk => rw [hf] at hf'; cases hf'; exact (not_passes_of_fails hk (hall _)).elim
  | raised hf' _ hk => rw [hf] at hf'; cases hf'; exact (not_passes_of_raises hk (hall _)).elim
  | codeRaised hf' _ _ he =>
    rw [hf] at hf'; cases hf'
    obtain ⟨c, hc⟩ := hc
    rw [hc] at he; cases he
  | accepted hf' _ _ hr _ => rw [hf] at hf'; cases hf'; exact ⟨_, _, hr, rfl⟩

/-- **What acceptance means**: `verify_siwa` accepts exactly the requests whose
message parses and passes every check, at an address that checksums and whose
`get_code` returns. -/
theorem verifySiwa_valid_iff (q : Request) :
    (verifySiwa q).valid = true ↔ ∃ f, parseSiwaMessage q.message = .ok f ∧
      (∀ k, Passes q f k) ∧ ∃ c, codeLookup q f = .ok c := by
  constructor
  · unfold verifySiwa
    intro hv
    have ho := verifyRun_outcome q
    generalize verifyRun q = run at ho hv
    cases ho with
    | unparsed | rejected | raised | codeRaised => simp [Run.raise] at hv
    | accepted hf hall _ _ hc => exact ⟨_, hf, hall, _, hc⟩
  · rintro ⟨f, hf, hall, hc⟩
    obtain ⟨r, c, -, hv⟩ := verifySiwa_of_passes hf hall hc
    rw [hv]; rfl

/-! ## The first check that does not pass -/

theorem not_raises_of_fails {k : Check} {e : PyException} (hf : Fails q f k) : ¬Raises q f k e := by
  cases k <;> simp only [Raises, not_false_eq_true] <;> intro he <;> cases hf.symm.trans he

/-- Two checks a run reached and that do not pass are the same check. -/
theorem Reached.eq_of_not_passes {j k : Check} (hj : Reached q f j) (hjp : ¬Passes q f j)
    (hk : Reached q f k) (hkp : ¬Passes q f k) : j = k := by
  rcases Nat.lt_trichotomy j.rank k.rank with h | h | h
  · exact absurd (hk j h) hjp
  · exact Check.rank_inj h
  · exact absurd (hj k h) hkp

/-- **The first check that rejects decides the result**: when every check
before `k` passes and `k` rejects, `verify_siwa` fails with `k`'s code and the
parsed fields. -/
theorem verifySiwa_of_fails {k : Check} (hf : parseSiwaMessage q.message = .ok f)
    (hr : Reached q f k) (hk : Fails q f k) : ∃ msg, verifySiwa q = fail f k.code msg := by
  unfold verifySiwa
  have ho := verifyRun_outcome q
  generalize verifyRun q = run at ho ⊢
  cases ho with
  | unparsed he => rw [hf] at he; cases he
  | rejected msg hf' hr' hk' =>
    rw [hf] at hf'; cases hf'
    cases hr'.eq_of_not_passes (not_passes_of_fails hk') hr (not_passes_of_fails hk)
    exact ⟨msg, rfl⟩
  | raised hf' hr' hk' =>
    rw [hf] at hf'; cases hf'
    cases hr'.eq_of_not_passes (not_passes_of_raises hk') hr (not_passes_of_fails hk)
    exact absurd hk' (not_raises_of_fails hk)
  | codeRaised hf' hall | accepted hf' hall =>
    rw [hf] at hf'; cases hf'
    exact absurd (hall k) (not_passes_of_fails hk)

/-- A code other than `VERIFICATION_FAILED` names a check that every earlier
check passed and that rejected. -/
theorem exists_fails_of_code {c : SIWAErrorCode} (h : (verifySiwa q).code = some c)
    (hc : c ≠ .verificationFailed) :
    ∃ f k, parseSiwaMessage q.message = .ok f ∧ k.code = c ∧ Reached q f k ∧ Fails q f k := by
  unfold verifySiwa at h
  have ho := verifyRun_outcome q
  generalize verifyRun q = run at ho h
  cases ho with
  | rejected _ hf hr hk => exact ⟨_, _, hf, by simpa using h, hr, hk⟩
  | unparsed | raised | codeRaised => simp [Run.raise] at h; exact absurd h.symm hc
  | accepted => simp at h

/-- **The rejection codes are the rejecting checks**: `verify_siwa` returns a
code `c` other than `VERIFICATION_FAILED` exactly when the message parses and a
check with code `c` rejects it after every earlier check passed. -/
theorem verifySiwa_code_iff_fails {c : SIWAErrorCode} (hc : c ≠ .verificationFailed) :
    (verifySiwa q).code = some c ↔
      ∃ f k, parseSiwaMessage q.message = .ok f ∧ k.code = c ∧ Reached q f k ∧ Fails q f k := by
  refine ⟨fun h => exists_fails_of_code h hc, ?_⟩
  rintro ⟨f, k, hf, rfl, hr, hk⟩
  obtain ⟨msg, hv⟩ := verifySiwa_of_fails hf hr hk
  rw [hv]
  rfl

theorem plainRequest_domainMismatch_iff :
    SIWAErrorCode.domainMismatch ≠ .verificationFailed ∧
      ((verifySiwa plainRequest).code = some .domainMismatch ↔
        ∃ f k, parseSiwaMessage plainRequest.message = .ok f ∧ k.code = .domainMismatch ∧
          Reached plainRequest f k ∧ Fails plainRequest f k) :=
  ⟨by decide, verifySiwa_code_iff_fails (by decide)⟩

/-! ## Which stage an error code names -/

/-- **Failure classification follows the stage order.** A code other than
`VERIFICATION_FAILED` is that of a check every earlier check passed and that
rejected the request. `VERIFICATION_FAILED` comes from the parser, from the
validator (calling or awaiting it), from `fromisoformat` on a timestamp of the
message, or from `Web3.to_checksum_address` on the message's address or from
`get_code` once every check has passed. -/
theorem verifySiwa_code_classification (q : Request) :
    (∀ c, (verifySiwa q).code = some c → c ≠ .verificationFailed →
      (verifySiwa q).valid = false ∧ ∃ f, parseSiwaMessage q.message = .ok f ∧
        ∃ k, k.code = c ∧ Reached q f k ∧ Fails q f k) ∧
    ((verifySiwa q).code = some .verificationFailed →
      (verifySiwa q).valid = false ∧
      ((∃ e, parseSiwaMessage q.message = .error e) ∨
        ∃ f, parseSiwaMessage q.message = .ok f ∧
          ((∃ k e, Reached q f k ∧ Raises q f k e) ∨
            (∀ k, Passes q f k) ∧ ∃ e, codeLookup q f = .error e))) := by
  unfold verifySiwa
  have ho := verifyRun_outcome q
  generalize verifyRun q = run at ho ⊢
  cases ho with
  | unparsed he => exact ⟨fun c hc hne => by simp_all [Run.raise], fun _ => ⟨rfl, .inl ⟨_, he⟩⟩⟩
  | @rejected f k msg hf hr hk =>
    refine ⟨fun c hc _ => ⟨rfl, f, hf, k, by simpa using hc, hr, hk⟩, fun hc => ?_⟩
    simp only [Run.result_ok, fail_code, Option.some.injEq] at hc
    exact absurd hc k.code_ne_verificationFailed
  | raised hf hr hk =>
    exact ⟨fun c hc hne => by simp_all, fun _ => ⟨rfl, .inr ⟨_, hf, .inl ⟨_, _, hr, hk⟩⟩⟩⟩
  | codeRaised hf hall _ hc =>
    exact ⟨fun c hc hne => by simp_all, fun _ => ⟨rfl, .inr ⟨_, hf, .inr ⟨hall, _, hc⟩⟩⟩⟩
  | accepted => simp

/-- The message of `plainRequest`, with an expiration time that is not a timestamp. -/
def malformedExpiryRequest : Request :=
  honestRequest { plainFields with expirationTime := some "tomorrow".toList } (.value true)
    plainFields.address (.ok []) noonJan1

/-- A message the parser accepts, with no collaborator raising, still ends in
`VERIFICATION_FAILED`: `fromisoformat` rejects its expiration time. -/
theorem malformed_expiry_verificationFailed :
    (parseSiwaMessage malformedExpiryRequest.message).toOption.isSome = true ∧
      (verifyRun malformedExpiryRequest).calls = [.nonceValidator "abc123".toList] ∧
      (verifySiwa malformedExpiryRequest).code = some .verificationFailed := by
  decide

end Siwa.Checks
