import Siwa.Checks

/-! # `build_siwa_response`

The response a platform forwards to the agent. A key the dict may lack is an
`Option`. The one step that can raise is the chain id of the registration
action, `result.get("chain_id") or int(registry_parts[1])`: a zero chain id
makes it read the registry's second part as an integer. -/

namespace Siwa.Response
open Siwa.PyStr Siwa.Message Siwa.Codec Siwa.Verify Siwa.Checks

/-- `SIWASkillRef`. -/
structure SIWASkillRef where
  name : Str
  install : Str
  url : Str
deriving DecidableEq, Repr

/-- `SIWAAction`. -/
structure SIWAAction where
  type : Str
  message : Str
  skill : SIWASkillRef
  steps : List Str
  registryAddress : Option Str
  chainId : Option Int
deriving DecidableEq, Repr

/-- The values of `status`. -/
inductive Status | authenticated | notRegistered | rejected
deriving DecidableEq, Repr

/-- `SIWAResponse`. -/
structure SIWAResponse where
  status : Status
  address : Str
  agentId : Int
  agentRegistry : Str
  chainId : Int
  verified : Verified
  signerType : Option SignerType
  code : Option SIWAErrorCode
  error : Option Str
  action : Option SIWAAction
  skill : Option SIWASkillRef
deriving DecidableEq, Repr

def skillRef : SIWASkillRef :=
  ⟨"siwa".toList, "pip install siwa".toList, "https://siwa.id/skill.md".toList⟩

def registerSteps : List Str :=
  ["Install the SDK: pip install siwa".toList,
    "Create a wallet: from siwa import create_wallet; wallet = create_wallet()".toList,
    "Fund the wallet with ETH on the target chain for gas fees".toList,
    ("Build ERC-8004 registration metadata (JSON with name, description, services, " ++
      "active: true)").toList,
    "Register onchain: call register(agent_uri) on the Identity Registry contract".toList,
    "Retry SIWA sign-in".toList]

/-- `registry_parts[2] if len(registry_parts) == 3 else None`. -/
def actionRegistryAddress (registryParts : List Str) : Option Str :=
  match registryParts with
  | [_, _, p2] => some p2
  | _ => none

/-- `result.get("chain_id") or (int(registry_parts[1]) if len(registry_parts) >= 2 else None)`. -/
def actionChainId (chainId : Int) (registryParts : List Str) : Except PyException (Option Int) :=
  if chainId ≠ 0 then .ok (some chainId)
  else match registryParts with
    | _ :: p1 :: _ => (pyInt p1).map some
    | _ => .ok none

/-- `build_siwa_response`. -/
def buildSiwaResponse (result : SIWAVerificationResult) : Except PyException SIWAResponse :=
  let base : SIWAResponse :=
    { status := .authenticated, address := result.address, agentId := result.agentId
      agentRegistry := result.agentRegistry, chainId := result.chainId
      verified := result.verified, signerType := result.signerType
      code := none, error := none, action := none, skill := none }
  if result.valid then .ok base
  else if result.code = some .notRegistered then
    let registryParts := result.agentRegistry.splitOn ':'
    (actionChainId result.chainId registryParts).map fun chainId =>
      { base with
        status := .notRegistered, code := result.code
        error := some "Agent is not registered on the ERC-8004 Identity Registry.".toList
        skill := some skillRef
        action := some
          { type := "register".toList
            message := ("This address is not registered as an ERC-8004 agent. Install the " ++
              "SIWA SDK and register before signing in.").toList
            skill := skillRef, steps := registerSteps
            registryAddress := actionRegistryAddress registryParts, chainId } }
  else .ok { base with
    status := .rejected, code := result.code, error := result.error, skill := some skillRef }

/-! ## What the response says -/

/-- **The response reports the result**: the status is `authenticated` exactly
for a valid result and `not_registered` exactly for an invalid one coded
`NOT_REGISTERED`; a response that is not `authenticated` carries the result's
code and the skill reference; and the address, agent, registry, chain id and
verification mode are the result's. -/
theorem buildSiwaResponse_reports {result : SIWAVerificationResult} {resp : SIWAResponse}
    (h : buildSiwaResponse result = .ok resp) :
    (resp.status = .authenticated ↔ result.valid = true) ∧
      (resp.status = .notRegistered ↔ result.valid = false ∧ result.code = some .notRegistered) ∧
      (resp.status ≠ .authenticated → resp.code = result.code ∧ resp.skill = some skillRef) ∧
      resp.address = result.address ∧ resp.agentId = result.agentId ∧
      resp.agentRegistry = result.agentRegistry ∧ resp.chainId = result.chainId ∧
      resp.verified = result.verified := by
  unfold buildSiwaResponse at h
  split at h
  next hv => cases h; simp [hv]
  next hv =>
    split at h
    next hc =>
      cases ha : actionChainId result.chainId (result.agentRegistry.splitOn ':') with
      | error e => simp [ha, Except.map] at h
      | ok c =>
        simp only [ha, Except.map, Except.ok.injEq] at h
        subst h
        simp [hv, hc]
    next hc => cases h; simp [hv, hc]

/-! ## When the shaper raises -/

/-- `plainFields` on chain 0, in a registry whose chain part is not a number,
at a registry where `ownerOf` raises. -/
def unregisteredRequest : Request :=
  { honestRequest { plainFields with agentRegistry := "eip155:abc:0xab".toList, chainId := 0 }
      (.value true) plainFields.address (.ok []) noonJan1 with
    w3 := ⟨fun _ _ => .error (.other "ContractLogicError".toList "execution reverted".toList),
      fun _ => .ok []⟩ }

theorem unregistered_response_raises :
    (verifySiwa unregisteredRequest).code = some .notRegistered ∧
    buildSiwaResponse (verifySiwa unregisteredRequest) =
      .error (.valueError "invalid literal for int() with base 10: 'abc'".toList) := by
  refine ⟨by decide, ?_⟩
  rfl

end Siwa.Response
