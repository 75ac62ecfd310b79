import Siwa.Message
import Siwa.DateTime

/-! # `verify_siwa`

The server-side pipeline (siwa.py). The body of its `try` is `verifyRun`: the
off-chain stages 1 to 6 (`checkOffline`) and then the on-chain stage
(`ownership`), which the off-chain part calls once every off-chain check has
passed. A `return fail(...)` is `Run.ret`, an exception is `Run.raise`, and
each call to a collaborator with a side effect or a cost is recorded in the
run's `calls`, in order. `verifySiwa` adds the outer `except`, which turns an
exception into a `VERIFICATION_FAILED` result.

The collaborators are the request's: signature recovery
(`Account.recover_message` after `encode_defunct`, which cannot fail on a
string of Unicode scalar values), the nonce validator, the web3 back end
(`Chain`: the RPC calls `ownerOf` and `get_code`), and the clock. Before each
RPC the code calls `Web3.to_checksum_address`, a fixed function
(`toChecksumAddress`) that raises on anything but a hex address, so the back
end is only ever asked about an address. -/

namespace Siwa.Verify
open Siwa.PyStr Siwa.Message Siwa.DateTime

/-- `SIWAErrorCode`. -/
inductive SIWAErrorCode
  | invalidSignature | domainMismatch | invalidNonce | messageExpired | messageNotYetValid
  | invalidRegistryFormat | notRegistered | notOwner | agentNotActive | missingService
  | missingTrustModel | lowReputation | customCheckFailed | verificationFailed
deriving DecidableEq, Repr

/-- `SignerType`. -/
inductive SignerType | eoa | sca
deriving DecidableEq, Repr

/-- The values of `verified`. -/
inductive Verified | offline | onchain
deriving DecidableEq, Repr

/-- `SIWAVerificationResult`; the keys a result may lack are `Option`s. -/
structure SIWAVerificationResult where
  valid : Bool
  address : Str
  agentId : Int
  agentRegistry : Str
  chainId : Int
  verified : Verified
  signerType : Option SignerType
  code : Option SIWAErrorCode
  error : Option Str
deriving DecidableEq, Repr

/-- What `nonce_validator(nonce)` returns. -/
inductive NonceResult
  /-- An object that is not awaitable (a `bool`, or any other), by its truth value. -/
  | value (truth : Bool)
  /-- A coroutine: awaiting it gives an object of this truth value, or raises. -/
  | coroutine (awaited : Except PyException Bool)
  /-- An awaitable that is not a coroutine (an asyncio `Future` or `Task`, or any
  object with `__await__`): awaiting it would give `resolved`. -/
  | future (resolved : Except PyException Bool)

/-- `nonce_ok`, as `not nonce_ok` tests it: `asyncio.iscoroutine` selects what
is awaited, and any other object is tested as it is; a `Future` object is true. -/
def nonceOk : NonceResult → Except PyException Bool
  | .value truth => .ok truth
  | .coroutine awaited => awaited
  | .future _ => .ok true

/-- The web3 back end as the pipeline uses it: its two RPC calls, on a
checksummed address. -/
structure Chain where
  /-- `w3.eth.contract(address=reg, abi=owner_of_abi).functions.ownerOf(agent_id).call()`. -/
  ownerOf : Str → Int → Except PyException Str
  /-- `w3.eth.get_code(address)`. -/
  getCode : Str → Except PyException (List UInt8)

/-! ## Addresses -/

/-- An ASCII hex digit. -/
def isHexDigit (c : Char) : Bool :=
  ('0' ≤ c && c ≤ '9') || ('a' ≤ c && c ≤ 'f') || ('A' ≤ c && c ≤ 'F')

/-- `remove_0x_prefix(value)`. -/
def strip0x : Str → Str
  | '0' :: 'x' :: rest | '0' :: 'X' :: rest => rest
  | s => s

/-- `Web3.to_checksum_address(value)` on a `str` (eth_utils): after an optional
`0x` or `0X` the text must be hex digits (`hexstr_if_str`), and exactly forty
of them (`is_address` on the text lowercased with a `0x`); anything else raises
`ValueError`, before any call. The result is the address in lowercase: EIP-55
writes some of its letters in upper case, by a Keccak hash of it, and the back
end reads both as the same address. -/
def toChecksumAddress (value : Str) : Except PyException Str :=
  let digits := strip0x value
  let hexAddress := "0x".toList ++ pyLower digits
  if digits ≠ [] ∧ digits.all isHexDigit = false then
    .error (.valueError ("when sending a str, it must be a hex string. Got: ".toList ++
      pyRepr value))
  else if digits.length = 40 then .ok hexAddress
  else .error (.valueError ("Unknown format ".toList ++ pyRepr value ++
    ", attempted to normalize to ".toList ++ pyRepr hexAddress))

/-- `Web3.to_checksum_address` returns exactly on forty hex digits after an
optional `0x`, and returns them after `0x`, lowercased. -/
theorem toChecksumAddress_eq_ok {value a : Str} :
    toChecksumAddress value = .ok a ↔
      (strip0x value).length = 40 ∧ (strip0x value).all isHexDigit = true ∧
        a = "0x".toList ++ pyLower (strip0x value) := by
  unfold toChecksumAddress
  by_cases hl : (strip0x value).length = 40
  · have hne : strip0x value ≠ [] := fun h => by simp [h] at hl
    by_cases hh : (strip0x value).all isHexDigit = true <;> simp [hl, hh, hne, eq_comm]
  · simp only [hl, if_false, false_and, iff_false]
    split <;> simp

example : (toChecksumAddress "0xab".toList).toOption = none := by decide

example : toChecksumAddress "0x8004AA63B05E4C14eC1Fe6B35AD3bAe8A7Bc9b66".toList =
    .ok "0x8004aa63b05e4c14ec1fe6b35ad3bae8a7bc9b66".toList := rfl

/-- One call of `verify_siwa`: its arguments, signature recovery and the clock. -/
structure Request where
  message : Str
  signature : Str
  expectedDomain : Str
  nonceValidator : Str → Except PyException NonceResult
  w3 : Chain
  registryAddress : Option Str
  /-- `Account.recover_message(encode_defunct(text=message), signature=signature)`. -/
  recoverMessage : Str → Str → Except PyException Str
  /-- `datetime.utcnow()`. -/
  now : NaiveDateTime

/-- A collaborator call with a side effect or a cost. -/
inductive Call
  | nonceValidator (nonce : Str)
  | ownerOf (registry : Str) (agentId : Int)
  | getCode (address : Str)
deriving DecidableEq, Repr

/-- How the `try` body ends, and the calls it made. -/
structure Run where
  calls : List Call
  outcome : Except PyException SIWAVerificationResult

def Run.ret (r : SIWAVerificationResult) : Run := ⟨[], .ok r⟩

def Run.raise (e : PyException) : Run := ⟨[], .error e⟩

def Run.call (c : Call) (r : Run) : Run := ⟨c :: r.calls, r.outcome⟩

@[simp] theorem Run.call_outcome (c : Call) (r : Run) : (Run.call c r).outcome = r.outcome := rfl

@[simp] theorem Run.call_calls (c : Call) (r : Run) : (Run.call c r).calls = c :: r.calls := rfl

/-! ## The stages -/

/-- The nested `fail(fields, code, error)`. -/
def fail (fields : SIWAMessageFields) (code : SIWAErrorCode) (error : Str) :
    SIWAVerificationResult :=
  { valid := false, address := fields.address, agentId := fields.agentId
    agentRegistry := fields.agentRegistry, chainId := fields.chainId, verified := .onchain
    signerType := none, code := some code, error := some error }

/-- `datetime.fromisoformat(value.replace("Z", "+00:00")).replace(tzinfo=None)`. -/
def wallClock (value : Str) : Except PyException NaiveDateTime :=
  (fromIsoFormat (replaceZ value)).map (·.naive)

/-- `now > exp`, when `expiration_time` is truthy. -/
def expired (fields : SIWAMessageFields) (now : NaiveDateTime) : Except PyException Bool :=
  match truthy fields.expirationTime with
  | none => .ok false
  | some e => (wallClock e).map fun exp => decide (exp < now)

/-- `now < nbf`, when `not_before` is truthy. -/
def notYetValid (fields : SIWAMessageFields) (now : NaiveDateTime) : Except PyException Bool :=
  match truthy fields.notBefore with
  | none => .ok false
  | some nb => (wallClock nb).map fun nbf => decide (now < nbf)

/-- `registry_parts = agent_registry.split(":")`, accepted when it has three
parts and the first is `eip155`: its third part. -/
def registryPart (agentRegistry : Str) : Option Str :=
  match agentRegistry.splitOn ':' with
  | [p0, _, p2] => if p0 = "eip155".toList then some p2 else none
  | _ => none

/-- `registry_address or registry_parts[2]`. -/
def regAddress (registryAddress : Option Str) (part : Str) : Str :=
  (truthy registryAddress).getD part

/-- The success result. -/
def accepted (fields : SIWAMessageFields) (recovered : Str) (code : List UInt8) :
    SIWAVerificationResult :=
  { valid := true, address := recovered, agentId := fields.agentId
    agentRegistry := fields.agentRegistry, chainId := fields.chainId, verified := .onchain
    signerType := some (if code ≠ [] then .sca else .eoa), code := none, error := none }

/-- Stage 7 and the signer-type detection. -/
def ownership (w3 : Chain) (registryAddress : Option Str) (fields : SIWAMessageFields)
    (recovered : Str) : Run :=
  match registryPart fields.agentRegistry with
  | none => .ret (fail fields .invalidRegistryFormat "Invalid agent_registry format".toList)
  | some part =>
    -- the checksum and the call share the `try` whose `except` is NOT_REGISTERED
    match toChecksumAddress (regAddress registryAddress part) with
    | .error _ => .ret (fail fields .notRegistered
        "Agent is not registered on the ERC-8004 Identity Registry".toList)
    | .ok reg =>
    Run.call (.ownerOf reg fields.agentId) <|
    match w3.ownerOf reg fields.agentId with
    | .error _ => .ret (fail fields .notRegistered
        "Agent is not registered on the ERC-8004 Identity Registry".toList)
    | .ok owner =>
      if pyLower owner ≠ pyLower recovered then
        .ret (fail fields .notOwner "Signer is not the owner of this agent NFT".toList)
      else
        match toChecksumAddress fields.address with
        | .error e => .raise e
        | .ok address =>
        Run.call (.getCode address) <|
        match w3.getCode address with
        | .error e => .raise e
        | .ok code => .ret (accepted fields recovered code)

/-- Stages 1 to 6; `onchain` is what follows them. -/
def checkOffline (q : Request) (onchain : SIWAMessageFields → Str → Run) : Run :=
  match parseSiwaMessage q.message with
  | .error e => .raise e
  | .ok fields =>
  match q.recoverMessage q.message q.signature with
  | .error _ => .ret (fail fields .invalidSignature "Invalid signature".toList)
  | .ok recovered =>
  if pyLower recovered ≠ pyLower fields.address then
    .ret (fail fields .invalidSignature
      ("Signature recovered ".toList ++ recovered ++ ", expected ".toList ++ fields.address))
  else if fields.domain ≠ q.expectedDomain then
    .ret (fail fields .domainMismatch
      ("Domain mismatch: expected ".toList ++ q.expectedDomain ++ ", got ".toList ++ fields.domain))
  else
  Run.call (.nonceValidator fields.nonce) <|
  match (q.nonceValidator fields.nonce).bind nonceOk with
  | .error e => .raise e
  | .ok false => .ret (fail fields .invalidNonce "Invalid or consumed nonce".toList)
  | .ok true =>
  match expired fields q.now with
  | .error e => .raise e
  | .ok true => .ret (fail fields .messageExpired "Message expired".toList)
  | .ok false =>
  match notYetValid fields q.now with
  | .error e => .raise e
  | .ok true => .ret (fail fields .messageNotYetValid "Message not yet valid (not_before)".toList)
  | .ok false => onchain fields recovered

/-- The `try` body of `verify_siwa`. -/
def verifyRun (q : Request) : Run :=
  checkOffline q (ownership q.w3 q.registryAddress)

/-- The outer `except Exception as e`. -/
def verificationFailed (e : PyException) : SIWAVerificationResult :=
  { valid := false, address := [], agentId := 0, agentRegistry := [], chainId := 0
    verified := .offline, signerType := none, code := some .verificationFailed
    error := some e.str }

/-- The outer `except` applied to how the `try` body ended. -/
def Run.result (run : Run) : SIWAVerificationResult :=
  match run.outcome with
  | .ok r => r
  | .error e => verificationFailed e

/-- `verify_siwa`. -/
def verifySiwa (q : Request) : SIWAVerificationResult := (verifyRun q).result

@[simp] theorem Run.result_ok (calls : List Call) (r : SIWAVerificationResult) :
    Run.result ⟨calls, .ok r⟩ = r := rfl

@[simp] theorem Run.result_error (calls : List Call) (e : PyException) :
    Run.result ⟨calls, .error e⟩ = verificationFailed e := rfl

@[simp] theorem fail_valid (fields : SIWAMessageFields) (code : SIWAErrorCode) (error : Str) :
    (fail fields code error).valid = false := rfl

@[simp] theorem fail_code (fields : SIWAMessageFields) (code : SIWAErrorCode) (error : Str) :
    (fail fields code error).code = some code := rfl

@[simp] theorem verificationFailed_valid (e : PyException) : (verificationFailed e).valid = false :=
  rfl

@[simp] theorem verificationFailed_code (e : PyException) :
    (verificationFailed e).code = some .verificationFailed := rfl

@[simp] theorem accepted_valid (fields : SIWAMessageFields) (recovered : Str) (code : List UInt8) :
    (accepted fields recovered code).valid = true := rfl

@[simp] theorem accepted_code (fields : SIWAMessageFields) (recovered : Str) (code : List UInt8) :
    (accepted fields recovered code).code = none := rfl

/-- A verdict that is not a `Future` passes exactly when it is true, or a
coroutine that awaits to true. -/
theorem nonceOk_eq_true {v : Except PyException NonceResult} (h : v.bind nonceOk = .ok true)
    (hnf : ∀ x, v ≠ .ok (.future x)) : v = .ok (.value true) ∨ v = .ok (.coroutine (.ok true)) := by
  rcases v with e | (b | a | x)
  · cases h
  · cases h; exact .inl rfl
  · cases h; exact .inr rfl
  · exact absurd rfl (hnf x)

/-- The expiration check passes exactly when the expiration time, if set,
parses and its wall-clock time is not before the clock. -/
theorem expired_eq_ok_false {fields : SIWAMessageFields} {now : NaiveDateTime} :
    expired fields now = .ok false ↔ ∀ e, truthy fields.expirationTime = some e →
      ∃ t, fromIsoFormat (replaceZ e) = .ok t ∧ now ≤ t.naive := by
  unfold expired wallClock
  cases truthy fields.expirationTime with
  | none => simp
  | some e => cases h : fromIsoFormat (replaceZ e) <;> simp [h, Except.map, NaiveDateTime.not_lt]

/-- The not-before check passes exactly when the not-before time, if set,
parses and its wall-clock time is not after the clock. -/
theorem notYetValid_eq_ok_false {fields : SIWAMessageFields} {now : NaiveDateTime} :
    notYetValid fields now = .ok false ↔ ∀ e, truthy fields.notBefore = some e →
      ∃ t, fromIsoFormat (replaceZ e) = .ok t ∧ t.naive ≤ now := by
  unfold notYetValid wallClock
  cases truthy fields.notBefore with
  | none => simp
  | some e => cases h : fromIsoFormat (replaceZ e) <;> simp [h, Except.map, NaiveDateTime.not_lt]

/-- `registry_parts` passes the format check exactly when it is `eip155:<x>:<part>`. -/
theorem registryPart_eq_some {agentRegistry part : Str} :
    registryPart agentRegistry = some part ↔
      ∃ x, agentRegistry.splitOn ':' = ["eip155".toList, x, part] := by
  unfold registryPart
  split
  next p0 x p2 h =>
    by_cases h0 : p0 = "eip155".toList <;> simp [h, h0, eq_comm]
  next h => simpa using fun x hx => h _ _ _ hx

end Siwa.Verify
