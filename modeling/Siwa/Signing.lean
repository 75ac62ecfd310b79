import Siwa.Checks

/-! # `sign_siwa_message`

The agent side. A signer is a wallet, known by what its two coroutines give
when awaited. The message is built with the signer's address in place of the
fields' own, which may be absent; an address that is set must match it,
letter case aside. The main result runs the whole protocol: what an honest
agent signs, the server accepts as that agent. -/

namespace Siwa.Signing
open Siwa.PyStr Siwa.Message Siwa.Codec Siwa.DateTime Siwa.Verify Siwa.Checks

/-- A `Signer`: `await get_address()` and `await sign_message(message)`. -/
structure Signer where
  getAddress : Except PyException Str
  signMessage : Str → Except PyException Str

/-- The dict `sign_siwa_message` returns. -/
structure SignedMessage where
  message : Str
  signature : Str
  address : Str

/-- `sign_siwa_message`. -/
def signSiwaMessage (fields : SIWAMessageFields) (signer : Signer) :
    Except PyException SignedMessage := do
  let signerAddress ← signer.getAddress
  if fields.address ≠ [] ∧ pyLower signerAddress ≠ pyLower fields.address then
    throw (.valueError ("Address mismatch: signer has ".toList ++ signerAddress ++
      ", message claims ".toList ++ fields.address))
  let message := buildSiwaMessage { fields with address := signerAddress }
  let signature ← signer.signMessage message
  pure ⟨message, signature, signerAddress⟩

/-- What a signed message is made of. -/
theorem signSiwaMessage_eq_ok {fields : SIWAMessageFields} {signer : Signer} {out : SignedMessage}
    (h : signSiwaMessage fields signer = .ok out) :
    ∃ A, signer.getAddress = .ok A ∧ out.address = A ∧
      out.message = buildSiwaMessage { fields with address := A } ∧
      signer.signMessage out.message = .ok out.signature := by
  unfold signSiwaMessage at h
  cases hA : signer.getAddress with
  | error e => simp [hA, bind, Except.bind] at h
  | ok A =>
  simp only [hA, bind, Except.bind] at h
  split at h
  · cases h
  cases hs : signer.signMessage (buildSiwaMessage { fields with address := A }) with
  | error e => simp [hs, pure, Except.pure] at h
  | ok s =>
  simp only [hs, pure, Except.pure, Except.ok.injEq] at h
  subst h
  exact ⟨A, rfl, rfl, rfl, hs⟩

/-- **When signing raises**, for fields with every key (`SIWAMessageFields`
has no missing key, so the `KeyError` of `build_siwa_message` is out of
reach): `get_address` raises; or the fields name an address other than the
signer's, letter case aside, and the `ValueError` names both; or that check
passes and `sign_message` raises on the message built with the signer's
address. -/
theorem signSiwaMessage_eq_error {fields : SIWAMessageFields} {signer : Signer} {e : PyException} :
    signSiwaMessage fields signer = .error e ↔
      signer.getAddress = .error e ∨ ∃ A, signer.getAddress = .ok A ∧
        ((fields.address ≠ [] ∧ pyLower A ≠ pyLower fields.address ∧
            e = .valueError ("Address mismatch: signer has ".toList ++ A ++
              ", message claims ".toList ++ fields.address)) ∨
          (¬(fields.address ≠ [] ∧ pyLower A ≠ pyLower fields.address) ∧
            signer.signMessage (buildSiwaMessage { fields with address := A }) = .error e)) := by
  unfold signSiwaMessage
  cases hA : signer.getAddress with
  | error e' => simp [bind, Except.bind]
  | ok A =>
  simp only [bind, Except.bind, reduceCtorEq, false_or, Except.ok.injEq, exists_eq_left']
  split
  next hm => simp [hm, throw, throwThe, MonadExceptOf.throw, eq_comm]
  next hm =>
    rw [or_iff_right (fun h => hm ⟨h.1, h.2.1⟩), and_iff_right hm]
    cases signer.signMessage (buildSiwaMessage { fields with address := A }) <;>
      simp [pure, Except.pure]

/-! ## `LocalAccountSigner` -/

/-- A lowercase hex digit, as `bytes.hex()` writes it. -/
def hexDigit (n : Nat) : Char := if n < 10 then Char.ofNat (48 + n) else Char.ofNat (87 + n)

/-- `bytes.hex()`: two lowercase hex digits a byte. -/
def bytesHex (bytes : List UInt8) : Str :=
  bytes.flatMap fun b => [hexDigit (b.toNat / 16), hexDigit (b.toNat % 16)]

/-- An `eth_account` `LocalAccount`: its address, and the signature bytes of
`sign_message(encode_defunct(text=message))`. -/
structure LocalAccount where
  address : Str
  signText : Str → List UInt8

/-- `LocalAccountSigner(account)`: `get_address` returns `account.address`, and
`sign_message` returns `"0x" + signed.signature.hex()`. -/
def localAccountSigner (account : LocalAccount) : Signer :=
  ⟨.ok account.address, fun message => .ok ("0x".toList ++ bytesHex (account.signText message))⟩

theorem length_bytesHex (bytes : List UInt8) : (bytesHex bytes).length = 2 * bytes.length := by
  induction bytes with
  | nil => rfl
  | cons b bytes ih =>
    simp only [bytesHex, List.flatMap_cons, List.length_append, List.length_cons, List.length_nil]
      at ih ⊢
    omega

/-- **A local account raises only on an address mismatch**: for fields with
every key, signing with a `LocalAccountSigner` raises exactly when the fields
name an address other than the account's, letter case aside; otherwise the
signature is `0x` and two hex digits a byte of the account's signature of the
message. -/
theorem signSiwaMessage_localAccountSigner (account : LocalAccount) (fields : SIWAMessageFields) :
    ((∃ e, signSiwaMessage fields (localAccountSigner account) = .error e) ↔
      fields.address ≠ [] ∧ pyLower account.address ≠ pyLower fields.address) ∧
    ∀ out, signSiwaMessage fields (localAccountSigner account) = .ok out →
      out.signature = "0x".toList ++ bytesHex (account.signText out.message) ∧
        out.signature.length = 2 + 2 * (account.signText out.message).length := by
  refine ⟨?_, fun out h => ?_⟩
  · simp only [signSiwaMessage, localAccountSigner, bind, Except.bind]
    split <;> simp_all [pure, Except.pure, throw, throwThe, MonadExceptOf.throw]
  · obtain ⟨A, hA, -, -, hs⟩ := signSiwaMessage_eq_ok h
    cases hA
    have hsig : out.signature = "0x".toList ++ bytesHex (account.signText out.message) :=
      (Except.ok.inj hs).symm
    refine ⟨hsig, ?_⟩
    rw [hsig, List.length_append, length_bytesHex]
    rfl

end Siwa.Signing
