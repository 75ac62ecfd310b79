import Siwa.Codec

/-! # `generate_nonce`

`generate_nonce(length)` returns `secrets.token_urlsafe(length)[:length]`:
`length` bytes from `os.urandom`, encoded in URL-safe base64 with the `=`
padding stripped, cut to `length` characters. The bytes are the model's input,
so every property below holds for every outcome of the randomness. The encoding
of `n` bytes has `4 * (n / 3)` characters and two or three more for a partial
group, at least `n` in all; so a nonce has exactly the length asked for, and its
characters are letters, digits, `-` and `_`, which lets it stand on a message
line and come back from the parser unchanged. -/

namespace Siwa.Nonce
open Siwa.PyStr Siwa.Message Siwa.Codec

/-- `os.urandom`: `n` bytes for every `n`. -/
structure Urandom where
  bytes : Nat → List UInt8
  length_bytes : ∀ n, (bytes n).length = n

/-- The URL-safe base64 alphabet: `A-Z`, `a-z`, `0-9`, then `-` and `_`. -/
def b64Char (i : Nat) : Char :=
  if i < 26 then Char.ofNat (65 + i)
  else if i < 52 then Char.ofNat (97 + (i - 26))
  else if i < 62 then Char.ofNat (48 + (i - 52))
  else if i = 62 then '-' else '_'

/-- `base64.urlsafe_b64encode`: three bytes to four characters, a partial
last group padded with `=`. -/
def urlsafeB64Encode : List UInt8 → Str
  | [] => []
  | [a] => [b64Char (a.toNat / 4), b64Char (a.toNat % 4 * 16), '=', '=']
  | [a, b] =>
    [b64Char (a.toNat / 4), b64Char (a.toNat % 4 * 16 + b.toNat / 16), b64Char (b.toNat % 16 * 4),
      '=']
  | a :: b :: c :: rest =>
    b64Char (a.toNat / 4) :: b64Char (a.toNat % 4 * 16 + b.toNat / 16) ::
      b64Char (b.toNat % 16 * 4 + c.toNat / 64) :: b64Char (c.toNat % 64) :: urlsafeB64Encode rest

/-- `secrets.token_urlsafe(nbytes)` on the bytes `token_bytes(nbytes)` drew:
`base64.urlsafe_b64encode(tok).rstrip(b'=').decode('ascii')`. -/
def tokenUrlsafe (bytes : List UInt8) : Str := (urlsafeB64Encode bytes).rdropWhile (· == '=')

/-- `generate_nonce(length)`; its default `length` is 16. `os.urandom` rejects a
negative size. -/
def generateNonce (urandom : Urandom) (length : Int) : Except PyException Str :=
  if length < 0 then .error (.valueError "negative argument not allowed".toList)
  else .ok ((tokenUrlsafe (urandom.bytes length.toNat)).take length.toNat)

/-- A character of the URL-safe alphabet. -/
def isUrlsafe (c : Char) : Bool :=
  ('A' ≤ c && c ≤ 'Z') || ('a' ≤ c && c ≤ 'z') || ('0' ≤ c && c ≤ '9') || c == '-' || c == '_'

/-! ## The encoding -/

theorem isUrlsafe_b64Char (i : Nat) : isUrlsafe (b64Char i) = true := by
  by_cases h : i < 64
  · have : ∀ i < 64, isUrlsafe (b64Char i) = true := by decide
    exact this i h
  · simp [b64Char, show ¬i < 26 by omega, show ¬i < 52 by omega, show ¬i < 62 by omega,
      show i ≠ 62 by omega, isUrlsafe]

/-- The encoding is its characters, then the padding of a partial last group. -/
theorem urlsafeB64Encode_eq (bytes : List UInt8) :
    ∃ body, urlsafeB64Encode bytes = body ++ List.replicate ((3 - bytes.length % 3) % 3) '=' ∧
      (∀ c ∈ body, isUrlsafe c = true) ∧
      body.length = 4 * (bytes.length / 3) + (if bytes.length % 3 = 0 then 0 else bytes.length % 3 + 1) := by
  induction bytes using urlsafeB64Encode.induct with
  | case1 => exact ⟨[], rfl, by simp, rfl⟩
  | case2 a => exact ⟨[_, _], rfl, by simp [isUrlsafe_b64Char], by simp⟩
  | case3 a b => exact ⟨[_, _, _], rfl, by simp [isUrlsafe_b64Char], by simp⟩
  | case4 a b c rest ih =>
    obtain ⟨body, hb, hu, hl⟩ := ih
    have hmod : (rest.length + 3) % 3 = rest.length % 3 := Nat.add_mod_right _ _
    refine ⟨b64Char (a.toNat / 4) :: b64Char (a.toNat % 4 * 16 + b.toNat / 16) ::
      b64Char (b.toNat % 16 * 4 + c.toNat / 64) :: b64Char (c.toNat % 64) :: body, ?_, ?_, ?_⟩
    · simp only [urlsafeB64Encode, hb, List.length_cons, hmod, List.cons_append]
    · simpa [isUrlsafe_b64Char] using hu
    · simp only [List.length_cons, hl, hmod]
      split <;> omega

/-- Stripping `=` removes exactly the padding. -/
theorem tokenUrlsafe_eq (bytes : List UInt8) :
    ∃ body, tokenUrlsafe bytes = body ∧ (∀ c ∈ body, isUrlsafe c = true) ∧
      bytes.length ≤ body.length := by
  obtain ⟨body, hb, hu, hl⟩ := urlsafeB64Encode_eq bytes
  refine ⟨body, ?_, hu, by rw [hl]; split <;> omega⟩
  have hpad : ∀ k, (body ++ List.replicate k '=').rdropWhile (· == '=') = body := fun k => by
    induction k with
    | zero =>
      rw [List.replicate_zero, List.append_nil]
      refine List.rdropWhile_eq_self_iff.2 fun hne => ?_
      have := hu _ (List.getLast_mem hne)
      intro heq
      rw [beq_iff_eq.1 heq] at this
      exact absurd this (by decide)
    | succ k ih =>
      rw [List.replicate_succ', ← List.append_assoc, List.rdropWhile_concat_pos _ _ _ (by simp), ih]
  rw [tokenUrlsafe, hb, hpad]

/-! ## The nonce -/

/-- A negative length raises, as `os.urandom` does. -/
theorem generateNonce_neg (urandom : Urandom) {length : Int} (h : length < 0) :
    generateNonce urandom length = .error (.valueError "negative argument not allowed".toList) := by
  simp [generateNonce, h]

/-- **A nonce has the length asked for, in the URL-safe alphabet**: for every
non-negative length and every draw of the randomness, `generate_nonce` returns
exactly `length` letters, digits, `-` and `_`. -/
theorem generateNonce_eq_ok (urandom : Urandom) {length : Int} (h : 0 ≤ length) :
    ∃ nonce, generateNonce urandom length = .ok nonce ∧ nonce.length = length.toNat ∧
      ∀ c ∈ nonce, isUrlsafe c = true := by
  obtain ⟨body, hb, hu, hl⟩ := tokenUrlsafe_eq (urandom.bytes length.toNat)
  rw [urandom.length_bytes] at hl
  refine ⟨body.take length.toNat, by simp [generateNonce, hb, not_lt.2 h], ?_,
    fun c hc => hu c (List.mem_of_mem_take hc)⟩
  simp only [List.length_take]
  omega

/-- **A generated nonce survives the message codec**: put into the fields of any
well-formed message, it is read back unchanged, whatever the statement. -/
theorem parse_build_generateNonce {f : SIWAMessageFields} (hf : LineSafe f) (urandom : Urandom)
    {length : Int} {nonce : Str} (h : generateNonce urandom length = .ok nonce) :
    ∃ g, parseSiwaMessage (buildSiwaMessage { f with nonce }) = .ok g ∧ g.nonce = nonce := by
  have hnl : '\n' ∉ nonce := by
    by_cases hlen : length < 0
    · rw [generateNonce_neg urandom hlen] at h; cases h
    obtain ⟨n, hn, -, hu⟩ := generateNonce_eq_ok urandom (not_lt.1 hlen)
    rw [hn] at h; cases h
    exact fun hm => absurd (hu _ hm) (by decide)
  exact ⟨_, parse_build { hf with nonce := hnl }, rfl⟩

/-- A source of randomness that draws only zero bytes. -/
def zeroUrandom : Urandom := ⟨fun n => List.replicate n 0, fun n => List.length_replicate n 0⟩

theorem zeroNonce_read_back :
    ∃ g, parseSiwaMessage (buildSiwaMessage { plainFields with nonce := "AAAAAAAAAAAAAAAA".toList }) =
      .ok g ∧ g.nonce = "AAAAAAAAAAAAAAAA".toList :=
  parse_build_generateNonce lineSafe_plainFields zeroUrandom
    (show generateNonce zeroUrandom 16 = .ok "AAAAAAAAAAAAAAAA".toList from rfl)

end Siwa.Nonce
