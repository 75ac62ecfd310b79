import Siwa.Message

/-! # What `parse_siwa_message` raises

The parser checks, in order, the domain line, that there is a second line, the
address on it, and the two `int(...)` calls. `ParseError` lists these checks
with the exception each raises, and `parseSiwaMessage_eq_error` proves they
are the parser's only errors. Every one is a `ValueError` except the second: on
a message of one line, `lines[1]` raises `IndexError` before the address check
that was meant to report a missing address. -/

namespace Siwa.ParseErrors
open Siwa.PyStr Siwa.Message

/-- The text `int` reads for `key`: the last value the loop recorded, `"0"` if
none. -/
def intText (m : Str) (key : String) : Str :=
  ((scanLines ((splitLines m).drop 2)).get key.toList).getD ['0']

/-- The exceptions `parse_siwa_message(m)` raises, by the check that raises
each. -/
inductive ParseError (m : Str) : PyException → Prop
  /-- The first line is not a domain line. -/
  | domainLine : domainMatch ((splitLines m).headD []) = none →
      ParseError m (.valueError "Invalid SIWA message: missing domain line".toList)
  /-- A domain line alone: `lines[1]` does not exist. -/
  | noSecondLine {domain : Str} : domainMatch ((splitLines m).headD []) = some domain →
      (splitLines m).length = 1 → ParseError m (.indexError "list index out of range".toList)
  /-- The second line is not a 42-character `0x` address. -/
  | address {domain address : Str} : domainMatch ((splitLines m).headD []) = some domain →
      (splitLines m)[1]? = some address →
      (address = [] ∨ "0x".toList.isPrefixOf address = false ∨ address.length ≠ 42) →
      ParseError m (.valueError "Invalid SIWA message: missing or malformed address".toList)
  /-- `int` rejects the `Agent ID` text. -/
  | agentId {domain address : Str} :
      domainMatch ((splitLines m).headD []) = some domain → (splitLines m)[1]? = some address →
      ¬(address = [] ∨ "0x".toList.isPrefixOf address = false ∨ address.length ≠ 42) →
      (∃ e, pyInt (intText m "Agent ID") = .error e) →
      ParseError m (.valueError (intError (intText m "Agent ID")))
  /-- `int` accepts the `Agent ID` text and rejects the `Chain ID` text. -/
  | chainId {domain address : Str} :
      domainMatch ((splitLines m).headD []) = some domain → (splitLines m)[1]? = some address →
      ¬(address = [] ∨ "0x".toList.isPrefixOf address = false ∨ address.length ≠ 42) →
      (∃ n, pyInt (intText m "Agent ID") = .ok n) →
      (∃ e, pyInt (intText m "Chain ID") = .error e) →
      ParseError m (.valueError (intError (intText m "Chain ID")))

theorem pyInt_eq_error {s : Str} {e : PyException} (h : pyInt s = .error e) :
    e = .valueError (intError s) := by
  unfold pyInt at h
  split at h <;> cases h
  rfl

theorem readFields_eq_error {domain address : Str} {s : Scan} {e : PyException} :
    readFields domain address s = .error e ↔
      pyInt ((s.get "Agent ID".toList).getD ['0']) = .error e ∨
      (∃ n, pyInt ((s.get "Agent ID".toList).getD ['0']) = .ok n) ∧
        pyInt ((s.get "Chain ID".toList).getD ['0']) = .error e := by
  unfold readFields
  cases ha : pyInt ((s.get "Agent ID".toList).getD ['0']) <;>
    cases hc : pyInt ((s.get "Chain ID".toList).getD ['0']) <;>
    simp [ha, hc, bind, Except.bind, pure, Except.pure]

/-- A split is never empty, so a missing second line means one line. -/
theorem getElem?_one_splitLines {m : Str} : (splitLines m)[1]? = none ↔ (splitLines m).length = 1 := by
  have := List.length_pos.2 (splitLines_ne_nil m)
  rw [List.getElem?_eq_none_iff]
  omega

/-- **The parser's errors**: `parse_siwa_message(m)` raises `e` exactly when
one of its checks raises `e`. -/
theorem parseSiwaMessage_eq_error {m : Str} {e : PyException} :
    parseSiwaMessage m = .error e ↔ ParseError m e := by
  constructor
  · intro h
    unfold parseSiwaMessage at h
    cases hd : domainMatch ((splitLines m).headD []) with
    | none => simp only [hd] at h; cases h; exact .domainLine hd
    | some domain =>
    simp only [hd] at h
    cases ha : (splitLines m)[1]? with
    | none => simp only [ha] at h; cases h; exact .noSecondLine hd (getElem?_one_splitLines.1 ha)
    | some address =>
    simp only [ha] at h
    split at h
    next hbad => cases h; exact .address hd ha hbad
    next hok =>
      rcases readFields_eq_error.1 h with h1 | ⟨h1, h2⟩
      · rw [pyInt_eq_error h1]; exact .agentId hd ha hok ⟨_, h1⟩
      · rw [pyInt_eq_error h2]; exact .chainId hd ha hok h1 ⟨_, h2⟩
  · intro h
    cases h with
    | domainLine hd => simp only [parseSiwaMessage, hd]
    | noSecondLine hd hl => simp only [parseSiwaMessage, hd, getElem?_one_splitLines.2 hl]
    | address hd ha hbad => simp only [parseSiwaMessage, hd, ha, if_pos hbad]
    | agentId hd ha hok h1 =>
      obtain ⟨e, h1⟩ := h1
      simp only [parseSiwaMessage, hd, ha, if_neg hok]
      exact readFields_eq_error.2 (.inl (pyInt_eq_error h1 ▸ h1))
    | chainId hd ha hok h1 h2 =>
      obtain ⟨e, h2⟩ := h2
      simp only [parseSiwaMessage, hd, ha, if_neg hok]
      exact readFields_eq_error.2 (.inr ⟨h1, pyInt_eq_error h2 ▸ h2⟩)

/-- **When the parser raises**, whatever it raises: the first line is not a
domain line, or there is no second line, or the second line is not a
42-character `0x` address, or `int` rejects the last `Agent ID` or `Chain ID`
the loop recorded. -/
theorem parseSiwaMessage_raises_iff (m : Str) :
    (∃ e, parseSiwaMessage m = .error e) ↔
      domainMatch ((splitLines m).headD []) = none ∨ (splitLines m).length = 1 ∨
      (∃ a, (splitLines m)[1]? = some a ∧
        (a = [] ∨ "0x".toList.isPrefixOf a = false ∨ a.length ≠ 42)) ∨
      (∃ e, pyInt (intText m "Agent ID") = .error e) ∨
      (∃ e, pyInt (intText m "Chain ID") = .error e) := by
  simp only [parseSiwaMessage_eq_error]
  constructor
  · rintro ⟨e, h⟩
    cases h with
    | domainLine hd => exact .inl hd
    | noSecondLine _ hl => exact .inr (.inl hl)
    | address _ ha hbad => exact .inr (.inr (.inl ⟨_, ha, hbad⟩))
    | agentId _ _ _ h1 => exact .inr (.inr (.inr (.inl h1)))
    | chainId _ _ _ _ h2 => exact .inr (.inr (.inr (.inr h2)))
  · intro h
    cases hd : domainMatch ((splitLines m).headD []) with
    | none => exact ⟨_, .domainLine hd⟩
    | some domain =>
    cases ha : (splitLines m)[1]? with
    | none => exact ⟨_, .noSecondLine hd (getElem?_one_splitLines.1 ha)⟩
    | some address =>
    by_cases hbad : address = [] ∨ "0x".toList.isPrefixOf address = false ∨ address.length ≠ 42
    · exact ⟨_, .address hd ha hbad⟩
    cases h1 : pyInt (intText m "Agent ID") with
    | error e => exact ⟨_, .agentId hd ha hbad ⟨e, h1⟩⟩
    | ok n =>
    -- the domain line, the address and the `Agent ID` pass, so `Chain ID` fails
    rcases h with h | h | ⟨a, ha', hbad'⟩ | ⟨e, he⟩ | ⟨e, he⟩
    · rw [hd] at h; cases h
    · rw [getElem?_one_splitLines.2 h] at ha; cases ha
    · rw [ha] at ha'; cases ha'; exact absurd hbad' hbad
    · rw [h1] at he; cases he
    · exact ⟨_, .chainId hd ha hbad ⟨n, h1⟩ ⟨e, he⟩⟩

/-- A domain line alone raises `IndexError`, not `ValueError`: the
`noSecondLine` check. -/
theorem domain_line_alone_indexError :
    parseSiwaMessage "example.com wants you to sign in with your Agent account:".toList =
      .error (.indexError "list index out of range".toList) :=
  parseSiwaMessage_eq_error.2 (.noSecondLine rfl rfl)

end Siwa.ParseErrors
