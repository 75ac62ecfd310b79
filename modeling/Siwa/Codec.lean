import Siwa.Message

/-! # Reading back a built message

What `parse_siwa_message` returns on the text `build_siwa_message` wrote. The
proof follows the text: the lines of the message (`splitLines_buildSiwaMessage`),
the loop over the statement block (`statementScan`), the `key: value` lines
that follow it (`scanLines_build`), and the lookups in `field_map`
(`parse_build`). Only the statement block depends on the statement: the
builder's own field lines come after it, so they win every lookup of a key
they carry. -/

namespace Siwa.Codec
open Siwa.PyStr Siwa.Message

/-- The conditions under which every line the builder writes outside the
statement block is one line of the message, and the parser accepts the first
two. -/
structure LineSafe (f : SIWAMessageFields) : Prop where
  domain_ne : f.domain ≠ []
  domain : '\n' ∉ f.domain
  address_length : f.address.length = 42
  address_prefix : "0x".toList.isPrefixOf f.address = true
  address : '\n' ∉ f.address
  uri : '\n' ∉ f.uri
  version : ∀ v ∈ f.version, '\n' ∉ v
  agentRegistry : '\n' ∉ f.agentRegistry
  nonce : '\n' ∉ f.nonce
  issuedAt : '\n' ∉ f.issuedAt
  expirationTime : ∀ v ∈ f.expirationTime, '\n' ∉ v
  notBefore : ∀ v ∈ f.notBefore, '\n' ∉ v
  requestId : ∀ v ∈ f.requestId, '\n' ∉ v

/-- The lines of the statement, when it is emitted. -/
def statementLines (f : SIWAMessageFields) : List Str :=
  ((truthy f.statement).map splitLines).getD []

/-- A statement whose lines are all read as statement lines: none is blank or
starts with `URI: `. -/
def StatementSafe (f : SIWAMessageFields) : Prop :=
  ∀ l ∈ statementLines f, l ≠ [] ∧ uriPrefix.isPrefixOf l = false

/-! ## Lines -/

theorem not_mem_fieldLine {key value : Str} (hk : '\n' ∉ key) (hv : '\n' ∉ value) :
    '\n' ∉ fieldLine key value := by
  simp [fieldLine, hk, hv]

theorem flatMap_splitLines_of_forall {ls : List Str} (h : ∀ l ∈ ls, '\n' ∉ l) :
    ls.flatMap splitLines = ls := by
  induction ls with
  | nil => rfl
  | cons l ls ih =>
    rw [List.flatMap_cons, splitLines_of_not_mem (h l (List.mem_cons_self _ _)),
      ih (fun x hx => h x (List.mem_cons_of_mem _ hx))]
    rfl

theorem not_mem_optionalLine {key : Str} (hk : '\n' ∉ key) {v : Option Str}
    (hv : ∀ x ∈ v, '\n' ∉ x) : ∀ l ∈ optionalLine key v, '\n' ∉ l := by
  intro l hl
  cases v with
  | none => simp [optionalLine] at hl
  | some x =>
    simp only [optionalLine, truthy, nonEmpty] at hl
    split at hl
    · simp at hl
    · simp only [Option.map_some', Option.toList_some, List.mem_singleton] at hl
      exact hl ▸ not_mem_fieldLine hk (hv x rfl)

theorem not_mem_fieldLines {f : SIWAMessageFields} (hf : LineSafe f) :
    ∀ l ∈ fieldLines f, '\n' ∉ l := by
  have hd : ∀ n : Int, '\n' ∉ pyStr n := not_mem_pyStr (by decide) (by decide)
  have hv : '\n' ∉ f.version.getD ['1'] := by
    cases h : f.version with
    | none => decide
    | some v => exact hf.version v h
  simp only [fieldLines, List.forall_mem_append, List.forall_mem_cons, List.not_mem_nil,
    false_implies, implies_true, and_true, and_assoc]
  exact ⟨not_mem_fieldLine (by decide) hf.uri, not_mem_fieldLine (by decide) hv,
    not_mem_fieldLine (by decide) (hd _), not_mem_fieldLine (by decide) hf.agentRegistry,
    not_mem_fieldLine (by decide) (hd _), not_mem_fieldLine (by decide) hf.nonce,
    not_mem_fieldLine (by decide) hf.issuedAt, not_mem_optionalLine (by decide) hf.expirationTime,
    not_mem_optionalLine (by decide) hf.notBefore, not_mem_optionalLine (by decide) hf.requestId⟩

/-- **The lines of a built message.** -/
theorem splitLines_buildSiwaMessage {f : SIWAMessageFields} (hf : LineSafe f) :
    splitLines (buildSiwaMessage f) =
      [f.domain ++ domainSuffix, f.address, []] ++ statementLines f ++ [] :: fieldLines f := by
  have hsfx : '\n' ∉ domainSuffix := by decide
  simp only [buildSiwaMessage, List.cons_append, List.nil_append]
  rw [splitLines_joinLines]
  simp only [List.flatMap_cons, List.flatMap_append,
    splitLines_of_not_mem (show '\n' ∉ f.domain ++ domainSuffix by simpa [hsfx] using hf.domain),
    splitLines_of_not_mem hf.address, splitLines_of_not_mem (List.not_mem_nil _),
    flatMap_splitLines_of_forall (not_mem_fieldLines hf)]
  unfold statementLines
  cases truthy f.statement <;> simp

/-! ## The loop over the built lines -/

/-- The loop's state after the statement block and the blank line the builder
writes after it. -/
def statementScan (f : SIWAMessageFields) : Scan :=
  (statementLines f ++ [[]]).foldl Scan.step { Scan.init with inStatement := true }

theorem statementScan_inStatement (f : SIWAMessageFields) :
    (statementScan f).inStatement = false := by
  simp [statementScan, List.foldl_append, Scan.step_nil_inStatement]

/-- The pair an optional field's line records. -/
def optionalPair (key : Str) (value : Option Str) : List (Str × Str) :=
  ((truthy value).map (key, ·)).toList

/-- The `(key, value)` pairs of the builder's field lines, in order. -/
def fieldPairs (f : SIWAMessageFields) : List (Str × Str) :=
  [("URI".toList, f.uri), ("Version".toList, f.version.getD ['1']),
    ("Agent ID".toList, pyStr f.agentId), ("Agent Registry".toList, f.agentRegistry),
    ("Chain ID".toList, pyStr f.chainId), ("Nonce".toList, f.nonce),
    ("Issued At".toList, f.issuedAt)] ++
  optionalPair "Expiration Time".toList f.expirationTime ++
  optionalPair "Not Before".toList f.notBefore ++
  optionalPair "Request ID".toList f.requestId

theorem splitField_fieldLine {key : Str} (hk : ':' ∉ key) (value : Str) :
    splitField (fieldLine key value) = some (key, value) :=
  splitField_key hk value

theorem filterMap_optionalLine {key : Str} (hk : ':' ∉ key) (v : Option Str) :
    (optionalLine key v).filterMap splitField = optionalPair key v := by
  cases h : truthy v <;> simp [optionalLine, optionalPair, h, splitField_fieldLine hk]

theorem filterMap_fieldLines (f : SIWAMessageFields) :
    (fieldLines f).filterMap splitField = fieldPairs f := by
  simp (disch := decide) only [fieldLines, fieldPairs, List.filterMap_append,
    List.filterMap_cons, List.filterMap_nil, splitField_fieldLine, filterMap_optionalLine]

/-- **The loop over a built message**: the statement block, then the builder's
pairs on top of whatever the block recorded. -/
theorem scanLines_build {f : SIWAMessageFields} (hf : LineSafe f) :
    scanLines ((splitLines (buildSiwaMessage f)).drop 2) =
      { statementScan f with fieldMap := (fieldPairs f).reverse ++ (statementScan f).fieldMap } := by
  rw [splitLines_buildSiwaMessage hf]
  simp only [List.cons_append, List.nil_append, List.drop_succ_cons, List.drop_zero]
  rw [scanLines, if_pos rfl, show statementLines f ++ [] :: fieldLines f = (statementLines f ++ [[]]) ++ fieldLines f by simp,
    List.foldl_append, ← statementScan, Scan.foldl_step_outside (statementScan_inStatement f),
    filterMap_fieldLines]

/-! ## Reading the fields back -/

theorem domainMatch_append {d : Str} (hd : d ≠ []) : domainMatch (d ++ domainSuffix) = some d := by
  have hlen : domainSuffix.length < (d ++ domainSuffix).length := by
    simpa using List.length_pos.mpr hd
  simp [domainMatch, hlen, List.suffix_append, hd]

/-- What the parser reads back from `build_siwa_message f`, given the loop's
state `s` after the statement block: the builder's own fields, and for an
optional field the builder left out, whatever the statement block recorded. -/
def readBackWith (f : SIWAMessageFields) (s : Scan) : SIWAMessageFields :=
  { f with
    statement := s.statement
    version := some (f.version.getD ['1'])
    expirationTime := (truthy f.expirationTime).or (s.get "Expiration Time".toList)
    notBefore := (truthy f.notBefore).or (s.get "Not Before".toList)
    requestId := (truthy f.requestId).or (s.get "Request ID".toList) }

theorem reverse_optionalPair (key : Str) (v : Option Str) :
    (optionalPair key v).reverse = optionalPair key v := by
  cases h : truthy v <;> simp [optionalPair, h]

theorem find?_optionalPair {key k : Str} (hk : k ≠ key) (v : Option Str) :
    (optionalPair k v).find? (fun kv => kv.1 = key) = none := by
  cases h : truthy v <;> simp [optionalPair, h, hk]

/-- A pair whose key is not the one looked up is skipped. -/
theorem find?_pair_ne {k key : Str} (hk : k ≠ key) (v : Str) (l : List (Str × Str)) :
    ((k, v) :: l).find? (fun kv => kv.1 = key) = l.find? (fun kv => kv.1 = key) := by
  simp [hk]

theorem find?_optionalPair_self (key : Str) (v : Option Str) :
    (optionalPair key v).find? (fun kv => kv.1 = key) = (truthy v).map (key, ·) := by
  cases h : truthy v <;> simp [optionalPair, h]

/-- **Parsing a built message**, for every statement. -/
theorem parse_build {f : SIWAMessageFields} (hf : LineSafe f) :
    parseSiwaMessage (buildSiwaMessage f) = .ok (readBackWith f (statementScan f)) := by
  have hlines := splitLines_buildSiwaMessage hf
  have haddr : ¬(f.address = [] ∨ "0x".toList.isPrefixOf f.address = false ∨
      f.address.length ≠ 42) := by
    rintro (h | h | h)
    · simpa [h] using hf.address_length
    · rw [hf.address_prefix] at h; cases h
    · exact h hf.address_length
  have hscan := scanLines_build hf
  simp only [hlines, List.cons_append, List.nil_append, List.drop_succ_cons,
    List.drop_zero] at hscan
  simp only [parseSiwaMessage, hlines, List.cons_append, List.nil_append, List.headD_cons,
    domainMatch_append hf.domain_ne, List.getElem?_cons_succ, List.getElem?_cons_zero,
    if_neg haddr, List.drop_succ_cons, List.drop_zero, hscan]
  simp only [readFields, readBackWith, Scan.get, fieldPairs, List.reverse_append, List.find?_append,
    List.reverse_cons, List.reverse_nil, reverse_optionalPair]
  -- every lookup skips the builder's pairs of other keys, decided on the literal keys
  simp (disch := decide) only [find?_pair_ne, find?_optionalPair, List.find?_nil]
  simp [find?_optionalPair_self, pyInt_pyStr, Option.map_or', Option.map_map, Function.comp_def,
    bind, Except.bind, pure, Except.pure]

/-! ## The round trip -/

/-- The fields the parser returns for `build_siwa_message f` when the statement
is read whole: `f`'s own, with the version defaulted, the statement stripped
(absent when empty) and an optional field absent when `f`'s is empty. -/
def readBack (f : SIWAMessageFields) : SIWAMessageFields :=
  { f with
    statement := (truthy f.statement).bind fun s => nonEmpty (pyStrip s)
    version := some (f.version.getD ['1'])
    expirationTime := truthy f.expirationTime
    notBefore := truthy f.notBefore
    requestId := truthy f.requestId }

theorem statementScan_of_safe {f : SIWAMessageFields} (hs : StatementSafe f) :
    statementScan f = ⟨[], nonEmpty (pyStrip (joinLines (statementLines f))), false,
      statementLines f⟩ := by
  rw [statementScan, List.foldl_append, Scan.foldl_step_statement rfl hs]
  simp [Scan.step, Scan.init, Scan.record]

theorem joinLines_statementLines (f : SIWAMessageFields) :
    nonEmpty (pyStrip (joinLines (statementLines f))) =
      (truthy f.statement).bind fun s => nonEmpty (pyStrip s) := by
  unfold statementLines
  cases truthy f.statement <;> simp [joinLines_splitLines]

theorem readBackWith_statementScan {f : SIWAMessageFields} (hs : StatementSafe f) :
    readBackWith f (statementScan f) = readBack f := by
  rw [statementScan_of_safe hs, joinLines_statementLines]
  simp [readBackWith, readBack, Scan.get]

/-- **Codec round trip.** -/
theorem parse_build_of_statementSafe {f : SIWAMessageFields} (hf : LineSafe f)
    (hs : StatementSafe f) :
    parseSiwaMessage (buildSiwaMessage f) = .ok (readBack f) := by
  rw [parse_build hf, readBackWith_statementScan hs]

/-- A fixed field set for the examples below: a one-line statement, no optional
field, and the registry address of the repository's tests. -/
def plainFields : SIWAMessageFields :=
  { domain := "example.com".toList
    address := "0x1234567890123456789012345678901234567890".toList
    statement := some "Sign in".toList, uri := "https://example.com/login".toList
    version := none, agentId := 42
    agentRegistry := "eip155:1:0x8004AA63B05E4C14eC1Fe6B35AD3bAe8A7Bc9b66".toList, chainId := 1
    nonce := "abc123".toList, issuedAt := "2024-01-01T00:00:00Z".toList
    expirationTime := none, notBefore := none, requestId := none }

theorem lineSafe_plainFields : LineSafe plainFields :=
  ⟨by decide, by decide, by decide, by decide, by decide, by decide, by decide, by decide,
    by decide, by decide, by decide, by decide, by decide⟩

theorem parse_build_plainFields :
    LineSafe plainFields ∧ StatementSafe plainFields ∧
      parseSiwaMessage (buildSiwaMessage plainFields) = .ok (readBack plainFields) :=
  ⟨lineSafe_plainFields, by unfold StatementSafe; decide,
    parse_build_of_statementSafe lineSafe_plainFields (by unfold StatementSafe; decide)⟩

/-! ## What the statement can change -/

/-- The fields of a well-formed message the parser reads back whatever the
statement: all but the statement itself and the optional fields `f` leaves
empty, which a statement line after a blank line or a `URI: ` line can set. -/
theorem parse_build_statement_independent {f : SIWAMessageFields} (hf : LineSafe f)
    (s₁ s₂ : Option Str) :
    ∃ g₁ g₂, parseSiwaMessage (buildSiwaMessage { f with statement := s₁ }) = .ok g₁ ∧
      parseSiwaMessage (buildSiwaMessage { f with statement := s₂ }) = .ok g₂ ∧
      g₁.domain = g₂.domain ∧ g₁.address = g₂.address ∧ g₁.uri = g₂.uri ∧
      g₁.version = g₂.version ∧ g₁.agentId = g₂.agentId ∧
      g₁.agentRegistry = g₂.agentRegistry ∧ g₁.chainId = g₂.chainId ∧
      g₁.nonce = g₂.nonce ∧ g₁.issuedAt = g₂.issuedAt ∧
      (truthy f.expirationTime ≠ none → g₁.expirationTime = g₂.expirationTime) ∧
      (truthy f.notBefore ≠ none → g₁.notBefore = g₂.notBefore) ∧
      (truthy f.requestId ≠ none → g₁.requestId = g₂.requestId) := by
  have hsafe : ∀ s : Option Str, LineSafe { f with statement := s } := fun s =>
    { hf with }
  refine ⟨_, _, parse_build (hsafe s₁), parse_build (hsafe s₂), ?_⟩
  simp only [readBackWith, true_and]
  refine ⟨?_, ?_, ?_⟩ <;> intro h <;> obtain ⟨v, hv⟩ := Option.ne_none_iff_exists'.mp h <;>
    simp [hv]

theorem parse_build_statement_independent_plainFields :
    LineSafe plainFields ∧
    ∃ g₁ g₂, parseSiwaMessage (buildSiwaMessage { plainFields with statement := none }) = .ok g₁ ∧
      parseSiwaMessage (buildSiwaMessage { plainFields with statement := some "a\n\nb".toList }) =
        .ok g₂ ∧
      g₁.domain = g₂.domain ∧ g₁.address = g₂.address ∧ g₁.uri = g₂.uri ∧
      g₁.version = g₂.version ∧ g₁.agentId = g₂.agentId ∧
      g₁.agentRegistry = g₂.agentRegistry ∧ g₁.chainId = g₂.chainId ∧
      g₁.nonce = g₂.nonce ∧ g₁.issuedAt = g₂.issuedAt ∧
      (truthy plainFields.expirationTime ≠ none → g₁.expirationTime = g₂.expirationTime) ∧
      (truthy plainFields.notBefore ≠ none → g₁.notBefore = g₂.notBefore) ∧
      (truthy plainFields.requestId ≠ none → g₁.requestId = g₂.requestId) :=
  ⟨lineSafe_plainFields, parse_build_statement_independent lineSafe_plainFields _ _⟩

/-- A statement with a blank line sets `expiration_time` on a message whose
fields leave it empty, while a one-line statement does not. -/
theorem statement_sets_expirationTime :
    LineSafe plainFields ∧
    ((parseSiwaMessage (buildSiwaMessage { plainFields with
        statement := some "Hi\n\nExpiration Time: 2099-01-01T00:00:00Z".toList })).toOption.map
      (·.expirationTime)) = some (some "2099-01-01T00:00:00Z".toList) ∧
    ((parseSiwaMessage (buildSiwaMessage { plainFields with statement := some "Hi".toList })).toOption.map
      (·.expirationTime)) = some none :=
  ⟨lineSafe_plainFields, by decide, by decide⟩

end Siwa.Codec
