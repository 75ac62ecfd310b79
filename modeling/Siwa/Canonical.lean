import Siwa.Blocks
import Siwa.Codec

/-! # Re-serialising a parsed message

The codec round trip the other way: parse a message, build a message from the
fields, and parse that. Every value the parser returns is cut from one line of
its input, so the fields of any parsed message meet `LineSafe` and the builder
writes each of them on a line of its own (`parseSiwaMessage_lineSafe`). When the
statement also re-serialises as a statement, parsing the rebuilt message gives
the fields back, an empty optional value read as absent; and building from those
gives the same text again, so `build ∘ parse` is a normal form
(`parse_build_parse`). -/

namespace Siwa.Canonical
open Siwa.PyStr Siwa.Message Siwa.Codec Siwa.Blocks

/-! ## Every parsed value lies on one line -/

/-- `line.partition(": ")` cuts the value off the end of the line. -/
theorem splitField_suffix {l k v : Str} (h : splitField l = some (k, v)) : v <:+ l := by
  induction l generalizing k with
  | nil => cases h
  | cons c rest ih =>
    unfold splitField at h
    split at h
    · cases h; exact (List.tail_suffix rest).trans (List.suffix_cons c rest)
    · obtain ⟨⟨k', v'⟩, hs, he⟩ := Option.map_eq_some'.1 h
      cases he
      exact (ih hs).trans (List.suffix_cons c rest)

theorem mem_recordedPairs {lines : List Str} {kv : Str × Str} (h : kv ∈ recordedPairs lines) :
    ∃ l ∈ lines, splitField l = some kv := by
  rcases lines with _ | ⟨_ | ⟨c, l⟩, rest⟩
  · cases h
  · unfold recordedPairs at h
    cases hd : rest.dropWhile (!closesStatement ·) with
    | nil => simp only [hd, List.not_mem_nil] at h
    | cons l after =>
      simp only [hd] at h
      have hsub : l :: after ⊆ rest := hd ▸ (List.dropWhile_suffix _).subset
      rcases List.mem_append.1 h with h | h
      · split at h
        · exact ⟨l, List.mem_cons_of_mem _ (hsub (List.mem_cons_self _ _)), Option.mem_toList.1 h⟩
        · cases h
      · obtain ⟨l', hl', hs⟩ := List.mem_filterMap.1 h
        exact ⟨l', List.mem_cons_of_mem _ (hsub (List.mem_cons_of_mem _ hl')), hs⟩
  · exact List.mem_filterMap.1 h

/-- A value the loop looked up is the end of one of its lines. -/
theorem get_scanLines_suffix {lines : List Str} {key v : Str}
    (h : (scanLines lines).get key = some v) : ∃ l ∈ lines, v <:+ l := by
  rw [scanLines_eq_scanSpec, Scan.get, scanSpec_fieldMap] at h
  obtain ⟨kv, hkv, rfl⟩ := Option.map_eq_some'.1 h
  obtain ⟨l, hl, hs⟩ := mem_recordedPairs (List.mem_reverse.1 (List.mem_of_find?_eq_some hkv))
  exact ⟨l, hl, splitField_suffix hs⟩

/-- The statement the loop reads is stripped and not empty. -/
theorem scanLines_statement {lines : List Str} {s : Str} (h : (scanLines lines).statement = some s) :
    s ≠ [] ∧ pyStrip s = s := by
  rw [scanLines_eq_scanSpec] at h
  rcases lines with _ | ⟨_ | ⟨c, l⟩, rest⟩
  · cases h
  · unfold scanSpec at h
    cases hd : rest.dropWhile (!closesStatement ·) with
    | nil => simp only [hd] at h; cases h
    | cons l after =>
      simp only [hd] at h
      obtain ⟨hne, rfl⟩ := nonEmpty_eq_some.1 h
      exact ⟨hne, pyStrip_pyStrip _⟩
  · cases h

/-! ## The fields of a parsed message -/

/-- What `readFields` returns when both `int` calls succeed. -/
theorem readFields_eq_ok {domain address : Str} {s : Scan} {f : SIWAMessageFields}
    (h : readFields domain address s = .ok f) :
    ∃ agentId chainId, f =
      { domain, address, agentId, chainId
        statement := s.statement
        uri := (s.get "URI".toList).getD []
        version := some ((s.get "Version".toList).getD ['1'])
        agentRegistry := (s.get "Agent Registry".toList).getD []
        nonce := (s.get "Nonce".toList).getD []
        issuedAt := (s.get "Issued At".toList).getD []
        expirationTime := s.get "Expiration Time".toList
        notBefore := s.get "Not Before".toList
        requestId := s.get "Request ID".toList } := by
  unfold readFields at h
  cases ha : pyInt ((s.get "Agent ID".toList).getD ['0']) <;>
    cases hc : pyInt ((s.get "Chain ID".toList).getD ['0']) <;>
    simp only [ha, hc, bind, Except.bind, pure, Except.pure, reduceCtorEq, Except.ok.injEq] at h
  exact ⟨_, _, h.symm⟩

section Parsed

variable {m : Str} {f : SIWAMessageFields}

/-- What a successful parse is made of: the domain line, the address line, and
the fields `readFields` reads from the loop over the other lines. -/
theorem parseSiwaMessage_eq_ok (h : parseSiwaMessage m = .ok f) :
    ∃ line rest, splitLines m = line :: f.address :: rest ∧ domainMatch line = some f.domain ∧
      f.address.length = 42 ∧ "0x".toList.isPrefixOf f.address = true ∧
      readFields f.domain f.address (scanLines rest) = .ok f := by
  unfold parseSiwaMessage at h
  obtain ⟨line, ls, hls⟩ := List.exists_cons_of_ne_nil (splitLines_ne_nil m)
  simp only [hls, List.headD_cons] at h
  cases hd : domainMatch line with
  | none => simp only [hd] at h; cases h
  | some domain =>
  cases ls with
  | nil => simp only [hd, List.getElem?_cons_succ, List.getElem?_nil] at h; cases h
  | cons address rest =>
  simp only [hd, List.getElem?_cons_succ, List.getElem?_cons_zero, List.drop_succ_cons,
    List.drop_zero] at h
  split at h
  · cases h
  next hok =>
  obtain ⟨i, c, rfl⟩ := readFields_eq_ok h
  simp only [not_or, ne_eq, not_not, Bool.not_eq_false] at hok
  exact ⟨line, rest, hls, hd, hok.2.2, hok.2.1, h⟩

/-- **Every parsed value lies on one line**: the fields of any message the
parser accepts meet `LineSafe`. -/
theorem parseSiwaMessage_lineSafe (h : parseSiwaMessage m = .ok f) : LineSafe f := by
  obtain ⟨line, rest, hls, hd, hlen, hpre, hr⟩ := parseSiwaMessage_eq_ok h
  have hline : ∀ l ∈ line :: f.address :: rest, '\n' ∉ l := fun l hl =>
    not_mem_of_mem_splitLines (hls ▸ hl)
  have hget : ∀ key, ∀ v ∈ (scanLines rest).get key, '\n' ∉ v := fun key v hv => by
    obtain ⟨l, hl, hs⟩ := get_scanLines_suffix hv
    exact fun hn => hline l (List.mem_cons_of_mem _ (List.mem_cons_of_mem _ hl)) (hs.subset hn)
  have hgetD : ∀ key (d : Str), '\n' ∉ d → '\n' ∉ ((scanLines rest).get key).getD d :=
    fun key d hd' => by
      cases hv : (scanLines rest).get key with
      | none => exact hd'
      | some v => exact hget key v hv
  have hdm : f.domain ≠ [] ∧ '\n' ∉ f.domain := by
    unfold domainMatch at hd
    split at hd
    next hc =>
      obtain ⟨-, hlt⟩ := hc
      rw [← Option.some.inj hd]
      refine ⟨fun h0 => ?_, fun hn => hline line (List.mem_cons_self _ _) (List.mem_of_mem_take hn)⟩
      have := congrArg List.length h0
      simp only [List.length_take, List.length_nil] at this
      omega
    · cases hd
  obtain ⟨i, c, hf⟩ := readFields_eq_ok hr
  rw [hf] at hdm ⊢
  exact
    { domain_ne := hdm.1, domain := hdm.2, address_length := hlen, address_prefix := hpre
      address := hline _ (List.mem_cons_of_mem _ (List.mem_cons_self _ _))
      uri := hgetD _ _ (List.not_mem_nil _)
      version := fun v hv => Option.some.inj hv ▸ hgetD _ _ (by decide)
      agentRegistry := hgetD _ _ (List.not_mem_nil _)
      nonce := hgetD _ _ (List.not_mem_nil _)
      issuedAt := hgetD _ _ (List.not_mem_nil _)
      expirationTime := hget _, notBefore := hget _, requestId := hget _ }

/-- A parsed message has a version, and a statement that is stripped and not empty. -/
theorem parseSiwaMessage_statement_version (h : parseSiwaMessage m = .ok f) :
    (∀ s ∈ f.statement, s ≠ [] ∧ pyStrip s = s) ∧ ∃ v, f.version = some v := by
  obtain ⟨line, rest, -, -, -, -, hr⟩ := parseSiwaMessage_eq_ok h
  obtain ⟨i, c, hf⟩ := readFields_eq_ok hr
  rw [hf]
  exact ⟨fun s hs => scanLines_statement hs, _, rfl⟩

/-- **What the parser accepts is well formed**: every value of a parsed message
lies on one line, its domain is not empty and its address has 42 characters and
starts with `0x` (`LineSafe`); its statement is stripped and not empty; its
version is set. -/
theorem parseSiwaMessage_wellFormed (h : parseSiwaMessage m = .ok f) :
    LineSafe f ∧ (∀ s ∈ f.statement, s ≠ [] ∧ pyStrip s = s) ∧ ∃ v, f.version = some v :=
  ⟨parseSiwaMessage_lineSafe h, parseSiwaMessage_statement_version h⟩

end Parsed

/-- The message of `plainFields` with a last line `Request ID: ` and no value. -/
def emptyRequestIdMessage : Str := buildSiwaMessage plainFields ++ "\nRequest ID: ".toList

/-- What the parser reads from `emptyRequestIdMessage`. -/
def emptyRequestIdFields : SIWAMessageFields := { readBack plainFields with requestId := some [] }

theorem emptyRequestIdFields_wellFormed :
    LineSafe emptyRequestIdFields ∧
      (∀ s ∈ emptyRequestIdFields.statement, s ≠ [] ∧ pyStrip s = s) ∧
      ∃ v, emptyRequestIdFields.version = some v :=
  parseSiwaMessage_wellFormed
    (show parseSiwaMessage emptyRequestIdMessage = .ok emptyRequestIdFields from rfl)

/-! ## Parse, build, parse -/

/-- The fields with each empty optional value read as absent. -/
def dropEmpty (f : SIWAMessageFields) : SIWAMessageFields :=
  { f with
    expirationTime := truthy f.expirationTime
    notBefore := truthy f.notBefore
    requestId := truthy f.requestId }

/-- The builder reads an optional field only through its truth. -/
theorem buildSiwaMessage_dropEmpty (f : SIWAMessageFields) :
    buildSiwaMessage (dropEmpty f) = buildSiwaMessage f := by
  simp [buildSiwaMessage, dropEmpty, fieldLines, optionalLine]

/-- **Re-serialising a parsed message**: when the parsed statement
re-serialises as a statement, parsing the rebuilt message gives the parsed
fields back, with an empty optional value read as absent; and building from
those gives the same text again, so `build ∘ parse` is a normal form. -/
theorem parse_build_parse {m : Str} {f : SIWAMessageFields} (h : parseSiwaMessage m = .ok f)
    (hs : StatementSafe f) :
    parseSiwaMessage (buildSiwaMessage f) = .ok (dropEmpty f) ∧
      buildSiwaMessage (dropEmpty f) = buildSiwaMessage f := by
  refine ⟨?_, buildSiwaMessage_dropEmpty f⟩
  rw [parse_build (parseSiwaMessage_lineSafe h), readBackWith_statementScan hs]
  obtain ⟨hst, v, hv⟩ := parseSiwaMessage_statement_version h
  have hstmt : ((truthy f.statement).bind fun s => nonEmpty (pyStrip s)) = f.statement := by
    cases hf : f.statement with
    | none => rfl
    | some s =>
      obtain ⟨hne, hstrip⟩ := hst s hf
      simp [truthy, nonEmpty, hne, hstrip]
  simp only [readBack, dropEmpty, hstmt, hv, Option.getD_some]

theorem emptyRequestIdFields_build_parse :
    parseSiwaMessage (buildSiwaMessage emptyRequestIdFields) = .ok (dropEmpty emptyRequestIdFields) ∧
      buildSiwaMessage (dropEmpty emptyRequestIdFields) = buildSiwaMessage emptyRequestIdFields :=
  parse_build_parse (show parseSiwaMessage emptyRequestIdMessage = .ok emptyRequestIdFields from rfl)
    (by unfold StatementSafe; decide)

end Siwa.Canonical
