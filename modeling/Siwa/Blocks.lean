import Siwa.Codec

/-! # The parser's loop, read off the lines

The loop of `parse_siwa_message` is a small state machine over the lines after
the address. Its meaning, stated without the machine: when the first of these
lines is blank, the lines up to the next blank line or `URI: ` line form the
statement block; every later line with `": "` in it (and the `URI: ` line that
closed the block) is recorded as a field, and a lookup reads the last value
recorded under its key. `scanSpec` says this, and `scanLines_eq_scanSpec`
proves that the loop computes it.

Two behaviours follow that the loop's text does not show at a glance: a
statement block that is never closed swallows every later line, so the message
parses with no field set (`parse_unclosed_statement`); and a key given twice is
read from its last line (`Scan.get_scanLines`). -/

namespace Siwa.Blocks
open Siwa.PyStr Siwa.Message Siwa.Codec

/-- `line == "" or line.startswith("URI: ")`: the test that ends the statement block. -/
def closesStatement (line : Str) : Bool := line.isEmpty || uriPrefix.isPrefixOf line

/-- The lines the statement block collects. -/
def statementBlock (rest : List Str) : List Str := rest.takeWhile (!closesStatement ·)

/-- The `(key, value)` pairs the loop records, in the order of the lines. -/
def recordedPairs : List Str → List (Str × Str)
  | [] => []
  | [] :: rest =>
    match rest.dropWhile (!closesStatement ·) with
    | [] => []
    | l :: after =>
      (if uriPrefix.isPrefixOf l then (splitField l).toList else []) ++ after.filterMap splitField
  | (c :: l) :: rest => ((c :: l) :: rest).filterMap splitField

/-- What the loop leaves after the lines following the address: the pairs it
recorded (newest first, as `Scan` keeps them), the statement, whether the
statement block is still open, and the statement lines. -/
def scanSpec : List Str → Scan
  | [] => Scan.init
  | [] :: rest =>
    match rest.dropWhile (!closesStatement ·) with
    | [] => ⟨[], none, true, statementBlock rest⟩
    | _ :: _ =>
      ⟨(recordedPairs ([] :: rest)).reverse, nonEmpty (pyStrip (joinLines (statementBlock rest))),
        false, statementBlock rest⟩
  | (c :: l) :: rest => ⟨(recordedPairs ((c :: l) :: rest)).reverse, none, false, []⟩

/-! ## The loop computes `scanSpec` -/

theorem closesStatement_iff (line : Str) :
    closesStatement line = true ↔ line = [] ∨ uriPrefix.isPrefixOf line = true := by
  simp [closesStatement, List.isEmpty_iff]

/-- The statement phase of the loop: collect until a closing line, then record. -/
theorem foldl_step_inStatement {s : Scan} (h : s.inStatement = true) (rest : List Str) :
    rest.foldl Scan.step s =
      match rest.dropWhile (!closesStatement ·) with
      | [] => { s with stmtLines := s.stmtLines ++ rest }
      | l :: after =>
        { s with
          fieldMap := (after.filterMap splitField).reverse ++
            (if uriPrefix.isPrefixOf l then (splitField l).toList else []) ++ s.fieldMap
          statement := nonEmpty (pyStrip (joinLines (s.stmtLines ++ statementBlock rest)))
          inStatement := false
          stmtLines := s.stmtLines ++ statementBlock rest } := by
  induction rest generalizing s with
  | nil => simp
  | cons l rest ih =>
    by_cases hl : closesStatement l = true
    · have hc := (closesStatement_iff l).1 hl
      have hstep : s.step l = { s with
          fieldMap := (if uriPrefix.isPrefixOf l then (splitField l).toList else []) ++ s.fieldMap
          statement := nonEmpty (pyStrip (joinLines s.stmtLines))
          inStatement := false } := by
        by_cases hu : uriPrefix.isPrefixOf l = true
        · simp only [Scan.step, h, if_true, if_pos hc, if_pos hu, Scan.record]
          cases splitField l <;> rfl
        · simp only [Scan.step, h, if_true, if_pos hc, if_neg hu, List.nil_append]
      rw [List.foldl_cons, hstep, Scan.foldl_step_outside rfl]
      simp only [List.dropWhile_cons, statementBlock, List.takeWhile_cons, hl, Bool.not_true,
        Bool.false_eq_true, if_false, List.append_nil, List.append_assoc]
    · have hc := (closesStatement_iff l).not.1 hl
      have hstep : s.step l = { s with stmtLines := s.stmtLines ++ [l] } := by
        simp only [Scan.step, h, if_true, if_neg hc]
      have hl' : closesStatement l = false := by simpa using hl
      rw [List.foldl_cons, hstep, ih (show ({ s with stmtLines := s.stmtLines ++ [l] } : Scan).inStatement = true from h)]
      simp only [List.dropWhile_cons, statementBlock, List.takeWhile_cons, hl', Bool.not_false,
        if_true, List.append_assoc, List.singleton_append]

/-- A block that is never closed holds every line. -/
theorem statementBlock_of_dropWhile_eq_nil {rest : List Str}
    (h : rest.dropWhile (!closesStatement ·) = []) : statementBlock rest = rest := by
  have := List.takeWhile_append_dropWhile (!closesStatement ·) rest
  rwa [h, List.append_nil] at this

/-- **The loop computes the block reading**: for every list of lines after the
address, the loop's final state is `scanSpec`'s. -/
theorem scanLines_eq_scanSpec (lines : List Str) : scanLines lines = scanSpec lines := by
  match lines with
  | [] => rfl
  | [] :: rest =>
    rw [scanLines, if_pos rfl, foldl_step_inStatement rfl]
    cases h : rest.dropWhile (!closesStatement ·) with
    | nil => simp only [scanSpec, h, statementBlock_of_dropWhile_eq_nil h, Scan.init, List.nil_append]
    | cons l after =>
      simp only [scanSpec, recordedPairs, h, Scan.init, List.nil_append, List.append_nil,
        List.reverse_append]
      by_cases hu : uriPrefix.isPrefixOf l = true <;> simp only [hu, if_true, if_false,
        Bool.false_eq_true, List.reverse_nil]
      cases splitField l <;> rfl
  | (c :: l) :: rest =>
    rw [scanLines, if_neg (List.cons_ne_nil c l), Scan.foldl_step_outside rfl]
    simp only [scanSpec, recordedPairs, Scan.init, List.append_nil]

theorem scanSpec_fieldMap (lines : List Str) :
    (scanSpec lines).fieldMap = (recordedPairs lines).reverse := by
  match lines with
  | [] => rfl
  | [] :: rest =>
    cases h : rest.dropWhile (!closesStatement ·) <;> simp only [scanSpec, recordedPairs, h]
    rfl
  | (c :: l) :: rest => rfl

/-! ## What the reading shows -/

/-- **A key given twice is read from its last line**: a lookup in the loop's
final state gives the value of the last pair recorded under the key. -/
theorem Scan.get_scanLines (lines : List Str) (key : Str) :
    (scanLines lines).get key =
      (((recordedPairs lines).filter fun kv => kv.1 = key).getLast?).map (·.2) := by
  rw [scanLines_eq_scanSpec, Scan.get, scanSpec_fieldMap, ← List.filter_head?, List.filter_reverse,
    List.head?_reverse]

/-- **A statement block that is never closed swallows the message**: when
every line after the blank third line is a non-blank line not starting with
`URI: `, the message parses with no statement and every field at its default,
whatever those lines say. -/
theorem parse_unclosed_statement {m domain address : Str} {rest : List Str}
    (hlines : splitLines m = (domain ++ domainSuffix) :: address :: [] :: rest)
    (hd : domain ≠ []) (ha : address.length = 42) (hx : "0x".toList.isPrefixOf address = true)
    (hrest : ∀ l ∈ rest, closesStatement l = false) :
    parseSiwaMessage m = .ok
      { domain, address, statement := none, uri := [], version := some ['1'], agentId := 0,
        agentRegistry := [], chainId := 0, nonce := [], issuedAt := [], expirationTime := none,
        notBefore := none, requestId := none } := by
  have haddr : ¬(address = [] ∨ "0x".toList.isPrefixOf address = false ∨ address.length ≠ 42) := by
    rintro (h | h | h)
    · simp [h] at ha
    · rw [hx] at h; cases h
    · exact h ha
  have hdrop : rest.dropWhile (!closesStatement ·) = [] :=
    List.dropWhile_eq_nil_iff.2 fun l hl => by simp [hrest l hl]
  have hscan : scanLines ([] :: rest) = ⟨[], none, true, rest⟩ := by
    rw [scanLines_eq_scanSpec, scanSpec, hdrop, statementBlock_of_dropWhile_eq_nil hdrop]
  simp only [parseSiwaMessage, hlines, List.headD_cons, domainMatch_append hd, List.getElem?_cons_succ,
    List.getElem?_cons_zero, if_neg haddr, List.drop_succ_cons, List.drop_zero, hscan]
  rfl

/-- The lines of a message whose statement block is never closed. -/
def unclosedLines : List Str :=
  ["Sign in".toList, "Nonce: abc123".toList, "Chain ID: 1".toList]

theorem unclosed_fields_ignored :
    parseSiwaMessage (joinLines ("example.com wants you to sign in with your Agent account:".toList ::
        "0x1234567890123456789012345678901234567890".toList :: [] :: unclosedLines)) = .ok
      { domain := "example.com".toList
        address := "0x1234567890123456789012345678901234567890".toList
        statement := none, uri := [], version := some ['1'], agentId := 0, agentRegistry := [],
        chainId := 0, nonce := [], issuedAt := [], expirationTime := none, notBefore := none,
        requestId := none } :=
  parse_unclosed_statement
    (show _ = ("example.com".toList ++ domainSuffix) :: _ :: [] :: unclosedLines by decide)
    (by decide) (by decide) (by decide) (by decide)

end Siwa.Blocks
