import Siwa.PyStr

/-! # The SIWA message codec

`build_siwa_message` and `parse_siwa_message` (siwa.py). The builder writes a
fixed sequence of lines; the parser reads the domain from the first line, the
address from the second, and then runs one loop over the remaining lines that
either collects statement lines or records `key: value` pairs in `field_map`.
The loop's variables are the fields of `Scan`, and one iteration is
`Scan.step`. The dict `field_map` is a list of pairs, newest first, so a later
assignment to a key shadows an earlier one as in Python. -/

namespace Siwa.Message
open Siwa.PyStr

/-- `SIWAMessageFields`. A key the dict may lack is an `Option`. A missing
`address` is `[]`, which `sign_siwa_message` treats as it treats a missing key
(both fail `fields.get("address")`). The `TypedDict` is `total=False`, and
`build_siwa_message` raises `KeyError` on a dict without `domain`, `uri`,
`agent_id`, `agent_registry`, `chain_id`, `nonce` or `issued_at`; a value of
this structure has every key, so that error is outside the model. -/
structure SIWAMessageFields where
  domain : Str
  address : Str
  statement : Option Str
  uri : Str
  version : Option Str
  agentId : Int
  agentRegistry : Str
  chainId : Int
  nonce : Str
  issuedAt : Str
  expirationTime : Option Str
  notBefore : Option Str
  requestId : Option Str
deriving DecidableEq, Repr

/-- `fields.get(key)` tested for truth: the value when present and non-empty. -/
def truthy : Option Str → Option Str
  | some s => nonEmpty s
  | none => none

@[simp] theorem truthy_none : truthy none = none := rfl

@[simp] theorem truthy_truthy (v : Option Str) : truthy (truthy v) = truthy v := by
  cases v with
  | none => rfl
  | some s => by_cases h : s = [] <;> simp [truthy, nonEmpty, h]

/-! ## `build_siwa_message` -/

/-- The fixed end of the first line. -/
def domainSuffix : Str := " wants you to sign in with your Agent account:".toList

/-- `f"{key}: {value}"`. -/
def fieldLine (key value : Str) : Str := key ++ ':' :: ' ' :: value

/-- The line of an optional field, emitted only when the field is truthy. -/
def optionalLine (key : Str) (value : Option Str) : List Str :=
  ((truthy value).map (fieldLine key)).toList

/-- The `key: value` lines after the statement block. -/
def fieldLines (fields : SIWAMessageFields) : List Str :=
  [fieldLine "URI".toList fields.uri,
    fieldLine "Version".toList (fields.version.getD ['1']),
    fieldLine "Agent ID".toList (pyStr fields.agentId),
    fieldLine "Agent Registry".toList fields.agentRegistry,
    fieldLine "Chain ID".toList (pyStr fields.chainId),
    fieldLine "Nonce".toList fields.nonce,
    fieldLine "Issued At".toList fields.issuedAt] ++
  optionalLine "Expiration Time".toList fields.expirationTime ++
  optionalLine "Not Before".toList fields.notBefore ++
  optionalLine "Request ID".toList fields.requestId

/-- `build_siwa_message`. -/
def buildSiwaMessage (fields : SIWAMessageFields) : Str :=
  joinLines <|
    [fields.domain ++ domainSuffix, fields.address, []] ++
    (truthy fields.statement).toList ++ [] :: fieldLines fields

/-! ## `parse_siwa_message` -/

/-- `re.match(r"^(.+) wants you to sign in with your Agent account:$", line)`,
by its group 1. The line is one piece of the split on newlines, so it holds no
newline: `.` matches every character of it and `$` is its end. -/
def domainMatch (line : Str) : Option Str :=
  if domainSuffix.isSuffixOf line ∧ domainSuffix.length < line.length then
    some (line.take (line.length - domainSuffix.length))
  else none

/-- The variables of the loop over the lines after the address. -/
structure Scan where
  fieldMap : List (Str × Str)
  statement : Option Str
  inStatement : Bool
  stmtLines : List Str

def Scan.init : Scan := ⟨[], none, false, []⟩

/-- `field_map.get(key)`: the value last recorded under `key`. -/
def Scan.get (s : Scan) (key : Str) : Option Str :=
  (s.fieldMap.find? fun kv => kv.1 = key).map (·.2)

/-- `key, _, value = line.partition(": "); field_map[key] = value`, under
`if ": " in line`. -/
def Scan.record (s : Scan) (line : Str) : Scan :=
  match splitField line with
  | some kv => { s with fieldMap := kv :: s.fieldMap }
  | none => s

def uriPrefix : Str := "URI: ".toList

/-- One iteration of the loop, at an index past 2. -/
def Scan.step (s : Scan) (line : Str) : Scan :=
  if s.inStatement then
    if line = [] ∨ uriPrefix.isPrefixOf line = true then
      let s' := { s with
        inStatement := false, statement := nonEmpty (pyStrip (joinLines s.stmtLines)) }
      if uriPrefix.isPrefixOf line = true then s'.record line else s'
    else { s with stmtLines := s.stmtLines ++ [line] }
  else s.record line

/-- `for i in range(2, len(lines))`: at `i == 2` a blank line opens the
statement block; any other line is handled as the later ones are. -/
def scanLines : List Str → Scan
  | [] => Scan.init
  | line :: rest =>
    if line = [] then rest.foldl Scan.step { Scan.init with inStatement := true }
    else (line :: rest).foldl Scan.step Scan.init

/-- The `SIWAMessageFields(...)` that the parser returns; the two `int(...)`
calls raise as Python's do, `agent_id` first. -/
def readFields (domain address : Str) (s : Scan) : Except PyException SIWAMessageFields := do
  let agentId ← pyInt ((s.get "Agent ID".toList).getD ['0'])
  let chainId ← pyInt ((s.get "Chain ID".toList).getD ['0'])
  pure {
    domain, address, agentId, chainId
    statement := s.statement
    uri := (s.get "URI".toList).getD []
    version := some ((s.get "Version".toList).getD ['1'])
    agentRegistry := (s.get "Agent Registry".toList).getD []
    nonce := (s.get "Nonce".toList).getD []
    issuedAt := (s.get "Issued At".toList).getD []
    expirationTime := s.get "Expiration Time".toList
    notBefore := s.get "Not Before".toList
    requestId := s.get "Request ID".toList }

/-- `parse_siwa_message`. `lines[0]` always exists (a split is never empty);
`lines[1]` raises `IndexError` on a one-line message. -/
def parseSiwaMessage (message : Str) : Except PyException SIWAMessageFields :=
  let lines := splitLines message
  match domainMatch (lines.headD []) with
  | none => .error (.valueError "Invalid SIWA message: missing domain line".toList)
  | some domain =>
    match lines[1]? with
    | none => .error (.indexError "list index out of range".toList)
    | some address =>
      if address = [] ∨ "0x".toList.isPrefixOf address = false ∨ address.length ≠ 42 then
        .error (.valueError "Invalid SIWA message: missing or malformed address".toList)
      else readFields domain address (scanLines (lines.drop 2))

/-! ## The loop -/

/-- A blank line always leaves the statement block. -/
theorem Scan.step_nil_inStatement (s : Scan) : (s.step []).inStatement = false := by
  unfold Scan.step Scan.record
  split <;> simp_all

/-- Outside the statement block the loop only records fields. -/
theorem Scan.foldl_step_outside {s : Scan} (h : s.inStatement = false) (ls : List Str) :
    ls.foldl Scan.step s = { s with fieldMap := (ls.filterMap splitField).reverse ++ s.fieldMap } := by
  induction ls generalizing s with
  | nil => rfl
  | cons l ls ih =>
    rw [List.foldl_cons]
    cases hl : splitField l with
    | none =>
      have hs : s.step l = s := by simp [Scan.step, h, Scan.record, hl]
      rw [hs, ih h]
      simp [List.filterMap_cons, hl]
    | some kv =>
      have hs : s.step l = { s with fieldMap := kv :: s.fieldMap } := by
        simp [Scan.step, h, Scan.record, hl]
      rw [hs, ih (by simpa using h)]
      simp [List.filterMap_cons, hl]

/-- Inside the statement block, lines that neither are blank nor start with
`URI: ` are collected. -/
theorem Scan.foldl_step_statement {s : Scan} (h : s.inStatement = true) {ls : List Str}
    (hls : ∀ l ∈ ls, l ≠ [] ∧ uriPrefix.isPrefixOf l = false) :
    ls.foldl Scan.step s = { s with stmtLines := s.stmtLines ++ ls } := by
  induction ls generalizing s with
  | nil => simp
  | cons l ls ih =>
    obtain ⟨hne, hu⟩ := hls l (List.mem_cons_self _ _)
    rw [List.foldl_cons, ih (by simp [Scan.step, h, hne, hu])
      (fun x hx => hls x (List.mem_cons_of_mem _ hx))]
    simp [Scan.step, h, hne, hu]

end Siwa.Message
