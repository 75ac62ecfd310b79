import Siwa.Checks

/-! # Replay protection over a server's history

`verify_siwa` keeps no state: replay protection rests on the `nonce_validator`
its caller passes, which answers whether a nonce is still unused and consumes
it ("Invalid or consumed nonce"). This module puts the pipeline into a server
around it. The server's state is its store of issued, unconsumed nonces;
`storeValidator` answers from the store, and a verification consumes the nonce
the pipeline hands to the validator. A run touches the store only through that
one call, made at most once, so verifications that share the store behave as
the sequence of their validator calls: `runServer` runs such a sequence,
interleaved with the issuing of nonces.

A verification changes the store exactly when the message parses and passes
the signature, address and domain checks, and then consumes the message's
nonce whatever the later stages decide (`serve_store`). So a message replayed
at the wrong domain consumes nothing (`serve_after_early_reject`), a message
accepted once is rejected when replayed (`serve_replay_invalidNonce`), over
every history each nonce is accepted at most as often as it was issued
(`runServer_accepted_le`), and a nonce no verification carries is never lost
(`runServer_count_of_not_carried`). -/

namespace Siwa.Replay
open Siwa.PyStr Siwa.Message Siwa.Codec Siwa.Verify Siwa.Checks

/-- The validator of a store of unused nonces: a nonce passes when it is stored. -/
def storeValidator (store : List Str) (nonce : Str) : Except PyException NonceResult :=
  .ok (.value (decide (nonce ∈ store)))

/-- The nonce of the first validator call among `calls`. -/
def validated : List Call → Option Str
  | [] => none
  | .nonceValidator n :: _ => some n
  | _ :: calls => validated calls

/-- `q` served against `store`: its validator is the store's. -/
def against (q : Request) (store : List Str) : Request :=
  { q with nonceValidator := storeValidator store }

/-- One verification: the result, and the store with the validated nonce consumed. -/
def serve (store : List Str) (q : Request) : SIWAVerificationResult × List Str :=
  let run := verifyRun (against q store)
  (run.result, match validated run.calls with
    | some n => store.erase n
    | none => store)

/-- What the server does next: issue a nonce, or verify a request. -/
inductive Event
  | issue (nonce : Str)
  | verify (q : Request)

def Event.issued : Event → Option Str
  | .issue n => some n
  | .verify _ => none

/-- A history from `store`: the final store, and each verification with its result. -/
def runServer : List Str → List Event → List Str × List (Request × SIWAVerificationResult)
  | store, [] => (store, [])
  | store, .issue n :: events => runServer (n :: store) events
  | store, .verify q :: events =>
    let step := serve store q
    let rest := runServer step.2 events
    (rest.1, (q, step.1) :: rest.2)

/-- The nonce of the message of `q`, when it parses. -/
def messageNonce (q : Request) : Option Str := (parseSiwaMessage q.message).toOption.map (·.nonce)

/-- A verification that accepted a message with nonce `n`. -/
def acceptedWith (n : Str) (entry : Request × SIWAVerificationResult) : Bool :=
  entry.2.valid && decide (messageNonce entry.1 = some n)

/-! ## One verification -/

variable {q : Request} {f : SIWAMessageFields} {store : List Str}

theorem validated_calls_of_lt {k : Check} (hk : k.rank < 3) : validated (k.calls q f) = none := by
  cases k <;> simp_all [Check.rank, Check.calls, validated]

theorem validated_calls_of_ge {k : Check} (hk : 3 ≤ k.rank) :
    validated (k.calls q f) = some f.nonce := by
  cases k <;> simp_all [Check.rank, Check.calls, validated]

/-- A run that stops at a check it reached called the validator, on the parsed
nonce, exactly when the check comes after the domain binding. -/
theorem validated_stop {k : Check} (hf : parseSiwaMessage q.message = .ok f) (hr : Reached q f k)
    (hk : ¬Passes q f k) :
    (validated (k.calls q f) = none ∧
        ∀ f', parseSiwaMessage q.message = .ok f' → ¬Reached q f' .nonce) ∨
      ∃ f', parseSiwaMessage q.message = .ok f' ∧ Reached q f' .nonce ∧
        validated (k.calls q f) = some f'.nonce := by
  rcases Nat.lt_or_ge k.rank 3 with hlt | hge
  · refine .inl ⟨validated_calls_of_lt hlt, fun f' hf' h3 => hk ?_⟩
    rw [hf] at hf'; cases hf'
    exact h3 k hlt
  · exact .inr ⟨f, hf, hr.mono hge, validated_calls_of_ge hge⟩

/-- **The validator call of a run**: the pipeline calls the validator, on the
parsed nonce, exactly when the message parses and passes the signature, address
and domain checks. -/
theorem validated_verifyRun (q : Request) :
    (validated (verifyRun q).calls = none ∧
        ∀ f, parseSiwaMessage q.message = .ok f → ¬Reached q f .nonce) ∨
      ∃ f, parseSiwaMessage q.message = .ok f ∧ Reached q f .nonce ∧
        validated (verifyRun q).calls = some f.nonce := by
  have ho := verifyRun_outcome q
  generalize verifyRun q = run at ho ⊢
  cases ho with
  | unparsed he => exact .inl ⟨rfl, fun f hf => by rw [he] at hf; cases hf⟩
  | rejected _ hf hr hk => exact validated_stop hf hr (not_passes_of_fails hk)
  | raised hf hr hk => exact validated_stop hf hr (not_passes_of_raises hk)
  | codeRaised hf hall _ _ | accepted hf hall _ _ _ =>
    exact .inr ⟨_, hf, fun j _ => hall j, rfl⟩

/-- The checks before the nonce check do not read the validator. -/
theorem reached_nonce_against : Reached (against q store) f .nonce ↔ Reached q f .nonce := by
  constructor <;> intro h j hj <;> cases j <;> first | exact h _ hj | simp [Check.rank] at hj

/-- **What a verification does to the store**: nothing, when the message does
not parse or fails the signature, address or domain check; otherwise it
consumes the message's nonce, whatever the later stages decide. -/
theorem serve_store (store : List Str) (q : Request) :
    ((serve store q).2 = store ∧ ∀ f, parseSiwaMessage q.message = .ok f → ¬Reached q f .nonce) ∨
      ∃ f, parseSiwaMessage q.message = .ok f ∧ Reached q f .nonce ∧
        (serve store q).2 = store.erase f.nonce := by
  unfold serve
  rcases validated_verifyRun (against q store) with ⟨h, hn⟩ | ⟨f, hf, hr, h⟩
  · exact .inl ⟨by simp only [h], fun f hf hr => hn f hf (reached_nonce_against.2 hr)⟩
  · exact .inr ⟨f, hf, reached_nonce_against.1 hr, by simp only [h]⟩

/-- A verification only ever takes from the store. -/
theorem serve_sublist (store : List Str) (q : Request) : List.Sublist (serve store q).2 store := by
  simp only [serve]
  split
  · exact List.erase_sublist _ _
  · exact List.Sublist.refl _

/-- An accepted verification found its nonce in the store and consumed it. -/
theorem serve_valid (h : (serve store q).1.valid = true) :
    ∃ f, parseSiwaMessage q.message = .ok f ∧ Reached q f .nonce ∧ f.nonce ∈ store ∧
      (serve store q).2 = store.erase f.nonce := by
  obtain ⟨f, hf, hall, -⟩ := (verifySiwa_valid_iff (against q store)).1 h
  have hr : Reached (against q store) f .nonce := fun j _ => hall j
  have hmem : f.nonce ∈ store := by
    simpa [Passes, against, storeValidator, nonceOk, Except.bind] using hall .nonce
  rcases validated_verifyRun (against q store) with ⟨-, hn⟩ | ⟨f', hf', -, hs⟩
  · exact absurd hr (hn f hf)
  · rw [hf] at hf'; cases hf'
    exact ⟨f, hf, reached_nonce_against.1 hr, hmem, by simp only [serve, hs]⟩

/-- **A replayed message is rejected**: when the store holds each nonce once,
a request the server accepted is rejected as `INVALID_NONCE` when it comes
again, its nonce consumed by the first verification. -/
theorem serve_replay_invalidNonce (hd : store.Nodup) (h : (serve store q).1.valid = true) :
    (serve (serve store q).2 q).1.code = some .invalidNonce := by
  obtain ⟨f, hf, hr, -, hs⟩ := serve_valid h
  have hn : f.nonce ∉ (serve store q).2 := hs ▸ hd.not_mem_erase
  have hfail : Fails (against q (serve store q).2) f .nonce := by
    simp only [Fails, against, storeValidator, decide_eq_false hn]
    rfl
  obtain ⟨msg, hv⟩ := verifySiwa_of_fails
    (show parseSiwaMessage (against q (serve store q).2).message = .ok f from hf)
    (reached_nonce_against.2 hr) hfail
  show (verifySiwa (against q (serve store q).2)).code = _
  rw [hv]
  rfl

theorem plainRequest_replay_rejected :
    (serve [plainFields.nonce] plainRequest).1.valid = true ∧
      (serve (serve [plainFields.nonce] plainRequest).2 plainRequest).1.code = some .invalidNonce :=
  have h : (serve [plainFields.nonce] plainRequest).1.valid = true := by decide
  ⟨h, serve_replay_invalidNonce (List.nodup_singleton _) h⟩

/-- One verification takes from the store at least the acceptance it gives. -/
theorem acceptedWith_add_count_le (n : Str) (store : List Str) (q : Request) :
    (if acceptedWith n (q, (serve store q).1) then 1 else 0) + (serve store q).2.count n ≤
      store.count n := by
  cases ha : acceptedWith n (q, (serve store q).1)
  · simpa using (serve_sublist store q).count_le n
  · simp only [acceptedWith, Bool.and_eq_true, decide_eq_true_eq] at ha
    obtain ⟨f, hf, -, hmem, hs⟩ := serve_valid ha.1
    have hn : f.nonce = n := by simpa [messageNonce, hf, Except.toOption] using ha.2
    subst hn
    have := List.count_pos_iff.2 hmem
    rw [hs, List.count_erase_self, if_pos rfl]
    omega

/-- A verification consumes only the nonce its message carries. -/
theorem serve_count_of_ne {n : Str} (h : messageNonce q ≠ some n) :
    (serve store q).2.count n = store.count n := by
  simp only [serve]
  rcases validated_verifyRun (against q store) with ⟨hv, -⟩ | ⟨f, hf, -, hv⟩
  · simp only [hv]
  · simp only [hv]
    refine List.count_erase_of_ne (fun he => h ?_) store
    simp [messageNonce, show parseSiwaMessage q.message = .ok f from hf, Except.toOption, he]

/-! ## Histories -/

/-- Over every history, the verifications that accept a message with nonce
`n`, together with the copies of `n` still stored, are at most the copies stored
at the start and issued since. -/
theorem runServer_accepted_add_count_le (n : Str) (store : List Str) (events : List Event) :
    (runServer store events).2.countP (acceptedWith n) + (runServer store events).1.count n ≤
      store.count n + (events.filterMap Event.issued).count n := by
  induction events generalizing store with
  | nil => simp [runServer]
  | cons event events ih =>
    cases event with
    | issue m =>
      have := ih (m :: store)
      simp only [runServer, List.filterMap_cons, Event.issued, List.count_cons] at this ⊢
      omega
    | verify q =>
      have hstep := acceptedWith_add_count_le n store q
      have := ih (serve store q).2
      simp only [runServer, List.countP_cons, List.filterMap_cons, Event.issued] at this ⊢
      omega

/-- **Replay protection**: a server that starts with an empty store accepts a
message with nonce `n`, over every history, at most as often as it issued `n`. -/
theorem runServer_accepted_le (n : Str) (events : List Event) :
    (runServer [] events).2.countP (acceptedWith n) ≤ (events.filterMap Event.issued).count n := by
  have := runServer_accepted_add_count_le n [] events
  rw [List.count_nil, Nat.zero_add] at this
  omega

/-- **A nonce never issued is never accepted**: when `n` is not stored at the
start and no event issues it, no verification of the history accepts a message
with nonce `n`. -/
theorem runServer_not_issued {n : Str} {store : List Str} {events : List Event}
    (hs : n ∉ store) (hi : Event.issue n ∉ events) :
    ∀ entry ∈ (runServer store events).2, acceptedWith n entry = false := by
  have h := runServer_accepted_add_count_le n store events
  have hi' : (events.filterMap Event.issued).count n = 0 := by
    refine List.count_eq_zero.2 fun hm => ?_
    obtain ⟨e, he, heq⟩ := List.mem_filterMap.1 hm
    cases e with
    | issue m => cases heq; exact hi he
    | verify _ => cases heq
  rw [List.count_eq_zero.2 hs, hi'] at h
  intro entry he
  simpa using List.countP_eq_zero.1 (by omega) entry he

/-- A server that issued only `xyz` does not accept `plainRequest`, whose nonce is `abc123`. -/
theorem unissued_nonce_rejected :
    acceptedWith plainFields.nonce (plainRequest, (serve ["xyz".toList] plainRequest).1) = false :=
  runServer_not_issued (List.not_mem_nil _)
    (show Event.issue plainFields.nonce ∉ [.issue "xyz".toList, .verify plainRequest] by
      simp [plainFields])
    _ (List.mem_singleton_self _)

/-- **No nonce is lost**: when no verification of a history carries a message
with nonce `n`, the final store holds `n` exactly as often as the initial store
and the issue events together. -/
theorem runServer_count_of_not_carried (n : Str) (store : List Str) (events : List Event)
    (h : ∀ q, Event.verify q ∈ events → messageNonce q ≠ some n) :
    (runServer store events).1.count n = store.count n + (events.filterMap Event.issued).count n := by
  induction events generalizing store with
  | nil => simp [runServer]
  | cons event events ih =>
    have h' := fun q hq => h q (List.mem_cons_of_mem event hq)
    cases event with
    | issue m =>
      simp only [runServer, List.filterMap_cons, Event.issued, ih (m :: store) h', List.count_cons]
      omega
    | verify q =>
      simp only [runServer, List.filterMap_cons, Event.issued, ih _ h',
        serve_count_of_ne (h q (List.mem_cons_self _ _))]

theorem issued_nonce_kept :
    (runServer [] [.issue "xyz".toList, .verify plainRequest]).1.count "xyz".toList =
      ([] : List Str).count "xyz".toList +
        ([Event.issue "xyz".toList, .verify plainRequest].filterMap Event.issued).count "xyz".toList :=
  runServer_count_of_not_carried _ _ _ fun q hq => by
    simp only [List.mem_cons, reduceCtorEq, Event.verify.injEq, List.mem_nil_iff, or_false,
      false_or] at hq
    subst hq
    decide

/-! ## Replays at the wrong domain -/

/-- A result coded `INVALID_SIGNATURE` or `DOMAIN_MISMATCH` comes from a run
that made no call. -/
theorem verifyRun_calls_of_early_code (q : Request)
    (h : (verifySiwa q).code = some .invalidSignature ∨
      (verifySiwa q).code = some .domainMismatch) : (verifyRun q).calls = [] := by
  unfold verifySiwa at h
  have ho := verifyRun_outcome q
  generalize verifyRun q = run at ho h ⊢
  cases ho with
  | unparsed => rfl
  | @rejected f k msg =>
    simp only [Run.result_ok, fail_code, Option.some.injEq] at h
    cases k <;> simp_all [Check.code, Check.calls]
  | raised | codeRaised | accepted => simp at h

/-- **A replay at the wrong domain consumes nothing**: after a verification
that the signature or domain check rejects, with whatever message, the next
verification gets the result and store it would have got without it. -/
theorem serve_after_early_reject (store : List Str) (q' q : Request)
    (h : (serve store q').1.code = some .invalidSignature ∨
      (serve store q').1.code = some .domainMismatch) :
    serve (serve store q').2 q = serve store q := by
  have hc := verifyRun_calls_of_early_code (against q' store) h
  have hs : (serve store q').2 = store := by simp only [serve, hc, validated]
  rw [hs]

/-- `plainRequest` sent to another domain. -/
def crossDomainReplay : Request := { plainRequest with expectedDomain := "other.example".toList }

theorem crossDomainReplay_consumes_nothing :
    (serve [plainFields.nonce] crossDomainReplay).1.code = some .domainMismatch ∧
      serve (serve [plainFields.nonce] crossDomainReplay).2 plainRequest =
        serve [plainFields.nonce] plainRequest :=
  have h : (serve [plainFields.nonce] crossDomainReplay).1.code = some .domainMismatch := by decide
  ⟨h, serve_after_early_reject _ _ _ (.inr h)⟩

end Siwa.Replay
