import Stackfort.AgentErrors
import Stackfort.ResponseCache

/-! A failure that another attempt may repair should reach the host again. Whether a reply is stored
depends on the status the agent's mapper gives it, and whether the operation is retried depends on the
code the worker's classifier reads. The two tables are compared for every call and every error of its
manager: they disagree on the capability errors of seven managers, whose replies have status 422 and
are retried, and on the purge of a cache, which is retried after any error. -/

namespace Stackfort

open List

/-! ### The two tables -/

/-- The reply made from a verdict. -/
def Verdict.reply (verdict : Verdict) (capability : Option Capability) : Nat × ResponseError :=
  (verdict.status, ⟨verdict.code, verdict.message, capability⟩)

/-- The client accepts the status and the text of an error. -/
def Verdict.legible (verdict : Verdict) : Bool :=
  400 ≤ verdict.status && verdict.status ≤ 599 && verdict.message ≠ "" && verdict.message.utf8ByteSize ≤ 256

namespace ErrorMapper

variable {mapper : ErrorMapper} {error : HostError}

/-- The verdicts on errors that are not capability errors. -/
def plain (mapper : ErrorMapper) : List Verdict :=
  mapper.fallback :: (mapper.cases.filter fun case => case.1 ≠ .hasCapability).map Prod.snd

theorem respond_of_capability {verdict : Verdict} {rest : List (ErrorTest × Verdict)} {capability : Capability}
    (hcases : mapper.cases = (.hasCapability, verdict) :: rest) (hcapability : error.capability = some capability) :
    mapper.respond error = verdict.reply (some capability) := by
  have hfind : mapper.cases.find? (fun case => error.passes case.1) = some (.hasCapability, verdict) := by
    rw [hcases]
    apply find?_cons_of_pos
    dsimp only [HostError.passes]
    rw [hcapability]
    rfl
  rw [respond, hfind, hcapability]
  rfl

/-- Any other reply is made from a plain verdict. -/
theorem respond_plain (h : ∀ verdict, (.hasCapability, verdict) ∈ mapper.cases → error.capability = none) :
    ∃ verdict ∈ mapper.plain, ∃ capability, mapper.respond error = verdict.reply capability := by
  cases hfind : mapper.cases.find? (fun case => error.passes case.1) with
  | none =>
    refine ⟨mapper.fallback, mem_cons_self, mapper.detail error mapper.fallback.code, ?_⟩
    rw [respond, hfind]
    rfl
  | some case =>
    obtain ⟨test, verdict⟩ := case
    have hmem := mem_of_find?_eq_some hfind
    cases test with
    | hasCapability =>
      have hpasses := find?_some hfind
      dsimp only [HostError.passes] at hpasses
      rw [h verdict hmem] at hpasses
      cases hpasses
    | is sentinels =>
      refine ⟨verdict, mem_cons_of_mem _ ?_, mapper.detail error verdict.code, ?_⟩
      · exact mem_map.mpr ⟨_, mem_filter.mpr ⟨hmem, rfl⟩, rfl⟩
      · rw [respond, hfind]
        rfl

end ErrorMapper

namespace AgentCall

variable {call : AgentCall} {error : HostError} {verdict : Verdict}

theorem legible_verdicts (call : AgentCall) :
    (call.mapper.fallback :: call.mapper.cases.map Prod.snd).all Verdict.legible = true := by
  cases call <;> decide +kernel

/-- The handler may retry after a reply with this status and code. -/
def mayRetry (call : AgentCall) (status : Nat) (code : ErrorCode) : Bool :=
  (call.classify (.remote ⟨status, code, "", none⟩)).any Failure.retryable

/-- Naming a capability never makes a failure retryable. -/
theorem mayRetry_of_retryable {remote : RemoteError}
    (h : (call.classify (.remote remote)).any Failure.retryable = true) :
    call.mayRetry remote.statusCode remote.code = true := by
  cases call with
  | reconcilePHPPools =>
    obtain ⟨status, code, message, capability⟩ := remote
    cases code <;> first | exact h | rfl
  | _ => exact h

theorem mayRetry_of_retries {capability : Option Capability} (h : call.retries (verdict.reply capability) = true) :
    call.mayRetry verdict.status verdict.code = true := by
  unfold retries at h
  split at h
  · next remote hremote =>
    unfold remoteError at hremote
    split at hremote
    · split at hremote
      · cases hremote
        exact mayRetry_of_retryable h
      · cases hremote
    · cases hremote
  · cases h

theorem retries_of_capability (hlegible : verdict.legible = true) (hcode : verdict.code.namesCapability = true)
    (capability : Capability) :
    call.retries (verdict.reply (some capability)) =
      (capability.missing &&
        (call.classify (.remote ⟨verdict.status, verdict.code, verdict.message, some capability⟩)).any
          Failure.retryable) := by
  unfold Verdict.legible at hlegible
  simp only [and_eq_true, decide_eq_true_eq] at hlegible
  obtain ⟨⟨⟨hlow, hhigh⟩, hmessage⟩, hsize⟩ := hlegible
  unfold retries remoteError validateResponseError
  cases hmissing : capability.missing <;> simp [Verdict.reply, hlow, hhigh, hmessage, hsize, hcode, hmissing]

/-- The plain replies that are stored are final. -/
def finalWhenStored (call : AgentCall) : Bool :=
  call.mapper.plain.all fun verdict => 500 ≤ verdict.status || !call.mayRetry verdict.status verdict.code

theorem finalWhenStored_of_ne_purgeCache (h : call ≠ .purgeCache) : call.finalWhenStored = true := by
  cases call with
  | purgeCache => exact absurd rfl h
  | _ => decide +kernel

/-- The errors whose reply is stored although the operation is retried: an unavailable capability that the
classifier takes for a passing one, and every error of a purge that is not an unavailable cache. -/
def heldBack (call : AgentCall) (error : HostError) : Bool :=
  match call with
  | .ensureHostingDocumentRoot | .activateNGINXSiteSpecs | .reconcileScheduledJob | .prepareOCIImage
  | .reconcileOCIResources | .reconcileOCIDeployment => error.capability.any Capability.missing
  | .reconcilePHPPools =>
    error.capability.any fun capability => capability.missing && decide (capability.status ≠ .unsupported)
  | .purgeCache => error.passes (.is [.invalid, .conflict])
  | _ => false

theorem not_retries_of_plain (hcall : call ≠ .purgeCache) (hverdict : verdict ∈ call.mapper.plain)
    (capability : Option Capability) :
    ¬(call.retries (verdict.reply capability) = true ∧ verdict.status < 500) := by
  rintro ⟨hretries, hstatus⟩
  have hfinal := all_eq_true.mp (finalWhenStored_of_ne_purgeCache hcall) verdict hverdict
  rw [mayRetry_of_retries hretries, Bool.not_true, Bool.or_false, decide_eq_true_eq] at hfinal
  omega

/-- A mapper without a test for capability errors makes plain replies only. -/
theorem heldBack_of_untested (hcall : call ≠ .purgeCache)
    (htests : call.mapper.cases.all fun case => case.1 ≠ .hasCapability) :
    ¬(call.retries (call.mapper.respond error) = true ∧ (call.mapper.respond error).1 < 500) := by
  obtain ⟨verdict, hverdict, capability, hrespond⟩ : ∃ verdict ∈ call.mapper.plain, ∃ capability,
      call.mapper.respond error = verdict.reply capability := by
    apply ErrorMapper.respond_plain
    intro verdict hmem
    have htest := all_eq_true.mp htests _ hmem
    simp at htest
  rw [hrespond]
  exact not_retries_of_plain hcall hverdict capability

/-- A mapper that tests for capability errors first holds back those that are retried. -/
theorem heldBack_of_tested {rest : List (ErrorTest × Verdict)} (hcall : call ≠ .purgeCache)
    (hcases : call.mapper.cases = (.hasCapability, verdict) :: rest)
    (hcode : verdict.code.namesCapability = true) (hstatus : verdict.status < 500) :
    call.retries (call.mapper.respond error) = true ∧ (call.mapper.respond error).1 < 500 ↔
      ∃ capability, error.capability = some capability ∧ capability.missing = true ∧
        (call.classify (.remote ⟨verdict.status, verdict.code, verdict.message, some capability⟩)).any
          Failure.retryable = true := by
  have hlegible : verdict.legible = true := by
    have hall := all_eq_true.mp (legible_verdicts call)
    apply hall verdict
    rw [hcases]
    exact mem_cons_of_mem _ mem_cons_self
  cases hcapability : error.capability with
  | none =>
    obtain ⟨plain, hplain, capability, hrespond⟩ := ErrorMapper.respond_plain fun _ _ => hcapability
    rw [hrespond]
    constructor
    · exact fun h => absurd h (not_retries_of_plain hcall hplain capability)
    · rintro ⟨capability, hsome, -⟩
      cases hsome
  | some capability =>
    rw [ErrorMapper.respond_of_capability hcases hcapability, retries_of_capability hlegible hcode, and_eq_true]
    constructor
    · rintro ⟨⟨hmissing, hretryable⟩, -⟩
      exact ⟨capability, rfl, hmissing, hretryable⟩
    · rintro ⟨found, hsome, hmissing, hretryable⟩
      cases hsome
      exact ⟨⟨hmissing, hretryable⟩, hstatus⟩

/-- The replies to a purge that are stored are those to an invalid request and to a conflict. -/
theorem heldBack_purgeCache :
    purgeCache.retries (cacheError.respond error) = true ∧ (cacheError.respond error).1 < 500 ↔
      error.passes (.is [.invalid, .conflict]) = true := by
  have heither : error.passes (.is [.invalid, .conflict]) =
      (error.passes (.is [.invalid]) || error.passes (.is [.conflict])) := by
    simp [HostError.passes]
  rw [heither, ErrorMapper.respond, cacheError]
  simp only [List.find?]
  cases error.passes (.is [.invalid]) with
  | true => exact iff_of_true ⟨rfl, show 400 < 500 by decide⟩ rfl
  | false =>
    cases error.passes (.is [.conflict]) with
    | true => exact iff_of_true ⟨rfl, show 409 < 500 by decide⟩ rfl
    | false => exact iff_of_false (fun h => absurd (show 503 < 500 from h.2) (by decide)) (by decide)

/-- **The tables disagree on the errors that are held back.** -/
theorem heldBack_iff (call : AgentCall) (error : HostError) :
    call.heldBack error = true ↔
      call.retries (call.mapper.respond error) = true ∧ (call.mapper.respond error).1 < 500 := by
  cases call with
  | purgeCache => exact heldBack_purgeCache.symm
  | ensureHostingDocumentRoot | activateNGINXSiteSpecs | reconcileScheduledJob | prepareOCIImage
  | reconcileOCIResources | reconcileOCIDeployment =>
    rw [heldBack_of_tested (by decide) rfl rfl (by decide), heldBack, Option.any_eq_true]
    constructor
    · rintro ⟨capability, hsome, hmissing⟩
      exact ⟨capability, hsome, hmissing, rfl⟩
    · rintro ⟨capability, hsome, hmissing, -⟩
      exact ⟨capability, hsome, hmissing⟩
  | reconcilePHPPools =>
    rw [heldBack_of_tested (by decide) rfl rfl (by decide), heldBack, Option.any_eq_true]
    refine exists_congr fun capability => and_congr_right fun _ => ?_
    rw [and_eq_true]
    refine and_congr_right fun _ => ?_
    by_cases hstatus : capability.status = .unsupported
    · simp [classify, classifyDomainPHPFailure, hstatus]
    · simp [classify, classifyDomainPHPFailure, hstatus]
  | reconcileHostingFilesystem | reconcileHostingResources =>
    rw [heldBack_of_tested (by decide) rfl rfl (by decide)]
    constructor
    · intro h
      cases h
    · rintro ⟨capability, -, -, h⟩
      cases h
  | _ =>
    constructor
    · intro h
      cases h
    · exact fun h => absurd h (heldBack_of_untested (by decide) (by decide))

end AgentCall

/-! ### Requests and their repetition -/

/-- The SHA-256 digest of a request. -/
abbrev RequestDigest := List UInt8

/-- What the agent stores of a reply: a result, or an error. -/
abbrev AgentReply (ρ : Type) := Except ResponseError ρ

/-- A request at the agent, with the clock and with what the manager returns if it is asked. -/
structure AgentExchange (ρ : Type) where
  call : AgentCall
  key : String
  digest : RequestDigest
  now : Time
  outcome : Except HostError ρ

namespace AgentExchange

variable {ρ : Type}

/-- `dispatch`: the status and the reply to what the manager returned. -/
def reply (exchange : AgentExchange ρ) : Nat × AgentReply ρ :=
  match exchange.outcome with
  | .ok result => (200, .ok result)
  | .error error =>
    let mapped := exchange.call.mapper.respond error
    (mapped.1, .error mapped.2)

/-- The answer to a request, and the cache after it. -/
def serve (cache : ResponseCache String RequestDigest (AgentReply ρ)) (exchange : AgentExchange ρ) :
    CacheAnswer (AgentReply ρ) × ResponseCache String RequestDigest (AgentReply ρ) :=
  let answered := cache.execute exchange.key exchange.digest exchange.now (fun host => (exchange.reply, host)) ()
  (answered.1, answered.2.1)

def serveAll (cache : ResponseCache String RequestDigest (AgentReply ρ)) (exchanges : List (AgentExchange ρ)) :
    ResponseCache String RequestDigest (AgentReply ρ) :=
  exchanges.foldl (fun cache exchange => (serve cache exchange).2) cache

variable {cache : ResponseCache String RequestDigest (AgentReply ρ)} {key : String}

theorem find_serveAll {exchanges : List (AgentExchange ρ)} (hcache : cache.find key = none)
    (hkeys : ∀ exchange ∈ exchanges, exchange.key ≠ key) : (serveAll cache exchanges).find key = none := by
  induction exchanges generalizing cache with
  | nil => exact hcache
  | cons exchange rest ih =>
    apply ih
    · exact ResponseCache.find_execute_of_ne hcache (hkeys exchange mem_cons_self)
    · exact fun other hother => hkeys other (mem_cons_of_mem _ hother)

section

variable (exchange : AgentExchange ρ) (hlive : cache.live exchange.now exchange.key = none)

include exchange hlive

theorem find_serve_failed (hstatus : 500 ≤ exchange.reply.1) : (serve cache exchange).2.find exchange.key = none := by
  rw [serve, ResponseCache.execute_of_live_none hlive]
  dsimp only
  rw [ResponseCache.store, if_pos hstatus]
  exact hlive

theorem find_serve_stored (hstatus : exchange.reply.1 < 500) :
    (serve cache exchange).2.find exchange.key =
      some ⟨exchange.key, exchange.digest, exchange.reply.1, exchange.reply.2, exchange.now + cache.ttl⟩ := by
  rw [serve, ResponseCache.execute_of_live_none hlive]
  exact ResponseCache.find_store hstatus

end

end AgentExchange

open AgentExchange

/-- The first execution of a request ended in an error of its manager. When the operation is retried and
the request is sent again, at any time and after any requests under other keys, it runs on the host. -/
def Retried (ρ : Type) (call : AgentCall) (error : HostError) : Prop :=
  ∀ (cache : ResponseCache String RequestDigest (AgentReply ρ)) (key : String) (digest : RequestDigest)
    (now later : Time) (between : List (AgentExchange ρ)) (outcome : Except HostError ρ),
    cache.live now key = none → (∀ exchange ∈ between, exchange.key ≠ key) →
    call.retries (call.mapper.respond error) = true →
    ∃ status response,
      (serve (serveAll (serve cache ⟨call, key, digest, now, .error error⟩).2 between)
        ⟨call, key, digest, later, outcome⟩).1 = .executed status response

/-- Some stored reply to the error is one the handler retries after. -/
def StoredForRetry (ρ : Type) (call : AgentCall) (error : HostError) : Prop :=
  ∃ (cache : ResponseCache String RequestDigest (AgentReply ρ)) (key : String) (digest : RequestDigest) (now : Time)
    (entry : CachedResponse String RequestDigest (AgentReply ρ)) (response : ResponseError),
    cache.live now key = none ∧ (serve cache ⟨call, key, digest, now, .error error⟩).2.find key = some entry ∧
      entry.response = .error response ∧ call.retries (entry.status, response) = true

section Disagreement

variable {ρ : Type} {call : AgentCall} {error : HostError}

theorem retried_of_not_heldBack (h : call.heldBack error = false) : Retried ρ call error := by
  intro cache key digest now later between outcome hlive hkeys hretries
  have hstatus : 500 ≤ (call.mapper.respond error).1 := by
    by_contra hlt
    rw [(AgentCall.heldBack_iff call error).mpr ⟨hretries, Nat.lt_of_not_le hlt⟩] at h
    cases h
  have hfree : (serve cache ⟨call, key, digest, now, .error error⟩).2.find key = none :=
    find_serve_failed ⟨call, key, digest, now, .error error⟩ hlive hstatus
  rw [serve, ResponseCache.execute_of_live_none (ResponseCache.live_of_find_none (find_serveAll hfree hkeys))]
  exact ⟨_, _, rfl⟩

theorem fresh_stored (hstatus : (call.mapper.respond error).1 < 500) :
    (serve (.fresh : ResponseCache String RequestDigest (AgentReply ρ)) ⟨call, "", [], 0, .error error⟩).2.find "" =
      some ⟨"", [], (call.mapper.respond error).1, .error (call.mapper.respond error).2, 0 + idempotencyCacheTTL⟩ :=
  find_serve_stored ⟨call, "", [], 0, .error error⟩ rfl hstatus

theorem storedForRetry_of_heldBack (h : call.heldBack error = true) : StoredForRetry ρ call error := by
  obtain ⟨hretries, hstatus⟩ := (AgentCall.heldBack_iff call error).mp h
  exact ⟨.fresh, "", [], 0, _, _, rfl, fresh_stored hstatus, rfl, hretries⟩

/-- What is stored under the key of a request is the reply to it. -/
theorem heldBack_of_storedForRetry (h : StoredForRetry ρ call error) : call.heldBack error = true := by
  obtain ⟨cache, key, digest, now, entry, response, hlive, hfind, hresponse, hretries⟩ := h
  by_cases hstatus : 500 ≤ (call.mapper.respond error).1
  · rw [find_serve_failed ⟨call, key, digest, now, .error error⟩ hlive hstatus] at hfind
    cases hfind
  · rw [find_serve_stored ⟨call, key, digest, now, .error error⟩ hlive (Nat.lt_of_not_le hstatus)] at hfind
    cases hfind
    cases hresponse
    exact (AgentCall.heldBack_iff call error).mpr ⟨hretries, Nat.lt_of_not_le hstatus⟩

/-- A stored reply is returned when the request is sent again at once. -/
theorem not_retried_of_heldBack (h : call.heldBack error = true) : ¬Retried ρ call error := by
  intro hretried
  obtain ⟨hretries, hstatus⟩ := (AgentCall.heldBack_iff call error).mp h
  obtain ⟨status, response, hexecuted⟩ :=
    hretried .fresh "" [] 0 0 [] (.error error) rfl (forall_mem_nil _) hretries
  have hfree := ResponseCache.live_eq_none_of_executed hexecuted
  rw [ResponseCache.live, ResponseCache.find_eq_none_iff] at hfree
  have hmem := mem_of_find?_eq_some (fresh_stored (ρ := ρ) hstatus)
  refine hfree _ (mem_filter.mpr ⟨hmem, ?_⟩) rfl
  exact decide_eq_true (show 0 < 0 + idempotencyCacheTTL by decide)

end Disagreement

/-- The command of a scheduled job could not be started, which may pass. -/
def commandUnavailable : HostError :=
  ⟨some ⟨.unavailable, "scheduled-job-command-unavailable"⟩, [.unavailable]⟩

end Stackfort
