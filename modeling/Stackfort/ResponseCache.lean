import Stackfort.CoreTime

/-! The cache in front of the agent. A request is answered under its idempotency key: a stored reply is
returned as it is, another request under the same key is refused, and what is not stored runs on the
host. A reply with a status below 500 is stored for fifteen minutes. The cache knows nothing of what a
request does, so it is generic in its keys, digests and replies and in the host it stands before. -/

namespace Stackfort

/-- What is kept of a reply, under the key of its request. -/
structure CachedResponse (κ δ ρ : Type) where
  key : κ
  digest : δ
  status : Nat
  response : ρ
  expiresAt : Time

structure ResponseCache (κ δ ρ : Type) where
  entries : List (CachedResponse κ δ ρ)
  (limit ttl : Nat)

/-- How a request was answered. -/
inductive CacheAnswer (ρ : Type) where
  | executed (status : Nat) (response : ρ)
  | replayed (status : Nat) (response : ρ)
  | conflict

def idempotencyCacheEntries : Nat := 2048

def idempotencyCacheTTL : Nat := 15 * minute

namespace ResponseCache

variable {κ δ ρ σ : Type} [DecidableEq κ]

/-- The cache of a new handler. -/
def fresh : ResponseCache κ δ ρ := ⟨[], idempotencyCacheEntries, idempotencyCacheTTL⟩

def find (cache : ResponseCache κ δ ρ) (key : κ) : Option (CachedResponse κ δ ρ) :=
  cache.entries.find? fun entry => entry.key = key

def delete (cache : ResponseCache κ δ ρ) (key : κ) : ResponseCache κ δ ρ :=
  { cache with entries := cache.entries.filter fun entry => entry.key ≠ key }

def prune (cache : ResponseCache κ δ ρ) (now : Time) : ResponseCache κ δ ρ :=
  { cache with entries := cache.entries.filter fun entry => now < entry.expiresAt }

/-- The entry that expires first. Go visits the entries of a map in any order; the list has one. -/
def oldest (cache : ResponseCache κ δ ρ) : Option (CachedResponse κ δ ρ) :=
  cache.entries.foldl (fun oldest entry =>
    match oldest with
    | none => some entry
    | some other => if entry.expiresAt < other.expiresAt then some entry else some other) none

def evictOldest (cache : ResponseCache κ δ ρ) : ResponseCache κ δ ρ :=
  match cache.oldest with
  | none => cache
  | some entry => cache.delete entry.key

/-- A reply is stored unless the host failed. -/
def store (cache : ResponseCache κ δ ρ) (key : κ) (digest : δ) (now : Time) (status : Nat) (response : ρ) :
    ResponseCache κ δ ρ :=
  if 500 ≤ status then cache
  else
    let room := if cache.limit ≤ cache.entries.length then cache.evictOldest else cache
    { room with entries := ⟨key, digest, status, response, now + cache.ttl⟩ :: room.entries }

/-- The entry a request finds under its key. -/
def live (cache : ResponseCache κ δ ρ) (now : Time) (key : κ) : Option (CachedResponse κ δ ρ) :=
  (cache.prune now).find key

variable {cache : ResponseCache κ δ ρ} {key other : κ} {digest : δ} {now : Time} {entry : CachedResponse κ δ ρ}
  {perform : σ → (Nat × ρ) × σ} {host : σ} {status : Nat} {response : ρ}

theorem find_eq_none_iff : cache.find key = none ↔ ∀ entry ∈ cache.entries, entry.key ≠ key := by
  simp [find]

/-- Deleting, pruning and evicting leave no entry that was not there. -/
theorem mem_delete (h : entry ∈ (cache.delete other).entries) : entry ∈ cache.entries :=
  List.mem_of_mem_filter h

omit [DecidableEq κ] in
theorem mem_prune (h : entry ∈ (cache.prune now).entries) : entry ∈ cache.entries ∧ now < entry.expiresAt := by
  have hmem := List.mem_filter.mp h
  exact ⟨hmem.1, of_decide_eq_true hmem.2⟩

theorem mem_evictOldest (h : entry ∈ cache.evictOldest.entries) : entry ∈ cache.entries := by
  unfold evictOldest at h
  cases holdest : cache.oldest with
  | none =>
    rw [holdest] at h
    exact h
  | some found =>
    rw [holdest] at h
    exact mem_delete h

/-- A stored entry is an old one, or the reply that was just given. -/
theorem mem_store (h : entry ∈ (cache.store key digest now status response).entries) :
    entry ∈ cache.entries ∨ status < 500 ∧ entry = ⟨key, digest, status, response, now + cache.ttl⟩ := by
  unfold store at h
  split at h
  · exact .inl h
  next hstatus =>
  rcases List.mem_cons.mp h with rfl | hroom
  · exact .inr ⟨by omega, rfl⟩
  · refine .inl ?_
    split at hroom
    · exact mem_evictOldest hroom
    · exact hroom

theorem find_store (hstatus : status < 500) :
    (cache.store key digest now status response).find key = some ⟨key, digest, status, response, now + cache.ttl⟩ := by
  rw [store, if_neg (by omega), find]
  exact List.find?_cons_of_pos (by simp)

theorem live_of_find_none (h : cache.find key = none) : cache.live now key = none := by
  rw [live, find_eq_none_iff]
  rw [find_eq_none_iff] at h
  exact fun entry hentry => h entry (mem_prune hentry).1

/-! ### Answers -/

variable [DecidableEq δ]

def execute (cache : ResponseCache κ δ ρ) (key : κ) (digest : δ) (now : Time) (perform : σ → (Nat × ρ) × σ)
    (host : σ) : CacheAnswer ρ × ResponseCache κ δ ρ × σ :=
  let cache := cache.prune now
  match cache.find key with
  | some existing =>
    if existing.digest ≠ digest then (.conflict, cache, host)
    else (.replayed existing.status existing.response, cache, host)
  | none =>
    let performed := perform host
    (.executed performed.1.1 performed.1.2, cache.store key digest now performed.1.1 performed.1.2, performed.2)

theorem execute_of_live_none (h : cache.live now key = none) :
    cache.execute key digest now perform host =
      (.executed (perform host).1.1 (perform host).1.2,
        (cache.prune now).store key digest now (perform host).1.1 (perform host).1.2, (perform host).2) := by
  rw [live] at h
  rw [execute, h]

theorem execute_of_live_some (h : cache.live now key = some entry) :
    cache.execute key digest now perform host =
      (if entry.digest ≠ digest then .conflict else .replayed entry.status entry.response, cache.prune now, host) := by
  rw [live] at h
  rw [execute, h]
  dsimp only
  split <;> rfl

/-- A request that runs on the host finds no entry under its key. -/
theorem live_eq_none_of_executed (h : (cache.execute key digest now perform host).1 = .executed status response) :
    cache.live now key = none := by
  cases hlive : cache.live now key with
  | none => rfl
  | some entry =>
    rw [execute_of_live_some hlive] at h
    dsimp only at h
    split at h <;> cases h

/-- After a request, the entries under another key are those that were there. -/
theorem mem_execute (h : entry ∈ (cache.execute key digest now perform host).2.1.entries) (hkey : entry.key ≠ key) :
    entry ∈ cache.entries := by
  cases hlive : cache.live now key with
  | none =>
    rw [execute_of_live_none hlive] at h
    rcases mem_store h with hold | ⟨-, rfl⟩
    · exact (mem_prune hold).1
    · exact absurd rfl hkey
  | some found =>
    rw [execute_of_live_some hlive] at h
    exact (mem_prune h).1

theorem find_execute_of_ne (h : cache.find key = none) (hother : other ≠ key) :
    (cache.execute other digest now perform host).2.1.find key = none := by
  rw [find_eq_none_iff] at h ⊢
  intro entry hentry hkey
  exact h entry (mem_execute hentry (by rw [hkey]; exact fun heq => hother heq.symm)) hkey

end ResponseCache

end Stackfort
