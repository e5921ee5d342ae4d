import Stackfort.AccountProvisioning

/-! The numbers of accounts. The number of a new account is one more than the largest that was ever stored, and the
rows of deleted accounts stay, so no number is given out twice. From its number the runtime of an account gets a
range of subordinate identifiers, which the host looks for in a file that may hold the ranges of others. -/

namespace Stackfort.Hosting

open List

/-- An interval of 32-bit identifiers that is not empty. -/
structure IDRange where
  (start count : Nat)
  positive : 0 < count
  fits : start + count ≤ 2 ^ 32

def IDRange.last (range : IDRange) : Nat := range.start + range.count - 1

/-- The test of `inspectSubordinateRange`. -/
def IDRange.overlaps (range want : IDRange) : Bool := decide (range.start ≤ want.last ∧ want.start ≤ range.last)

/-! ### Derived ranges -/

def subordinateIDBase : Nat := 1000000

def subordinateIDCount : Nat := 65536

def maximumRuntimeUID : Nat := maximumID

/-- `hostingoci.Spec`. The starts are 32-bit numbers. -/
structure RuntimeSpec where
  identity : IdentitySpec
  (subUIDStart subGIDStart subordinateIDs : Nat)
  (storageRoot runtimeRoot quadletRoot : String)
  deriving DecidableEq

def forIdentityUnchecked (identity : IdentitySpec) : Option RuntimeSpec :=
  if validateIdentity identity ≠ .ok () ∨ maximumRuntimeUID < identity.uid then none
  else
    let start := subordinateIDBase + (identity.uid - minimumID) * subordinateIDCount
    if 2 ^ 32 - 1 < start + subordinateIDCount - 1 then none
    else some ⟨identity, start % 2 ^ 32, start % 2 ^ 32, subordinateIDCount,
      identity.homeDirectory ++ "/.local/share/containers", "/run/user/" ++ toString identity.uid,
      "/etc/containers/systemd/users/" ++ toString identity.uid⟩

/-- The derived values are checked once more before they are returned. -/
def forIdentity (identity : IdentitySpec) : Option RuntimeSpec := do
  let spec ← forIdentityUnchecked identity
  if forIdentityUnchecked spec.identity = some spec then pure spec else none

/-- The names are those of the account, and the numbers are one number of the range. -/
structure IdentitySpec.Derived (spec : IdentitySpec) (accountID : ID) : Prop where
  username : usernameForAccount accountID = .ok spec.username
  home : homeDirectoryForAccount accountID = .ok spec.homeDirectory
  uid : minimumID ≤ spec.uid ∧ spec.uid ≤ maximumID
  gid : spec.gid = spec.uid

/-- The range has its fixed length, ends within 32 bits and begins above every number of an account. -/
structure RuntimeSpec.Ranged (spec : RuntimeSpec) : Prop where
  same : spec.subGIDStart = spec.subUIDStart
  length : spec.subordinateIDs = subordinateIDCount
  fits : spec.subUIDStart + spec.subordinateIDs ≤ 2 ^ 32
  above : maximumID < spec.subUIDStart

def RuntimeSpec.Apart (left right : RuntimeSpec) : Prop :=
  left.subUIDStart + left.subordinateIDs ≤ right.subUIDStart ∨ right.subUIDStart + right.subordinateIDs ≤ left.subUIDStart

theorem forIdentity_eq {identity : IdentitySpec} (h : validateIdentity identity = .ok ()) :
    ∃ spec, forIdentity identity = some spec ∧ spec.Ranged ∧
      spec.subUIDStart = subordinateIDBase + (identity.uid - minimumID) * subordinateIDCount := by
  obtain ⟨-, -, -, hlow, hhigh, -⟩ := validateIdentity_eq_ok h
  have hfits : subordinateIDBase + (identity.uid - minimumID) * subordinateIDCount + subordinateIDCount ≤ 2 ^ 32 := by
    simp only [minimumID, maximumID, subordinateIDBase, subordinateIDCount] at *
    omega
  have hpos : 0 < subordinateIDCount := by decide
  have hunchecked : ∃ spec, forIdentityUnchecked identity = some spec ∧ spec.identity = identity ∧
      spec.subGIDStart = spec.subUIDStart ∧ spec.subordinateIDs = subordinateIDCount ∧
      spec.subUIDStart = subordinateIDBase + (identity.uid - minimumID) * subordinateIDCount := by
    unfold forIdentityUnchecked
    dsimp only
    rw [if_neg (by simp [h, maximumRuntimeUID, hhigh]), if_neg (by omega)]
    exact ⟨_, rfl, rfl, rfl, rfl, Nat.mod_eq_of_lt (by omega)⟩
  obtain ⟨spec, hspec, hidentity, hgid, hcount, hstart⟩ := hunchecked
  refine ⟨spec, by simp [forIdentity, hspec, hidentity], ⟨hgid, hcount, ?_, ?_⟩, hstart⟩
  · rw [hstart, hcount]
    exact hfits
  · have hbase : maximumID < subordinateIDBase := by decide
    omega

/-! ### The file of the host -/

/-- A line of `/etc/subuid` or `/etc/subgid` that was parsed. -/
structure SubordinateID where
  name : String
  range : IDRange

/-- The loop of `inspectSubordinateRange`; an error says that the entries conflict. -/
def inspectSubordinateRange (username : String) (want : IDRange) : List SubordinateID → Bool → Except Unit Bool
  | [], present => .ok present
  | entry :: rest, present =>
    if entry.name = username then
      if entry.range.start ≠ want.start ∨ entry.range.count ≠ want.count ∨ present = true then .error ()
      else inspectSubordinateRange username want rest true
    else if entry.range.overlaps want then .error ()
    else inspectSubordinateRange username want rest present

/-- The entries of a user have given ranges, and no other entry overlaps the range that is looked for. -/
def Listed (username : String) (want : IDRange) (entries : List SubordinateID) (ranges : List (Nat × Nat)) : Prop :=
  ((entries.filter fun entry => entry.name = username).map fun entry => (entry.range.start, entry.range.count)) = ranges ∧
    ∀ entry ∈ entries, entry.name ≠ username → entry.range.overlaps want = false

theorem inspectSubordinateRange_iff (username : String) (want : IDRange) (entries : List SubordinateID) (present : Bool) :
    inspectSubordinateRange username want entries present = .ok true ↔
      Listed username want entries (if present then [] else [(want.start, want.count)]) := by
  unfold Listed
  induction entries generalizing present with
  | nil => cases present <;> simp [inspectSubordinateRange]
  | cons entry rest ih =>
    unfold inspectSubordinateRange
    by_cases hname : entry.name = username
    · cases present with
      | true => simp [hname]
      | false =>
        by_cases hsame : entry.range.start = want.start ∧ entry.range.count = want.count
        · simp [hname, hsame, ih]
        · rw [if_pos hname, if_pos (by tauto)]
          simp only [hname, filter_cons]
          simp
          tauto
    · cases hoverlaps : entry.range.overlaps want with
      | true => simp [hname, hoverlaps]
      | false => simp [hname, hoverlaps, ih]

/-! ### Runs -/

open HostingStore (after)

/-- The numbers that were ever given out. -/
def HostingStore.uids (db : HostingStore) : List Nat := db.accounts.map fun account => account.identity.uid

theorem execute_accounts (db : HostingStore) (call : HostingCall) :
    AccountsStep db.accounts (call.execute db).accounts := by
  rcases Reconciliations.execute_steps db call with hsteps | ⟨hsame, -⟩
  · exact hsteps.accounts
  · rw [hsame]
    exact .same

theorem uids_execute {db : HostingStore} (hnodup : db.uids.Nodup) (call : HostingCall) : (call.execute db).uids.Nodup := by
  have hstep := execute_accounts db call
  unfold HostingStore.uids at hnodup ⊢
  generalize (call.execute db).accounts = accounts at hstep ⊢
  cases hstep with
  | same => exact hnodup
  | updated h => exact nodup_keys_updateWhere hnodup fun row => congrArg IdentitySpec.uid (h row).identity
  | added _ huid => exact nodup_keys_append hnodup fun other hother => (huid other hother).ne

theorem uids_after (calls : List HostingCall) : (after calls).uids.Nodup := by
  induction calls using List.reverseRecOn with
  | nil => exact nodup_nil
  | append_singleton calls call ih =>
    rw [HostingStore.after, HostingStore.run, foldl_append]
    exact uids_execute ih call

/-- An account stays, deleted or not, with its identity. -/
theorem run_identity {db : HostingStore} {old : Account} (hold : old ∈ db.accounts) (calls : List HostingCall) :
    ∃ new ∈ (db.run calls).accounts, new.id = old.id ∧ new.identity = old.identity := by
  induction calls generalizing db old with
  | nil => exact ⟨old, hold, rfl, rfl⟩
  | cons call rest ih =>
    obtain ⟨mid, hmid, hevolves⟩ := (execute_accounts db call).evolve.kept old hold
    obtain ⟨new, hnew, hid, hidentity⟩ := ih hmid
    exact ⟨new, hnew, hid.trans hevolves.id, hidentity.trans hevolves.identity⟩

/-- **Numbers of accounts.** After any calls the numbers are distinct and in their range, names are derived from the
accounts, and an account keeps its number against all later ones. The ranges of two numbers are apart, and the host
finds a range exactly if the user has it alone and no other entry overlaps it. -/
theorem numbers_never_overlap (calls more : List HostingCall)
    (left right : { spec : IdentitySpec // validateIdentity spec = .ok () }) (username : String) (want : IDRange)
    (entries : List SubordinateID) :
    (after calls).uids.Nodup ∧ (∀ account ∈ (after calls).accounts, account.identity.Derived account.id) ∧
    (∀ old ∈ (after calls).accounts, ∃ new ∈ (after (calls ++ more)).accounts,
      (new.id = old.id ∧ new.identity = old.identity) ∧
      ∀ other ∈ (after (calls ++ more)).accounts, other.identity.uid = old.identity.uid → other = new) ∧
    (∃ leftSpec rightSpec, forIdentity left.val = some leftSpec ∧ forIdentity right.val = some rightSpec ∧
      leftSpec.Ranged ∧ (left.val.uid ≠ right.val.uid → leftSpec.Apart rightSpec)) ∧
    (inspectSubordinateRange username want entries false = .ok true ↔
      Listed username want entries [(want.start, want.count)]) := by
  refine ⟨uids_after calls, fun account _ => ?_, fun old hold => ?_, ?_, inspectSubordinateRange_iff _ _ _ _⟩
  · rw [← account.identityOwn]
    obtain ⟨-, husername, hhome, hlow, hhigh, hgid⟩ := validateIdentity_eq_ok account.identityValid
    exact ⟨husername, hhome, ⟨hlow, hhigh⟩, hgid⟩
  · have hlater : after (calls ++ more) = (after calls).run more := foldl_append
    obtain ⟨new, hnew, hsame⟩ := run_identity hold more
    rw [← hlater] at hnew
    refine ⟨new, hnew, hsame, fun other hother huid => ?_⟩
    exact inj_on_of_nodup_map (uids_after (calls ++ more)) hother hnew (by rw [huid, hsame.2])
  · obtain ⟨leftSpec, hleft, hranged, hstart⟩ := forIdentity_eq left.property
    obtain ⟨rightSpec, hright, hranged', hstart'⟩ := forIdentity_eq right.property
    obtain ⟨-, -, -, hlow, -⟩ := validateIdentity_eq_ok left.property
    obtain ⟨-, -, -, hlow', -⟩ := validateIdentity_eq_ok right.property
    refine ⟨leftSpec, rightSpec, hleft, hright, hranged, fun hne => ?_⟩
    unfold RuntimeSpec.Apart
    rw [hranged.length, hranged'.length, hstart, hstart']
    simp only [subordinateIDCount, subordinateIDBase, minimumID] at *
    omega

end Stackfort.Hosting
