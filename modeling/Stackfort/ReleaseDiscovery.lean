import Stackfort.CoreTime
import Stackfort.ReleaseVersions

/-! From the releases that are published to the one that is staged. The discovery picks the newest release
of a channel whose assets are complete; the stager, given its version, fetches the release again and
checks the assets by a list of names of its own. The two lists differ where the version of a native
package has a separator: the discovery looks for `~`, the stager for `.`. -/

namespace Stackfort

open List

inductive UpdateChannel where
  | stable
  | beta
  deriving DecidableEq

structure UpdateRelease where
  (version tag url : String)
  publishedAt : Time
  (prerelease immutable : Bool)
  deriving DecidableEq

/-! ### Texts -/

/-- The pattern `[0-9a-f]{64}`. -/
def isSHA256Text (digest : List Char) : Bool :=
  decide (digest.length = 64) && digest.all fun c => ('0' ≤ c && c ≤ '9') || ('a' ≤ c && c ≤ 'f')

/-- The pattern `sha256:[0-9a-f]{64}`. -/
def isSHA256Digest (digest : String) : Bool :=
  decide (digest.toList.take 7 = "sha256:".toList) && isSHA256Text (digest.toList.drop 7)

def upperHexDigit (value : Nat) : Char :=
  if value < 10 then Char.ofNat (48 + value) else Char.ofNat (55 + value)

/-- One byte of `url.PathEscape`. -/
def escapePathByte (byte : UInt8) : List Char :=
  let c := Char.ofNat byte.toNat
  if c.isAlphanum || "-_.~$&+:=@".toList.contains c then [c]
  else ['%', upperHexDigit (byte.toNat / 16), upperHexDigit (byte.toNat % 16)]

def pathEscape (segment : String) : String := String.ofList (segment.toUTF8.toList.flatMap escapePathByte)

/-- The version of a native package: the first separator is replaced. -/
def packageVersion (separator : Char) (version : String) : String :=
  let before := version.toList.takeWhile (· ≠ '-')
  let after := version.toList.dropWhile (· ≠ '-')
  String.ofList (before ++ match after with | [] => [] | _ :: rest => separator :: rest)

/-- The assets of a release, given the version its packages carry. -/
def releaseAssetNames (version packageVersion : String) : List String :=
  let deb := "stackfort-release_" ++ packageVersion ++ "-1_amd64.deb"
  let rpm := "stackfort-release-" ++ packageVersion ++ "-1.sf1.x86_64.rpm"
  ["SHA256SUMS", "stackfort-" ++ version ++ "-linux-amd64.tar.gz",
    "stackfort-installer-" ++ version ++ "-linux-amd64", "stackfort-" ++ version ++ ".spdx.json",
    deb, deb ++ ".release.json", rpm, rpm ++ ".release.json"]

/-! ### Discovery -/

namespace UpdateCheck

structure GithubAsset where
  (name state : String)
  size : Int
  digest : String

structure GithubRelease where
  tagName : String
  (draft prerelease immutable : Bool)
  publishedAt : Option Time
  assets : List GithubAsset

/-- The names `completeReleaseAssets` asks for. -/
def requiredAssetNames (version : String) : List String := releaseAssetNames version (packageVersion '~' version)

def GithubAsset.usable (asset : GithubAsset) : Bool :=
  decide (asset.state = "uploaded" ∧ 0 < asset.size) && isSHA256Digest asset.digest

def completeReleaseAssets (version : String) (assets : List GithubAsset) : Bool :=
  decide (assets.map GithubAsset.name).Nodup &&
    (requiredAssetNames version).all fun name => assets.any fun asset => decide (asset.name = name) && asset.usable

/-- A release that may be picked, with its version. -/
def releaseCandidate (channel : UpdateChannel) (release : GithubRelease) : Option (SemanticVersion × String) :=
  match parseReleaseVersion release.tagName with
  | none => none
  | some (parsed, version) =>
    if release.draft || !release.immutable || release.publishedAt.all (fun time => decide (time = 0)) then none
    else if parsed.prerelease ≠ release.prerelease then none
    else if channel = .stable ∧ parsed.prerelease then none
    else if !completeReleaseAssets version release.assets then none
    else some (parsed, version)

def releaseRecord (release : GithubRelease) (version : String) : UpdateRelease :=
  ⟨version, release.tagName, "https://github.com/RTBGG/Stackfort/releases/tag/" ++ pathEscape release.tagName,
    release.publishedAt.getD 0, release.prerelease, true⟩

/-- One turn of the loop of `selectRelease`. -/
def selectStep (channel : UpdateChannel) (selected : Option (UpdateRelease × SemanticVersion))
    (release : GithubRelease) : Option (UpdateRelease × SemanticVersion) :=
  match releaseCandidate channel release with
  | none => selected
  | some (parsed, version) =>
    match selected with
    | some (record, selectedVersion) =>
      if compareVersions parsed selectedVersion ≤ 0 then some (record, selectedVersion)
      else some (releaseRecord release version, parsed)
    | none => some (releaseRecord release version, parsed)

def selectRelease (channel : UpdateChannel) (releases : List GithubRelease) : Option UpdateRelease :=
  (releases.foldl (selectStep channel) none).map Prod.fst

end UpdateCheck

/-! ### Staging -/

namespace UpdateApply

structure GithubReleaseAsset where
  (name state : String)
  size : Int
  (digest url : String)
  deriving DecidableEq

def requiredReleaseAssetNames (version : String) : List String :=
  releaseAssetNames version (packageVersion '.' version)

def GithubReleaseAsset.usable (asset : GithubReleaseAsset) : Bool :=
  decide (asset.state = "uploaded" ∧ 0 < asset.size) && isSHA256Digest asset.digest

/-- `strings.TrimSuffix(downloadBase, "/")`. -/
def trimSlash (base : String) : String :=
  if base.toList.getLast? = some '/' then String.ofList base.toList.dropLast else base

def releaseDownloadBase : String := "https://github.com/RTBGG/Stackfort/releases/download"

def expectedURL (downloadBase tag name : String) : String :=
  trimSlash downloadBase ++ "/" ++ tag ++ "/" ++ pathEscape name

/-- The loop over the assets: `seen` are the names met so far, `result` the required assets. -/
def collectReleaseAssets (downloadBase tag : String) (required : List String) :
    List String → List GithubReleaseAsset → List GithubReleaseAsset → Except String (List GithubReleaseAsset)
  | _, result, [] => pure result
  | seen, result, asset :: rest =>
    if seen.contains asset.name then throw "release contains duplicate asset names"
    else if !required.contains asset.name then
      collectReleaseAssets downloadBase tag required (asset.name :: seen) result rest
    else if !asset.usable then
      throw ("required release asset has invalid immutable metadata: " ++ asset.name)
    else if asset.url ≠ expectedURL downloadBase tag asset.name then
      throw ("required release asset URL is not canonical: " ++ asset.name)
    else collectReleaseAssets downloadBase tag required (asset.name :: seen) (result ++ [asset]) rest

/-- The source reports one of the missing assets, in no fixed order. -/
def validateReleaseAssets (downloadBase tag version : String) (assets : List GithubReleaseAsset) :
    Except String (List GithubReleaseAsset) := do
  let required := requiredReleaseAssetNames version
  let result ← collectReleaseAssets downloadBase tag required [] [] assets
  match required.find? fun name => !(result.map GithubReleaseAsset.name).contains name with
  | some name => throw ("release is missing required asset: " ++ name)
  | none => pure result

end UpdateApply

/-! ### The release that is picked -/

variable {parsed : SemanticVersion} {text : String}

variable {release : GithubRelease} {version : String}

namespace UpdateCheck

variable {channel : UpdateChannel} {releases : List GithubRelease}

/-- The newest candidate among the releases, the first one of several. -/
structure Newest (channel : UpdateChannel) (releases : List GithubRelease) (record : UpdateRelease)
    (version : SemanticVersion) : Prop where
  candidate : ∃ release ∈ releases, ∃ text, releaseCandidate channel release = some (version, text) ∧
    record = releaseRecord release text
  maximal : ∀ other ∈ releases, ∀ parsed text, releaseCandidate channel other = some (parsed, text) →
    compareVersions parsed version ≤ 0

theorem releaseCandidate_some (h : releaseCandidate channel release = some (parsed, text)) :
    parseReleaseVersion release.tagName = some (parsed, text) ∧ release.draft = false ∧
      parsed.prerelease = release.prerelease ∧ (channel = .stable → parsed.prerelease = false) ∧
      completeReleaseAssets text release.assets = true := by
  unfold releaseCandidate at h
  split at h
  · cases h
  next parsed' text' hparsed =>
    split_ifs at h with hdraft hkind hchannel hassets
    cases h
    simp only [or_eq_true, not_or, Bool.not_eq_true] at hdraft
    refine ⟨hparsed, hdraft.1.1, not_not.mp hkind, fun hstable => ?_, by simpa using hassets⟩
    by_contra hpre
    exact hchannel ⟨hstable, by simpa using hpre⟩

theorem candidate_numbered (h : releaseCandidate channel release = some (parsed, text)) : parsed.Numbered := by
  obtain ⟨m, -, -, -, -, hnumbered⟩ := parseReleaseVersion_some (releaseCandidate_some h).1
  exact hnumbered

/-- One turn of the loop keeps the newest of the releases so far. -/
theorem selectStep_newest {seen : List GithubRelease} {selected : Option (UpdateRelease × SemanticVersion)}
    (release : GithubRelease) (hnone : selected = none → ∀ other ∈ seen, releaseCandidate channel other = none)
    (hsome : ∀ record version, selected = some (record, version) → Newest channel seen record version) :
    (selectStep channel selected release = none →
      ∀ other ∈ seen ++ [release], releaseCandidate channel other = none) ∧
    ∀ record version, selectStep channel selected release = some (record, version) →
      Newest channel (seen ++ [release]) record version := by
  have hmem : ∀ other, other ∈ seen ++ [release] ↔ other ∈ seen ∨ other = release := by
    intro other
    rw [mem_append, mem_singleton]
  unfold selectStep
  cases hcandidate : releaseCandidate channel release with
  | none =>
    refine ⟨fun hselected other hother => ?_, fun record version hselected => ?_⟩
    · rcases (hmem other).mp hother with hold | rfl
      · exact hnone hselected other hold
      · exact hcandidate
    · obtain ⟨⟨source, hsource, text, hfound, hrecord⟩, hmaximal⟩ := hsome record version hselected
      refine ⟨⟨source, (hmem source).mpr (.inl hsource), text, hfound, hrecord⟩, ?_⟩
      intro other hother parsed otherText hother'
      rcases (hmem other).mp hother with hold | rfl
      · exact hmaximal other hold parsed otherText hother'
      · rw [hcandidate] at hother'
        cases hother'
  | some found =>
    obtain ⟨parsed, text⟩ := found
    -- the new release takes the place when it is first or newer
    have htakes : (∀ other ∈ seen, ∀ otherParsed otherText,
          releaseCandidate channel other = some (otherParsed, otherText) → compareVersions otherParsed parsed ≤ 0) →
        Newest channel (seen ++ [release]) (releaseRecord release text) parsed := by
      intro hnewer
      refine ⟨⟨release, (hmem release).mpr (.inr rfl), text, hcandidate, rfl⟩, ?_⟩
      intro other hother otherParsed otherText hfound
      rcases (hmem other).mp hother with hold | rfl
      · exact hnewer other hold otherParsed otherText hfound
      · rw [hcandidate, some.injEq, Prod.mk.injEq] at hfound
        have hnumbered := candidate_numbered hcandidate
        rw [← hfound.1, compareVersions_eq hnumbered hnumbered, orderSign_eq_zero_iff.mpr rfl]
    cases hselected : selected with
    | none =>
      refine ⟨nofun, fun record version h => ?_⟩
      cases h
      apply htakes
      intro other hother otherParsed otherText hfound
      rw [hnone hselected other hother] at hfound
      cases hfound
    | some current =>
      obtain ⟨record, version⟩ := current
      have hnewest := hsome record version hselected
      obtain ⟨⟨source, hsource, sourceText, hsourceFound, hrecord⟩, hmaximal⟩ := hnewest
      dsimp only
      split_ifs with holder
      · refine ⟨nofun, fun record' version' h => ?_⟩
        cases h
        refine ⟨⟨source, (hmem source).mpr (.inl hsource), sourceText, hsourceFound, hrecord⟩, ?_⟩
        intro other hother otherParsed otherText hfound
        rcases (hmem other).mp hother with hold | rfl
        · exact hmaximal other hold otherParsed otherText hfound
        · rw [hcandidate, some.injEq, Prod.mk.injEq] at hfound
          rw [← hfound.1]
          exact holder
      · refine ⟨nofun, fun record' version' h => ?_⟩
        cases h
        apply htakes
        intro other hother otherParsed otherText hfound
        have hle := hmaximal other hother otherParsed otherText hfound
        have hnumbered := candidate_numbered hcandidate
        rw [compareVersions_eq (candidate_numbered hfound) (candidate_numbered hsourceFound)] at hle
        rw [compareVersions_eq hnumbered (candidate_numbered hsourceFound)] at holder
        rw [compareVersions_eq (candidate_numbered hfound) hnumbered]
        rw [orderSign_nonpos_iff] at hle holder ⊢
        exact hle.trans (not_le.mp holder).le

/-- The loop picks the newest candidate, and picks none only if there is none. -/
theorem selectRelease_newest {selected : UpdateRelease} (h : selectRelease channel releases = some selected) :
    ∃ version, Newest channel releases selected version := by
  have hloop : ∀ (rest seen : List GithubRelease) (selected : Option (UpdateRelease × SemanticVersion)),
      (selected = none → ∀ other ∈ seen, releaseCandidate channel other = none) →
      (∀ record version, selected = some (record, version) → Newest channel seen record version) →
      ∀ record version, rest.foldl (selectStep channel) selected = some (record, version) →
        Newest channel (seen ++ rest) record version := by
    intro rest
    induction rest with
    | nil =>
      intro seen selected _ hsome record version hfold
      rw [append_nil]
      exact hsome record version hfold
    | cons release rest ih =>
      intro seen selected hnone hsome record version hfold
      obtain ⟨hnone', hsome'⟩ := selectStep_newest release hnone hsome
      have hend := ih (seen ++ [release]) _ hnone' hsome' record version hfold
      rwa [append_assoc, singleton_append] at hend
  obtain ⟨⟨record, version⟩, hfold, rfl⟩ := Option.map_eq_some_iff.mp h
  refine ⟨version, ?_⟩
  have hend := hloop releases [] none (fun _ => by simp) nofun record version hfold
  rwa [nil_append] at hend

end UpdateCheck

/-! ### The names of the assets -/

theorem packageVersion_eq_self (separator : Char) (h : '-' ∉ version.toList) :
    packageVersion separator version = version := by
  have hall : ∀ c ∈ version.toList, decide (c ≠ '-') = true := by
    intro c hc
    rw [decide_eq_true_eq]
    rintro rfl
    exact h hc
  unfold packageVersion
  rw [List.dropWhile_eq_nil_iff.mpr hall, List.takeWhile_eq_self_iff.mpr hall]
  simp

theorem packageVersion_separator {left right : Char} (hdash : '-' ∈ version.toList)
    (h : packageVersion left version = packageVersion right version) : left = right := by
  unfold packageVersion at h
  have hafter : version.toList.dropWhile (· ≠ '-') ≠ [] := by
    intro hnil
    have hdiffers := List.dropWhile_eq_nil_iff.mp hnil _ hdash
    simp at hdiffers
  obtain ⟨first, rest, hcons⟩ := exists_cons_of_ne_nil hafter
  rw [hcons] at h
  have hlists := append_cancel_left (String.ofList_injective h)
  exact (List.cons.inj hlists).1

/-- The package the stager asks for is not among the assets of the other separator. -/
theorem deb_not_mem_releaseAssetNames (hdash : '-' ∈ version.toList) :
    "stackfort-release_" ++ packageVersion '.' version ++ "-1_amd64.deb" ∉ UpdateCheck.requiredAssetNames version := by
  have hlast : ∀ text suffix : String, ∀ c, suffix.toList.getLast? = some c →
      (text ++ suffix).toList.getLast? = some c := by
    intro text suffix c hc
    rw [String.toList_append, List.getLast?_append, hc]
    rfl
  intro hmem
  have hdeb := hlast ("stackfort-release_" ++ packageVersion '.' version) "-1_amd64.deb" 'b' (by decide)
  -- only the package itself ends in the same letter
  unfold UpdateCheck.requiredAssetNames releaseAssetNames at hmem
  simp only [mem_cons, not_mem_nil, or_false] at hmem
  rcases hmem with h | h | h | h | h | h | h | h
  · rw [h] at hdeb
    exact absurd hdeb (by decide)
  · rw [h, hlast _ _ 'z' (by decide)] at hdeb
    exact absurd hdeb (by decide)
  · rw [h, hlast _ _ '4' (by decide)] at hdeb
    exact absurd hdeb (by decide)
  · rw [h, hlast _ _ 'n' (by decide)] at hdeb
    exact absurd hdeb (by decide)
  · have hlists := congrArg String.toList h
    simp only [String.toList_append] at hlists
    have hversions := append_cancel_left (append_cancel_right hlists)
    have hseparator := packageVersion_separator hdash (String.toList_injective hversions)
    exact absurd hseparator (by decide)
  · rw [h, hlast _ _ 'n' (by decide)] at hdeb
    exact absurd hdeb (by decide)
  · rw [h, hlast _ _ 'm' (by decide)] at hdeb
    exact absurd hdeb (by decide)
  · rw [h, hlast _ _ 'n' (by decide)] at hdeb
    exact absurd hdeb (by decide)

/-! ### What the stager accepts -/

namespace UpdateApply

variable {downloadBase tag version : String} {required : List String}

/-- The metadata the stager wants of a required asset. -/
structure GithubReleaseAsset.Canonical (downloadBase tag : String) (asset : GithubReleaseAsset) : Prop where
  usable : asset.usable = true
  url : asset.url = expectedURL downloadBase tag asset.name

theorem collectReleaseAssets_of (rest : List GithubReleaseAsset) :
    ∀ (seen : List String) (result : List GithubReleaseAsset), (rest.map GithubReleaseAsset.name).Nodup →
      (∀ asset ∈ rest, asset.name ∉ seen) →
      (∀ asset ∈ rest, asset.name ∈ required → asset.Canonical downloadBase tag) →
      collectReleaseAssets downloadBase tag required seen result rest =
        .ok (result ++ rest.filter fun asset => required.contains asset.name) := by
  induction rest with
  | nil =>
    intro seen result _ _ _
    rw [filter_nil, append_nil]
    rfl
  | cons asset rest ih =>
    intro seen result hnodup hseen hcanonical
    rw [map_cons, nodup_cons] at hnodup
    have hfresh : seen.contains asset.name = false := by
      rw [List.contains_eq_mem, decide_eq_false_iff_not]
      exact hseen asset mem_cons_self
    have hseen' : ∀ other ∈ rest, other.name ∉ asset.name :: seen := by
      intro other hother hmem
      rcases mem_cons.mp hmem with heq | hold
      · exact hnodup.1 (heq ▸ mem_map_of_mem hother)
      · exact hseen other (mem_cons_of_mem _ hother) hold
    have hcanonical' := fun other hother => hcanonical other (mem_cons_of_mem _ hother)
    unfold collectReleaseAssets
    rw [hfresh, if_neg Bool.false_ne_true]
    cases hwanted : required.contains asset.name with
    | false =>
      rw [filter_cons_of_neg (by rw [hwanted]; exact Bool.false_ne_true)]
      exact ih (asset.name :: seen) result hnodup.2 hseen' hcanonical'
    | true =>
      have hmem : asset.name ∈ required := by rwa [List.contains_eq_mem, decide_eq_true_eq] at hwanted
      obtain ⟨husable, hurl⟩ := hcanonical asset mem_cons_self hmem
      rw [filter_cons_of_pos (by exact hwanted), husable]
      rw [if_neg (by decide), if_neg (by decide), if_neg (not_not.mpr hurl)]
      rw [ih (asset.name :: seen) (result ++ [asset]) hnodup.2 hseen' hcanonical', append_assoc, singleton_append]

theorem collectReleaseAssets_names (rest : List GithubReleaseAsset) :
    ∀ (seen : List String) (result found : List GithubReleaseAsset),
      collectReleaseAssets downloadBase tag required seen result rest = .ok found →
      ∀ asset ∈ found, asset ∈ result ∨ asset ∈ rest := by
  induction rest with
  | nil =>
    intro seen result found h asset hasset
    cases h
    exact .inl hasset
  | cons first rest ih =>
    intro seen result found h asset hasset
    unfold collectReleaseAssets at h
    split_ifs at h with hseen hwanted husable hurl
    · rcases ih _ _ _ h asset hasset with hold | hnew
      · exact .inl hold
      · exact .inr (mem_cons_of_mem _ hnew)
    · rcases ih _ _ _ h asset hasset with hold | hnew
      · rcases mem_append.mp hold with hold | hfirst
        · exact .inl hold
        · exact .inr (mem_singleton.mp hfirst ▸ mem_cons_self)
      · exact .inr (mem_cons_of_mem _ hnew)

theorem mem_of_validateReleaseAssets {assets staged : List GithubReleaseAsset}
    (h : validateReleaseAssets downloadBase tag version assets = .ok staged) {name : String}
    (hname : name ∈ requiredReleaseAssetNames version) : name ∈ assets.map GithubReleaseAsset.name := by
  unfold validateReleaseAssets at h
  obtain ⟨found, hfound, h⟩ := bind_eq_ok_iff.mp h
  split at h
  · cases h
  next hnone =>
    have hpresent := List.find?_eq_none.mp hnone name hname
    have hmem : name ∈ found.map GithubReleaseAsset.name := by simpa using hpresent
    obtain ⟨asset, hasset, rfl⟩ := mem_map.mp hmem
    rcases collectReleaseAssets_names assets [] [] found hfound asset hasset with hempty | hasset
    · cases hempty
    · exact mem_map_of_mem hasset

theorem validateReleaseAssets_of {assets : List GithubReleaseAsset}
    (hnodup : (assets.map GithubReleaseAsset.name).Nodup) (hpresent : ∀ name ∈ requiredReleaseAssetNames version,
      ∃ asset ∈ assets, asset.name = name ∧ asset.Canonical downloadBase tag) :
    ∃ staged, validateReleaseAssets downloadBase tag version assets = .ok staged := by
  have hcanonical : ∀ asset ∈ assets, asset.name ∈ requiredReleaseAssetNames version →
      asset.Canonical downloadBase tag := by
    intro asset hasset hname
    obtain ⟨other, hother, heq, hcanonical⟩ := hpresent asset.name hname
    rwa [inj_on_of_nodup_map hnodup hother hasset heq] at hcanonical
  unfold validateReleaseAssets
  dsimp only
  rw [collectReleaseAssets_of assets [] [] hnodup nofun hcanonical, ok_bind, List.find?_eq_none.mpr]
  · exact ⟨_, rfl⟩
  · intro name hname
    obtain ⟨asset, hasset, rfl, -⟩ := hpresent name hname
    simp only [nil_append, Bool.not_eq_true', Bool.not_eq_false, List.contains_eq_mem, decide_eq_true_eq]
    exact mem_map_of_mem (mem_filter.mpr ⟨hasset, by simpa using hname⟩)

end UpdateApply

/-! ### From the discovery to the stager -/

/-- The stager takes every asset list that has, with canonical metadata, what the discovery asks for. -/
def UpdateRelease.Stageable (downloadBase : String) (release : UpdateRelease) : Prop :=
  ∀ assets : List UpdateApply.GithubReleaseAsset, (assets.map UpdateApply.GithubReleaseAsset.name).Nodup →
    (∀ name ∈ UpdateCheck.requiredAssetNames release.version,
      ∃ asset ∈ assets, asset.name = name ∧ asset.Canonical downloadBase release.tag) →
    ∃ staged, UpdateApply.validateReleaseAssets downloadBase release.tag release.version assets = .ok staged

theorem VersionMatch.dash_mem_text_iff {m : VersionMatch} (h : m.Canonical) : '-' ∈ m.text ↔ m.beta ≠ [] := by
  have hdigits : ∀ digits : List Char, isCanonicalNumber digits = true → '-' ∉ digits := by
    intro digits hcanonical hmem
    unfold isCanonicalNumber at hcanonical
    rw [and_eq_true, all_eq_true] at hcanonical
    exact absurd (hcanonical.1 _ hmem) (by decide)
  have hmajor := hdigits _ h.major
  have hminor := hdigits _ h.minor
  have hpatch := hdigits _ h.patch
  unfold VersionMatch.text
  by_cases hbeta : m.beta = []
  · simp [hbeta, hmajor, hminor, hpatch]
  · simp [hbeta]

/-- The separator of the version tells the kind of a candidate. -/
theorem UpdateCheck.dash_mem_iff_prerelease {channel : UpdateChannel}
    (h : releaseCandidate channel release = some (parsed, text)) :
    '-' ∈ text.toList ↔ release.prerelease = true := by
  obtain ⟨hparsed, -, hkind, -⟩ := releaseCandidate_some h
  obtain ⟨m, hmatch, -, -, hbeta, -⟩ := parseReleaseVersion_some hparsed
  obtain ⟨htext, hcanonical⟩ := matchVersion_some hmatch
  rw [← htext, m.dash_mem_text_iff hcanonical, ← hbeta, hkind]

def sampleDigest : String := "sha256:" ++ String.ofList (List.replicate 64 'a')

theorem sampleDigest_usable : (decide ("uploaded" = "uploaded" ∧ (0 : Int) < 1) && isSHA256Digest sampleDigest) = true := by
  decide +kernel

/-- A list of assets with given names and the metadata the stager wants. -/
def canonicalAssets (downloadBase tag : String) (names : List String) : List UpdateApply.GithubReleaseAsset :=
  names.map fun name => ⟨name, "uploaded", 1, sampleDigest, UpdateApply.expectedURL downloadBase tag name⟩

theorem canonicalAssets_names (downloadBase tag : String) (names : List String) :
    (canonicalAssets downloadBase tag names).map UpdateApply.GithubReleaseAsset.name = names := by
  unfold canonicalAssets
  rw [map_map]
  exact map_id names

theorem stageable_iff {downloadBase : String} {release : UpdateRelease} :
    release.Stageable downloadBase ↔ '-' ∉ release.version.toList := by
  constructor
  · intro hstage hdash
    let names := (UpdateCheck.requiredAssetNames release.version).dedup
    have hnames := canonicalAssets_names downloadBase release.tag names
    obtain ⟨staged, hstaged⟩ := hstage (canonicalAssets downloadBase release.tag names)
      (by rw [hnames]; exact nodup_dedup _) (by
        intro name hname
        refine ⟨_, mem_map_of_mem (List.mem_dedup.mpr hname), rfl, ?_, rfl⟩
        exact sampleDigest_usable)
    have hdeb := UpdateApply.mem_of_validateReleaseAssets hstaged
      (show "stackfort-release_" ++ packageVersion '.' release.version ++ "-1_amd64.deb" ∈ _ by
        simp [UpdateApply.requiredReleaseAssetNames, releaseAssetNames])
    rw [hnames] at hdeb
    exact deb_not_mem_releaseAssetNames hdash (List.mem_dedup.mp hdeb)
  · intro hdash assets hnodup hpresent
    apply UpdateApply.validateReleaseAssets_of hnodup
    intro name hname
    apply hpresent name
    unfold UpdateApply.requiredReleaseAssetNames at hname
    unfold UpdateCheck.requiredAssetNames
    rwa [packageVersion_eq_self _ hdash] at hname ⊢

/-- The texts both parsers read. -/
def AcceptedVersion : Type := {text : String // ∃ applied checked, VersionAccepted text applied checked}

/-- The order of the stager. -/
def AcceptedVersion.appliedBefore (left right : AcceptedVersion) : Prop :=
  ∃ sign, UpdateApply.compareVersions left.1 right.1 = .ok sign ∧ sign < 0

/-- The order of the discovery. -/
def AcceptedVersion.checkedBefore (left right : AcceptedVersion) : Prop :=
  ∃ checked checked', UpdateCheck.parseInstalledVersion left.1 = some checked ∧
    UpdateCheck.parseInstalledVersion right.1 = some checked' ∧ UpdateCheck.compareVersions checked checked' < 0

theorem AcceptedVersion.exists_key : ∃ key : AcceptedVersion → VersionKey, Function.Injective key ∧
    (∀ left right, key left < key right ↔ appliedBefore left right) ∧
    ∀ left right, key left < key right ↔ checkedBefore left right := by
  choose applied checked haccepted using fun text : AcceptedVersion => text.2
  refine ⟨fun text => (checked text).key, ?_, ?_, ?_⟩
  · intro left right heq
    exact Subtype.ext (((haccepted left).text_eq_iff (haccepted right)).mp heq)
  · intro left right
    unfold appliedBefore
    rw [((haccepted left).compare (haccepted right)).1]
    simp [orderSign_neg_iff]
  · intro left right
    unfold checkedBefore
    rw [(haccepted left).checked, (haccepted right).checked]
    simp [((haccepted left).compare (haccepted right)).2, orderSign_neg_iff]

/-- A beta release, complete as the discovery sees it. -/
def betaRelease : UpdateCheck.GithubRelease :=
  ⟨"v1.0.0-beta.1", false, true, true, some 1, (UpdateCheck.requiredAssetNames "1.0.0-beta.1").map fun name =>
    ⟨name, "uploaded", 1, sampleDigest⟩⟩

end Stackfort
