import Stackfort.NginxPreparation
import Stackfort.TextBounds

/-! The Quadlet file of an OCI application. A specification is accepted if it is its own normal form, so its secret
references and its volumes are sorted. The file names the image, the ports, the secrets and the volumes; nothing of
the revision, of the digest of the resources and of the health check is written. -/

namespace Stackfort.OCIDeployment

open List

open Nginx (Identity cleanPath joinPath withoutDashes)

inductive HealthKind where
  | http | tcp
  deriving DecidableEq

structure HealthCheck where
  kind : Choice HealthKind
  path : String
  (intervalSeconds timeoutSeconds retries : Int)
  deriving DecidableEq

structure EnvironmentReference where
  (valueID environment : String)
  generation : Int
  deriving DecidableEq

structure VolumeMount where
  (volumeID containerPath : String)
  readOnly : Bool
  deriving DecidableEq

structure Spec where
  identity : Identity
  applicationID : String
  revision : Int
  (imageDigest resourceDigest : String)
  (internalPort loopbackPort : Int)
  health : HealthCheck
  environmentReferences : List EnvironmentReference
  volumes : List VolumeMount
  deriving DecidableEq

/-- The pattern `^sha256:[0-9a-f]{64}$`. -/
def validDigest (value : String) : Bool :=
  "sha256:".toList.isPrefixOf value.toList && value.toList.length == 71 && (value.toList.drop 7).all isLowerHexDigit

def isNormalPath (value : String) : Bool :=
  value.toList.head? == some '/' && !decide (['/', '/'] <:+: value.toList) && cleanPath value == value

/-- A bounded normal path of letters, digits, dots, underscores, tildes and dashes. -/
def validHealthPath (value : String) : Bool :=
  value.utf8ByteSize ≤ 200 && isNormalPath value && value.toList.all fun c => c.isAlphanum || "._~/-".toList.contains c

def validateHealthCheck (health : HealthCheck) : Bool :=
  [10, 30, 60].contains health.intervalSeconds &&
    decide (1 ≤ health.timeoutSeconds ∧ health.timeoutSeconds ≤ 10 ∧ health.timeoutSeconds < health.intervalSeconds ∧
      1 ≤ health.retries ∧ health.retries ≤ 10) &&
    match health.kind with
    | .known .http => validHealthPath health.path
    | .known .tcp => health.path == ""
    | _ => false

/-- The pattern `^[A-Z_][A-Z0-9_]{0,63}$`. -/
def validEnvironmentName (value : String) : Bool :=
  value.toList.length ≤ 64 && value.toList.head?.any (fun c => c.isUpper || c == '_') &&
    value.toList.all fun c => c.isUpper || c.isDigit || c == '_'

def validateContainerPath (value : String) : Bool :=
  2 ≤ value.utf8ByteSize && value.utf8ByteSize ≤ 255 && trimSpace value == value &&
    !(value.toList.any fun c => ['\\', '\x00', '\r', '\n', '\t'].contains c) && isNormalPath value &&
    !(["/proc", "/sys", "/dev", "/run", "/boot"].any fun reserved =>
      value == reserved || (reserved ++ "/").toList.isPrefixOf value.toList)

def validSecretReferences (references : List EnvironmentReference) : Bool :=
  references.length ≤ 32 &&
    (references.all fun reference => isCanonicalUUIDv7 reference.valueID && validEnvironmentName reference.environment &&
      decide (1 ≤ reference.generation ∧ reference.generation ≤ 1000000000)) &&
    decide ((references.map EnvironmentReference.valueID).Nodup ∧
      (references.map EnvironmentReference.environment).Pairwise (· < ·))

def validVolumeMounts (mounts : List VolumeMount) : Bool :=
  mounts.length ≤ 16 &&
    (mounts.all fun mount => isCanonicalUUIDv7 mount.volumeID && validateContainerPath mount.containerPath) &&
    decide ((mounts.map VolumeMount.volumeID).Nodup ∧ (mounts.map VolumeMount.containerPath).Pairwise (· < ·))

/-- `Validate`: the specification passes the checks of `Normalize` and is sorted as that leaves it. -/
def Spec.valid (spec : Spec) : Bool :=
  spec.identity.valid && isCanonicalUUIDv7 spec.applicationID &&
    decide (1 ≤ spec.revision ∧ spec.revision ≤ 1000000000) && validDigest spec.imageDigest &&
    validDigest spec.resourceDigest && decide (1 ≤ spec.internalPort ∧ spec.internalPort ≤ 65535 ∧
      20000 ≤ spec.loopbackPort ∧ spec.loopbackPort ≤ 29999) && validateHealthCheck spec.health &&
    validVolumeMounts spec.volumes && validSecretReferences spec.environmentReferences

def containerName (applicationID : String) : String := "stackfort-" ++ withoutDashes applicationID

def secretName (reference : EnvironmentReference) : String :=
  "sf-" ++ withoutDashes reference.valueID ++ "-g" ++ toString reference.generation

def volumePath (identity : Identity) (volumeID : String) : String :=
  joinPath [joinPath [identity.homeDirectory, ".stackfort-oci-volumes"], volumeID]

def VolumeMount.mode (mount : VolumeMount) : String := if mount.readOnly then "ro" else "rw"

def volumeValue (identity : Identity) (mount : VolumeMount) : String :=
  volumePath identity mount.volumeID ++ ":" ++ mount.containerPath ++ ":" ++ mount.mode

/-- The content of the file. -/
def renderQuadlet (spec : Spec) : Option String :=
  if spec.valid then
    some ("# Managed by Stackfort. Do not edit.\n[Unit]\nDescription=Stackfort OCI application " ++ spec.applicationID ++
      "\n\n[Container]\nImage=" ++ spec.imageDigest ++ "\nContainerName=" ++ containerName spec.applicationID ++
      "\nPull=never\nNetwork=stackfort-private\nPublishPort=127.0.0.1:" ++ toString spec.loopbackPort ++ ":" ++
      toString spec.internalPort ++ "/tcp\nNoNewPrivileges=true\nDropCapability=all\nReadOnly=true\n" ++
      "ReadOnlyTmpfs=true\nRunInit=true\nPidsLimit=512\nLogDriver=journald\nLabel=io.stackfort.managed=true\n" ++
      "Label=io.stackfort.account=" ++ spec.identity.accountID ++ "\nLabel=io.stackfort.application=" ++
      spec.applicationID ++ "\n" ++
      String.join (spec.environmentReferences.map fun reference =>
        "Secret=" ++ secretName reference ++ ",type=env,target=" ++ reference.environment ++ "\n") ++
      String.join (spec.volumes.map fun mount => "Volume=" ++ volumeValue spec.identity mount ++ "\n") ++
      "\n[Service]\nRestart=on-failure\nRestartSec=5s\nTimeoutStartSec=120s\nTimeoutStopSec=20s\n\n" ++
      "[Install]\nWantedBy=default.target\n")
  else none

/-! ### What the file tells -/

theorem renderQuadlet_revision {spec : Spec} (h : spec.valid = true) {revision : Int}
    (hrevision : 1 ≤ revision ∧ revision ≤ 1000000000) :
    ({ spec with revision := revision } : Spec).valid = true ∧
      renderQuadlet { spec with revision := revision } = renderQuadlet spec := by
  have hvalid : ({ spec with revision := revision } : Spec).valid = true := by
    simp only [Spec.valid, and_eq_true, decide_eq_true_eq] at h ⊢
    simp only [h, hrevision, and_self]
  refine ⟨hvalid, ?_⟩
  simp only [renderQuadlet, hvalid, h, if_true]

/-- Neither a colon nor a percent sign. -/
def Plain (value : String) : Prop := ∀ c ∈ value.toList, c ≠ ':' ∧ c ≠ '%'

instance (value : String) : Decidable (Plain value) := List.decidableBAll _ value.toList

theorem mem_of_mem_splitOn {separator : Char} {characters piece : List Char} (h : piece ∈ characters.splitOn separator)
    {c : Char} (hc : c ∈ piece) : c ∈ characters := by
  induction characters generalizing piece with
  | nil =>
    rw [splitOn_nil, mem_singleton] at h
    rwa [h] at hc
  | cons first rest ih =>
    rw [splitOn_cons_eq_if_modifyHead] at h
    split at h
    · rcases mem_cons.mp h with rfl | hrest
      · cases hc
      · exact mem_cons_of_mem _ (ih hrest hc)
    · cases hsplit : rest.splitOn separator with
      | nil => exact absurd hsplit (splitOn_ne_nil _ _)
      | cons head tail =>
        rw [hsplit, modifyHead_cons] at h
        rcases mem_cons.mp h with rfl | htail
        · rcases mem_cons.mp hc with rfl | hhead
          · exact mem_cons_self
          · exact mem_cons_of_mem _ (ih (hsplit ▸ mem_cons_self) hhead)
        · exact mem_cons_of_mem _ (ih (hsplit ▸ mem_cons_of_mem _ htail) hc)

theorem Plain.append {left right : String} (hleft : Plain left) (hright : Plain right) : Plain (left ++ right) := by
  intro c hc
  rw [String.toList_append, mem_append] at hc
  exact hc.elim (hleft c) (hright c)

theorem plain_intercalate {elements : List String} (h : ∀ element ∈ elements, Plain element) :
    Plain ("/".intercalate elements) := by
  induction elements with
  | nil => decide
  | cons first rest ih =>
    cases rest with
    | nil => simpa using h first mem_cons_self
    | cons second others =>
      rw [String.intercalate_cons_cons]
      have hslash : Plain "/" := by decide
      exact ((h first mem_cons_self).append hslash).append (ih fun element helement => h element (.tail _ helement))

/-- A cleaned path holds segments of the path, and dots and slashes. -/
theorem Plain.cleanPath {value : String} (h : Plain value) : Plain (cleanPath value) := by
  have hsegments : ∀ (rooted : Bool) (segments kept : List String), (∀ segment ∈ segments, Plain segment) →
      (∀ segment ∈ kept, Plain segment) → ∀ segment ∈ segments.foldl (Nginx.cleanSegment rooted) kept, Plain segment := by
    intro rooted segments
    induction segments with
    | nil => exact fun kept _ hkept => hkept
    | cons first rest ih =>
      intro kept hsegments hkept
      refine ih _ (fun segment hsegment => hsegments segment (.tail _ hsegment)) fun segment hsegment => ?_
      have hdots : Plain ".." := by decide
      unfold Nginx.cleanSegment at hsegment
      split at hsegment
      · exact hkept segment hsegment
      split at hsegment
      · split at hsegment
        · split at hsegment
          · cases hsegment
          · rw [mem_singleton.mp hsegment]
            exact hdots
        · rcases mem_cons.mp hsegment with rfl | hold
          · exact hdots
          · exact hkept segment hold
        · exact hkept segment (.tail _ hsegment)
      · rcases mem_cons.mp hsegment with rfl | hold
        · exact hsegments _ mem_cons_self
        · exact hkept segment hold
  have hbody : ∀ rooted, Plain ("/".intercalate ((splitText '/' value).foldl (Nginx.cleanSegment rooted) []).reverse) := by
    intro rooted
    refine plain_intercalate fun segment hsegment => ?_
    refine hsegments rooted _ [] (fun piece hpiece c hc => ?_) (by simp) segment (List.mem_reverse.mp hsegment)
    obtain ⟨characters, hmem, rfl⟩ := mem_map.mp hpiece
    rw [String.toList_ofList] at hc
    exact h c (mem_of_mem_splitOn hmem hc)
  unfold Nginx.cleanPath
  dsimp only
  split
  · exact Plain.append (by decide) (hbody _)
  · split
    · decide
    · exact hbody _

theorem plain_joinPath {elements : List String} (h : ∀ element ∈ elements, Plain element) : Plain (joinPath elements) := by
  unfold joinPath
  dsimp only
  split
  · decide
  · exact (plain_intercalate fun element helement => h element (mem_filter.mp helement).1).cleanPath

theorem plain_of_isCanonicalUUIDv7 {value : String} (h : isCanonicalUUIDv7 value = true) : Plain value := by
  intro c hc
  rcases char_of_isCanonicalUUIDv7 h hc with rfl | hhex
  · decide
  · constructor <;> rintro rfl <;> exact absurd hhex (by decide)

theorem plain_volumePath {identity : Identity} (hidentity : identity.valid = true) {volumeID : String}
    (hvolume : isCanonicalUUIDv7 volumeID = true) : Plain (volumePath identity volumeID) := by
  simp only [Identity.valid, and_eq_true, decide_eq_true_eq] at hidentity
  have hhome : Plain identity.homeDirectory := by
    rw [hidentity.2.2.1]
    exact Plain.append (by decide) (plain_of_isCanonicalUUIDv7 hidentity.1)
  refine plain_joinPath fun element helement => ?_
  rcases List.mem_pair.mp helement with rfl | rfl
  · refine plain_joinPath fun element helement => ?_
    rcases List.mem_pair.mp helement with rfl | rfl
    · exact hhome
    · decide
  · exact plain_of_isCanonicalUUIDv7 hvolume

/-- A value comes apart into the three parts it is made of if the path within the container has no colon. -/
theorem splitOn_parts_iff {host path mode : List Char} (hhost : ':' ∉ host) (hmode : ':' ∉ mode) :
    (host ++ ':' :: (path ++ ':' :: mode)).splitOn ':' = [host, path, mode] ↔ ':' ∉ path := by
  rw [splitOn_append_cons_self_of_not_mem hhost]
  constructor
  · rintro hsplit hcolon
    obtain ⟨first, rest, rfl, hfirst⟩ := eq_append_cons_of_mem hcolon
    rw [append_assoc, cons_append, splitOn_append_cons_self_of_not_mem hfirst] at hsplit
    have hlength := congrArg List.length (List.cons.inj (List.cons.inj hsplit).2).1
    simp at hlength
  · intro hpath
    rw [splitOn_append_cons_self_of_not_mem hpath, splitOn_eq_singleton hmode]

theorem volumeValue_parts {identity : Identity} (hidentity : identity.valid = true) (mount : VolumeMount)
    (hvolume : isCanonicalUUIDv7 mount.volumeID = true) :
    ((volumeValue identity mount).toList.splitOn ':' = [(volumePath identity mount.volumeID).toList,
      mount.containerPath.toList, mount.mode.toList] ↔ ':' ∉ mount.containerPath.toList) ∧
    ('%' ∈ (volumeValue identity mount).toList ↔ '%' ∈ mount.containerPath.toList) := by
  have hhost := plain_volumePath hidentity hvolume
  have hmode : Plain mount.mode := by
    unfold VolumeMount.mode
    split <;> decide
  have hvalue : (volumeValue identity mount).toList = (volumePath identity mount.volumeID).toList ++
      ':' :: (mount.containerPath.toList ++ ':' :: mount.mode.toList) := by
    simp [volumeValue]
  rw [hvalue]
  refine ⟨splitOn_parts_iff (fun hc => (hhost _ hc).1 rfl) fun hc => (hmode _ hc).1 rfl, ?_⟩
  simp only [mem_append, mem_cons, Char.reduceEq, false_or]
  refine ⟨?_, fun hpath => .inr (.inl hpath)⟩
  rintro (hc | hc | hc)
  · exact absurd rfl (hhost _ hc).2
  · exact hc
  · exact absurd rfl (hmode _ hc).2

namespace QuadletSample

def accountID : String := "00000000-0000-7000-8000-000000000001"

def digest : String := "sha256:" ++ String.ofList (List.replicate 64 '0')

def identity : Identity :=
  ⟨accountID, Nginx.usernameForAccount accountID, 200000, 200000, Nginx.homeDirectoryForAccount accountID⟩

def spec (containerPath : String) (health : HealthCheck) : Spec :=
  ⟨identity, accountID, 1, digest, digest, 8080, 20000, health, [], [⟨accountID, containerPath, false⟩]⟩

def tcp : HealthCheck := ⟨.known .tcp, "", 10, 1, 1⟩

def http : HealthCheck := ⟨.known .http, "/health", 30, 5, 3⟩

theorem fixed_valid : identity.valid = true ∧ isCanonicalUUIDv7 accountID = true ∧ validDigest digest = true := by
  decide +kernel

theorem spec_valid {containerPath : String} {health : HealthCheck} (hpath : validateContainerPath containerPath = true)
    (hhealth : validateHealthCheck health = true) : (spec containerPath health).valid = true := by
  simp [Spec.valid, spec, validVolumeMounts, validSecretReferences, fixed_valid, hpath, hhealth]

end QuadletSample

open QuadletSample

end Stackfort.OCIDeployment
