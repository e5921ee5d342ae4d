import Mathlib.Algebra.GroupWithZero.Nat
import Mathlib.Data.List.Basic

/-! The inputs of an image build. Their digest hashes the Containerfile, and the names, flags and contents of the
build context, each ended by a NUL byte. Neither the Containerfile nor a name has such a byte, but a file may,
and can then read like several. The digest decides whether a build is answered with an image that was built before. -/

namespace Stackfort.OCIImage

open List

abbrev Bytes := List UInt8

/-- The bytes of an ASCII text. -/
def bytes (text : String) : Bytes := text.toList.map fun c => UInt8.ofNat c.toNat

/-- What `fs.WalkDir` visits, with the path relative to the build context. -/
inductive Entry where
  | directory (relative : Bytes)
  | file (relative : Bytes) (executable : Bool) (content : Bytes)

namespace Entry

def size : Entry → Option Nat
  | directory _ => none
  | file _ _ content => some content.length

/-- What the digest is told of an entry. -/
def words : Entry → List Bytes
  | directory relative => [bytes "directory", relative]
  | file relative executable content =>
    [bytes "file", relative, if executable then bytes "executable" else bytes "plain", content]

end Entry

/-- A Containerfile, and the entries of a build context in the order of the walk. -/
@[ext]
structure BuildInputs where
  containerfile : Bytes
  context : List Entry

structure ImageServices where
  /-- The digest in hexadecimal digits. -/
  sha256 : Bytes → Bytes
  /-- What `ValidateContainerfile` asks of the instructions. -/
  instructionsAllowed : Bytes → Bool

def maximumContainerfileBytes : Nat := 2 ^ 20

def maximumBuildContextBytes : Nat := 512 * 2 ^ 20

def maximumBuildContextFiles : Nat := 20000

/-- Words, each ended by a NUL byte. -/
def ended (words : List Bytes) : Bytes := intercalate [0] (words ++ [[]])

variable (services : ImageServices)

def validateContainerfile (content : Bytes) : Bool :=
  decide (content ≠ [] ∧ content.length ≤ maximumContainerfileBytes ∧ 0 ∉ content) && services.instructionsAllowed content

def hashedInputs (inputs : BuildInputs) : Bytes :=
  ended ([bytes "stackfort-build-context-v1", bytes "containerfile", inputs.containerfile] ++
    inputs.context.flatMap Entry.words)

def snapshotBuildInputs (inputs : BuildInputs) : Option Bytes :=
  let sizes := inputs.context.filterMap Entry.size
  if validateContainerfile services inputs.containerfile = true ∧ sizes ≠ [] ∧
      sizes.length ≤ maximumBuildContextFiles ∧ sizes.sum ≤ maximumBuildContextBytes then
    some (bytes "sha256:" ++ services.sha256 (hashedInputs inputs))
  else none

/-- A request: where its manifest is, and its own digest in hexadecimal digits. -/
structure PrepareSpec where
  manifestPath : String
  digest : Bytes
  plain : 0 ∉ digest

def contextBoundRequestDigest (spec : PrepareSpec) (sourceDigest : Bytes) : Bytes :=
  services.sha256 (spec.digest ++ 0 :: sourceDigest)

/-- A stored manifest, with the inputs that its image was built from. -/
structure Manifest where
  requestDigest : Bytes
  builtFrom : BuildInputs

abbrev Manifests := String → Option Manifest

/-- A preparation answers with the inputs its image was built from, and whether the image was reused, or with an
error. The build itself may fail. -/
def prepare (manifests : Manifests) (spec : PrepareSpec) (inputs : BuildInputs) (builds : Bool) :
    Manifests × Option (BuildInputs × Bool) :=
  match snapshotBuildInputs services inputs with
  | none => (manifests, none)
  | some sourceDigest =>
    let requestDigest := contextBoundRequestDigest services spec sourceDigest
    match manifests spec.manifestPath with
    | some manifest =>
      (manifests, if manifest.requestDigest = requestDigest then some (manifest.builtFrom, true) else none)
    | none =>
      if builds then (Function.update manifests spec.manifestPath (some ⟨requestDigest, inputs⟩), some (inputs, false))
      else (manifests, none)

/-- The manifests after preparations on a new host. -/
def prepared (calls : List (PrepareSpec × BuildInputs × Bool)) : Manifests :=
  calls.foldl (fun manifests call => (prepare services manifests call.1 call.2.1 call.2.2).1) fun _ => none

/-! ### The digest -/

variable {services} {inputs other : BuildInputs} {digest : Bytes}

/-- Words without NUL bytes can be read back. -/
theorem ended_inj {left right : List Bytes} (hleft : ∀ word ∈ left, 0 ∉ word) (hright : ∀ word ∈ right, 0 ∉ word)
    (h : ended left = ended right) : left = right := by
  have hread : ∀ {words : List Bytes}, (∀ word ∈ words, 0 ∉ word) → (ended words).splitOn 0 = words ++ [[]] := by
    intro words hwords
    refine splitOn_intercalate 0 (forall_mem_append.mpr ⟨hwords, forall_mem_singleton.mpr not_mem_nil⟩) ?_
    simp
  rw [← append_left_inj [[]], ← hread hleft, ← hread hright, h]

/-- The first word of an entry tells how many follow. -/
theorem flatMap_words_inj {left right : List Entry} (h : left.flatMap Entry.words = right.flatMap Entry.words) :
    left = right := by
  have hkind : bytes "directory" ≠ bytes "file" := by decide
  have hflag : bytes "executable" ≠ bytes "plain" := by decide
  induction left generalizing right with
  | nil =>
    cases right with
    | nil => rfl
    | cons entry right => cases entry <;> cases h
  | cons entry left ih =>
    cases right with
    | nil => cases entry <;> cases h
    | cons entry' right =>
      cases entry <;> cases entry' <;> simp only [flatMap_cons, Entry.words, cons_append, nil_append, cons.injEq] at h
      case directory.directory => rw [h.2.1, ih h.2.2]
      case directory.file => exact absurd h.1 hkind
      case file.directory => exact absurd h.1.symm hkind
      case file.file relative executable content relative' executable' content' =>
        have hsame : executable = executable' := by cases executable <;> cases executable' <;> simp_all
        rw [h.2.1, hsame, h.2.2.2.1, ih h.2.2.2.2]

/-- No word that the digest is told has a NUL byte. -/
def BuildInputs.Plain (inputs : BuildInputs) : Prop := ∀ word ∈ inputs.context.flatMap Entry.words, 0 ∉ word

theorem snapshot_eq_some (h : snapshotBuildInputs services inputs = some digest) :
    0 ∉ inputs.containerfile ∧ digest = bytes "sha256:" ++ services.sha256 (hashedInputs inputs) := by
  obtain ⟨haccepted, hdigest⟩ := Option.ite_none_right_eq_some.mp h
  exact ⟨(of_decide_eq_true (Bool.and_eq_true_iff.mp haccepted.1).1).2.2, (Option.some.inj hdigest).symm⟩

/-- Plain inputs are determined by their digest. -/
theorem snapshot_inj (hsha : Function.Injective services.sha256) (hplain : inputs.Plain) (hplain' : other.Plain)
    (h : snapshotBuildInputs services inputs = some digest) (h' : snapshotBuildInputs services other = some digest) :
    inputs = other := by
  obtain ⟨hcontainerfile, hdigest⟩ := snapshot_eq_some h
  obtain ⟨hcontainerfile', hdigest'⟩ := snapshot_eq_some h'
  have hhashed : hashedInputs inputs = hashedInputs other := hsha (append_cancel_left (hdigest.symm.trans hdigest'))
  have hfirst : ∀ {content : Bytes}, 0 ∉ content →
      ∀ word ∈ [bytes "stackfort-build-context-v1", bytes "containerfile", content], 0 ∉ word := by
    intro content hcontent
    exact forall_mem_cons.mpr ⟨by decide, forall_mem_cons.mpr ⟨by decide, forall_mem_singleton.mpr hcontent⟩⟩
  have hwords := ended_inj (forall_mem_append.mpr ⟨hfirst hcontainerfile, hplain⟩)
    (forall_mem_append.mpr ⟨hfirst hcontainerfile', hplain'⟩) hhashed
  obtain ⟨hsame, hcontext⟩ := append_inj hwords rfl
  exact BuildInputs.ext (by simpa using hsame) (flatMap_words_inj hcontext)

/-! ### Reused images -/

/-- Every manifest names the digests of a request and of the plain inputs its image was built from. -/
def Sourced (services : ImageServices) (manifests : Manifests) : Prop :=
  ∀ path manifest, manifests path = some manifest → manifest.builtFrom.Plain ∧ ∃ spec digest,
    snapshotBuildInputs services manifest.builtFrom = some digest ∧
      manifest.requestDigest = contextBoundRequestDigest services spec digest

variable {manifests : Manifests} {spec spec' : PrepareSpec} {digest' : Bytes}

theorem Sourced.stored {builds : Bool} (h : Sourced services manifests) (hplain : inputs.Plain) :
    Sourced services (prepare services manifests spec inputs builds).1 := by
  fun_cases prepare services manifests spec inputs builds with
  | case3 digest hdigest requestDigest =>
    intro path manifest hstored
    simp only [Function.update_apply] at hstored
    split at hstored
    · cases hstored
      exact ⟨hplain, spec, digest, hdigest, rfl⟩
    · exact h path manifest hstored
  | _ => exact h

theorem sourced_prepared {calls : List (PrepareSpec × BuildInputs × Bool)} (hplain : ∀ call ∈ calls, call.2.1.Plain) :
    Sourced services (prepared services calls) :=
  foldlRecOn (motive := Sourced services) calls _ nofun fun _ h call hmem => h.stored (hplain call hmem)

theorem digest_of_request (hsha : Function.Injective services.sha256)
    (h : contextBoundRequestDigest services spec digest = contextBoundRequestDigest services spec' digest') :
    digest = digest' := by
  have hdrop : ∀ (spec : PrepareSpec) (digest : Bytes), (spec.digest ++ 0 :: digest).dropWhile (· ≠ 0) = 0 :: digest := by
    intro spec digest
    rw [dropWhile_append_of_pos fun byte hmem => decide_eq_true (ne_of_mem_of_not_mem hmem spec.plain)]
    rfl
  have hboth := congrArg (dropWhile (· ≠ 0)) (hsha h)
  rw [hdrop, hdrop] at hboth
  exact (cons.inj hboth).2

/-- A context of plain files. -/
def contextOf (files : List (String × Bytes)) : BuildInputs :=
  ⟨bytes "FROM scratch", .directory (bytes ".") :: files.map fun file => .file (bytes file.1) false file.2⟩

def twoFiles : BuildInputs := contextOf [("a", bytes "x"), ("b", bytes "y")]

/-- One file that reads like both. -/
def oneFile : BuildInputs :=
  contextOf [("a", intercalate [0] [bytes "x", bytes "file", bytes "b", bytes "plain", bytes "y"])]

/-- The answer to a second preparation, after one of `twoFiles`. -/
def secondAnswer (inputs : BuildInputs) : Option (BuildInputs × Bool) :=
  let services : ImageServices := ⟨id, fun _ => true⟩
  let spec : PrepareSpec := ⟨"1.json", bytes "0", by decide⟩
  (prepare services (prepared services [(spec, twoFiles, true)]) spec inputs true).2

end Stackfort.OCIImage
