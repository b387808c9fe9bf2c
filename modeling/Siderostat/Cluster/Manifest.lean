import Mathlib.Data.Char
import Mathlib.Data.List.Lex
import Siderostat.Lib.Bytes
import Siderostat.Lib.Checks
import Siderostat.Lib.JsonText
import Siderostat.Lib.Search

/-!
# The manifest of a layer-parallel deployment

A node describes its deployment in a manifest.
-/

namespace Siderostat

open Checks

inductive ManifestError where
  | unsupportedSchema (version : Nat)
  | invalidSha256
  | invalidBinaryCompatibilitySet
  | binaryNotApproved
  | invalidSourceCommit
  | emptyField
  | zeroSize

/-! ## Digests and canonical text -/

def isLowerHexDigit (c : Char) : Bool := c.isDigit || ('a' ≤ c && c ≤ 'f')

def validateSha256 (value : Text) : Except ManifestError Unit :=
  require (Text.byteLen value = 64 ∧ value.all isLowerHexDigit = true) .invalidSha256

def validateSourceCommit (value : Text) : Except ManifestError Unit :=
  require ((Text.byteLen value = 40 ∨ Text.byteLen value = 64) ∧
    value.all isLowerHexDigit = true) .invalidSourceCommit

def validateFilled (value : Text) : Except ManifestError Unit :=
  require (Text.blank value = false) .emptyField

/-- The approved binaries and the node's own one. -/
def validateBinary (approved : List Text) (binary : Text) : Except ManifestError Unit := do
  require (approved ≠ [] ∧ approved.length ≤ 8 ∧ Search.ascending approved = true)
    .invalidBinaryCompatibilitySet
  approved.forM validateSha256
  require ((Search.binarySearch approved binary).isSome = true) .binaryNotApproved

def lowerHex (bytes : List UInt8) : Text :=
  bytes.flatMap fun byte => [Nat.digitChar (byte.toNat / 16), Nat.digitChar (byte.toNat % 16)]

/-- The text of a value whose members are listed in the order of their keys. -/
def canonicalJson (value : Json) : List UInt8 := Bytes.asBytes (String.ofList value.render)

theorem digitChar_inj : ∀ m < 16, ∀ n < 16, Nat.digitChar m = Nat.digitChar n → m = n := by
  decide

theorem lowerHex_injective : Function.Injective lowerHex := by
  intro bytes
  induction bytes with
  | nil =>
    intro others h
    cases others with
    | nil => rfl
    | cons other others => cases h
  | cons byte bytes ih =>
    intro others h
    cases others with
    | nil => cases h
    | cons other others =>
      obtain ⟨hhigh, h⟩ := List.cons.inj h
      obtain ⟨hlow, h⟩ := List.cons.inj h
      have hbyte := byte.toNat_lt
      have hother := other.toNat_lt
      have hdiv := digitChar_inj _ (by omega) _ (by omega) hhigh
      have hmod := digitChar_inj _ (by omega) _ (by omega) hlow
      have hsame : byte.toNat = other.toNat := by omega
      rw [UInt8.toNat_inj.mp hsame, ih h]

theorem canonicalJson_inj {v w : Json} (hv : v.Natural) (hw : w.Natural)
    (h : canonicalJson v = canonicalJson w) : v = w := by
  have hbytes := Bytes.asBytes_injective h
  exact Json.render_inj hv hw (String.ofList_injective hbytes)

theorem validateBinary_ok {approved : List Text} {binary : Text} :
    validateBinary approved binary = .ok () ↔
      (approved ≠ [] ∧ approved.length ≤ 8 ∧ Search.ascending approved = true) ∧
        (∀ digest ∈ approved, validateSha256 digest = .ok ()) ∧ binary ∈ approved := by
  unfold validateBinary
  rw [then_eq_ok, then_eq_ok, require_eq_ok, forM_eq_ok, require_eq_ok]
  refine and_congr_right fun hset => and_congr_right fun _ => ?_
  exact Search.isSome_binarySearch hset.2.2

/-! ## The manifest -/

def deploymentManifestSchemaVersion : Nat := 2

structure DistributedManifest where
  schemaVersion : Nat
  profile : Text
  ds4BinarySha256 : Text
  compatibleDs4BinarySha256 : List Text
  ds4SourceCommit : Text
  modelSha256 : Text
  modelSize : Nat
  checkpoint : Text
  modelFamily : Text
  quantization : Text
  topology : Text
  speculativeSupport : Text
  contextSize : Nat
  coordinatorLayers : Text
  workerLayers : Text
  ds4WireSchema : Text
  argvProfileSha256 : Text

/-- The part of a manifest that goes into the deployment id. -/
structure DistributedCompatibilityManifest where
  schemaVersion : Nat
  profile : Text
  compatibleDs4BinarySha256 : List Text
  ds4SourceCommit : Text
  modelSha256 : Text
  modelSize : Nat
  checkpoint : Text
  modelFamily : Text
  quantization : Text
  topology : Text
  speculativeSupport : Text
  contextSize : Nat
  coordinatorLayers : Text
  workerLayers : Text
  ds4WireSchema : Text
  argvProfileSha256 : Text

/-- The serializer keeps the members of an object in a sorted map. -/
def DistributedCompatibilityManifest.toValue (m : DistributedCompatibilityManifest) : Json :=
  .obj
    [("argv_profile_sha256".toList, .str m.argvProfileSha256),
      ("checkpoint".toList, .str m.checkpoint),
      ("compatible_ds4_binary_sha256".toList, .arr (m.compatibleDs4BinarySha256.map .str)),
      ("context_size".toList, .nat m.contextSize),
      ("coordinator_layers".toList, .str m.coordinatorLayers),
      ("ds4_source_commit".toList, .str m.ds4SourceCommit),
      ("ds4_wire_schema".toList, .str m.ds4WireSchema),
      ("model_family".toList, .str m.modelFamily),
      ("model_sha256".toList, .str m.modelSha256),
      ("model_size".toList, .nat m.modelSize),
      ("profile".toList, .str m.profile),
      ("quantization".toList, .str m.quantization),
      ("schema_version".toList, .nat m.schemaVersion),
      ("speculative_support".toList, .str m.speculativeSupport),
      ("topology".toList, .str m.topology),
      ("worker_layers".toList, .str m.workerLayers)]

namespace DistributedManifest

def validate (m : DistributedManifest) : Except ManifestError Unit := do
  require (m.schemaVersion = deploymentManifestSchemaVersion) (.unsupportedSchema m.schemaVersion)
  [m.ds4BinarySha256, m.modelSha256, m.argvProfileSha256].forM validateSha256
  validateBinary m.compatibleDs4BinarySha256 m.ds4BinarySha256
  validateSourceCommit m.ds4SourceCommit
  [m.profile, m.ds4SourceCommit, m.checkpoint, m.modelFamily, m.quantization, m.topology,
    m.speculativeSupport, m.coordinatorLayers, m.workerLayers, m.ds4WireSchema].forM validateFilled
  require (m.modelSize ≠ 0 ∧ m.contextSize ≠ 0) .zeroSize

def compatibility (m : DistributedManifest) : DistributedCompatibilityManifest where
  schemaVersion := m.schemaVersion
  profile := m.profile
  compatibleDs4BinarySha256 := m.compatibleDs4BinarySha256
  ds4SourceCommit := m.ds4SourceCommit
  modelSha256 := m.modelSha256
  modelSize := m.modelSize
  checkpoint := m.checkpoint
  modelFamily := m.modelFamily
  quantization := m.quantization
  topology := m.topology
  speculativeSupport := m.speculativeSupport
  contextSize := m.contextSize
  coordinatorLayers := m.coordinatorLayers
  workerLayers := m.workerLayers
  ds4WireSchema := m.ds4WireSchema
  argvProfileSha256 := m.argvProfileSha256

def deploymentId (sha256 : List UInt8 → List UInt8) (m : DistributedManifest) :
    Except ManifestError Text := do
  m.validate
  return lowerHex (sha256 (canonicalJson m.compatibility.toValue))

def compatibleWith (m other : DistributedManifest) : Except ManifestError Bool := do
  m.validate
  other.validate
  return m.profile == other.profile &&
    m.compatibleDs4BinarySha256 == other.compatibleDs4BinarySha256 &&
    m.ds4SourceCommit == other.ds4SourceCommit &&
    m.modelSha256 == other.modelSha256 &&
    m.modelSize == other.modelSize &&
    m.checkpoint == other.checkpoint &&
    m.modelFamily == other.modelFamily &&
    m.quantization == other.quantization &&
    m.topology == other.topology &&
    m.speculativeSupport == other.speculativeSupport &&
    m.contextSize == other.contextSize &&
    m.coordinatorLayers == other.coordinatorLayers &&
    m.workerLayers == other.workerLayers &&
    m.ds4WireSchema == other.ds4WireSchema &&
    m.argvProfileSha256 == other.argvProfileSha256

end DistributedManifest

/-! ## The shared part -/

namespace DistributedCompatibilityManifest

theorem natural_toValue (m : DistributedCompatibilityManifest) : m.toValue.Natural :=
  ⟨trivial, trivial, Json.naturalItems_map_str _, Json.natural_nat _, trivial, trivial, trivial,
    trivial, trivial, Json.natural_nat _, trivial, trivial, Json.natural_nat _, trivial, trivial,
    trivial, trivial⟩

theorem toValue_injective : Function.Injective toValue := by
  intro m n h
  simp only [toValue, Json.obj.injEq, List.cons.injEq, Prod.mk.injEq, Json.str.injEq,
    Json.arr.injEq, true_and, and_true] at h
  obtain ⟨hargv, hcheckpoint, hbinaries, hcontext, hcoordinator, hcommit, hwire, hfamily, hmodel,
    hsize, hprofile, hquantization, hschema, hsupport, htopology, hworker⟩ := h
  have hbinaries := Json.map_str_inj hbinaries
  have hcontext := Json.nat_inj hcontext
  have hsize := Json.nat_inj hsize
  have hschema := Json.nat_inj hschema
  cases m
  cases n
  simp_all only

theorem eq_of_digest {sha256 : List UInt8 → List UInt8} (hsha : Function.Injective sha256)
    {m n : DistributedCompatibilityManifest}
    (h : lowerHex (sha256 (canonicalJson m.toValue)) =
      lowerHex (sha256 (canonicalJson n.toValue))) :
    m = n := by
  have hjson := hsha (lowerHex_injective h)
  exact toValue_injective (canonicalJson_inj m.natural_toValue n.natural_toValue hjson)

end DistributedCompatibilityManifest

namespace DistributedManifest

theorem validate_ok {m : DistributedManifest} :
    m.validate = .ok () ↔
      m.schemaVersion = deploymentManifestSchemaVersion ∧
      (validateSha256 m.ds4BinarySha256 = .ok () ∧ validateSha256 m.modelSha256 = .ok () ∧
        validateSha256 m.argvProfileSha256 = .ok ()) ∧
      validateBinary m.compatibleDs4BinarySha256 m.ds4BinarySha256 = .ok () ∧
      validateSourceCommit m.ds4SourceCommit = .ok () ∧
      (∀ value ∈ [m.profile, m.ds4SourceCommit, m.checkpoint, m.modelFamily, m.quantization,
        m.topology, m.speculativeSupport, m.coordinatorLayers, m.workerLayers, m.ds4WireSchema],
          validateFilled value = .ok ()) ∧
      m.modelSize ≠ 0 ∧ m.contextSize ≠ 0 := by
  unfold validate
  rw [then_eq_ok, then_eq_ok, then_eq_ok, then_eq_ok, then_eq_ok, require_eq_ok, require_eq_ok,
    forM_eq_ok, forM_eq_ok, List.forall_mem_cons, List.forall_mem_cons, List.forall_mem_singleton]

variable {m n : DistributedManifest}

theorem compatibleWith_of_valid (hm : m.validate = .ok ()) (hn : n.validate = .ok ()) :
    m.compatibleWith n = .ok true ↔ m.compatibility = n.compatibility := by
  have hschema : m.schemaVersion = n.schemaVersion :=
    (validate_ok.mp hm).1.trans (validate_ok.mp hn).1.symm
  unfold compatibleWith
  rw [hm, hn]
  show Except.ok _ = Except.ok true ↔ _
  simp only [Except.ok.injEq, Bool.and_eq_true, beq_iff_eq, compatibility,
    DistributedCompatibilityManifest.mk.injEq, hschema, true_and, and_assoc]

theorem deploymentId_of_valid (sha256 : List UInt8 → List UInt8) (hm : m.validate = .ok ()) :
    m.deploymentId sha256 = .ok (lowerHex (sha256 (canonicalJson m.compatibility.toValue))) := by
  unfold deploymentId
  rw [hm]
  rfl

/-- A manifest lists the binary of another one, and stays valid with that binary as its own. -/
def Accepts (m other : DistributedManifest) : Prop :=
  other.ds4BinarySha256 ∈ m.compatibleDs4BinarySha256 ∧
    { m with ds4BinarySha256 := other.ds4BinarySha256 }.validate = .ok ()

theorem accepts_of_compatibility (hm : m.validate = .ok ()) (hn : n.validate = .ok ())
    (h : m.compatibility = n.compatibility) : m.Accepts n := by
  have hset : n.compatibleDs4BinarySha256 = m.compatibleDs4BinarySha256 :=
    congrArg DistributedCompatibilityManifest.compatibleDs4BinarySha256 h.symm
  obtain ⟨_, ⟨hdigest, _⟩, hbinary, _⟩ := validate_ok.mp hn
  rw [hset] at hbinary
  obtain ⟨hschema, ⟨_, hdigests⟩, _, hrest⟩ := validate_ok.mp hm
  exact ⟨(validateBinary_ok.mp hbinary).2.2,
    validate_ok.mpr ⟨hschema, ⟨hdigest, hdigests⟩, hbinary, hrest⟩⟩

end DistributedManifest

def ValidManifest : Type := { m : DistributedManifest // m.validate = .ok () }

namespace ValidManifest

def Compatible (m n : ValidManifest) : Prop := m.1.compatibleWith n.1 = .ok true

theorem compatible_iff {m n : ValidManifest} :
    m.Compatible n ↔ m.1.compatibility = n.1.compatibility :=
  DistributedManifest.compatibleWith_of_valid m.2 n.2

theorem compatible_equivalence : Equivalence Compatible where
  refl _ := compatible_iff.mpr rfl
  symm h := compatible_iff.mpr (compatible_iff.mp h).symm
  trans h h' := compatible_iff.mpr ((compatible_iff.mp h).trans (compatible_iff.mp h'))

/-- Valid manifests are compatible exactly if their deployment ids are the same, this is an
equivalence, and compatible nodes accept each other's binaries. -/
theorem compatible_with_means_same_deployment {sha256 : List UInt8 → List UInt8}
    (hsha : Function.Injective sha256) :
    Equivalence Compatible ∧
      ∀ m n : ValidManifest,
        (m.Compatible n ↔
          ∃ id, m.1.deploymentId sha256 = .ok id ∧ n.1.deploymentId sha256 = .ok id) ∧
        (m.Compatible n → m.1.Accepts n.1 ∧ n.1.Accepts m.1) := by
  refine ⟨compatible_equivalence, fun m n => ⟨?_, fun h => ?_⟩⟩
  · rw [compatible_iff, DistributedManifest.deploymentId_of_valid sha256 m.2,
      DistributedManifest.deploymentId_of_valid sha256 n.2]
    constructor
    · intro h
      exact ⟨_, rfl, by rw [h]⟩
    · rintro ⟨id, hm, hn⟩
      exact DistributedCompatibilityManifest.eq_of_digest hsha (Except.ok.inj (hm.trans hn.symm))
  · have hshared := compatible_iff.mp h
    exact ⟨DistributedManifest.accepts_of_compatibility m.2 n.2 hshared,
      DistributedManifest.accepts_of_compatibility n.2 m.2 hshared.symm⟩

end ValidManifest

/-- The manifest of a node that runs the given one of two approved binaries. -/
def sampleManifest (digit : Char) : DistributedManifest where
  schemaVersion := 2
  profile := "lp".toList
  ds4BinarySha256 := List.replicate 64 digit
  compatibleDs4BinarySha256 := [List.replicate 64 'a', List.replicate 64 'b']
  ds4SourceCommit := List.replicate 40 'c'
  modelSha256 := List.replicate 64 'd'
  modelSize := 1
  checkpoint := "c".toList
  modelFamily := "f".toList
  quantization := "q".toList
  topology := "layer-parallel".toList
  speculativeSupport := "none".toList
  contextSize := 1
  coordinatorLayers := "0-20".toList
  workerLayers := "21-42".toList
  ds4WireSchema := "1".toList
  argvProfileSha256 := List.replicate 64 'e'

def sampleNode (digit : Char) (h : (sampleManifest digit).validate.isOk = true) : ValidManifest :=
  ⟨sampleManifest digit, ok_of_isOk h⟩

/-- Two nodes with different approved binaries, and the identity for the digest. -/
theorem compatible_with_means_same_deployment_twoBinaries :
    (sampleManifest 'a').ds4BinarySha256 ≠ (sampleManifest 'b').ds4BinarySha256 ∧
      ∃ id, (sampleManifest 'a').deploymentId (fun bytes => bytes) = .ok id ∧
        (sampleManifest 'b').deploymentId (fun bytes => bytes) = .ok id :=
  ⟨by decide +kernel,
    ((ValidManifest.compatible_with_means_same_deployment fun _ _ h => h).2
      (sampleNode 'a' (by decide +kernel)) (sampleNode 'b' (by decide +kernel))).1.mp
      (ValidManifest.compatible_iff.mpr rfl)⟩

end Siderostat
