import Mathlib.Data.List.Sort
import Siderostat.Cluster.Manifest

/-!
# The manifest of a tensor-parallel deployment

Here a manifest lists one artifact for each role, and the two roles may run different binaries.
-/

namespace Siderostat

open Checks

inductive RoleKind where
  | worker
  | coordinator
deriving DecidableEq

inductive ExecutableKind where
  | ds4
  | ds4Server
deriving DecidableEq

structure RoleArtifact where
  role : RoleKind
  executableKind : ExecutableKind
  binarySha256 : Text
  compatibleBinarySha256 : List Text
  sourceCommit : Text
  helpSha256 : Option Text

structure ModelIdentity where
  catalogId : Text
  sha256 : Text
  size : Nat
  family : Text
  quantization : Text
  encoderDigest : Option Text
  supportDigest : Option Text
  prefixFileDigest : Option Text
deriving DecidableEq

namespace ModelIdentity

def validate (model : ModelIdentity) : Except ManifestError Unit := do
  validateSha256 model.sha256
  [model.catalogId, model.family, model.quantization].forM validateFilled
  require (model.size ≠ 0) .zeroSize
  ([model.encoderDigest, model.supportDigest, model.prefixFileDigest].filterMap fun digest =>
    digest).forM validateSha256

end ModelIdentity

def tpDeploymentManifestSchemaVersion : Nat := 3

structure TpDeploymentManifest where
  schemaVersion : Nat
  profileId : Text
  sourceCommit : Text
  roleArtifacts : List RoleArtifact
  model : ModelIdentity
  transport : Text
  contextSize : Nat
  argvContractId : Text

structure DeploymentIdentity where
  schemaVersion : Nat
  profileId : Text
  sourceCommit : Text
  roleBinaries : List Text
  modelSha256 : Text
  transport : Text
  contextSize : Nat
  argvContractId : Text

def DeploymentIdentity.toValue (identity : DeploymentIdentity) : Json :=
  .obj
    [("argv_contract_id".toList, .str identity.argvContractId),
      ("context_size".toList, .nat identity.contextSize),
      ("model_sha256".toList, .str identity.modelSha256),
      ("profile_id".toList, .str identity.profileId),
      ("role_binaries".toList, .arr (identity.roleBinaries.map .str)),
      ("schema_version".toList, .nat identity.schemaVersion),
      ("source_commit".toList, .str identity.sourceCommit),
      ("transport".toList, .str identity.transport)]

def RoleKind.executable : RoleKind → ExecutableKind
  | .worker => .ds4
  | .coordinator => .ds4Server

namespace TpDeploymentManifest

/-- The loop over the artifacts, with the roles that were seen before. -/
def validateArtifacts (sourceCommit : Text) :
    List RoleKind → List RoleArtifact → Except ManifestError Unit
  | _, [] => .ok ()
  | seen, artifact :: rest => do
    require (artifact.role ∉ seen) .emptyField
    require (artifact.executableKind = artifact.role.executable) .emptyField
    require (artifact.sourceCommit = sourceCommit) .invalidSourceCommit
    validateSha256 artifact.binarySha256
    artifact.helpSha256.toList.forM validateSha256
    validateBinary artifact.compatibleBinarySha256 artifact.binarySha256
    validateArtifacts sourceCommit (artifact.role :: seen) rest

def validate (m : TpDeploymentManifest) : Except ManifestError Unit := do
  require (m.schemaVersion = tpDeploymentManifestSchemaVersion) (.unsupportedSchema m.schemaVersion)
  [m.profileId, m.transport, m.argvContractId].forM validateFilled
  validateSourceCommit m.sourceCommit
  m.model.validate
  require (m.contextSize ≠ 0) .zeroSize
  require (m.roleArtifacts ≠ []) .emptyField
  validateArtifacts m.sourceCommit [] m.roleArtifacts

def binaries (m : TpDeploymentManifest) : List Text := m.roleArtifacts.map (·.binarySha256)

def identity (m : TpDeploymentManifest) : DeploymentIdentity where
  schemaVersion := m.schemaVersion
  profileId := m.profileId
  sourceCommit := m.sourceCommit
  roleBinaries := m.binaries.insertionSort (· ≤ ·)
  modelSha256 := m.model.sha256
  transport := m.transport
  contextSize := m.contextSize
  argvContractId := m.argvContractId

def deploymentId (sha256 : List UInt8 → List UInt8) (m : TpDeploymentManifest) :
    Except ManifestError Text := do
  m.validate
  return lowerHex (sha256 (canonicalJson m.identity.toValue))

end TpDeploymentManifest

/-! ## Identities -/

namespace DeploymentIdentity

theorem natural_toValue (identity : DeploymentIdentity) : identity.toValue.Natural :=
  ⟨trivial, Json.natural_nat _, trivial, trivial, Json.naturalItems_map_str _,
    Json.natural_nat _, trivial, trivial, trivial⟩

theorem toValue_injective : Function.Injective toValue := by
  intro i j h
  simp only [toValue, Json.obj.injEq, List.cons.injEq, Prod.mk.injEq, Json.str.injEq,
    Json.arr.injEq, true_and, and_true] at h
  obtain ⟨hargv, hcontext, hmodel, hprofile, hbinaries, hschema, hcommit, htransport⟩ := h
  have hcontext := Json.nat_inj hcontext
  have hbinaries := Json.map_str_inj hbinaries
  have hschema := Json.nat_inj hschema
  cases i
  cases j
  simp_all only

end DeploymentIdentity

namespace TpDeploymentManifest

variable {m n : TpDeploymentManifest}

theorem schemaVersion_of_valid (hm : m.validate = .ok ()) :
    m.schemaVersion = tpDeploymentManifestSchemaVersion := by
  unfold validate at hm
  exact require_eq_ok.mp (then_eq_ok.mp hm).1

structure SameSummary (m n : TpDeploymentManifest) : Prop where
  profile : m.profileId = n.profileId
  commit : m.sourceCommit = n.sourceCommit
  binaries : m.binaries.Perm n.binaries
  modelFile : m.model.sha256 = n.model.sha256
  transport : m.transport = n.transport
  context : m.contextSize = n.contextSize
  argv : m.argvContractId = n.argvContractId

theorem sorted_eq_iff {texts texts' : List Text} :
    texts.insertionSort (· ≤ ·) = texts'.insertionSort (· ≤ ·) ↔ texts.Perm texts' := by
  constructor
  · intro h
    have hsorted := List.perm_insertionSort (· ≤ ·) texts
    rw [h] at hsorted
    exact hsorted.symm.trans (List.perm_insertionSort (· ≤ ·) texts')
  · intro h
    have hperm : (texts.insertionSort (· ≤ ·)).Perm (texts'.insertionSort (· ≤ ·)) :=
      (List.perm_insertionSort _ texts).trans (h.trans (List.perm_insertionSort _ texts').symm)
    exact hperm.eq_of_sortedLE List.sortedLE_insertionSort List.sortedLE_insertionSort

theorem identity_eq_iff (hm : m.validate = .ok ()) (hn : n.validate = .ok ()) :
    m.identity = n.identity ↔ SameSummary m n := by
  have hschema : m.schemaVersion = n.schemaVersion :=
    (schemaVersion_of_valid hm).trans (schemaVersion_of_valid hn).symm
  simp only [identity, DeploymentIdentity.mk.injEq, sorted_eq_iff, hschema, true_and]
  constructor
  · rintro ⟨hprofile, hcommit, hbinaries, hmodel, htransport, hcontext, hargv⟩
    exact ⟨hprofile, hcommit, hbinaries, hmodel, htransport, hcontext, hargv⟩
  · intro h
    exact ⟨h.profile, h.commit, h.binaries, h.modelFile, h.transport, h.context, h.argv⟩

theorem deploymentId_of_valid (sha256 : List UInt8 → List UInt8) (hm : m.validate = .ok ()) :
    m.deploymentId sha256 = .ok (lowerHex (sha256 (canonicalJson m.identity.toValue))) := by
  unfold deploymentId
  rw [hm]
  rfl

def SameId (sha256 : List UInt8 → List UInt8) (m n : TpDeploymentManifest) : Prop :=
  ∃ id, m.deploymentId sha256 = .ok id ∧ n.deploymentId sha256 = .ok id

/-- Whatever the digest function is, the id depends on the summary only. -/
theorem sameId_of_summary (sha256 : List UInt8 → List UInt8) (hm : m.validate = .ok ())
    (hn : n.validate = .ok ()) (h : SameSummary m n) : SameId sha256 m n := by
  unfold SameId
  rw [deploymentId_of_valid sha256 hm, deploymentId_of_valid sha256 hn,
    (identity_eq_iff hm hn).mpr h]
  exact ⟨_, rfl, rfl⟩

theorem sameId_iff {sha256 : List UInt8 → List UInt8} (hsha : Function.Injective sha256)
    (hm : m.validate = .ok ()) (hn : n.validate = .ok ()) :
    SameId sha256 m n ↔ SameSummary m n := by
  refine ⟨fun hid => ?_, sameId_of_summary sha256 hm hn⟩
  unfold SameId at hid
  rw [deploymentId_of_valid sha256 hm, deploymentId_of_valid sha256 hn] at hid
  obtain ⟨id, hid, hid'⟩ := hid
  have hjson := hsha (lowerHex_injective (Except.ok.inj (hid.trans hid'.symm)))
  exact (identity_eq_iff hm hn).mp (DeploymentIdentity.toValue_injective
    (canonicalJson_inj m.identity.natural_toValue n.identity.natural_toValue hjson))

/-! ## Roles -/

def binaryOf (m : TpDeploymentManifest) (role : RoleKind) : Option Text :=
  (m.roleArtifacts.find? fun artifact => artifact.role = role).map (·.binarySha256)

theorem roles_nodup {sourceCommit : Text} {seen : List RoleKind} {artifacts : List RoleArtifact}
    (h : validateArtifacts sourceCommit seen artifacts = .ok ()) :
    (artifacts.map (·.role)).Nodup ∧ ∀ artifact ∈ artifacts, artifact.role ∉ seen := by
  induction artifacts generalizing seen with
  | nil => exact ⟨List.nodup_nil, nofun⟩
  | cons artifact artifacts ih =>
    simp only [validateArtifacts, then_eq_ok, require_eq_ok] at h
    obtain ⟨hnew, _, _, _, _, _, hrest⟩ := h
    obtain ⟨hnodup, hseen⟩ := ih hrest
    refine ⟨List.nodup_cons.mpr ⟨fun hmem => ?_, hnodup⟩, List.forall_mem_cons.mpr ⟨hnew, ?_⟩⟩
    · obtain ⟨other, hother, hrole⟩ := List.mem_map.mp hmem
      exact hseen other hother (List.mem_cons.mpr (.inl hrole))
    · intro other hother hmem
      exact hseen other hother (List.mem_cons_of_mem _ hmem)

theorem three_roles (r s t : RoleKind) : ¬[r, s, t].Nodup := by
  cases r <;> cases s <;> cases t <;> decide

theorem artifacts_of_valid (hm : m.validate = .ok ()) :
    (∃ a, m.roleArtifacts = [a]) ∨
      ∃ a b, m.roleArtifacts = [a, b] ∧ a.role ≠ b.role := by
  have hchecks := hm
  unfold validate at hchecks
  simp only [then_eq_ok, require_eq_ok] at hchecks
  obtain ⟨_, _, _, _, _, hsome, hartifacts⟩ := hchecks
  obtain ⟨hnodup, _⟩ := roles_nodup hartifacts
  match hlist : m.roleArtifacts with
  | [] => exact absurd hlist hsome
  | [a] => exact .inl ⟨a, rfl⟩
  | [a, b] =>
    rw [hlist] at hnodup
    exact .inr ⟨a, b, rfl, fun h => by simp [h] at hnodup⟩
  | a :: b :: c :: rest =>
    rw [hlist] at hnodup
    have hthree : [a.role, b.role, c.role].Nodup :=
      hnodup.sublist ((List.nil_sublist _).cons_cons _ |>.cons_cons _ |>.cons_cons _)
    exact absurd hthree (three_roles a.role b.role c.role)

theorem perm_pair {α : Type} {a b c d : α} (h : [a, b].Perm [c, d]) :
    (a = c ∧ b = d) ∨ (a = d ∧ b = c) := by
  have hmem : a ∈ [c, d] := h.mem_iff.mp List.mem_cons_self
  rcases List.mem_cons.mp hmem with rfl | hlast
  · exact .inl ⟨rfl, List.singleton_perm_singleton.mp h.cons_inv⟩
  · obtain rfl := List.mem_singleton.mp hlast
    have hrest := (h.trans (List.Perm.swap a c [])).cons_inv
    exact .inr ⟨rfl, List.singleton_perm_singleton.mp hrest⟩

/-- What the two roles run is the list of binaries in one order or the other, filled up if one
role is not listed. -/
theorem binaryOf_perm (hm : m.validate = .ok ()) :
    [m.binaryOf .worker, m.binaryOf .coordinator].Perm
      (m.binaries.map some ++ List.replicate (2 - m.binaries.length) none) := by
  unfold binaryOf binaries
  rcases artifacts_of_valid hm with ⟨a, hlist⟩ | ⟨a, b, hlist, hroles⟩
  · rw [hlist]
    cases hrole : a.role with
    | worker => simp [hrole]
    | coordinator => simp [hrole, List.Perm.swap]
  · rw [hlist]
    cases hrole : a.role with
    | worker =>
      have hother : b.role = .coordinator := by
        cases hb : b.role with
        | worker => exact absurd (hrole.trans hb.symm) hroles
        | coordinator => rfl
      simp [hrole, hother]
    | coordinator =>
      have hother : b.role = .worker := by
        cases hb : b.role with
        | worker => rfl
        | coordinator => exact absurd (hrole.trans hb.symm) hroles
      simp [hrole, hother, List.Perm.swap]

theorem binaryOf_cases (hm : m.validate = .ok ()) (hn : n.validate = .ok ())
    (h : m.binaries.Perm n.binaries) :
    (m.binaryOf .worker = n.binaryOf .worker ∧
        m.binaryOf .coordinator = n.binaryOf .coordinator) ∨
      (m.binaryOf .worker = n.binaryOf .coordinator ∧
        m.binaryOf .coordinator = n.binaryOf .worker) := by
  refine perm_pair ((binaryOf_perm hm).trans (List.Perm.trans ?_ (binaryOf_perm hn).symm))
  rw [h.length_eq]
  exact (h.map some).append_right _

/-! ## What an id says about a deployment -/

structure SameDeployment (m n : TpDeploymentManifest) : Prop where
  binary : ∀ role, m.binaryOf role = n.binaryOf role
  commit : m.sourceCommit = n.sourceCommit
  profile : m.profileId = n.profileId
  transport : m.transport = n.transport
  context : m.contextSize = n.contextSize
  argv : m.argvContractId = n.argvContractId
  model : m.model = n.model

/-- Each role runs what the other manifest gives to the other role, and not the same. -/
def Exchanged (m n : TpDeploymentManifest) : Prop :=
  m.binaryOf .worker = n.binaryOf .coordinator ∧ m.binaryOf .coordinator = n.binaryOf .worker ∧
    m.binaryOf .worker ≠ m.binaryOf .coordinator

theorem binary_eq_iff (hm : m.validate = .ok ()) (hn : n.validate = .ok ())
    (h : m.binaries.Perm n.binaries) :
    (∀ role, m.binaryOf role = n.binaryOf role) ↔ ¬Exchanged m n := by
  constructor
  · rintro hsame ⟨hworker, _, hdiffer⟩
    exact hdiffer (hworker.trans (hsame .coordinator).symm)
  · intro hnot role
    have hboth : m.binaryOf .worker = n.binaryOf .worker ∧
        m.binaryOf .coordinator = n.binaryOf .coordinator := by
      rcases binaryOf_cases hm hn h with hsame | ⟨hworker, hcoordinator⟩
      · exact hsame
      · have hequal : m.binaryOf .worker = m.binaryOf .coordinator := by
          by_contra hdiffer
          exact hnot ⟨hworker, hcoordinator, hdiffer⟩
        exact ⟨hequal.trans hcoordinator, hequal.symm.trans hworker⟩
    cases role with
    | worker => exact hboth.1
    | coordinator => exact hboth.2

/-- Equal ids mean the same deployment exactly for manifests that, if their summaries are the
same, neither exchange the binaries of the roles nor describe the model differently. -/
theorem deployment_id_identifies_iff {sha256 : List UInt8 → List UInt8}
    (hsha : Function.Injective sha256) (hm : m.validate = .ok ()) (hn : n.validate = .ok ()) :
    (SameId sha256 m n → SameDeployment m n) ↔
      (SameSummary m n → ¬Exchanged m n ∧ m.model = n.model) := by
  rw [sameId_iff hsha hm hn]
  refine forall_congr' fun h => ?_
  rw [← binary_eq_iff hm hn h.binaries]
  constructor
  · intro hsame
    exact ⟨hsame.binary, hsame.model⟩
  · rintro ⟨hbinary, hmodel⟩
    exact ⟨hbinary, h.commit, h.profile, h.transport, h.context, h.argv, hmodel⟩

def sampleArtifact (role : RoleKind) (digit : Char) : RoleArtifact where
  role := role
  executableKind := role.executable
  binarySha256 := List.replicate 64 digit
  compatibleBinarySha256 := [List.replicate 64 digit]
  sourceCommit := List.replicate 40 'c'
  helpSha256 := none

/-- A manifest with two artifacts and the digest of an encoder, if there is one. -/
def sampleTp (artifacts : List RoleArtifact) (encoder : Option Text) : TpDeploymentManifest where
  schemaVersion := 3
  profileId := "tp".toList
  sourceCommit := List.replicate 40 'c'
  roleArtifacts := artifacts
  model :=
    { catalogId := "m".toList, sha256 := List.replicate 64 'd', size := 1, family := "f".toList
      quantization := "q".toList, encoderDigest := encoder, supportDigest := none
      prefixFileDigest := none }
  transport := "rdma".toList
  contextSize := 1
  argvContractId := "v1".toList

def straight : List RoleArtifact := [sampleArtifact .worker 'a', sampleArtifact .coordinator 'b']

def crossed : List RoleArtifact := [sampleArtifact .worker 'b', sampleArtifact .coordinator 'a']

theorem straight_valid : (sampleTp straight none).validate = .ok () :=
  ok_of_isOk (by decide +kernel)

/-- Listing the artifacts in the other order changes nothing. -/
theorem deployment_id_identifies_reordered :
    SameDeployment (sampleTp straight none) (sampleTp straight.reverse none) := by
  have hreversed : (sampleTp straight.reverse none).validate = .ok () :=
    ok_of_isOk (by decide +kernel)
  have hid : SameId (fun bytes => bytes) (sampleTp straight none)
      (sampleTp straight.reverse none) :=
    sameId_of_summary _ straight_valid hreversed
      ⟨rfl, rfl, List.Perm.swap _ _ _, rfl, rfl, rfl, rfl⟩
  exact (deployment_id_identifies_iff (fun _ _ h => h) straight_valid hreversed).mpr
    (fun _ => ⟨fun h => absurd h.1 (by decide +kernel), rfl⟩) hid

/-- Whatever the digest function is: two manifests that exchange the binaries of the roles, and
two of which one names an encoder, have the same id. -/
theorem exchanged_roles_share_id :
    ((sampleTp crossed none).validate = .ok () ∧
      (∀ sha256, SameId sha256 (sampleTp straight none) (sampleTp crossed none)) ∧
      ¬SameDeployment (sampleTp straight none) (sampleTp crossed none)) ∧
    (sampleTp straight (some (List.replicate 64 'e'))).validate = .ok () ∧
      (∀ sha256, SameId sha256 (sampleTp straight none)
        (sampleTp straight (some (List.replicate 64 'e')))) ∧
      ¬SameDeployment (sampleTp straight none)
        (sampleTp straight (some (List.replicate 64 'e'))) := by
  have hcrossed : (sampleTp crossed none).validate = .ok () := ok_of_isOk (by decide +kernel)
  have hencoder : (sampleTp straight (some (List.replicate 64 'e'))).validate = .ok () :=
    ok_of_isOk (by decide +kernel)
  refine ⟨⟨hcrossed, fun sha256 => ?_, fun hsame => ?_⟩, hencoder, fun sha256 => ?_,
    fun hsame => ?_⟩
  · exact sameId_of_summary sha256 straight_valid hcrossed
      ⟨rfl, rfl, List.Perm.swap _ _ _, rfl, rfl, rfl, rfl⟩
  · exact absurd (hsame.binary .worker) (by decide +kernel)
  · exact sameId_of_summary sha256 straight_valid hencoder
      ⟨rfl, rfl, List.Perm.refl _, rfl, rfl, rfl, rfl⟩
  · cases congrArg ModelIdentity.encoderDigest hsame.model

end TpDeploymentManifest

end Siderostat
