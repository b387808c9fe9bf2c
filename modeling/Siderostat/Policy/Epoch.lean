import Siderostat.Policy.Endpoint
import Siderostat.Policy.Restart

/-!
# The epoch of a node over time

The epoch stands in three places: in the cell of the node, in the journal, and in the endpoint,
which compares a request with it.  A prepare writes the first two, a commit all three.
-/

namespace Siderostat

/-! ## The epoch of the journal -/

def StateStore.epoch (store : StateStore) : Nat := (store.file.map (·.policyEpoch)).getD 0

namespace StateStore

variable {store store' : StateStore} {state : PersistentClusterState} {fault : FileFault}

theorem load_of_readable (fault : FileFault) (hvalid : store.Valid) :
    (∃ error, store.load fault = (.error error, store)) ∨
      ∃ store', store.load fault = (.ok (store.file.map normalize), store') ∧
        store'.file = store.file := by
  by_cases hread : fault = .read
  · exact .inl ⟨.io, if_pos hread⟩
  right
  cases hfile : store.file with
  | none => exact ⟨store, by simp only [load, hread, if_false, hfile, Option.map_none], hfile⟩
  | some state =>
    have hok := hvalid state hfile
    have hv1 : state.schemaVersion ≠ persistentStateSchemaVersionV1 := by
      rw [validate_version hok]
      decide
    refine ⟨{ store with lastGeneration := some state.generation }, ?_, hfile⟩
    simp only [load, hread, if_false, hfile, if_neg hv1, accept, hok, Option.map_some]

theorem save_file (state : PersistentClusterState) (fault : FileFault) (hvalid : store.Valid) :
    (store.save state fault).2.Valid ∧
      ((store.save state fault).2.file = store.file ∨
        (store.save state fault).2.file = some state) := by
  unfold save
  cases hok : state.validate with
  | error error => exact ⟨hvalid, .inl rfl⟩
  | ok _ =>
    have hstate : ∀ other, some state = some other → other.validate = .ok () := by
      intro other hother
      rw [← Option.some.inj hother]
      exact hok
    simp only
    split
    · exact ⟨hvalid, .inl rfl⟩
    · split
      · exact ⟨hvalid, .inl rfl⟩
      · exact ⟨hstate, .inr rfl⟩
      · exact ⟨hstate, .inr rfl⟩

end StateStore

/-- What a writer of the journal does to the epoch: nothing, or what it makes of the record that
was there or of the fresh one. -/
theorem rewrite_epoch {store : StateStore} (fault : FileFault) (fresh : PersistentClusterState)
    (change : PersistentClusterState → PersistentClusterState) (hvalid : store.Valid) :
    (PolicyJournal.rewrite store fault fresh change).2.Valid ∧
      ((PolicyJournal.rewrite store fault fresh change).2.epoch = store.epoch ∨
        ∃ state, (state = fresh ∨ state.policyEpoch = store.epoch) ∧
          (PolicyJournal.rewrite store fault fresh change).2.epoch =
            (change state).policyEpoch) := by
  unfold PolicyJournal.rewrite
  rcases StateStore.load_of_readable fault hvalid with ⟨error, hload⟩ | ⟨loaded, hload, hfile⟩
  · rw [hload]
    exact ⟨hvalid, .inl rfl⟩
  rw [hload]
  have hloaded : loaded.Valid := by
    intro state hstate
    rw [hfile] at hstate
    exact hvalid state hstate
  have hbase : ((store.file.map StateStore.normalize).getD fresh = fresh ∨
      ((store.file.map StateStore.normalize).getD fresh).policyEpoch = store.epoch) := by
    cases hstored : store.file with
    | none => exact .inl rfl
    | some state =>
      right
      rw [StateStore.epoch, hstored]
      rfl
  simp only
  generalize (store.file.map StateStore.normalize).getD fresh = base at hbase ⊢
  obtain ⟨hvalid', hfile'⟩ := StateStore.save_file (change base) fault hloaded
  have hout : (loaded.save (change base) fault).2.epoch = store.epoch ∨
      (loaded.save (change base) fault).2.epoch = (change base).policyEpoch := by
    rcases hfile' with hsame | hnew
    · left
      rw [StateStore.epoch, hsame, hfile, StateStore.epoch]
    · right
      rw [StateStore.epoch, hnew]
      rfl
  have hcases := hout.imp id fun h => (⟨base, hbase, h⟩ : ∃ state,
    (state = fresh ∨ state.policyEpoch = store.epoch) ∧ _ = (change state).policyEpoch)
  rcases hsave : loaded.save (change base) fault with ⟨error | _, saved⟩ <;>
    rw [hsave] at hvalid' hcases <;> exact ⟨hvalid', hcases⟩

namespace PolicyNode

def journalEpoch (node : PolicyNode) : Nat := (node.store.map StateStore.epoch).getD 0

def Readable (node : PolicyNode) : Prop := ∀ store, node.store = some store → store.Valid

section Phase

variable {node after : PolicyNode} {request : PolicyControlRequest} {eff : PhaseEffects}

variable {result : Except PolicyEffectError Unit}

theorem withStore_epoch {fault : FileFault} {fresh : PersistentClusterState}
    {change : PersistentClusterState → PersistentClusterState} (hreadable : node.Readable)
    (h : node.withStore (fun store => PolicyJournal.rewrite store fault fresh change) =
      (result, after)) :
    after.Readable ∧ (after.journalEpoch = node.journalEpoch ∨
      ∃ state, (state = fresh ∨ state.policyEpoch = node.journalEpoch) ∧
        after.journalEpoch = (change state).policyEpoch) := by
  unfold withStore at h
  cases hstore : node.store with
  | none =>
    rw [hstore] at h
    cases h
    exact ⟨hreadable, .inl rfl⟩
  | some store =>
    obtain ⟨hvalid, hepoch⟩ := rewrite_epoch fault fresh change (hreadable store hstore)
    have hbefore : node.journalEpoch = store.epoch := by
      rw [journalEpoch, hstore]
      rfl
    simp only [hstore] at h
    rcases hwrite : PolicyJournal.rewrite store fault fresh change with ⟨error | _, written⟩ <;>
      rw [hwrite] at h hvalid hepoch <;> cases h <;>
      exact ⟨fun other hother => Option.some.inj hother ▸ hvalid, hbefore ▸ hepoch⟩

/-- The journal after a phase: readable, with the epoch it had or that of the request. -/
def JournalMoves (node : PolicyNode) (epoch : Nat) (after : PolicyNode) : Prop :=
  after.Readable ∧ (after.journalEpoch = node.journalEpoch ∨ after.journalEpoch = epoch)

theorem withStore_journal {fault : FileFault} {fresh : PersistentClusterState}
    {change : PersistentClusterState → PersistentClusterState} {epoch : Nat}
    (hreadable : node.Readable) (hchange : ∀ state, (change state).policyEpoch = epoch)
    (h : node.withStore (fun store => PolicyJournal.rewrite store fault fresh change) =
      (result, after)) : node.JournalMoves epoch after := by
  obtain ⟨hafter, hepoch⟩ := withStore_epoch hreadable h
  refine ⟨hafter, hepoch.imp id ?_⟩
  rintro ⟨state, -, hnew⟩
  exact hnew.trans (hchange state)

theorem preparePolicy_journal (hreadable : node.Readable)
    (h : node.preparePolicy request eff = (result, after)) :
    node.JournalMoves request.policyEpoch after := by
  unfold preparePolicy at h
  cases hdesired : request.desired <;> simp only [hdesired] at h <;> split at h <;>
    rename_i hwrite <;> cases h
  all_goals
    have hmoves : node.JournalMoves request.policyEpoch _ :=
      withStore_journal hreadable (fun _ => rfl) hwrite
    exact hmoves

theorem commitPolicy_journal (hreadable : node.Readable)
    (h : node.commitPolicy request eff = (result, after)) :
    node.JournalMoves request.policyEpoch after := by
  unfold commitPolicy at h
  split at h
  · cases h
    exact ⟨hreadable, .inl rfl⟩
  cases hdesired : request.desired <;> simp only [hdesired] at h <;> split at h <;>
    rename_i hwrite <;> cases h
  all_goals
    have hmoves : node.JournalMoves request.policyEpoch _ :=
      withStore_journal hreadable (fun _ => rfl) hwrite
    exact hmoves

theorem resetTpBudget_journal (hreadable : node.Readable)
    (h : node.resetTpBudget eff = (result, after)) :
    node.JournalMoves node.policyEpoch after := by
  unfold resetTpBudget at h
  split at h
  · cases h
    exact ⟨hreadable, .inl rfl⟩
  · rename_i tp htp
    simp only at h
    have hreadable' : { node with tp := some { tp with failedAttempts := 0 } }.Readable := hreadable
    obtain ⟨hafter, hepoch⟩ := withStore_epoch hreadable' h
    refine ⟨hafter, ?_⟩
    rcases hepoch with hsame | ⟨state, rfl | hstate, hnew⟩
    · exact .inl hsame
    · exact .inr hnew
    · exact .inl (hnew.trans hstate)

theorem JournalMoves.trans {middle : PolicyNode} {epoch : Nat}
    (h : node.JournalMoves epoch middle) (h' : middle.JournalMoves epoch after) :
    node.JournalMoves epoch after := by
  refine ⟨h'.1, ?_⟩
  rcases h'.2 with hsame | hnew
  · rw [hsame]
    exact h.2
  · exact .inr hnew

theorem applyPolicyPhase_journal (hreadable : node.Readable) (hphase : request.phase ≠ .abort) :
    node.JournalMoves request.policyEpoch (node.applyPolicyPhase request eff).2 := by
  have hrun : ∀ result after, node.runPhase request eff = (result, after) →
      node.JournalMoves request.policyEpoch after := by
    intro result after h
    unfold runPhase at h
    cases hcase : request.phase with
    | prepare =>
      rw [hcase] at h
      exact preparePolicy_journal hreadable h
    | commit =>
      rw [hcase] at h
      exact commitPolicy_journal hreadable h
    | abort => exact absurd hcase hphase
  unfold applyPolicyPhase
  rcases hphases : node.runPhase request eff with ⟨error | _, middle⟩
  · exact hrun _ _ hphases
  have hmiddle := hrun _ _ hphases
  simp only
  by_cases hreset : node.resetsTp request = true
  · rw [if_pos hreset]
    have hcommit : request.phase = .commit := by
      simp only [resetsTp, Bool.and_eq_true, beq_iff_eq] at hreset
      exact hreset.1.1
    have hepoch : middle.policyEpoch = request.policyEpoch := by
      unfold runPhase at hphases
      rw [hcommit] at hphases
      exact congrArg PolicyCells.policyEpoch (commitPolicy_ok hphases).1
    rcases hbudget : middle.resetTpBudget eff with ⟨error | _, after⟩ <;>
      exact hmiddle.trans (hepoch ▸ resetTpBudget_journal hmiddle.1 hbudget)
  · rw [if_neg hreset]
    exact hmiddle

theorem applyPolicyPhase_abort (h : request.phase = .abort) :
    (node.applyPolicyPhase request eff).2.store = node.store := by
  have hreset : node.resetsTp request = false := resetsTp_of_phase (by rw [h]; decide)
  simp only [applyPolicyPhase, runPhase, h, hreset, Bool.false_eq_true, if_false]
  rfl

theorem applyPolicyPhase_epoch (node : PolicyNode) (request : PolicyControlRequest)
    (eff : PhaseEffects) :
    (node.applyPolicyPhase request eff).2.policyEpoch = node.policyEpoch ∨
      request.phase ≠ .abort ∧
        (node.applyPolicyPhase request eff).2.policyEpoch = request.policyEpoch := by
  have hrule := node.applyPolicyPhase_rule request eff
  generalize (node.applyPolicyPhase request eff).1 = result at hrule
  generalize (node.applyPolicyPhase request eff).2 = after at hrule ⊢
  cases hrule with
  | failed _ hcells _ => exact .inl (congrArg PolicyCells.policyEpoch hcells)
  | prepared hphase hcells _ =>
    exact .inr ⟨by rw [hphase]; decide, congrArg PolicyCells.policyEpoch hcells⟩
  | committed hphase _ hcells _ _ =>
    exact .inr ⟨by rw [hphase]; decide, congrArg PolicyCells.policyEpoch hcells⟩
  | aborted _ hcells _ =>
    left
    rw [hcells]

/-- The epoch of the endpoint only grows: a commit takes the larger one. -/
theorem applyPolicyPhase_control (node : PolicyNode) (request : PolicyControlRequest)
    (eff : PhaseEffects) :
    node.control.epoch ≤ (node.applyPolicyPhase request eff).2.control.epoch := by
  have hrule := node.applyPolicyPhase_rule request eff
  generalize (node.applyPolicyPhase request eff).1 = result at hrule
  generalize (node.applyPolicyPhase request eff).2 = after at hrule ⊢
  cases hrule with
  | failed _ _ hcontrol | prepared _ _ hcontrol | aborted _ _ hcontrol =>
    exact Nat.le_of_eq (by rw [hcontrol])
  | committed _ _ _ hcontrol =>
    rw [hcontrol]
    exact Nat.le_max_left _ _

end Phase

end PolicyNode

/-! ## The property and the guard -/

/-- Neither the cell, nor the journal, nor the epoch of the endpoint goes back. -/
structure EpochsKept (s t : Endpoint) : Prop where
  cell : s.node.policyEpoch ≤ t.node.policyEpoch
  journal : s.node.journalEpoch ≤ t.node.journalEpoch
  control : s.node.control.epoch ≤ t.node.control.epoch

theorem EpochsKept.trans {s t u : Endpoint} (h : EpochsKept s t) (h' : EpochsKept t u) :
    EpochsKept s u where
  cell := Nat.le_trans h.cell h'.cell
  journal := Nat.le_trans h.journal h'.journal
  control := Nat.le_trans h.control h'.control

/-- A prepare or commit that takes effect on the cells has an epoch that is not below the one of
the node, and one that replaces the file has an epoch that is not below the one of the journal. -/
def epochGuard (s : Endpoint) : EndpointEvent → Prop
  | .finish i eff =>
    ∀ request ∈ s.underWay[i]?, request.phase ≠ .abort →
      (s.node.moves request eff → s.node.policyEpoch ≤ request.policyEpoch) ∧
        ((s.node.applyPolicyPhase request eff).2.store ≠ s.node.store →
          s.node.journalEpoch ≤ request.policyEpoch)
  | _ => True

instance (s : Endpoint) (event : EndpointEvent) : Decidable (epochGuard s event) :=
  match event with
  | .receive _ | .finish _ _ | .cancel _ => by
    dsimp only [epochGuard]
    infer_instance

theorem receive_node (hash : BodyHash) (s : Endpoint) (request : PolicyControlRequest) :
    (s.receive hash request).node.store = s.node.store ∧
      (s.receive hash request).node.policyEpoch = s.node.policyEpoch ∧
      (s.receive hash request).node.control.epoch = s.node.control.epoch := by
  unfold Endpoint.receive
  have hrule := s.node.control.validate_rule hash request
  revert hrule
  generalize s.node.control.validate hash request true = out
  obtain ⟨verdict, control⟩ := out
  intro hrule
  cases hrule <;> exact ⟨rfl, rfl, rfl⟩

theorem epochsKept_of_same {s t : Endpoint} (hreadable : s.node.Readable)
    (hstore : t.node.store = s.node.store) (hepoch : t.node.policyEpoch = s.node.policyEpoch)
    (hcontrol : s.node.control.epoch ≤ t.node.control.epoch) :
    t.node.Readable ∧ EpochsKept s t := by
  have hjournal : t.node.journalEpoch = s.node.journalEpoch := by
    rw [PolicyNode.journalEpoch, hstore, PolicyNode.journalEpoch]
  exact ⟨fun store h => hreadable store (hstore ▸ h), Nat.le_of_eq hepoch.symm,
    Nat.le_of_eq hjournal.symm, hcontrol⟩

theorem epochsKept_finish {s : Endpoint} {i : Nat} {eff : PhaseEffects}
    (hreadable : s.node.Readable) (hguard : epochGuard s (.finish i eff)) :
    (s.finish i eff).node.Readable ∧ EpochsKept s (s.finish i eff) := by
  cases hrequest : s.underWay[i]? with
  | none =>
    have hsame : s.finish i eff = s := by
      unfold Endpoint.finish
      rw [hrequest]
    rw [hsame]
    exact ⟨hreadable, Nat.le_refl _, Nat.le_refl _, Nat.le_refl _⟩
  | some request =>
    have hnode : (s.finish i eff).node = (s.node.applyPolicyPhase request eff).2 := by
      unfold Endpoint.finish
      rw [hrequest]
      rfl
    have hcontrol : s.node.control.epoch ≤ (s.finish i eff).node.control.epoch := by
      rw [hnode]
      exact s.node.applyPolicyPhase_control request eff
    by_cases habort : request.phase = .abort
    · refine epochsKept_of_same hreadable ?_ ?_ hcontrol
      · rw [hnode, PolicyNode.applyPolicyPhase_abort habort]
      · rw [hnode]
        rcases s.node.applyPolicyPhase_epoch request eff with hsame | ⟨hphase, _⟩
        · exact hsame
        · exact absurd habort hphase
    · obtain ⟨hcell, hjournal⟩ := hguard request hrequest habort
      obtain ⟨hafter, hmoves⟩ := PolicyNode.applyPolicyPhase_journal hreadable habort
      refine ⟨hnode ▸ hafter, ?_, ?_, hcontrol⟩
      · rw [hnode]
        by_cases hcells : s.node.moves request eff
        · have hcell := hcell hcells
          rcases s.node.applyPolicyPhase_epoch request eff with hsame | ⟨_, hnew⟩ <;> omega
        · exact Nat.le_of_eq (by rw [Decidable.not_not.mp hcells])
      · rw [hnode]
        by_cases hstore : (s.node.applyPolicyPhase request eff).2.store = s.node.store
        · exact Nat.le_of_eq (by rw [PolicyNode.journalEpoch, PolicyNode.journalEpoch, hstore])
        · have hjournal := hjournal hstore
          rcases hmoves with hsame | hnew <;> omega

theorem epochsKept_step (hash : BodyHash) (s : Endpoint) (event : EndpointEvent)
    (hreadable : s.node.Readable) (hguard : epochGuard s event) :
    (s.step hash event).node.Readable ∧ EpochsKept s (s.step hash event) := by
  cases event with
  | receive request =>
    obtain ⟨hstore, hepoch, hcontrol⟩ := receive_node hash s request
    exact epochsKept_of_same hreadable hstore hepoch (Nat.le_of_eq hcontrol.symm)
  | finish i eff => exact epochsKept_finish hreadable hguard
  | cancel i => exact epochsKept_of_same hreadable rfl rfl (Nat.le_refl _)

/-- In a run of the endpoint in which no phase is run below the epoch of the node or of its
journal, neither ever goes back. -/
theorem policy_epoch_never_decreases (hash : BodyHash) {file : Option PersistentClusterState}
    {tp : Option PersistentTpState} {node : PolicyNode} (hboot : PolicyNode.boot file tp = .ok node)
    {events : List EndpointEvent}
    (hguard : Machine.Guarded epochGuard (Endpoint.step hash) (Endpoint.init node) events) :
    (Machine.visited (Endpoint.step hash) (Endpoint.init node) events).Pairwise EpochsKept := by
  obtain ⟨store, hjournaled⟩ := journaled_of_boot hboot
  have hreadable : (Endpoint.init node).node.Readable := by
    intro other hother
    rw [← Option.some.inj (hjournaled.attached.symm.trans hother)]
    exact hjournaled.valid
  exact Machine.pairwise_visited
    (fun h h' => h.trans h')
    (fun s event hs he => epochsKept_step hash s event hs he) hreadable hguard

def preparedAt (n epoch : Nat) : PolicyControlRequest where
  protocolVersion := policyControlProtocolVersion
  policyEpoch := epoch
  operationId := ⟨n⟩
  phase := .prepare
  desired := .automatic

/-- A prepare that fails after the file was replaced, and then a higher one. -/
theorem policy_epoch_never_decreases_failedPrepare :
    (Machine.visited (Endpoint.step fun epoch _ _ => epoch) (Endpoint.init PolicyNode.firstStart)
      [.receive (preparedAt 0 3), .finish 0 { journal := .afterRename },
        .receive (preparedAt 1 4), .finish 0 {}]).Pairwise EpochsKept :=
  @policy_epoch_never_decreases _ none none _ rfl _ (by decide)

/-- A prepare at epoch 10 and then one at epoch 5: the endpoint takes both. -/
theorem lower_prepare_takes_epoch_back :
    ¬(Machine.visited (Endpoint.step fun epoch _ _ => epoch)
      (Endpoint.init PolicyNode.firstStart)
      [.receive (preparedAt 0 10), .finish 0 {}, .receive (preparedAt 1 5),
        .finish 0 {}]).Pairwise EpochsKept := by
  intro h
  have hlast := List.pairwise_iff_getElem.mp h 2 4 (by decide) (by decide) (by decide)
  exact absurd hlast.cell (by decide)

end Siderostat
