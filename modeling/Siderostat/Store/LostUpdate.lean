import Siderostat.Store.Persist

/-!
# Updates of the journals and the background persistence

The background persistence writes back the journal fields it has loaded.  Inside the guard
nothing can change them between its load and its save.
-/

namespace Siderostat

namespace PersistSystem

/-- No policy or tensor-parallel update is saved while a call without the guard
stands between its load and its save. -/
def noUpdateInWindow (s : PersistSystem) : PersistEvent → Bool
  | .guardedSave ok =>
    !s.holder.any (fun held => held.1.isUpdate && s.saves (held.1.record held.2) ok) ||
      s.unguarded.isEmpty
  | _ => true

/-- The record has the journal fields of the completed updates. -/
def Carries (latest : Option JournalFields) (record : Option PersistentClusterState) : Prop :=
  ∀ fields, latest = some fields → record.map PersistentClusterState.journal = some fields

section Carries

variable {latest : Option JournalFields} {prior : Option PersistentClusterState}

theorem carries_none : Carries none prior := fun _ hfields => nomatch hfields

theorem Carries.normalize (h : Carries latest prior) :
    Carries latest (prior.map StateStore.normalize) := by
  intro fields hfields
  rw [Option.map_map]
  exact h fields hfields

theorem Carries.persistRuntimeState (h : Carries latest prior) (view : RuntimeView)
    (production : Bool) (generation : Nat) :
    Carries latest (some (view.persistRuntimeState production generation prior)) := by
  intro fields hfields
  have hprior := h fields hfields
  cases prior with
  | none => cases hprior
  | some state => exact hprior

theorem Carries.completed (h : Carries latest prior) (write : GuardedWrite) :
    Carries (completed latest (write.record prior) write) (some (write.record prior)) := by
  cases write with
  | runtime view generation => exact h.persistRuntimeState view true generation
  | policy update =>
    intro fields hfields
    cases latest with
    | none => exact hfields
    | some before =>
      have hprior := h before rfl
      cases prior with
      | none => cases hprior
      | some state =>
        have htp : (update.change state).tp = before.tp :=
          (update.change_tp state).trans
            (congrArg JournalFields.tp (Option.some.inj hprior))
        rw [← hfields]
        simp only [PersistSystem.completed, GuardedWrite.record, Option.getD_some,
          Option.map_some, PersistentClusterState.journal, htp]
  | tp journal current cells =>
    intro fields hfields
    cases latest with
    | none => exact hfields
    | some before =>
      have hprior := h before rfl
      cases prior with
      | none => cases hprior
      | some state =>
        rw [← hfields, ← Option.some.inj hprior]
        rfl

end Carries

/-- The file and every record loaded from it are up to date. -/
structure Current (s : PersistSystem) : Prop where
  sound : s.store.Sound
  file : Carries s.latest s.store.file
  holder : ∀ write prior, s.holder = some (write, prior) → Carries s.latest prior
  unguarded : ∀ view prior, (view, prior) ∈ s.unguarded → Carries s.latest prior

theorem current_start (file : Option PersistentClusterState) (generation : Nat) :
    (start file generation none).Current where
  sound := start_store_sound file generation none
  file := carries_none
  holder _ _ _ := carries_none
  unguarded _ _ _ := carries_none

theorem current_next (s : PersistSystem) (e : PersistEvent) (hinv : s.Current)
    (hg : s.noUpdateInWindow e = true) : (s.next e).Current := by
  have hsound := next_store_sound hinv.sound e
  have hrule := s.next_rule hinv.sound e
  generalize s.next e = out at hrule hsound ⊢
  cases hrule with
  | idle => exact hinv
  | queued => exact { hinv with }
  | gaveUp => exact { hinv with }
  | entered hfree harrived =>
    refine { hinv with holder := ?_ }
    intro write prior hheld
    cases hheld
    exact hinv.file.normalize
  | left => exact { hinv with holder := not_held _ }
  | @saved write prior _ hholder hnew hsaves =>
    have hfile := (hinv.holder write prior hholder).completed write
    refine { sound := hsound, file := hfile, holder := not_held _, unguarded := ?_ }
    intro view found hmem
    -- a background call leaves the fields alone; an update met no call without the guard
    cases hupdate : write.isUpdate with
    | false =>
      cases write with
      | runtime _ _ => exact hinv.unguarded view found hmem
      | policy _ => cases hupdate
      | tp _ _ _ => cases hupdate
    | true =>
      simp only [noUpdateInWindow, hholder, Option.any_some, hupdate, hsaves, Bool.and_self,
        Bool.not_true, Bool.false_or, List.isEmpty_iff] at hg
      simp only [hg, List.not_mem_nil] at hmem
  | looked =>
    refine { hinv with unguarded := ?_ }
    intro view prior hmem
    rcases List.mem_cons.mp hmem with heq | hmem
    · cases heq
      exact hinv.file.normalize
    · exact hinv.unguarded view prior hmem
  | dropped =>
    refine { hinv with unguarded := fun view prior hmem => ?_ }
    exact hinv.unguarded view prior (List.mem_of_mem_erase hmem)
  | @overwritten view prior _ hmem hnew =>
    have hfile := (hinv.unguarded view prior hmem).persistRuntimeState view false
      view.snapshot.generation
    refine { hinv with sound := hsound, file := hfile, unguarded := fun view prior hmem => ?_ }
    exact hinv.unguarded view prior (List.mem_of_mem_erase hmem)
  | moved => exact { hinv with }
  | restarted hsame _ =>
    refine { sound := hsound, file := ?_, holder := not_held _, unguarded := ?_ }
    · rw [hsame]
      exact hinv.file
    · exact fun _ _ hmem => absurd hmem List.not_mem_nil

/-- As long as no update falls into the window of a call without the guard, the file
has the journal fields of the completed updates in every state of a run. -/
theorem stored_journal_is_latest (file : Option PersistentClusterState) (generation : Nat)
    (events : List PersistEvent)
    (hwindow : Machine.Guarded (fun s e => s.noUpdateInWindow e = true) next
      (start file generation none) events) :
    ∀ s ∈ Machine.visited next (start file generation none) events,
      ∀ fields, s.latest = some fields →
        s.store.file.map PersistentClusterState.journal = some fields := by
  intro s hs
  exact (Machine.invariant_visited (fun s e hinv hg => current_next s e hinv hg)
    (current_start file generation) hwindow s hs).file

/-- The background persistence runs without the guard before a move to the forced
policy, and inside it between the intent and the end of the move. -/
def calmRun : List PersistEvent :=
  [.unguardedLoad sampleView true, .unguardedSave sampleView (some sampleRecord) true,
    .guardedLoad (.policy (.forceIntent 1 ⟨7⟩)) true, .guardedSave true,
    .readSession sampleView, .guardedLoad (.runtime sampleView 9) true, .guardedSave true,
    .guardedLoad (.policy (.forceApplied 1)) true, .guardedSave true]

theorem stored_journal_is_latest_on_calmRun :
    Machine.Guarded (fun s e => s.noUpdateInWindow e = true) next
        (start (some sampleRecord) 3 none) calmRun ∧
      (Machine.run next (start (some sampleRecord) 3 none) calmRun).latest =
        some { operatorPolicy := .forcedStandalone, appliedPolicy := .forcedStandalone
               policyEpoch := 1
               pendingOperation := some
                 { id := ⟨7⟩, kind := "force-standalone", phase := .applied
                   desired := .forcedStandalone, peerAck := true, lastFailure := none }
               tp := none } ∧
      ∀ s ∈ Machine.visited next (start (some sampleRecord) 3 none) calmRun,
        ∀ fields, s.latest = some fields →
          s.store.file.map PersistentClusterState.journal = some fields :=
  have hwindow : Machine.Guarded (fun s e => s.noUpdateInWindow e = true) next
      (start (some sampleRecord) 3 none) calmRun := by decide +kernel
  ⟨hwindow, by decide +kernel, stored_journal_is_latest (some sampleRecord) 3 calmRun hwindow⟩

/-- A call without the guard has loaded the file when the operator's intent is saved,
and then saves the automatic policy over it. -/
theorem intent_lost_to_unguarded_save :
    ∃ s ∈ Machine.visited next (start (some sampleRecord) 3 none)
        [.unguardedLoad sampleView true,
          .guardedLoad (.policy (.forceIntent 1 ⟨7⟩)) true, .guardedSave true,
          .unguardedSave sampleView (some sampleRecord) true],
      s.latest.map JournalFields.operatorPolicy = some .forcedStandalone ∧
        s.store.file.map PersistentClusterState.operatorPolicy = some .automatic ∧
        s.store.file.map PersistentClusterState.policyEpoch = some 0 ∧
        s.store.file.bind PersistentClusterState.pendingOperation = none :=
  ⟨_, Machine.run_mem_visited, by decide +kernel⟩

end PersistSystem

end Siderostat
