import Siderostat.Store.Persist

/-!
# The persisted control session generation

A record holds two generations, and a load hands out the larger one as the session generation.
The cluster generation in the file never goes back, since the store refuses an older one.
-/

namespace Siderostat

namespace PersistSystem

def loadedSession (s : PersistSystem) : Option Nat :=
  match (s.store.load .none).1 with
  | .ok found => found.map PersistentClusterState.controlSessionGeneration
  | .error _ => none

/-- The live session generation does not go back in this step. -/
def sessionKept (s : PersistSystem) (e : PersistEvent) : Bool :=
  decide (s.session ≤ (s.next e).session)

/-- The calls of the background persistence take turns, and a call without the
production runtime saves a cluster generation that has reached the live session. -/
def callsInTurn (s : PersistSystem) : PersistEvent → Bool
  | .readSession _ =>
    s.waiting.isEmpty && s.holder.all fun held => held.1.isUpdate
  | .unguardedSave view prior ok =>
    !(s.unguarded.contains (view, prior) &&
        s.saves (view.persistRuntimeState false view.snapshot.generation prior) ok) ||
      decide (s.session ≤ view.snapshot.generation)
  | _ => true

/-- A record with this session generation can replace the one in the file. -/
def Covers (generation : Nat) (store : StateStore) : Prop :=
  ∀ state, store.file = some state →
    state.controlSessionGeneration ≤ max generation state.generation

section Covers

variable {generation : Nat} {store : StateStore} {record : PersistentClusterState}

theorem covers_stored :
    Covers generation (.stored record) ↔
      record.controlSessionGeneration ≤ max generation record.generation := by
  constructor
  · exact fun h => h record rfl
  · intro h state hfile
    cases hfile
    exact h

theorem Covers.mono {later : Nat} (h : Covers generation store) (hle : generation ≤ later) :
    Covers later store := by
  intro state hfile
  have hstate := h state hfile
  omega

theorem loadedSession_of_sound {s : PersistSystem} (h : s.store.Sound) :
    s.loadedSession = s.store.file.map fun state =>
      max state.controlSessionGeneration state.generation := by
  obtain ⟨_, hload, _⟩ := StateStore.load_of_valid h.valid
  simp only [loadedSession, hload, Option.map_map]
  rfl

end Covers

/-- What the call inside the guard will write, seen from the session, the file and the
calls that wait. -/
structure Fits (s : PersistSystem) (record : PersistentClusterState) : Prop where
  file : Covers record.controlSessionGeneration s.store
  session : record.controlSessionGeneration ≤ max s.session record.generation
  waiting : ∀ call ∈ s.waiting, record.controlSessionGeneration ≤ max call.2 record.generation

structure Steady (s : PersistSystem) : Prop where
  sound : s.store.Sound
  live : Covers s.session s.store
  queued : ∀ call ∈ s.waiting, call.2 ≤ s.session ∧ Covers call.2 s.store
  single : s.waiting.length ≤ 1
  holder : ∀ write prior, s.holder = some (write, prior) → s.Fits (write.record prior)
  alone : ∀ write prior, s.holder = some (write, prior) →
    write.isUpdate = false → s.waiting = []

theorem steady_start (file : Option PersistentClusterState) (generation : Nat)
    (latest : Option JournalFields) : (start file generation latest).Steady where
  sound := start_store_sound file generation latest
  live state hfile := by
    rw [start_session hfile]
    omega
  queued _ hmem := absurd hmem List.not_mem_nil
  single := Nat.zero_le 1
  holder := not_held _
  alone := not_held _

/-! ## The steps -/

section Steps

variable {s : PersistSystem}

theorem update_record (write : GuardedWrite) (hupdate : write.isUpdate = true)
    (prior : Option PersistentClusterState) :
    (prior = none ∧
        (write.record prior).controlSessionGeneration = (write.record prior).generation) ∨
      ∃ state, prior = some state ∧
        (write.record prior).controlSessionGeneration = state.controlSessionGeneration ∧
        (write.record prior).generation = state.generation := by
  cases write with
  | runtime _ _ => cases hupdate
  | policy update =>
    cases prior with
    | none => exact .inl ⟨rfl, by cases update <;> rfl⟩
    | some state => exact .inr ⟨state, rfl, by cases update <;> rfl, by cases update <;> rfl⟩
  | tp journal current cells =>
    cases prior with
    | none => exact .inl ⟨rfl, rfl⟩
    | some state => exact .inr ⟨state, rfl, rfl, rfl⟩

variable {write : GuardedWrite}

theorem leaveQueue_subset {call : RuntimeView × Nat} (h : call ∈ s.leaveQueue write) :
    call ∈ s.waiting := by
  cases write with
  | runtime _ _ => exact List.mem_of_mem_erase h
  | policy _ => exact h
  | tp _ _ _ => exact h

theorem leaveQueue_length (write : GuardedWrite) :
    (s.leaveQueue write).length ≤ s.waiting.length := by
  cases write with
  | runtime _ _ => exact List.length_erase_le
  | policy _ => exact Nat.le_refl _
  | tp _ _ _ => exact Nat.le_refl _

theorem Steady.leaveQueue (hinv : s.Steady) (write : GuardedWrite) :
    ({ s with waiting := s.leaveQueue write } : PersistSystem).Steady where
  sound := hinv.sound
  live := hinv.live
  queued call hmem := hinv.queued call (leaveQueue_subset hmem)
  single := Nat.le_trans (leaveQueue_length write) hinv.single
  holder held prior hheld :=
    let hfits := hinv.holder held prior hheld
    { hfits with waiting := fun call hmem => hfits.waiting call (leaveQueue_subset hmem) }
  alone held prior hheld hruntime := by
    have hnone := hinv.alone held prior hheld hruntime
    refine List.eq_nil_iff_forall_not_mem.mpr fun call hmem => ?_
    have hcall := leaveQueue_subset hmem
    rw [hnone] at hcall
    exact List.not_mem_nil hcall

theorem leaveQueue_runtime (hinv : s.Steady) {view : RuntimeView} {generation : Nat}
    (hmem : (view, generation) ∈ s.waiting) :
    s.leaveQueue (.runtime view generation) = [] := by
  have hlength := List.length_erase_of_mem hmem
  have hsingle := hinv.single
  exact List.length_eq_zero_iff.mp (by simp only [PersistSystem.leaveQueue]; omega)

theorem fits_of_loaded (hinv : s.Steady) (harrived : s.arrived write = true) :
    ({ s with waiting := s.leaveQueue write } : PersistSystem).Fits
      (write.record (s.store.file.map StateStore.normalize)) := by
  cases hupdate : write.isUpdate with
  | false =>
    cases write with
    | policy _ => cases hupdate
    | tp _ _ _ => cases hupdate
    | runtime view generation =>
      have hmem : (view, generation) ∈ s.waiting := List.contains_iff_mem.mp harrived
      obtain ⟨hsession, hcovers⟩ := hinv.queued _ hmem
      refine { file := hcovers, session := ?_, waiting := fun call hcall => ?_ }
      · exact Nat.le_trans hsession (Nat.le_max_left _ _)
      · rw [leaveQueue_runtime hinv hmem] at hcall
        exact absurd hcall List.not_mem_nil
  | true =>
    rcases update_record write hupdate (s.store.file.map StateStore.normalize) with
      ⟨hprior, heq⟩ | ⟨loaded, hprior, hsession, hgeneration⟩
    · have hnone : s.store.file = none := Option.map_eq_none_iff.mp hprior
      refine { file := fun state hfile => ?_, session := ?_, waiting := fun call _ => ?_ }
      · exact nomatch hnone.symm.trans hfile
      · omega
      · omega
    · obtain ⟨state, hfile, rfl⟩ := Option.map_eq_some_iff.mp hprior
      have hlive := hinv.live state hfile
      rw [show (StateStore.normalize state).controlSessionGeneration =
        max state.controlSessionGeneration state.generation from rfl] at hsession
      rw [show (StateStore.normalize state).generation = state.generation from rfl] at hgeneration
      refine { file := fun other hother => ?_, session := ?_, waiting := fun call hcall => ?_ }
      · rw [← Option.some.inj (hfile.symm.trans hother)]
        omega
      · show _ ≤ max s.session _
        omega
      · have hcovers := (hinv.queued call (leaveQueue_subset hcall)).2 state hfile
        omega

theorem Steady.queue (hinv : s.Steady) (view : RuntimeView)
    (hturn : s.callsInTurn (.readSession view) = true) :
    Steady { s with waiting := (view, s.session) :: s.waiting } := by
  simp only [callsInTurn, Bool.and_eq_true, List.isEmpty_iff] at hturn
  refine { hinv with queued := ?_, single := ?_, holder := ?_, alone := ?_ }
  · intro call hmem
    rw [hturn.1, List.mem_singleton] at hmem
    rw [hmem]
    exact ⟨Nat.le_refl _, hinv.live⟩
  · rw [hturn.1]
    exact Nat.le_refl 1
  · intro write prior hheld
    have hfits := hinv.holder write prior hheld
    refine { hfits with waiting := fun call hmem => ?_ }
    rw [hturn.1, List.mem_singleton] at hmem
    rw [hmem]
    exact hfits.session
  · intro write prior hheld hruntime
    have hupdates := hturn.2
    rw [show s.holder = some (write, prior) from hheld, Option.all_some, hruntime] at hupdates
    cases hupdates

theorem Steady.enter (hinv : s.Steady) (harrived : s.arrived write = true) :
    Steady { s with
      waiting := s.leaveQueue write
      holder := some (write, s.store.file.map StateStore.normalize) } := by
  refine { hinv.leaveQueue write with holder := ?_, alone := ?_ }
  · intro held prior hheld
    cases hheld
    exact { fits_of_loaded hinv harrived with }
  · intro held prior hheld hruntime
    cases hheld
    cases write with
    | runtime view generation =>
      exact leaveQueue_runtime hinv (List.contains_iff_mem.mp harrived)
    | policy _ => cases hruntime
    | tp _ _ _ => cases hruntime

theorem Steady.move (hinv : s.Steady) {generation : Nat} (hkept : s.session ≤ generation) :
    Steady { s with session := generation } := by
  refine { hinv with live := hinv.live.mono hkept, queued := ?_, holder := ?_ }
  · intro call hmem
    obtain ⟨hle, hcovers⟩ := hinv.queued call hmem
    exact ⟨Nat.le_trans hle hkept, hcovers⟩
  · intro write prior hheld
    have hfits := hinv.holder write prior hheld
    refine { hfits with session := ?_ }
    have hsession := hfits.session
    simp only
    omega

theorem steady_next (e : PersistEvent) (hinv : s.Steady) (hkept : s.sessionKept e = true)
    (hturn : s.callsInTurn e = true) : (s.next e).Steady := by
  have hsound := next_store_sound hinv.sound e
  have hkept := of_decide_eq_true hkept
  have hrule := s.next_rule hinv.sound e
  generalize s.next e = out at hrule hsound hkept ⊢
  cases hrule with
  | idle => exact hinv
  | @queued view => exact hinv.queue view hturn
  | gaveUp => exact hinv.leaveQueue _
  | entered _ harrived => exact hinv.enter harrived
  | left => exact { hinv with holder := not_held _, alone := not_held _ }
  | @saved write prior _ hholder hnew =>
    have hfits := hinv.holder write prior hholder
    refine { hinv with sound := hsound, live := covers_stored.mpr hfits.session, queued := ?_,
                       holder := not_held _, alone := not_held _ }
    exact fun call hmem =>
      ⟨(hinv.queued call hmem).1, covers_stored.mpr (hfits.waiting call hmem)⟩
  | looked => exact { hinv with holder := fun write prior hheld =>
                        { hinv.holder write prior hheld with } }
  | dropped => exact { hinv with holder := fun write prior hheld =>
                        { hinv.holder write prior hheld with } }
  | @overwritten view prior _ hmem hnew =>
    -- both generations of the new record are the same, so anything covers it
    have hall : ∀ generation, Covers generation
        (.stored (view.persistRuntimeState false view.snapshot.generation prior)) :=
      fun generation => covers_stored.mpr (Nat.le_max_right _ _)
    refine { hinv with sound := hsound, live := hall _, queued := ?_, holder := ?_ }
    · exact fun call hcall => ⟨(hinv.queued call hcall).1, hall _⟩
    · exact fun write found hheld => { hinv.holder write found hheld with file := hall _ }
  | moved => exact hinv.move hkept
  | restarted hsame _ =>
    refine { sound := hsound, live := ?_, queued := fun _ hmem => absurd hmem List.not_mem_nil,
             single := Nat.zero_le 1, holder := not_held _, alone := not_held _ }
    intro state hfile
    exact hinv.live.mono hkept state (hsame ▸ hfile)

def SessionRises (earlier later : PersistSystem) : Prop :=
  ∀ generation, earlier.loadedSession = some generation →
    ∃ generation', later.loadedSession = some generation' ∧ generation ≤ generation'

theorem SessionRises.trans {a b c : PersistSystem} (hab : SessionRises a b)
    (hbc : SessionRises b c) : SessionRises a c := by
  intro generation ha
  obtain ⟨middle, hb, hle⟩ := hab generation ha
  obtain ⟨last, hc, hle'⟩ := hbc middle hb
  exact ⟨last, hc, Nat.le_trans hle hle'⟩

theorem sessionRises_of_file {t : PersistSystem} (hs : s.store.Sound) (ht : t.store.Sound)
    (h : t.store.file = s.store.file) : SessionRises s t := by
  intro generation hgeneration
  refine ⟨generation, ?_, Nat.le_refl _⟩
  rw [loadedSession_of_sound ht, h, ← loadedSession_of_sound hs]
  exact hgeneration

theorem sessionRises_of_stored {t : PersistSystem} {record : PersistentClusterState}
    (hs : s.store.Sound) (ht : t.store.Sound) (h : t.store = .stored record)
    (hnew : Replaces s.store record)
    (hcovers : Covers record.controlSessionGeneration s.store) : SessionRises s t := by
  intro generation hgeneration
  rw [loadedSession_of_sound hs, Option.map_eq_some_iff] at hgeneration
  obtain ⟨state, hfile, rfl⟩ := hgeneration
  refine ⟨max record.controlSessionGeneration record.generation, ?_, ?_⟩
  · rw [loadedSession_of_sound ht, h]
    rfl
  · have hold := hcovers state hfile
    have hfresh := hnew.fresh state hfile
    omega

theorem sessionRises_next (e : PersistEvent) (hinv : s.Steady)
    (hturn : s.callsInTurn e = true) : SessionRises s (s.next e) := by
  have hsound := next_store_sound hinv.sound e
  have hrule := s.next_rule hinv.sound e
  generalize s.next e = out at hrule hsound ⊢
  cases hrule with
  | @saved write prior _ hholder hnew =>
    exact sessionRises_of_stored hinv.sound hsound rfl hnew (hinv.holder write prior hholder).file
  | overwritten hmem hnew hsaves =>
    simp only [callsInTurn, List.contains_iff_mem.mpr hmem, hsaves, Bool.and_self, Bool.not_true,
      Bool.false_or] at hturn
    have hreached := of_decide_eq_true hturn
    exact sessionRises_of_stored hinv.sound hsound rfl hnew (hinv.live.mono hreached)
  | restarted hsame _ => exact sessionRises_of_file hinv.sound hsound hsame
  | _ => exact sessionRises_of_file hinv.sound hsound rfl

end Steps

/-- While the live session generation does not go back and the calls of the
background persistence take turns, neither does the one a load hands out. -/
theorem loaded_session_never_decreases (file : Option PersistentClusterState) (generation : Nat)
    (events : List PersistEvent)
    (hlive : Machine.Guarded (fun s e => s.sessionKept e = true) next
      (start file generation none) events)
    (hturn : Machine.Guarded (fun s e => s.callsInTurn e = true) next
      (start file generation none) events) :
    (Machine.visited next (start file generation none) events).Pairwise fun earlier later =>
      ∀ found, earlier.loadedSession = some found →
        ∃ found', later.loadedSession = some found' ∧ found ≤ found' := by
  have hboth : Machine.Guarded
      (fun s e => s.sessionKept e = true ∧ s.callsInTurn e = true) next
      (start file generation none) events := fun p hp => ⟨hlive p hp, hturn p hp⟩
  exact Machine.pairwise_visited (I := Steady) (R := SessionRises) SessionRises.trans
    (fun s e hinv hg => ⟨steady_next e hinv hg.1 hg.2, sessionRises_next e hinv hg.2⟩)
    (steady_start file generation none) hboth

def caughtUpView : RuntimeView :=
  { sampleView with
    snapshot := .new 13 .coordinator .soloStandalone .soloStandaloneReady true none }

/-- The session moves on and is persisted, the process restarts, and the cluster
generation catches up before a call without the production runtime. -/
def caughtUpRun : List PersistEvent :=
  [.sessionMoves 12, .readSession sampleView, .guardedLoad (.runtime sampleView 12) true,
    .guardedSave true, .restart 3, .unguardedLoad caughtUpView true,
    .unguardedSave caughtUpView (some (sampleView.persistRuntimeState true 12 none)) true]

theorem loaded_session_never_decreases_on_caughtUpRun :
    Machine.Guarded (fun s e => s.sessionKept e = true) next
        (start (some sampleRecord) 3 none) caughtUpRun ∧
      Machine.Guarded (fun s e => s.callsInTurn e = true) next
        (start (some sampleRecord) 3 none) caughtUpRun ∧
      (Machine.run next (start (some sampleRecord) 3 none) caughtUpRun).loadedSession = some 13 ∧
      (Machine.visited next (start (some sampleRecord) 3 none) caughtUpRun).Pairwise
        fun earlier later =>
          ∀ found, earlier.loadedSession = some found →
            ∃ found', later.loadedSession = some found' ∧ found ≤ found' :=
  have hlive : Machine.Guarded (fun s e => s.sessionKept e = true) next
      (start (some sampleRecord) 3 none) caughtUpRun := by decide +kernel
  have hturn : Machine.Guarded (fun s e => s.callsInTurn e = true) next
      (start (some sampleRecord) 3 none) caughtUpRun := by decide +kernel
  ⟨hlive, hturn, by decide +kernel,
    loaded_session_never_decreases (some sampleRecord) 3 caughtUpRun hlive hturn⟩

/-- Two calls with the production runtime; the one that read the session first saves
last. -/
def overtakenRun : List PersistEvent :=
  [.readSession sampleView, .sessionMoves 10, .readSession sampleView,
    .guardedLoad (.runtime sampleView 10) true, .guardedSave true,
    .guardedLoad (.runtime sampleView 9) true, .guardedSave true]

/-- A call without the production runtime puts the cluster generation 3 in the place of
the session generation 9, and of two calls with it the later one writes the older
session generation. -/
theorem loaded_session_goes_back :
    (start (some sampleRecord) 3 none).loadedSession = some 9 ∧
      Machine.Guarded (fun s e => s.sessionKept e = true) next (start (some sampleRecord) 3 none)
        [.unguardedLoad sampleView true, .unguardedSave sampleView (some sampleRecord) true] ∧
      (Machine.run next (start (some sampleRecord) 3 none)
        [.unguardedLoad sampleView true,
          .unguardedSave sampleView (some sampleRecord) true]).loadedSession = some 3 ∧
      Machine.Guarded (fun s e => s.sessionKept e = true) next (start (some sampleRecord) 3 none)
        overtakenRun ∧
      (Machine.run next (start (some sampleRecord) 3 none)
        (overtakenRun.take 5)).loadedSession = some 10 ∧
      (Machine.run next (start (some sampleRecord) 3 none) overtakenRun).loadedSession =
        some 9 := by
  decide +kernel

end PersistSystem

end Siderostat
