import Siderostat.Lib.Machine

/-!
# The connection mode menu

A menu click posts the chosen policy, unless a job is pending, and polls of jobs update the menu.
Each click and each poll runs under the lock of the menu.
-/

namespace Siderostat.Monitor

inductive ConnectionPolicy where
  | automatic
  | forcedStandalone
deriving DecidableEq

def ConnectionPolicy.displayName : ConnectionPolicy → String
  | .automatic => "Automatic"
  | .forcedStandalone => "Forced Standalone"

structure NodeResult where
  node : String
  state : String
  error : String
deriving DecidableEq

structure PendingJob where
  jobId : String
  policy : ConnectionPolicy
  phase : String
  nodeResults : List NodeResult
deriving DecidableEq

structure AppliedPolicy where
  policy : ConnectionPolicy
  topology : String
deriving DecidableEq

inductive PolicyApiError where
  | busy (reason : String)
  | other (reason : String)
deriving DecidableEq

structure ConnectionModeUi where
  selected : Option ConnectionPolicy
  pending : Option PendingJob
  applied : Option AppliedPolicy
  busyReason : Option String

abbrev PolicyApi := ConnectionPolicy → Nat → Except PolicyApiError PendingJob

namespace ConnectionModeUi

def new : ConnectionModeUi where
  selected := none
  pending := none
  applied := none
  busyReason := none

def posted (ui : ConnectionModeUi) (policy : ConnectionPolicy)
    (answer : Except PolicyApiError PendingJob) : ConnectionModeUi :=
  match answer with
  | .ok job => { ui with selected := some policy, pending := some job, busyReason := none }
  | .error (.busy reason) => { ui with selected := some policy, busyReason := some reason }
  | .error (.other _) => { ui with selected := some policy, busyReason := none }

def select (ui : ConnectionModeUi) (policy : ConnectionPolicy) (expectedGeneration : Nat)
    (api : PolicyApi) : Except PolicyApiError PendingJob × ConnectionModeUi :=
  match ui.pending with
  | some pending =>
    if pending.policy = policy then
      (.ok pending, { ui with selected := some policy, busyReason := none })
    else
      (.error (.busy "another connection-mode operation is in progress"),
        { ui with
          selected := some policy
          busyReason :=
            some ("別の接続モード適用が進行中です（" ++ pending.policy.displayName ++ "）") })
  | none => (api policy expectedGeneration, ui.posted policy (api policy expectedGeneration))

def applyPoll (ui : ConnectionModeUi) (job : PendingJob) : ConnectionModeUi :=
  if job.phase = "succeeded" then
    { ui with
      pending := none
      applied := some
        { policy := job.policy, topology := (ui.applied.map (·.topology)).getD "solo" }
      busyReason := none }
  else if job.phase = "failed" then { ui with pending := none, busyReason := none }
  else { ui with pending := some job, busyReason := none }

end ConnectionModeUi

/-! ## Clicks and polls in any order -/

inductive MenuEvent where
  | select (policy : ConnectionPolicy) (expectedGeneration : Nat) (api : PolicyApi)
  | poll (job : PendingJob)

/-- The menu, the jobs that POSTs were answered with, and those whose end was polled. -/
structure Menu where
  ui : ConnectionModeUi
  posts : List String
  finished : List String

def PendingJob.terminal (job : PendingJob) : Bool :=
  job.phase = "succeeded" || job.phase = "failed"

namespace Menu

def new : Menu := ⟨.new, [], []⟩

/-- The job a click is answered with, if it leads to a POST. -/
def answer (s : Menu) : MenuEvent → Option PendingJob
  | .select policy generation api =>
    if s.ui.pending.isSome then none else (api policy generation).toOption
  | .poll _ => none

def next (s : Menu) (event : MenuEvent) : Menu :=
  match event with
  | .select policy generation api =>
    { s with
      ui := (s.ui.select policy generation api).2
      posts := s.posts ++ (s.answer event).toList.map (·.jobId) }
  | .poll job =>
    { s with
      ui := s.ui.applyPoll job
      finished := s.finished ++ if job.terminal then [job.jobId] else [] }

/-- The pending job is `id`. -/
def Awaits (s : Menu) (id : String) : Prop := ∃ job, s.ui.pending = some job ∧ job.jobId = id

/-- What the menu is to do with one event. -/
def Sound (s : Menu) : MenuEvent → Prop
  | .select policy generation api =>
    (∀ job, (s.ui.select policy generation api).1 = .ok job → job.jobId ∉ s.finished) ∧
      ∀ job, s.ui.pending = some job → job.policy ≠ policy → job.jobId ∉ s.finished
  | .poll job => ¬s.Awaits job.jobId →
    (s.ui.applyPoll job).pending = s.ui.pending ∧ (s.ui.applyPoll job).applied = s.ui.applied

def PostedOnce (s : Menu) : Prop := ∀ id, s.Awaits id → s.posts.count id ≤ 1

/-- A POST is answered with a job whose end has not been polled; a poll is one of the pending job,
or nothing is pending and the job has failed or its policy is applied already. -/
def Expected (s : Menu) : MenuEvent → Prop
  | .select policy generation api => ∀ job ∈ s.answer (.select policy generation api),
    job.jobId ∉ s.finished
  | .poll job => s.Awaits job.jobId ∨ s.ui.pending = none ∧
    (job.phase = "failed" ∨ job.phase = "succeeded" ∧
      ∃ applied, s.ui.applied = some applied ∧ applied.policy = job.policy)

structure Inv (s : Menu) : Prop where
  pending : ∀ id, s.Awaits id → id ∉ s.finished
  posted : ∀ id ∈ s.posts, id ∈ s.finished ∨ s.Awaits id
  once : s.posts.Nodup

variable {s : Menu}

theorem inv_select (h : Inv s) (policy : ConnectionPolicy) (generation : Nat) (api : PolicyApi)
    (hexpected : s.Expected (.select policy generation api)) :
    Inv (s.next (.select policy generation api)) := by
  cases hpending : s.ui.pending with
  | some job =>
    have hanswer : s.answer (.select policy generation api) = none := by simp [answer, hpending]
    have hsame : (s.ui.select policy generation api).2.pending = s.ui.pending := by
      unfold ConnectionModeUi.select
      rw [hpending]
      by_cases hpolicy : job.policy = policy
      · simp [hpolicy]
      · simp [hpolicy]
    have hawaits (id : String) :
        (s.next (.select policy generation api)).Awaits id ↔ s.Awaits id := by
      simp only [Awaits, next, hsame]
    refine ⟨fun id hid => h.pending id ((hawaits id).mp hid), fun id hid => ?_, ?_⟩
    · rw [hawaits]
      exact h.posted id (by simpa [next, hanswer] using hid)
    · simpa [next, hanswer] using h.once
  | none =>
    have hnone (id : String) : ¬s.Awaits id := by simp [Awaits, hpending]
    cases hapi : api policy generation with
    | error error =>
      have hstill : (s.next (.select policy generation api)).ui.pending = none := by
        cases error <;>
          simp [next, ConnectionModeUi.select, ConnectionModeUi.posted, hpending, hapi]
      have hposts : (s.next (.select policy generation api)).posts = s.posts := by
        simp [next, answer, hpending, hapi, Except.toOption]
      refine ⟨fun id ⟨job, hjob, _⟩ => ?_, fun id hid => ?_, ?_⟩
      · rw [hstill] at hjob
        cases hjob
      · exact .inl ((h.posted id (hposts ▸ hid)).resolve_right (hnone id))
      · rw [hposts]
        exact h.once
    | ok job =>
      have hanswer : s.answer (.select policy generation api) = some job := by
        simp [answer, hpending, hapi, Except.toOption]
      have hnow : (s.next (.select policy generation api)).ui.pending = some job := by
        simp [next, ConnectionModeUi.select, ConnectionModeUi.posted, hpending, hapi]
      have hposts : (s.next (.select policy generation api)).posts = s.posts ++ [job.jobId] := by
        simp [next, hanswer]
      have hnew : job.jobId ∉ s.finished := hexpected job hanswer
      have hfresh : job.jobId ∉ s.posts := fun hmem =>
        (h.posted _ hmem).elim hnew (hnone _)
      refine ⟨fun id ⟨found, hfound, hid⟩ => ?_, fun id hid => ?_, ?_⟩
      · rw [hnow] at hfound
        cases hfound
        exact hid ▸ hnew
      · rw [hposts, List.mem_append, List.mem_singleton] at hid
        rcases hid with hid | rfl
        · exact .inl ((h.posted id hid).resolve_right (hnone id))
        · exact .inr ⟨job, hnow, rfl⟩
      · rw [hposts]
        exact List.nodup_append.mpr ⟨h.once, List.pairwise_singleton _ _, by
          rintro id hid _ hmem rfl
          exact hfresh (List.mem_singleton.mp hmem ▸ hid)⟩

theorem applyPoll_pending (ui : ConnectionModeUi) (job : PendingJob) :
    (ui.applyPoll job).pending = if job.terminal then none else some job := by
  unfold ConnectionModeUi.applyPoll PendingJob.terminal
  by_cases hsucceeded : job.phase = "succeeded"
  · simp [hsucceeded]
  · by_cases hfailed : job.phase = "failed"
    · simp [hfailed]
    · simp [hsucceeded, hfailed]

theorem inv_poll (h : Inv s) (job : PendingJob) (hexpected : s.Expected (.poll job)) :
    Inv (s.next (.poll job)) := by
  cases hterminal : job.terminal with
  | true =>
    have hnone (id : String) : ¬(s.next (.poll job)).Awaits id := by
      simp [Awaits, next, applyPoll_pending, hterminal]
    have hother (id : String) (hid : s.Awaits id) : id = job.jobId := by
      obtain ⟨pending, hpending, rfl⟩ := hid
      rcases hexpected with ⟨found, hfound, hsame⟩ | ⟨hempty, -⟩
      · rw [hpending] at hfound
        cases hfound
        exact hsame
      · rw [hpending] at hempty
        cases hempty
    refine ⟨fun id hid => absurd hid (hnone id), fun id hid => .inl ?_, h.once⟩
    simp only [next, hterminal, if_true, List.mem_append, List.mem_singleton]
    exact (h.posted id hid).imp_right (hother id)
  | false =>
    obtain ⟨pending, hpending, hid⟩ : s.Awaits job.jobId := by
      rcases hexpected with hawaits | ⟨-, hfailed | ⟨hsucceeded, -⟩⟩
      · exact hawaits
      · simp [PendingJob.terminal, hfailed] at hterminal
      · simp [PendingJob.terminal, hsucceeded] at hterminal
    have hawaits (id : String) : (s.next (.poll job)).Awaits id ↔ s.Awaits id := by
      simp [Awaits, next, applyPoll_pending, hterminal, hpending, hid]
    refine ⟨fun id hid => ?_, fun id hid => ?_, h.once⟩
    · simpa [next, hterminal] using h.pending id ((hawaits id).mp hid)
    · rw [hawaits]
      simpa [next, hterminal] using h.posted id hid

theorem inv_next (h : Inv s) (event : MenuEvent) (hexpected : s.Expected event) :
    Inv (s.next event) := by
  cases event with
  | select policy generation api => exact inv_select h policy generation api hexpected
  | poll job => exact inv_poll h job hexpected

theorem sound_of_inv (h : Inv s) (event : MenuEvent) (hexpected : s.Expected event) :
    s.Sound event := by
  cases event with
  | select policy generation api =>
    refine ⟨fun job hjob => ?_, fun job hpending _ => h.pending _ ⟨job, hpending, rfl⟩⟩
    unfold ConnectionModeUi.select at hjob
    cases hpending : s.ui.pending with
    | none =>
      rw [hpending] at hjob
      refine hexpected job ?_
      change api policy generation = _ at hjob
      simp [answer, hpending, hjob, Except.toOption]
    | some pending =>
      rw [hpending] at hjob
      by_cases hpolicy : pending.policy = policy
      · simp only [hpolicy, if_true, Except.ok.injEq] at hjob
        exact h.pending _ ⟨pending, hpending, hjob ▸ rfl⟩
      · simp [hpolicy] at hjob
  | poll job =>
    intro hother
    obtain ⟨hpending, hphase⟩ := hexpected.resolve_left hother
    rcases hphase with hfailed | ⟨hsucceeded, applied, happlied, hpolicy⟩
    · simp [ConnectionModeUi.applyPoll, hfailed, hpending]
    · simp [ConnectionModeUi.applyPoll, hsucceeded, hpending, happlied, ← hpolicy]

theorem inv_new : Inv new where
  pending id hid := by simp [Awaits, new, ConnectionModeUi.new] at hid
  posted := by simp [new]
  once := List.nodup_nil

/-- As long as only expected polls and answers arrive, a finished job is never returned and never
blocks a click, a poll of another job changes nothing, and one POST was made for a pending job. -/
theorem menu_keeps_to_pending_job (events : List MenuEvent)
    (h : Machine.Guarded Expected next new events) :
    (∀ p ∈ Machine.steps next new events, p.1.Sound p.2) ∧
    ∀ s ∈ Machine.visited next new events, s.PostedOnce := by
  have hinv := Machine.invariant_steps (I := Inv) (fun _ e hs he => inv_next hs e he) inv_new h
  refine ⟨fun p hp => sound_of_inv (hinv p hp) p.2 (h p hp), fun s hs id _ => ?_⟩
  have hs' := Machine.invariant_visited (I := Inv) (fun _ e hs he => inv_next hs e he) inv_new h
  exact List.nodup_iff_count.mp (hs' s hs).once id

/-! ## Late polls -/

def job (id phase : String) : PendingJob := ⟨id, .automatic, phase, []⟩

def click (id : String) : MenuEvent := .select .automatic 1 fun _ _ => .ok (job id "running")

/-- A click, the end of its job and another click. -/
theorem menu_keeps_to_pending_job_twice :
    let s := Machine.run next new [click "1", .poll (job "1" "succeeded"), click "2"]
    s.ui.pending = some (job "2" "running") ∧ s.PostedOnce := by
  refine ⟨rfl, (menu_keeps_to_pending_job _ ?_).2 _ Machine.run_mem_visited⟩
  simp [Machine.Guarded, Machine.steps, Expected, answer, next, new, click, job, Awaits,
    ConnectionModeUi.new, ConnectionModeUi.select, ConnectionModeUi.posted,
    ConnectionModeUi.applyPoll, PendingJob.terminal, Except.toOption]

/-- A poll of the running job that arrives after its end brings the job back, and the end of
another job makes the menu forget a pending one, which is then posted again. -/
theorem late_poll_brings_job_back :
    let s := Machine.run next new
      [click "1", .poll (job "1" "succeeded"), .poll (job "1" "running")]
    "1" ∈ s.finished ∧ (s.ui.select .automatic 1 fun _ _ => .ok (job "2" "running")).1 =
      .ok (job "1" "running") ∧
    let t := Machine.run next new [click "2", .poll (job "1" "succeeded"), click "2"]
    t.ui.pending = some (job "2" "running") ∧ t.posts.count "2" = 2 :=
  ⟨by decide, rfl, rfl, by decide⟩

/-- POSTs beyond those whose end was polled; the pending job accounts for one. -/
def Paced (s : Menu) : Prop := s.posts.length ≤ s.finished.length + s.ui.pending.isSome.toNat

theorem paced_next (s : Menu) (event : MenuEvent) (h : s.Paced) : (s.next event).Paced := by
  unfold Paced at h ⊢
  cases event with
  | select policy generation api =>
    cases hpending : s.ui.pending with
    | some job =>
      by_cases hpolicy : job.policy = policy <;>
        simpa [next, answer, ConnectionModeUi.select, hpending, hpolicy] using h
    | none =>
      cases hapi : api policy generation with
      | error error =>
        cases error <;> simpa [next, answer, ConnectionModeUi.select, ConnectionModeUi.posted,
          hpending, hapi, Except.toOption] using h
      | ok job =>
        simpa [next, answer, ConnectionModeUi.select, ConnectionModeUi.posted, hpending, hapi,
          Except.toOption] using h
  | poll job =>
    have hpending := s.ui.pending.isSome.toNat_le
    cases hterminal : job.terminal <;> simp [next, applyPoll_pending, hterminal] <;> omega

/-- However late polls arrive, every POST after the first follows the polled end of a job. -/
theorem posts_follow_polled_ends (events : List MenuEvent) :
    let s := Machine.run next new events
    s.posts.length ≤ s.finished.length + s.ui.pending.isSome.toNat :=
  Machine.invariant_always (I := Paced) paced_next (Nat.le_refl _) _ Machine.run_mem_visited

end Menu

end Siderostat.Monitor
