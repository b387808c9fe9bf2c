import Siderostat.Manager.Jobs

/-!
# The life of a job

The index lists the jobs in progress as long as no call comes too late: a cancel for a job that
is closed opens it again in the table of the jobs, and the index does not notice.
-/

namespace Siderostat.Manager

/-! ## Ids -/

theorem JobKind.dash_notMem_asStr (kind : JobKind) : '-' ∉ kind.asStr := by
  cases kind <;> decide +kernel

theorem jobId_inj {kind other : JobKind} {m n : Nat} (h : jobId kind m = jobId other n) :
    kind.asStr = other.asStr ∧ m = n := by
  have hparts := (List.append_cons_inj_of_notMem kind.dash_notMem_asStr
    (Text.dash_notMem_decimal m)).mp h
  exact ⟨hparts.1, Text.decimal_inj hparts.2.2⟩

namespace JobJournal

/-- Every job is listed under its own id, which was given out before. -/
def Named (journal : JobJournal) : Prop :=
  ∀ id job, journal.jobs.lookup id = some job →
    job.id = id ∧ ∃ n < journal.nextId, id = jobId job.kind n

variable {journal : JobJournal} {job : ManagerJob}

theorem Named.fresh (h : journal.Named) (kind : JobKind) :
    journal.jobs.lookup (jobId kind journal.nextId) = none := by
  refine Option.eq_none_iff_forall_ne_some.mpr fun job hjob => ?_
  obtain ⟨-, n, hlt, hid⟩ := h _ job hjob
  have heq : journal.nextId = n := (jobId_inj hid).2
  omega

theorem Named.update (h : journal.Named) {id : Text} {after : ManagerJob}
    (hjob : journal.jobs.lookup id = some job) (hid : after.id = job.id)
    (hkind : after.kind = job.kind) :
    Named { journal with jobs := journal.jobs.insert id after } := by
  intro other found hfound
  rcases lookup_insert_eq_some.mp hfound with ⟨rfl, rfl⟩ | ⟨-, hother⟩
  · rw [hid, hkind]
    exact h other job hjob
  · exact h other found hother

theorem Named.create {journal : JobJournal} (h : journal.Named) (now : Nat) (kind : JobKind)
    (payloadKey : Text) : (journal.create now kind payloadKey).Named := by
  intro other found hfound
  rcases lookup_insert_eq_some.mp hfound with ⟨rfl, rfl⟩ | ⟨-, hother⟩
  · exact ⟨rfl, journal.nextId, Nat.lt_succ_self _, rfl⟩
  · obtain ⟨hid, n, hlt, heq⟩ := h other found hother
    exact ⟨hid, n, Nat.lt_succ_of_lt hlt, heq⟩

theorem Named.next {journal : JobJournal} (h : journal.Named) (call : Call) :
    (journal.next call).Named := by
  have hrule := next_rule journal call
  generalize journal.next call = after at hrule ⊢
  cases hrule with
  | unchanged => exact h
  | created kind payloadKey _ _ _ => exact h.create call.now kind payloadKey
  | cancelled id job _ hjob => exact h.update hjob rfl rfl
  | succeeded id job _ hjob => exact h.update hjob rfl rfl
  | failed id error job _ hjob => exact h.update hjob rfl rfl

/-! ## The index -/

def Open (journal : JobJournal) (id : Text) : Prop :=
  ∃ job, journal.jobs.lookup id = some job ∧ job.phase.inProgress = true

def Indexed (journal : JobJournal) : Prop :=
  ∀ id, (∃ key, journal.runningByKey.lookup key = some id) ↔ journal.Open id

theorem open_insert {id other : Text} :
    Open { journal with jobs := journal.jobs.insert id job } other ↔
      other = id ∧ job.phase.inProgress = true ∨ other ≠ id ∧ journal.Open other := by
  constructor
  · rintro ⟨found, hfound, hphase⟩
    rcases lookup_insert_eq_some.mp hfound with ⟨heq, rfl⟩ | ⟨hne, hother⟩
    · exact Or.inl ⟨heq, hphase⟩
    · exact Or.inr ⟨hne, found, hother, hphase⟩
  · rintro (⟨rfl, hphase⟩ | ⟨hne, found, hother, hphase⟩)
    · exact ⟨job, AList.lookup_insert journal.jobs, hphase⟩
    · exact ⟨found, lookup_insert_eq_some.mpr (Or.inr ⟨hne, hother⟩), hphase⟩

theorem Indexed.create {journal : JobJournal} (hnamed : journal.Named) (h : journal.Indexed)
    (now : Nat) (kind : JobKind) {payloadKey : Text}
    (hfree : journal.runningByKey.lookup payloadKey = none) :
    (journal.create now kind payloadKey).Indexed := by
  intro id
  have hopen : (journal.create now kind payloadKey).Open id ↔
      id = jobId kind journal.nextId ∧ true = true ∨
        id ≠ jobId kind journal.nextId ∧ journal.Open id := open_insert
  rw [hopen]
  constructor
  · rintro ⟨key, hkey⟩
    rcases lookup_insert_eq_some.mp hkey with ⟨-, rfl⟩ | ⟨-, hold⟩
    · exact Or.inl ⟨rfl, rfl⟩
    · have hold' : journal.Open id := (h id).mp ⟨key, hold⟩
      refine Or.inr ⟨fun heq => ?_, hold'⟩
      obtain ⟨job, hjob, -⟩ := hold'
      rw [heq, hnamed.fresh kind] at hjob
      exact absurd hjob.symm (Option.some_ne_none job)
  · rintro (⟨rfl, -⟩ | ⟨-, hold⟩)
    · exact ⟨payloadKey, AList.lookup_insert _⟩
    · obtain ⟨key, hkey⟩ := (h id).mpr hold
      refine ⟨key, lookup_insert_eq_some.mpr (Or.inr ⟨fun heq => ?_, hkey⟩)⟩
      rw [heq, hfree] at hkey
      exact absurd hkey.symm (Option.some_ne_none id)

theorem Indexed.update (h : journal.Indexed) {id : Text} (hopen : journal.Open id)
    (hphase : job.phase.inProgress = true) :
    Indexed { journal with jobs := journal.jobs.insert id job } := by
  intro other
  rw [open_insert]
  refine (h other).trans ?_
  by_cases heq : other = id
  · subst heq
    exact ⟨fun _ => Or.inl ⟨rfl, hphase⟩, fun _ => hopen⟩
  · exact ⟨fun hother => Or.inr ⟨heq, hother⟩,
      fun hor => hor.elim (fun hand => absurd hand.1 heq) And.right⟩

theorem Indexed.close (h : journal.Indexed) {id : Text} (hphase : job.phase.inProgress = false) :
    (releaseKey { journal with jobs := journal.jobs.insert id job } id).Indexed := by
  intro other
  have hopen : Open (releaseKey { journal with jobs := journal.jobs.insert id job } id) other ↔
      other = id ∧ job.phase.inProgress = true ∨ other ≠ id ∧ journal.Open other := open_insert
  rw [hopen]
  constructor
  · rintro ⟨key, hkey⟩
    obtain ⟨hold, hne⟩ := lookup_releaseKey_eq_some.mp hkey
    exact Or.inr ⟨hne, (h other).mp ⟨key, hold⟩⟩
  · rintro (⟨-, hrun⟩ | ⟨hne, hold⟩)
    · rw [hphase] at hrun
      exact Bool.noConfusion hrun
    · obtain ⟨key, hkey⟩ := (h other).mpr hold
      exact ⟨key, lookup_releaseKey_eq_some.mpr ⟨hkey, hne⟩⟩

end JobJournal

/-! ## Calls in time -/

/-- The call does not come too late: a job that is closed is not cancelled, and not closed again
the other way. -/
def Timely (journal : JobJournal) (call : Call) : Prop :=
  match call.op with
  | .enqueue _ _ => True
  | .submit _ => True
  | .cancel id => ∀ job ∈ journal.jobs.lookup id, job.phase.inProgress = true
  | .succeed id => ∀ job ∈ journal.jobs.lookup id, job.phase ≠ .failed
  | .fail id _ => ∀ job ∈ journal.jobs.lookup id, job.phase ≠ .succeeded

instance (journal : JobJournal) (call : Call) : Decidable (Timely journal call) := by
  unfold Timely
  split <;> infer_instance

namespace Timely

variable {journal : JobJournal} {call : Call} {id error : Text} {job : ManagerJob}

theorem cancel (h : Timely journal call) (hop : call.op = .cancel id)
    (hjob : journal.jobs.lookup id = some job) : job.phase.inProgress = true := by
  rw [Timely, hop] at h
  exact h job hjob

theorem succeed (h : Timely journal call) (hop : call.op = .succeed id)
    (hjob : journal.jobs.lookup id = some job) : job.phase ≠ .failed := by
  rw [Timely, hop] at h
  exact h job hjob

theorem fail (h : Timely journal call) (hop : call.op = .fail id error)
    (hjob : journal.jobs.lookup id = some job) : job.phase ≠ .succeeded := by
  rw [Timely, hop] at h
  exact h job hjob

end Timely

/-- What holds of the journal between the calls. -/
structure Sound (journal : JobJournal) : Prop where
  named : journal.Named
  indexed : journal.Indexed

theorem sound_new : Sound .new where
  named := fun _ _ hjob => absurd hjob.symm (Option.some_ne_none _)
  indexed := fun id =>
    ⟨fun ⟨_, hkey⟩ => absurd hkey.symm (Option.some_ne_none id),
      fun ⟨job, hjob, _⟩ => absurd hjob.symm (Option.some_ne_none job)⟩

theorem Sound.next {journal : JobJournal} (h : Sound journal) {call : Call}
    (hcancel : ∀ {id job}, call.op = .cancel id → journal.jobs.lookup id = some job →
      job.phase.inProgress = true) : Sound (journal.next call) := by
  refine ⟨h.named.next call, ?_⟩
  have hrule := next_rule journal call
  generalize journal.next call = after at hrule ⊢
  cases hrule with
  | unchanged => exact h.indexed
  | created kind payloadKey _ hfree _ => exact h.indexed.create h.named call.now kind hfree
  | cancelled id job hop hjob => exact h.indexed.update ⟨job, hjob, hcancel hop hjob⟩ rfl
  | succeeded id job _ hjob => exact h.indexed.close rfl
  | failed id error job _ hjob => exact h.indexed.close rfl

/-! ## Closed jobs stay closed -/

/-- A job that is closed in the first journal is in the same phase in the second. -/
def Settles (before after : JobJournal) : Prop :=
  ∀ id job, before.jobs.lookup id = some job → job.phase.inProgress = false →
    ∃ later, after.jobs.lookup id = some later ∧ later.phase = job.phase

theorem Settles.trans {a b c : JobJournal} (hab : Settles a b) (hbc : Settles b c) :
    Settles a c := by
  intro id job hjob hphase
  obtain ⟨later, hlater, heq⟩ := hab id job hjob hphase
  obtain ⟨last, hlast, heq'⟩ := hbc id later hlater (heq ▸ hphase)
  exact ⟨last, hlast, heq'.trans heq⟩

variable {journal : JobJournal}

theorem settles_insert {id : Text} {job after : ManagerJob}
    (hjob : journal.jobs.lookup id = some job)
    (hphase : job.phase.inProgress = false → after.phase = job.phase) {result : JobJournal}
    (hjobs : result.jobs = journal.jobs.insert id after) :
    Settles journal result := by
  intro other found hfound hclosed
  rw [hjobs]
  by_cases heq : other = id
  · subst heq
    obtain rfl : found = job := Option.some.inj (hfound.symm.trans hjob)
    exact ⟨after, AList.lookup_insert journal.jobs, hphase hclosed⟩
  · exact ⟨found, lookup_insert_eq_some.mpr (Or.inr ⟨heq, hfound⟩), rfl⟩

theorem Sound.settles (h : Sound journal) {call : Call} (htimely : Timely journal call) :
    Settles journal (journal.next call) := by
  have hrule := next_rule journal call
  generalize journal.next call = after at hrule ⊢
  cases hrule with
  | unchanged => exact fun _ job hjob _ => ⟨job, hjob, rfl⟩
  | created kind payloadKey _ _ _ =>
    intro id job hjob _
    refine ⟨job, lookup_insert_eq_some.mpr (Or.inr ⟨fun heq => ?_, hjob⟩), rfl⟩
    rw [heq, h.named.fresh kind] at hjob
    exact absurd hjob.symm (Option.some_ne_none job)
  | cancelled id job hop hjob =>
    refine settles_insert hjob (fun hclosed => ?_) rfl
    rw [htimely.cancel hop hjob] at hclosed
    exact Bool.noConfusion hclosed
  | succeeded id job hop hjob =>
    refine settles_insert hjob (fun hclosed => ?_) rfl
    have hne := htimely.succeed hop hjob
    revert hclosed hne
    show job.phase.inProgress = false → job.phase ≠ .failed → JobPhase.succeeded = job.phase
    cases job.phase <;> decide
  | failed id error job hop hjob =>
    refine settles_insert hjob (fun hclosed => ?_) rfl
    have hne := htimely.fail hop hjob
    revert hclosed hne
    show job.phase.inProgress = false → job.phase ≠ .succeeded → JobPhase.failed = job.phase
    cases job.phase <;> decide

/-! ## One activation at a time -/

def OneActivation (journal : JobJournal) : Prop :=
  ∀ id other, journal.InProgress id .activate → journal.InProgress other .activate → id = other

theorem OneActivation.update {result : JobJournal} (h : OneActivation journal) {id : Text}
    {job after : ManagerJob} (hjobs : result.jobs = journal.jobs.insert id after)
    (hjob : journal.jobs.lookup id = some job) (hkind : after.kind = job.kind)
    (hphase : after.phase.inProgress = true → job.phase.inProgress = true) :
    OneActivation result := by
  have hback : ∀ other, result.InProgress other .activate →
      journal.InProgress other .activate := by
    rintro other ⟨found, hfound, hactivate, hopen⟩
    rw [hjobs] at hfound
    rcases lookup_insert_eq_some.mp hfound with ⟨rfl, rfl⟩ | ⟨-, hother⟩
    · exact ⟨job, hjob, hkind.symm.trans hactivate, hphase hopen⟩
    · exact ⟨found, hother, hactivate, hopen⟩
  exact fun first second hfirst hsecond => h first second (hback first hfirst)
    (hback second hsecond)

theorem OneActivation.create {journal : JobJournal} (h : OneActivation journal) (now : Nat)
    {kind : JobKind} (payloadKey : Text)
    (hbusy : kind = .activate → journal.hasRunning .activate = false) :
    OneActivation (journal.create now kind payloadKey) := by
  have hback : ∀ other, (journal.create now kind payloadKey).InProgress other .activate →
      kind = .activate ∧ other = jobId kind journal.nextId ∨
        journal.InProgress other .activate := by
    rintro other ⟨found, hfound, hactivate, hopen⟩
    rcases lookup_insert_eq_some.mp hfound with ⟨rfl, rfl⟩ | ⟨-, hother⟩
    · exact Or.inl ⟨hactivate, rfl⟩
    · exact Or.inr ⟨found, hother, hactivate, hopen⟩
  have hnone : kind = .activate → ∀ other, ¬journal.InProgress other .activate := by
    intro hkind other hother
    have hrun := (journal.hasRunning_iff .activate).mpr ⟨other, hother⟩
    rw [hbusy hkind] at hrun
    exact Bool.noConfusion hrun
  intro first second hfirst hsecond
  rcases hback first hfirst with ⟨hkind, hnew⟩ | hold
  · rcases hback second hsecond with ⟨-, hnew'⟩ | hold'
    · exact hnew.trans hnew'.symm
    · exact absurd hold' (hnone hkind second)
  · rcases hback second hsecond with ⟨hkind, -⟩ | hold'
    · exact absurd hold (hnone hkind first)
    · exact h first second hold hold'

theorem OneActivation.next {journal : JobJournal} (h : OneActivation journal) {call : Call}
    (htimely : Timely journal call) (hapi : call.op.throughApi = true) :
    OneActivation (journal.next call) := by
  have hrule := next_rule journal call
  generalize journal.next call = after at hrule ⊢
  cases hrule with
  | unchanged => exact h
  | created kind payloadKey _ _ hbusy => exact h.create call.now payloadKey (hbusy hapi)
  | cancelled id job hop hjob => exact h.update rfl hjob rfl fun _ => htimely.cancel hop hjob
  | succeeded id job _ hjob => exact h.update rfl hjob rfl fun hopen => Bool.noConfusion hopen
  | failed id error job _ hjob => exact h.update rfl hjob rfl fun hopen => Bool.noConfusion hopen

/-! ## Every run -/

/-- In a run whose calls all come in time a closed job keeps its phase, the index has the jobs
in progress and no others, and through the interface there is one activation at a time. -/
theorem job_lifecycle {calls : List Call}
    (htimely : Machine.Guarded Timely JobJournal.next .new calls) :
    (Machine.visited JobJournal.next .new calls).Pairwise Settles ∧
      (∀ journal ∈ Machine.visited JobJournal.next .new calls, journal.Indexed ∧
        ∀ kind, journal.hasRunning kind = true ↔ ∃ id, journal.InProgress id kind) ∧
      ((∀ call ∈ calls, call.op.throughApi = true) →
        ∀ journal ∈ Machine.visited JobJournal.next .new calls, OneActivation journal) := by
  have hstep : ∀ journal call, Sound journal → Timely journal call →
      Sound (journal.next call) ∧ Settles journal (journal.next call) :=
    fun _ _ h ht => ⟨h.next ht.cancel, h.settles ht⟩
  refine ⟨?_, ?_, ?_⟩
  · refine Machine.pairwise_visited (fun hab hbc => ?_) hstep sound_new htimely
    exact hab.trans hbc
  · intro journal hjournal
    have hsound : Sound journal := Machine.invariant_visited
      (fun journal call h ht => (hstep journal call h ht).1) sound_new htimely journal hjournal
    exact ⟨hsound.indexed, journal.hasRunning_iff⟩
  · intro hapi
    have hguard : Machine.Guarded (fun journal call => Timely journal call ∧
        call.op.throughApi = true) JobJournal.next .new calls := fun p hp =>
      ⟨htimely p hp, hapi p.2 (Machine.mem_of_mem_steps hp)⟩
    have hnew : OneActivation .new := fun _ _ ⟨job, hjob, _⟩ =>
      absurd hjob.symm (Option.some_ne_none job)
    exact Machine.invariant_visited (fun journal call h hg => h.next hg.1 hg.2) hnew hguard

/-- An activation that is done, the next one, and a cancel of the first. -/
def activation (now : Nat) (payloadKey : Text) : Call where
  now := now
  op := .submit
    { kind := "activate".toList
      payloadKey := payloadKey
      expectedGeneration := 3
      runtimeLease := some "lease-3".toList }

def inTime : List Call :=
  [activation 10 "profile-a".toList, ⟨11, .cancel (jobId .activate 0)⟩,
    ⟨12, .succeed (jobId .activate 0)⟩, activation 13 "profile-b".toList]

theorem job_lifecycle_inTime :
    Machine.Guarded Timely JobJournal.next .new inTime ∧
      (Machine.visited JobJournal.next .new inTime).Pairwise Settles ∧
      (∀ journal ∈ Machine.visited JobJournal.next .new inTime, journal.Indexed ∧
        ∀ kind, journal.hasRunning kind = true ↔ ∃ id, journal.InProgress id kind) ∧
      ((∀ call ∈ inTime, call.op.throughApi = true) →
        ∀ journal ∈ Machine.visited JobJournal.next .new inTime, OneActivation journal) :=
  ⟨by decide +kernel, job_lifecycle (by decide +kernel)⟩

def lateCancel : List Call :=
  [activation 10 "profile-a".toList, ⟨11, .succeed (jobId .activate 0)⟩,
    activation 12 "profile-b".toList, ⟨13, .cancel (jobId .activate 0)⟩]

/-- The cancelled job was closed; now two activations are in progress, and the index has one. -/
theorem lateCancel_reopens :
    ((Machine.run JobJournal.next .new (lateCancel.take 3)).jobs.lookup
        (jobId .activate 0)).map ManagerJob.phase = some .succeeded ∧
      ((Machine.run JobJournal.next .new lateCancel).jobs.lookup
        (jobId .activate 0)).map ManagerJob.phase = some .cancelling ∧
      ((Machine.run JobJournal.next .new lateCancel).jobs.lookup
        (jobId .activate 1)).map ManagerJob.phase = some .running ∧
      (Machine.run JobJournal.next .new lateCancel).runningByKey.entries.map Sigma.snd =
        [jobId .activate 1] := by
  decide +kernel

end Siderostat.Manager
