import Siderostat.Manager.Lifecycle

/-!
# Submissions and the jobs they are answered with

The index is looked up by the key of the payload alone.
-/

namespace Siderostat.Manager

/-- What a submission asked for, the id it was answered with, and whether there was no job
under that id before. -/
structure Answer where
  kind : JobKind
  payloadKey : Text
  id : Text
  created : Bool
deriving DecidableEq

namespace JobJournal

def answeredId (journal : JobJournal) (call : Call) : Option Text :=
  match call.op with
  | .enqueue kind payloadKey => some (journal.enqueue call.now kind payloadKey).1
  | .submit request => (submit journal call.now request).toOption.map Prod.fst
  | .cancel _ => none
  | .succeed _ => none
  | .fail _ _ => none

def answer (journal : JobJournal) (call : Call) : Option Answer :=
  call.op.asks.bind fun asked => (journal.answeredId call).map fun id =>
    { kind := asked.1, payloadKey := asked.2, id := id
      created := (journal.jobs.lookup id).isNone }

end JobJournal

/-- The journal with the answers that were given, the first one first. -/
structure JobDesk where
  journal : JobJournal
  answers : List Answer

namespace JobDesk

def new : JobDesk where
  journal := .new
  answers := []

def next (desk : JobDesk) (call : Call) : JobDesk where
  journal := desk.journal.next call
  answers := desk.answers ++ (desk.journal.answer call).toList

end JobDesk

/-! ## What a call is answered with -/

/-- Either there is no answer, and no job is created; or the job that holds the key is the
answer; or a new one. -/
inductive AnswerRule (journal : JobJournal) (call : Call) : Option Answer → JobJournal → Prop
  | silent (after : JobJournal)
      (hkeys : ∀ key id, after.runningByKey.lookup key = some id →
        journal.runningByKey.lookup key = some id)
      (hjobs : ∀ id job, journal.jobs.lookup id = some job →
        ∃ later, after.jobs.lookup id = some later ∧ later.kind = job.kind) :
      AnswerRule journal call none after
  | held (kind : JobKind) (payloadKey id : Text) (hasks : call.op.asks = some (kind, payloadKey))
      (hkey : journal.runningByKey.lookup payloadKey = some id) :
      AnswerRule journal call
        (some ⟨kind, payloadKey, id, (journal.jobs.lookup id).isNone⟩) journal
  | made (kind : JobKind) (payloadKey : Text) (hasks : call.op.asks = some (kind, payloadKey))
      (hfree : journal.runningByKey.lookup payloadKey = none) :
      AnswerRule journal call
        (some ⟨kind, payloadKey, jobId kind journal.nextId,
          (journal.jobs.lookup (jobId kind journal.nextId)).isNone⟩)
        (journal.create call.now kind payloadKey)

section Rule

variable {journal : JobJournal} {call : Call}

theorem answerRule_unchanged : AnswerRule journal call none journal :=
  .silent journal (fun _ _ hkey => hkey) fun _ job hjob => ⟨job, hjob, rfl⟩

theorem answerRule_update {after : JobJournal} {id : Text} {job changed : ManagerJob}
    (hjobs : after.jobs = journal.jobs.insert id changed)
    (hjob : journal.jobs.lookup id = some job) (hkind : changed.kind = job.kind)
    (hkeys : ∀ key other, after.runningByKey.lookup key = some other →
      journal.runningByKey.lookup key = some other) :
    AnswerRule journal call none after := by
  refine .silent after hkeys fun other found hfound => ?_
  rw [hjobs]
  by_cases heq : other = id
  · subst heq
    obtain rfl : found = job := Option.some.inj (hfound.symm.trans hjob)
    exact ⟨changed, AList.lookup_insert journal.jobs, hkind⟩
  · exact ⟨found, lookup_insert_eq_some.mpr (Or.inr ⟨heq, hfound⟩), rfl⟩

theorem answerRule_silent (hasks : call.op.asks = none) :
    AnswerRule journal call none (journal.next call) := by
  have hrule := next_rule journal call
  generalize journal.next call = after at hrule ⊢
  cases hrule with
  | unchanged => exact answerRule_unchanged
  | created kind payloadKey hasked _ _ =>
    exact absurd (hasked.symm.trans hasks) (Option.some_ne_none _)
  | cancelled id job _ hjob => exact answerRule_update rfl hjob rfl fun _ _ hkey => hkey
  | succeeded id job _ hjob =>
    exact answerRule_update rfl hjob rfl fun _ _ hkey =>
      (JobJournal.lookup_releaseKey_eq_some.mp hkey).1
  | failed id error job _ hjob =>
    exact answerRule_update rfl hjob rfl fun _ _ hkey =>
      (JobJournal.lookup_releaseKey_eq_some.mp hkey).1

theorem answerRule_enqueue {kind : JobKind} {payloadKey : Text}
    (hasks : call.op.asks = some (kind, payloadKey)) :
    AnswerRule journal call
      (some ⟨kind, payloadKey, (journal.enqueue call.now kind payloadKey).1,
        (journal.jobs.lookup (journal.enqueue call.now kind payloadKey).1).isNone⟩)
      (journal.enqueue call.now kind payloadKey).2 := by
  unfold JobJournal.enqueue
  split
  next id hkey => exact .held kind payloadKey id hasks hkey
  next hfree => exact .made kind payloadKey hasks hfree

theorem answer_rule (journal : JobJournal) (call : Call) :
    AnswerRule journal call (journal.answer call) (journal.next call) := by
  obtain ⟨now, op⟩ := call
  cases op with
  | enqueue kind payloadKey => exact answerRule_enqueue rfl
  | submit request =>
    have hasks : JobOp.asks (.submit request) =
        (parseKind request.kind).map fun kind => (kind, request.payloadKey) := rfl
    unfold JobJournal.answer JobJournal.answeredId JobJournal.next submit
    dsimp only
    rw [hasks]
    split
    next hkind =>
      rw [hkind]
      exact answerRule_unchanged
    next kind hkind =>
      rw [hkind] at hasks ⊢
      split
      · exact answerRule_unchanged
      · exact answerRule_enqueue hasks
  | cancel id => exact answerRule_silent rfl
  | succeed id => exact answerRule_silent rfl
  | fail id error => exact answerRule_silent rfl

end Rule

/-! ## The answers and the journal -/

/-- What holds between the journal and the answers given so far. -/
structure JobDesk.Right (desk : JobDesk) : Prop where
  sound : Sound desk.journal
  oneKey : ∀ {key other id}, desk.journal.runningByKey.lookup key = some id →
    desk.journal.runningByKey.lookup other = some id → key = other
  kept : ∀ a ∈ desk.answers, ∃ job, desk.journal.jobs.lookup a.id = some job ∧ job.kind = a.kind
  holds : ∀ a ∈ desk.answers, desk.journal.Open a.id →
    desk.journal.runningByKey.lookup a.payloadKey = some a.id
  origin : ∀ {key id}, desk.journal.runningByKey.lookup key = some id →
    ∃ a ∈ desk.answers, a.created = true ∧ a.id = id ∧ a.payloadKey = key
  distinct : ((desk.answers.filter Answer.created).map Answer.id).Nodup

/-- The key of a submission is not held by a job of another kind. -/
def Unshared (desk : JobDesk) (call : Call) : Prop :=
  ∀ asked ∈ call.op.asks, ∀ id ∈ desk.journal.runningByKey.lookup asked.2,
    ∀ job ∈ desk.journal.jobs.lookup id, job.kind = asked.1
  deriving Decidable

def JobOp.submitsOrCompletes : JobOp → Bool
  | .enqueue _ _ => true
  | .submit _ => true
  | .cancel _ => false
  | .succeed _ => true
  | .fail _ _ => true

theorem Sound.next_of_submitsOrCompletes {journal : JobJournal} (h : Sound journal) {call : Call}
    (hop : call.op.submitsOrCompletes = true) : Sound (journal.next call) := by
  refine h.next fun hcancel _ => ?_
  rw [hcancel] at hop
  exact Bool.noConfusion hop

namespace JobDesk.Right

variable {desk : JobDesk}

theorem lookup_ne_none (h : desk.Right) {a : Answer} (ha : a ∈ desk.answers) :
    desk.journal.jobs.lookup a.id ≠ none := by
  obtain ⟨job, hjob, -⟩ := h.kept a ha
  rw [hjob]
  exact Option.some_ne_none job

theorem holder (h : desk.Right) {key id : Text}
    (hkey : desk.journal.runningByKey.lookup key = some id) :
    ∃ job, desk.journal.jobs.lookup id = some job ∧ job.phase.inProgress = true ∧
      ∃ a ∈ desk.answers, a.created = true ∧ a.id = id ∧ a.payloadKey = key ∧
        a.kind = job.kind := by
  obtain ⟨job, hjob, hphase⟩ := (h.sound.indexed id).mp ⟨key, hkey⟩
  obtain ⟨a, ha, hcreated, hid, hpayload⟩ := h.origin hkey
  obtain ⟨found, hfound, hkind⟩ := h.kept a ha
  rw [hid, hjob] at hfound
  obtain rfl : job = found := Option.some.inj hfound
  exact ⟨job, hjob, hphase, a, ha, hcreated, hid, hpayload, hkind.symm⟩

theorem id_ne_fresh (h : desk.Right) (kind : JobKind) {a : Answer} (ha : a ∈ desk.answers) :
    a.id ≠ jobId kind desk.journal.nextId := fun heq =>
  h.lookup_ne_none ha (heq ▸ h.sound.named.fresh kind)

theorem silent (h : desk.Right) {after : JobJournal} (hsound : Sound after)
    (hkeys : ∀ key id, after.runningByKey.lookup key = some id →
      desk.journal.runningByKey.lookup key = some id)
    (hjobs : ∀ id job, desk.journal.jobs.lookup id = some job →
      ∃ later, after.jobs.lookup id = some later ∧ later.kind = job.kind) :
    JobDesk.Right ⟨after, desk.answers⟩ where
  sound := hsound
  oneKey := fun hkey hother => h.oneKey (hkeys _ _ hkey) (hkeys _ _ hother)
  kept := by
    intro a ha
    obtain ⟨job, hjob, hkind⟩ := h.kept a ha
    obtain ⟨later, hlater, hsame⟩ := hjobs a.id job hjob
    exact ⟨later, hlater, hsame.trans hkind⟩
  holds := by
    intro a ha hopen
    -- the job is still in the index, and the only key it had is the one of this answer
    obtain ⟨key, hkey⟩ := (hsound.indexed a.id).mpr hopen
    have hbefore := hkeys key a.id hkey
    have hpayload := h.holds a ha ((h.sound.indexed a.id).mp ⟨key, hbefore⟩)
    rw [h.oneKey hpayload hbefore]
    exact hkey
  origin := fun hkey => h.origin (hkeys _ _ hkey)
  distinct := h.distinct

theorem held (h : desk.Right) {kind : JobKind} {payloadKey id : Text}
    (hkey : desk.journal.runningByKey.lookup payloadKey = some id)
    (hkind : ∀ job ∈ desk.journal.jobs.lookup id, job.kind = kind) :
    JobDesk.Right ⟨desk.journal, desk.answers ++
      [⟨kind, payloadKey, id, (desk.journal.jobs.lookup id).isNone⟩]⟩ := by
  obtain ⟨job, hjob, -⟩ := h.holder hkey
  rw [hjob, Option.isNone_some]
  refine ⟨h.sound, h.oneKey, ?_, ?_, ?_, ?_⟩
  · intro a ha
    rcases List.mem_append.mp ha with hold | hnew
    · exact h.kept a hold
    · rw [List.mem_singleton.mp hnew]
      exact ⟨job, hjob, hkind job hjob⟩
  · intro a ha hopen
    rcases List.mem_append.mp ha with hold | hnew
    · exact h.holds a hold hopen
    · rw [List.mem_singleton.mp hnew]
      exact hkey
  · intro key other hother
    obtain ⟨a, ha, hrest⟩ := h.origin hother
    exact ⟨a, List.mem_append_left _ ha, hrest⟩
  · rw [List.filter_append]
    show ((desk.answers.filter Answer.created ++ []).map Answer.id).Nodup
    rw [List.append_nil]
    exact h.distinct

theorem lookup_ne_fresh (h : desk.Right) (kind : JobKind) {key : Text} :
    desk.journal.runningByKey.lookup key ≠ some (jobId kind desk.journal.nextId) := by
  intro hkey
  obtain ⟨job, hjob, -⟩ := h.holder hkey
  exact absurd (hjob.symm.trans (h.sound.named.fresh kind)) (Option.some_ne_none job)

theorem made (h : desk.Right) (now : Nat) (kind : JobKind) {payloadKey : Text}
    (hfree : desk.journal.runningByKey.lookup payloadKey = none)
    (hsound : Sound (desk.journal.create now kind payloadKey)) :
    JobDesk.Right ⟨desk.journal.create now kind payloadKey, desk.answers ++
      [⟨kind, payloadKey, jobId kind desk.journal.nextId, true⟩]⟩ where
  sound := hsound
  oneKey := by
    intro key other id hkey hother
    rcases lookup_insert_eq_some.mp hkey with ⟨rfl, rfl⟩ | ⟨-, hkey⟩
    · rcases lookup_insert_eq_some.mp hother with ⟨hsame, -⟩ | ⟨-, hother⟩
      · exact hsame.symm
      · exact absurd hother (h.lookup_ne_fresh kind)
    · rcases lookup_insert_eq_some.mp hother with ⟨-, rfl⟩ | ⟨-, hother⟩
      · exact absurd hkey (h.lookup_ne_fresh kind)
      · exact h.oneKey hkey hother
  kept := by
    intro a ha
    rcases List.mem_append.mp ha with hold | hnew
    · obtain ⟨job, hjob, hkind⟩ := h.kept a hold
      exact ⟨job, lookup_insert_eq_some.mpr (Or.inr ⟨h.id_ne_fresh kind hold, hjob⟩), hkind⟩
    · rw [List.mem_singleton.mp hnew]
      exact ⟨_, AList.lookup_insert _, rfl⟩
  holds := by
    intro a ha hopen
    rcases List.mem_append.mp ha with hold | hnew
    · rcases JobJournal.open_insert.mp hopen with ⟨heq, -⟩ | ⟨-, hbefore⟩
      · exact absurd heq (h.id_ne_fresh kind hold)
      · have hkey := h.holds a hold hbefore
        refine lookup_insert_eq_some.mpr (Or.inr ⟨fun heq => ?_, hkey⟩)
        rw [heq, hfree] at hkey
        exact absurd hkey.symm (Option.some_ne_none a.id)
    · rw [List.mem_singleton.mp hnew]
      exact AList.lookup_insert _
  origin := by
    intro key id hkey
    rcases lookup_insert_eq_some.mp hkey with ⟨rfl, rfl⟩ | ⟨-, hkey⟩
    · exact ⟨_, List.mem_append_right _ (List.mem_singleton_self _), rfl, rfl, rfl⟩
    · obtain ⟨a, ha, hrest⟩ := h.origin hkey
      exact ⟨a, List.mem_append_left _ ha, hrest⟩
  distinct := by
    rw [List.filter_append, List.map_append]
    show (_ ++ [jobId kind desk.journal.nextId]).Nodup
    refine List.nodup_append.mpr ⟨h.distinct, List.nodup_singleton _, ?_⟩
    intro id hid other hother heq
    obtain ⟨a, ha, rfl⟩ := List.mem_map.mp hid
    rw [List.mem_singleton.mp hother] at heq
    exact h.id_ne_fresh kind (List.mem_of_mem_filter ha) heq

theorem next (h : desk.Right) {call : Call} (hunshared : Unshared desk call)
    (hop : call.op.submitsOrCompletes = true) : (desk.next call).Right := by
  have hsound := h.sound.next_of_submitsOrCompletes hop
  have hrule := answer_rule desk.journal call
  unfold JobDesk.next
  generalize desk.journal.answer call = answer at hrule ⊢
  generalize desk.journal.next call = after at hrule hsound ⊢
  cases hrule with
  | silent _ hkeys hjobs =>
    rw [Option.toList_none, List.append_nil]
    exact h.silent hsound hkeys hjobs
  | held kind payloadKey id hasks hkey =>
    exact h.held hkey (hunshared (kind, payloadKey) hasks id hkey)
  | made kind payloadKey hasks hfree =>
    rw [h.sound.named.fresh kind]
    exact h.made call.now kind hfree hsound

/-! ## One submission -/

theorem answer_names_job (h : desk.Right) {call : Call} {answer : Answer}
    (hanswer : desk.journal.answer call = some answer)
    (hafter : (desk.next call).Right) :
    ∃ job, (desk.next call).journal.jobs.lookup answer.id = some job ∧ job.kind = answer.kind ∧
      ∃ made ∈ (desk.next call).answers, made.created = true ∧ made.id = answer.id ∧
        made.kind = answer.kind ∧ made.payloadKey = answer.payloadKey := by
  have hmem : answer ∈ (desk.next call).answers := by
    rw [JobDesk.next, hanswer]
    exact List.mem_append_right _ (List.mem_singleton_self answer)
  obtain ⟨job, hjob, hkind⟩ := hafter.kept answer hmem
  refine ⟨job, hjob, hkind, ?_⟩
  have hrule := answer_rule desk.journal call
  rw [hanswer] at hrule
  unfold JobDesk.next at hjob hafter ⊢
  rw [hanswer] at hafter ⊢
  generalize desk.journal.next call = after at hrule hjob hafter ⊢
  cases hrule with
  | held kind payloadKey id hasks hkey =>
    obtain ⟨found, hfound, -, made, hmade, hcreated, hid, hpayload, hsame⟩ := h.holder hkey
    obtain rfl : job = found := Option.some.inj (hjob.symm.trans hfound)
    exact ⟨made, List.mem_append_left _ hmade, hcreated, hid, hsame.trans hkind, hpayload⟩
  | made kind payloadKey hasks hfree =>
    refine ⟨_, List.mem_append_right _ (List.mem_singleton_self _), ?_, rfl, rfl, rfl⟩
    rw [h.sound.named.fresh kind]
    rfl

/-- An id is given out again exactly to the same work, while it is in progress. -/
theorem answer_shares (h : desk.Right) {call : Call} (hunshared : Unshared desk call)
    {answer : Answer} (hanswer : desk.journal.answer call = some answer) {earlier : Answer}
    (hearlier : earlier ∈ desk.answers) :
    earlier.id = answer.id ↔ earlier.kind = answer.kind ∧
      earlier.payloadKey = answer.payloadKey ∧ desk.journal.Open earlier.id := by
  have hrule := answer_rule desk.journal call
  rw [hanswer] at hrule
  generalize desk.journal.next call = after at hrule
  cases hrule with
  | held kind payloadKey id hasks hkey =>
    constructor
    · intro heq
      change earlier.id = id at heq
      obtain ⟨job, hjob, hkind⟩ := h.kept earlier hearlier
      have hopen : desk.journal.Open earlier.id :=
        (h.sound.indexed earlier.id).mp ⟨payloadKey, heq ▸ hkey⟩
      have hholds := h.holds earlier hearlier hopen
      rw [heq] at hjob hholds
      exact ⟨hkind.symm.trans (hunshared (kind, payloadKey) hasks id hkey job hjob),
        h.oneKey hholds hkey, hopen⟩
    · rintro ⟨-, hpayload, hopen⟩
      have hholds := h.holds earlier hearlier hopen
      rw [hpayload] at hholds
      exact Option.some.inj (hholds.symm.trans hkey)
  | made kind payloadKey hasks hfree =>
    constructor
    · exact fun heq => absurd heq (h.id_ne_fresh kind hearlier)
    · rintro ⟨-, hpayload, hopen⟩
      have hholds := h.holds earlier hearlier hopen
      rw [hpayload] at hholds
      exact absurd (hholds.symm.trans hfree) (Option.some_ne_none _)

end JobDesk.Right

theorem right_new : JobDesk.new.Right where
  sound := sound_new
  oneKey := fun hkey _ => absurd hkey.symm (Option.some_ne_none _)
  kept := fun _ ha => absurd ha List.not_mem_nil
  holds := fun _ ha => absurd ha List.not_mem_nil
  origin := fun hkey => absurd hkey.symm (Option.some_ne_none _)
  distinct := List.nodup_nil

/-! ## Every run -/

/-- In a run of submissions and completions in which no key is shared between kinds, every
submission is answered with a job of its kind that was created for its payload, two of them
share an id exactly when they are the same work and the first job is still in progress, and the
ids of the jobs that were created are distinct. -/
theorem submissions_name_their_jobs {calls : List Call}
    (hops : ∀ call ∈ calls, call.op.submitsOrCompletes = true)
    (hunshared : Machine.Guarded Unshared JobDesk.next .new calls) :
    (∀ p ∈ Machine.steps JobDesk.next .new calls, ∀ answer ∈ p.1.journal.answer p.2,
      (∃ job, (p.1.next p.2).journal.jobs.lookup answer.id = some job ∧
        job.kind = answer.kind ∧
        ∃ made ∈ (p.1.next p.2).answers, made.created = true ∧ made.id = answer.id ∧
          made.kind = answer.kind ∧ made.payloadKey = answer.payloadKey) ∧
      ∀ earlier ∈ p.1.answers, (earlier.id = answer.id ↔ earlier.kind = answer.kind ∧
        earlier.payloadKey = answer.payloadKey ∧ p.1.journal.Open earlier.id)) ∧
    ∀ desk ∈ Machine.visited JobDesk.next .new calls,
      ((desk.answers.filter Answer.created).map Answer.id).Nodup := by
  have hguard : Machine.Guarded (fun desk call => Unshared desk call ∧
      call.op.submitsOrCompletes = true) JobDesk.next .new calls := fun p hp =>
    ⟨hunshared p hp, hops p.2 (Machine.mem_of_mem_steps hp)⟩
  have hstep : ∀ desk call, JobDesk.Right desk →
      Unshared desk call ∧ call.op.submitsOrCompletes = true → (desk.next call).Right :=
    fun _ _ h hg => h.next hg.1 hg.2
  refine ⟨fun p hp answer hanswer => ?_, fun desk hdesk => ?_⟩
  · have hright : p.1.Right := Machine.invariant_steps hstep right_new hguard p hp
    exact ⟨hright.answer_names_job hanswer (hstep p.1 p.2 hright (hguard p hp)),
      fun earlier hearlier => hright.answer_shares (hunshared p hp) hanswer hearlier⟩
  · exact (Machine.invariant_visited hstep right_new hguard desk hdesk).distinct

def plain (now : Nat) (kind payloadKey : Text) : Call where
  now := now
  op := .submit
    { kind := kind, payloadKey := payloadKey, expectedGeneration := 0, runtimeLease := none }

def sameWork : List Call :=
  [plain 1 "fetch".toList "src-a".toList, plain 2 "fetch".toList "src-a".toList,
    ⟨3, .succeed (jobId .fetch 0)⟩, plain 4 "build".toList "src-a".toList]

theorem submissions_name_their_jobs_sameWork :
    (Machine.run JobDesk.next .new sameWork).answers.map Answer.id =
        [jobId .fetch 0, jobId .fetch 0, jobId .build 1] ∧
      ((∀ p ∈ Machine.steps JobDesk.next .new sameWork, ∀ answer ∈ p.1.journal.answer p.2,
        (∃ job, (p.1.next p.2).journal.jobs.lookup answer.id = some job ∧
          job.kind = answer.kind ∧
          ∃ made ∈ (p.1.next p.2).answers, made.created = true ∧ made.id = answer.id ∧
            made.kind = answer.kind ∧ made.payloadKey = answer.payloadKey) ∧
        ∀ earlier ∈ p.1.answers, (earlier.id = answer.id ↔ earlier.kind = answer.kind ∧
          earlier.payloadKey = answer.payloadKey ∧ p.1.journal.Open earlier.id)) ∧
      ∀ desk ∈ Machine.visited JobDesk.next .new sameWork,
        ((desk.answers.filter Answer.created).map Answer.id).Nodup) :=
  ⟨by decide +kernel, submissions_name_their_jobs (by decide +kernel) (by decide +kernel)⟩

def otherKind : List Call :=
  [plain 1 "fetch".toList "src-a".toList, plain 2 "build".toList "src-a".toList]

/-- The build is answered with the job that fetches, and no job is created for it. -/
theorem otherKind_is_answered_with_fetch :
    (∀ call ∈ otherKind, call.op.submitsOrCompletes = true) ∧
      (Machine.run JobDesk.next .new otherKind).answers =
        [⟨.fetch, "src-a".toList, jobId .fetch 0, true⟩,
          ⟨.build, "src-a".toList, jobId .fetch 0, false⟩] ∧
      ((Machine.run JobDesk.next .new otherKind).journal.jobs.lookup
        (jobId .fetch 0)).map ManagerJob.kind = some .fetch := by
  decide +kernel

end Siderostat.Manager
