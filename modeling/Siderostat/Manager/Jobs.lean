import Mathlib.Data.List.AList
import Siderostat.Lib.Machine
import Siderostat.Lib.Text

/-!
# The journal of the manager's jobs

The journal keeps two tables: the jobs under their ids, and an index from the key of a payload
to the job that works on it.
-/

namespace Siderostat.Manager

inductive JobKind where
  | fetch
  | build
  | download
  | verify
  | stage
  | activate
  | rollback
deriving DecidableEq, Repr

def JobKind.asStr : JobKind → Text
  | .fetch => "fetch".toList
  | .build => "build".toList
  | .download => "download".toList
  | .verify => "verify".toList
  | .stage => "stage".toList
  | .activate => "activate".toList
  | .rollback => "rollback".toList

inductive JobPhase where
  | running
  | succeeded
  | failed
  | cancelling
deriving DecidableEq, Repr

def JobPhase.inProgress : JobPhase → Bool
  | .running => true
  | .succeeded => false
  | .failed => false
  | .cancelling => true

structure ManagerJob where
  id : Text
  kind : JobKind
  progress : Nat
  phase : JobPhase
  error : Text
  createdAt : Nat
  updatedAt : Nat
  cancel : Bool
deriving DecidableEq

namespace ManagerJob

def new (now : Nat) (id : Text) (kind : JobKind) : ManagerJob where
  id := id
  kind := kind
  progress := 0
  phase := .running
  error := []
  createdAt := now
  updatedAt := now
  cancel := false

def succeed (job : ManagerJob) (now : Nat) : ManagerJob :=
  { job with phase := .succeeded, progress := 100, updatedAt := now }

def fail (job : ManagerJob) (now : Nat) (error : Text) : ManagerJob :=
  { job with phase := .failed, error := error, updatedAt := now }

def requestCancel (job : ManagerJob) (now : Nat) : ManagerJob :=
  { job with cancel := true, phase := .cancelling, updatedAt := now }

end ManagerJob

inductive ManagerJobError where
  | unknownKind
  | notFound
deriving DecidableEq, Repr

structure JobJournal where
  jobs : AList fun _ : Text => ManagerJob
  runningByKey : AList fun _ : Text => Text
  nextId : Nat

def jobId (kind : JobKind) (n : Nat) : Text := kind.asStr ++ '-' :: Text.decimal n

namespace JobJournal

def new : JobJournal where
  jobs := ∅
  runningByKey := ∅
  nextId := 0

def create (journal : JobJournal) (now : Nat) (kind : JobKind) (payloadKey : Text) : JobJournal :=
  let id := jobId kind journal.nextId
  { jobs := journal.jobs.insert id (.new now id kind)
    runningByKey := journal.runningByKey.insert payloadKey id
    nextId := journal.nextId + 1 }

/-- The id of the job in progress under this key, or else of a new one. -/
def enqueue (journal : JobJournal) (now : Nat) (kind : JobKind) (payloadKey : Text) :
    Text × JobJournal :=
  match journal.runningByKey.lookup payloadKey with
  | some id => (id, journal)
  | none => (jobId kind journal.nextId, journal.create now kind payloadKey)

def releaseKey (journal : JobJournal) (id : Text) : JobJournal :=
  let stale := (journal.runningByKey.entries.filter fun entry => entry.2 = id).map Sigma.fst
  { journal with
    runningByKey := stale.foldl
      (fun index key => if index.lookup key = some id then index.erase key else index)
      journal.runningByKey }

/-- The job under this id is replaced by what `change` makes of it. -/
def update (journal : JobJournal) (id : Text) (change : ManagerJob → ManagerJob) :
    Except ManagerJobError JobJournal :=
  match journal.jobs.lookup id with
  | none => .error .notFound
  | some job => .ok { journal with jobs := journal.jobs.insert id (change job) }

def succeed (journal : JobJournal) (now : Nat) (id : Text) : Except ManagerJobError JobJournal :=
  (journal.update id fun job => job.succeed now).map fun after => after.releaseKey id

def fail (journal : JobJournal) (now : Nat) (id error : Text) :
    Except ManagerJobError JobJournal :=
  (journal.update id fun job => job.fail now error).map fun after => after.releaseKey id

def requestCancel (journal : JobJournal) (now : Nat) (id : Text) :
    Except ManagerJobError JobJournal :=
  journal.update id fun job => job.requestCancel now

def hasRunning (journal : JobJournal) (kind : JobKind) : Bool :=
  journal.jobs.entries.any fun entry => entry.2.kind == kind && entry.2.phase.inProgress

end JobJournal

/-! ## The interface of the manager -/

inductive ManagerApiError where
  | badRequest (message : Text)
  | notFound
  | conflict (message : Text)
deriving DecidableEq

def ManagerApiError.ofJobError : ManagerJobError → ManagerApiError
  | .unknownKind => .badRequest "unknown job kind".toList
  | .notFound => .notFound

structure JobSubmitRequest where
  kind : Text
  payloadKey : Text
  expectedGeneration : Nat
  runtimeLease : Option Text

def parseKind (kind : Text) : Option JobKind :=
  if kind = "fetch".toList then some .fetch
  else if kind = "build".toList then some .build
  else if kind = "download".toList then some .download
  else if kind = "verify".toList then some .verify
  else if kind = "stage".toList then some .stage
  else if kind = "activate".toList then some .activate
  else if kind = "rollback".toList then some .rollback
  else none

/-- The conditions on a job of this kind, before it is put into the journal. -/
def admits (journal : JobJournal) (request : JobSubmitRequest) (kind : JobKind) :
    Except ManagerApiError Unit :=
  if kind = .activate ∨ kind = .rollback then
    if request.expectedGeneration = 0 ∨ (request.runtimeLease.getD []).isEmpty = true then
      .error (.badRequest
        "activate/rollback requires expected_generation and runtime_lease".toList)
    else if kind = .activate ∧ journal.hasRunning .activate = true then
      .error (.conflict "an activation job is already running".toList)
    else .ok ()
  else .ok ()

def submit (journal : JobJournal) (now : Nat) (request : JobSubmitRequest) :
    Except ManagerApiError (Text × JobJournal) :=
  match parseKind request.kind with
  | none => .error (.badRequest ("unknown job kind: ".toList ++ request.kind))
  | some kind =>
    match admits journal request kind with
    | .error error => .error error
    | .ok () => .ok (journal.enqueue now kind request.payloadKey)

def cancel (journal : JobJournal) (now : Nat) (id : Text) : Except ManagerApiError JobJournal :=
  (journal.requestCancel now id).mapError .ofJobError

/-! ## Runs -/

inductive JobOp where
  | enqueue (kind : JobKind) (payloadKey : Text)
  | submit (request : JobSubmitRequest)
  | cancel (id : Text)
  | succeed (id : Text)
  | fail (id error : Text)

/-- An operation and the second it is made in. -/
structure Call where
  now : Nat
  op : JobOp

/-- A submission goes through the interface of the manager. -/
def JobOp.throughApi : JobOp → Bool
  | .enqueue _ _ => false
  | .submit _ => true
  | .cancel _ => true
  | .succeed _ => true
  | .fail _ _ => true

def JobOp.asks : JobOp → Option (JobKind × Text)
  | .enqueue kind payloadKey => some (kind, payloadKey)
  | .submit request => (parseKind request.kind).map fun kind => (kind, request.payloadKey)
  | .cancel _ => none
  | .succeed _ => none
  | .fail _ _ => none

/-- The journal after a call.  One that fails leaves it as it was. -/
def JobJournal.next (journal : JobJournal) (call : Call) : JobJournal :=
  match call.op with
  | .enqueue kind payloadKey => (journal.enqueue call.now kind payloadKey).2
  | .submit request => ((submit journal call.now request).toOption.map Prod.snd).getD journal
  | .cancel id => (cancel journal call.now id).toOption.getD journal
  | .succeed id => (journal.succeed call.now id).toOption.getD journal
  | .fail id error => (journal.fail call.now id error).toOption.getD journal

/-! ## The two tables -/

theorem lookup_insert_eq_some {α β : Type} [DecidableEq α] {table : AList fun _ : α => β}
    {key other : α} {value found : β} :
    (table.insert key value).lookup other = some found ↔
      other = key ∧ found = value ∨ other ≠ key ∧ table.lookup other = some found := by
  by_cases h : other = key
  · subst h
    rw [AList.lookup_insert, Option.some.injEq, eq_comm]
    exact ⟨fun heq => Or.inl ⟨rfl, heq⟩,
      fun hor => hor.elim And.right fun hand => absurd rfl hand.1⟩
  · rw [AList.lookup_insert_ne h]
    exact ⟨fun heq => Or.inr ⟨h, heq⟩,
      fun hor => hor.elim (fun hand => absurd hand.1 h) And.right⟩

namespace JobJournal

/-- The job under this id is in progress, and of this kind. -/
def InProgress (journal : JobJournal) (id : Text) (kind : JobKind) : Prop :=
  ∃ job, journal.jobs.lookup id = some job ∧ job.kind = kind ∧ job.phase.inProgress = true

theorem hasRunning_iff (journal : JobJournal) (kind : JobKind) :
    journal.hasRunning kind = true ↔ ∃ id, journal.InProgress id kind := by
  simp only [hasRunning, List.any_eq_true, Bool.and_eq_true, beq_iff_eq]
  constructor
  · rintro ⟨⟨id, job⟩, hmem, hkind, hphase⟩
    exact ⟨id, job, AList.mem_lookup_iff.mpr hmem, hkind, hphase⟩
  · rintro ⟨id, job, hjob, hkind, hphase⟩
    exact ⟨⟨id, job⟩, AList.mem_lookup_iff.mp hjob, hkind, hphase⟩

theorem lookup_foldl_erase (id key : Text) (stale : List Text)
    (index : AList fun _ : Text => Text) :
    (stale.foldl
        (fun index key => if index.lookup key = some id then index.erase key else index)
        index).lookup key =
      if key ∈ stale ∧ index.lookup key = some id then none else index.lookup key := by
  induction stale generalizing index with
  | nil => rw [List.foldl_nil, if_neg fun h => List.not_mem_nil h.1]
  | cons first stale ih =>
    rw [List.foldl_cons, ih]
    by_cases hfirst : index.lookup first = some id
    · rw [if_pos hfirst]
      by_cases hkey : key = first
      · subst hkey
        rw [AList.lookup_erase, if_neg fun h => (Option.some_ne_none id).symm h.2,
          if_pos ⟨List.mem_cons_self, hfirst⟩]
      · rw [AList.lookup_erase_ne hkey]
        simp only [List.mem_cons, hkey, false_or]
    · rw [if_neg hfirst]
      by_cases hkey : key = first
      · subst hkey
        rw [if_neg fun h => hfirst h.2, if_neg fun h => hfirst h.2]
      · simp only [List.mem_cons, hkey, false_or]

theorem lookup_releaseKey (journal : JobJournal) (id key : Text) :
    (journal.releaseKey id).runningByKey.lookup key =
      if journal.runningByKey.lookup key = some id then none
      else journal.runningByKey.lookup key := by
  rw [releaseKey, lookup_foldl_erase]
  by_cases hkey : journal.runningByKey.lookup key = some id
  · have hmem : ⟨key, id⟩ ∈ journal.runningByKey.entries := AList.mem_lookup_iff.mp hkey
    have hstale : key ∈ (journal.runningByKey.entries.filter fun entry => entry.2 = id).map
        Sigma.fst :=
      List.mem_map.mpr ⟨⟨key, id⟩, List.mem_filter.mpr ⟨hmem, decide_eq_true rfl⟩, rfl⟩
    rw [if_pos hkey, if_pos ⟨hstale, hkey⟩]
  · rw [if_neg hkey, if_neg fun h => hkey h.2]

theorem lookup_releaseKey_eq_some {journal : JobJournal} {id key other : Text} :
    (journal.releaseKey id).runningByKey.lookup key = some other ↔
      journal.runningByKey.lookup key = some other ∧ other ≠ id := by
  rw [lookup_releaseKey]
  constructor
  · intro h
    by_cases hkey : journal.runningByKey.lookup key = some id
    · rw [if_pos hkey] at h
      exact absurd h.symm (Option.some_ne_none other)
    · rw [if_neg hkey] at h
      exact ⟨h, fun heq => hkey (heq ▸ h)⟩
  · rintro ⟨h, hne⟩
    rw [if_neg fun hid => hne (Option.some.inj (h.symm.trans hid))]
    exact h

end JobJournal

/-! ## What a call does -/

/-- What becomes of the journal: nothing, a new job under a key that is free, a job that is
being cancelled, or one that is closed. -/
inductive CallRule (journal : JobJournal) (call : Call) : JobJournal → Prop
  | unchanged : CallRule journal call journal
  | created (kind : JobKind) (payloadKey : Text) (hasks : call.op.asks = some (kind, payloadKey))
      (hfree : journal.runningByKey.lookup payloadKey = none)
      (hbusy : call.op.throughApi = true → kind = .activate →
        journal.hasRunning .activate = false) :
      CallRule journal call (journal.create call.now kind payloadKey)
  | cancelled (id : Text) (job : ManagerJob) (hop : call.op = .cancel id)
      (hjob : journal.jobs.lookup id = some job) :
      CallRule journal call
        { journal with jobs := journal.jobs.insert id (job.requestCancel call.now) }
  | succeeded (id : Text) (job : ManagerJob) (hop : call.op = .succeed id)
      (hjob : journal.jobs.lookup id = some job) :
      CallRule journal call
        (JobJournal.releaseKey
          { journal with jobs := journal.jobs.insert id (job.succeed call.now) } id)
  | failed (id error : Text) (job : ManagerJob) (hop : call.op = .fail id error)
      (hjob : journal.jobs.lookup id = some job) :
      CallRule journal call
        (JobJournal.releaseKey
          { journal with jobs := journal.jobs.insert id (job.fail call.now error) } id)

theorem enqueue_rule {journal : JobJournal} {call : Call} {kind : JobKind} {payloadKey : Text}
    (hasks : call.op.asks = some (kind, payloadKey))
    (hbusy : call.op.throughApi = true → kind = .activate →
      journal.hasRunning .activate = false) :
    CallRule journal call (journal.enqueue call.now kind payloadKey).2 := by
  unfold JobJournal.enqueue
  split
  · exact .unchanged
  next hfree => exact .created kind payloadKey hasks hfree hbusy

theorem admits_ok {journal : JobJournal} {request : JobSubmitRequest} {kind : JobKind}
    (h : admits journal request kind = .ok ()) (hkind : kind = .activate) :
    journal.hasRunning .activate = false := by
  unfold admits at h
  rw [if_pos (Or.inl hkind)] at h
  split at h
  · cases h
  · split at h
    · cases h
    next hbusy => exact Bool.eq_false_iff.mpr fun hrun => hbusy ⟨hkind, hrun⟩

theorem next_rule (journal : JobJournal) (call : Call) :
    CallRule journal call (journal.next call) := by
  unfold JobJournal.next
  split
  next kind payloadKey hop =>
    refine enqueue_rule (by rw [hop]; rfl) fun hapi => ?_
    rw [hop] at hapi
    exact Bool.noConfusion hapi
  next request hop =>
    unfold submit
    split
    · exact .unchanged
    next kind hkind =>
      split
      · exact .unchanged
      next hadmits =>
        have hasks : call.op.asks = some (kind, request.payloadKey) := by
          rw [hop, JobOp.asks, hkind]
          rfl
        exact enqueue_rule hasks fun _ => admits_ok hadmits
  next id hop =>
    unfold cancel JobJournal.requestCancel JobJournal.update
    split
    · exact .unchanged
    next job hjob => exact .cancelled id job hop hjob
  next id hop =>
    unfold JobJournal.succeed JobJournal.update
    split
    · exact .unchanged
    next job hjob => exact .succeeded id job hop hjob
  next id error hop =>
    unfold JobJournal.fail JobJournal.update
    split
    · exact .unchanged
    next job hjob => exact .failed id error job hop hjob

end Siderostat.Manager
