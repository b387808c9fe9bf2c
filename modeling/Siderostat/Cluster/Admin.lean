import Siderostat.Lib.Machine
import Siderostat.Lib.TaskTable
import Siderostat.Store.StateStore

/-!
# Lifecycle and policy starts on one admin controller

All calls share a lease with one owner, a flag that blocks promotions, and for policy starts a
table of request ids.
-/

namespace Siderostat

/-! ## The lease -/

inductive OperationKind where
  | promotion
  | demotion
  | restart
  | recovery
  | activation
  | policy
deriving DecidableEq

def OperationKind.all : List OperationKind :=
  [.promotion, .demotion, .restart, .recovery, .activation, .policy]

inductive OperationLeaseError where
  | busy (kind : OperationKind)
  | promotionBlocked

structure OperationLease where
  owners : OperationKind → Option OperationId
  promotionBlocked : Bool

namespace OperationLease

def new : OperationLease := { owners := fun _ => none, promotionBlocked := false }

def activeKind (lease : OperationLease) : Option OperationKind :=
  OperationKind.all.find? fun kind => (lease.owners kind).isSome

/-- The section of `try_acquire` under the lock; the flag of blocked promotions is read before
it. -/
def acquireLocked (lease : OperationLease) (kind : OperationKind) (id : OperationId) :
    Except OperationLeaseError OperationLease :=
  match lease.activeKind with
  | some active => .error (.busy active)
  | none => .ok { lease with owners := Function.update lease.owners kind (some id) }

def release (lease : OperationLease) (kind : OperationKind) (id : OperationId) : OperationLease :=
  if lease.owners kind = some id then
    { lease with owners := Function.update lease.owners kind none }
  else lease

end OperationLease

/-! ## Calls -/

inductive FingerprintProfile where
  | standalone
  | distributed
deriving DecidableEq

inductive AdminAction where
  | reconcile
  | pair
  | promote
  | demote
  | restart
  | fingerprint (profile : FingerprintProfile)
  | setPolicy
deriving DecidableEq

def operationKind : AdminAction → Option OperationKind
  | .reconcile => some .restart
  | .pair | .promote => some .promotion
  | .demote => some .demotion
  | .restart => some .restart
  | .fingerprint _ => none
  | .setPolicy => some .policy

structure PolicyRequest where
  requestId : Nat
  bodyHash : Nat
  desired : OperationPolicy

/-- A forced policy does not wait for the lease. -/
def PolicyRequest.leaseKind (request : PolicyRequest) : Option OperationKind :=
  if request.desired ≠ .forcedStandalone then some .policy else none

theorem PolicyRequest.leaseKind_ne_promotion (request : PolicyRequest) :
    request.leaseKind ≠ some .promotion := by
  unfold PolicyRequest.leaseKind
  split <;> nofun

inductive AdminOutcome where
  | done
  | fingerprintBusy (profile : FingerprintProfile)
  | leaseBusy (error : OperationLeaseError)
  | existing
  | idempotencyConflict

/-- Where `start` and the task it spawns stand: before adding the profile, loading the flag,
taking the lease, entering the job, releasing the lease, closing the job, and taking the profile
out again. -/
inductive LifecyclePhase where
  | profile (profile : FingerprintProfile)
  | flag
  | acquire
  | register
  | executing
  | finishing
  | clearing (profile : FingerprintProfile)
  | ended (outcome : AdminOutcome)

/-- The same for `start_policy`; `existing`, `acquire` and `register` are under the lock of the
table. -/
inductive PolicyPhase where
  | lookup
  | existing
  | acquire
  | register
  | executing
  | finishing
  | ended (outcome : AdminOutcome)

inductive AdminCall where
  | lifecycle (action : AdminAction) (phase : LifecyclePhase)
  | policy (request : PolicyRequest) (phase : PolicyPhase)

inductive AdminJobState where
  | running
  | complete
  | failed
deriving DecidableEq

/-- The table of request ids with its lock, the policy jobs, and every job that was created. -/
structure PolicyBook where
  idempotency : Nat → Option Nat
  holder : Option Nat
  jobs : Nat → Option (OperationPolicy × AdminJobState)
  created : List (Nat × Nat)

structure AdminSystem where
  lease : OperationLease
  activeFingerprints : List FingerprintProfile
  jobs : Nat → Option (AdminAction × AdminJobState)
  book : PolicyBook
  calls : Nat → Option AdminCall

inductive AdminEvent where
  | startLifecycle (i : Nat) (action : AdminAction)
  | startPolicy (i : Nat) (request : PolicyRequest)
  | advance (i : Nat) (succeeds : Bool)
  | block
  | unblock

namespace AdminSystem

def init : AdminSystem where
  lease := .new
  activeFingerprints := []
  jobs _ := none
  book := { idempotency := fun _ => none, holder := none, jobs := fun _ => none, created := [] }
  calls _ := none

def setCall (s : AdminSystem) (i : Nat) (call : AdminCall) : AdminSystem :=
  { s with calls := Function.update s.calls i (some call) }

def jobState (succeeds : Bool) : AdminJobState := if succeeds then .complete else .failed

/-- The first phase of `start`: only a promotion looks at the flag, and a fingerprint takes no
lease. -/
def firstPhase (action : AdminAction) : LifecyclePhase :=
  match action with
  | .fingerprint profile => .profile profile
  | .pair | .promote => .flag
  | _ => .acquire

def lifecycleTurn (s : AdminSystem) (i : Nat) (action : AdminAction) (succeeds : Bool) :
    LifecyclePhase → AdminSystem
  | .profile profile =>
    if profile ∈ s.activeFingerprints then
      s.setCall i (.lifecycle action (.ended (.fingerprintBusy profile)))
    else
      { s with activeFingerprints := profile :: s.activeFingerprints }.setCall i
        (.lifecycle action .register)
  | .flag =>
    if s.lease.promotionBlocked then
      s.setCall i (.lifecycle action (.ended (.leaseBusy .promotionBlocked)))
    else s.setCall i (.lifecycle action .acquire)
  | .acquire =>
    match operationKind action with
    | none => s.setCall i (.lifecycle action .register)
    | some kind =>
      match s.lease.acquireLocked kind ⟨i⟩ with
      | .error error => s.setCall i (.lifecycle action (.ended (.leaseBusy error)))
      | .ok lease => { s with lease }.setCall i (.lifecycle action .register)
  | .register =>
    { s with jobs := Function.update s.jobs i (some (action, .running)) }.setCall i
      (.lifecycle action .executing)
  | .executing =>
    match operationKind action with
    | some kind =>
      { s with lease := s.lease.release kind ⟨i⟩ }.setCall i (.lifecycle action .finishing)
    | none => s.setCall i (.lifecycle action .finishing)
  | .finishing =>
    match s.jobs i with
    | none => s.setCall i (.lifecycle action (.ended .done))
    | some (operation, _) =>
      { s with jobs := Function.update s.jobs i (some (operation, jobState succeeds)) }.setCall i
        (.lifecycle action
          (match action with
          | .fingerprint profile => .clearing profile
          | _ => .ended .done))
  | .clearing profile =>
    { s with activeFingerprints := s.activeFingerprints.filter (· ≠ profile) }.setCall i
      (.lifecycle action (.ended .done))
  | .ended _ => s

def policyTurn (s : AdminSystem) (i : Nat) (request : PolicyRequest) (succeeds : Bool) :
    PolicyPhase → AdminSystem
  | .lookup =>
    if s.book.holder.isSome then s
    else
      match s.book.idempotency request.requestId with
      | some existing =>
        if existing = request.bodyHash then
          { s with book := { s.book with holder := some i } }.setCall i (.policy request .existing)
        else s.setCall i (.policy request (.ended .idempotencyConflict))
      | none =>
        { s with
          book :=
            { s.book with
              holder := some i
              idempotency :=
                Function.update s.book.idempotency request.requestId (some request.bodyHash) }
          }.setCall i
          (.policy request (if request.leaseKind.isSome then .acquire else .register))
  | .existing =>
    { s with book := { s.book with holder := none } }.setCall i
      (.policy request
        (.ended (if (s.book.jobs request.requestId).isSome then .existing
          else .idempotencyConflict)))
  | .acquire =>
    match request.leaseKind with
    | none => s.setCall i (.policy request .register)
    | some kind =>
      match s.lease.acquireLocked kind ⟨i⟩ with
      | .error error =>
        { s with
          book :=
            { s.book with
              holder := none
              idempotency := Function.update s.book.idempotency request.requestId none }
          }.setCall i (.policy request (.ended (.leaseBusy error)))
      | .ok lease => { s with lease }.setCall i (.policy request .register)
  | .register =>
    { s with
      book :=
        { s.book with
          holder := none
          jobs := Function.update s.book.jobs request.requestId (some (request.desired, .running))
          created := (request.requestId, request.bodyHash) :: s.book.created }
      }.setCall i (.policy request .executing)
  | .executing =>
    match request.leaseKind with
    | some kind =>
      { s with lease := s.lease.release kind ⟨i⟩ }.setCall i (.policy request .finishing)
    | none => s.setCall i (.policy request .finishing)
  | .finishing =>
    { s with
      book :=
        { s.book with
          jobs := Function.update s.book.jobs request.requestId
            ((s.book.jobs request.requestId).map fun job : OperationPolicy × AdminJobState =>
              (job.1, jobState succeeds)) }
      }.setCall i (.policy request (.ended .done))
  | .ended _ => s

def turn (s : AdminSystem) (i : Nat) (succeeds : Bool) : AdminCall → AdminSystem
  | .lifecycle action phase => s.lifecycleTurn i action succeeds phase
  | .policy request phase => s.policyTurn i request succeeds phase

/-- A call number is used once; a number without a call cannot go on. -/
def step (s : AdminSystem) : AdminEvent → AdminSystem
  | .startLifecycle i action =>
    if (s.calls i).isSome then s else s.setCall i (.lifecycle action (firstPhase action))
  | .startPolicy i request =>
    if (s.calls i).isSome then s else s.setCall i (.policy request .lookup)
  | .advance i succeeds =>
    match s.calls i with
    | some call => s.turn i succeeds call
    | none => s
  | .block => { s with lease := { s.lease with promotionBlocked := true } }
  | .unblock => { s with lease := { s.lease with promotionBlocked := false } }

end AdminSystem

/-! ## What is to hold -/

namespace AdminCall

def leaseKind : AdminCall → Option OperationKind
  | .lifecycle action _ => operationKind action
  | .policy request _ => request.leaseKind

/-- The call is between taking the lease and releasing it. -/
def Active : AdminCall → Prop
  | .lifecycle _ .register | .lifecycle _ .executing => True
  | .policy _ .register | .policy _ .executing => True
  | _ => False

def Completing : AdminCall → Prop
  | .lifecycle _ .executing | .policy _ .executing => True
  | _ => False

/-- The next step of the call is to take the lease. -/
def Acquiring : AdminCall → Prop
  | .lifecycle _ .acquire | .policy _ .acquire => True
  | _ => False

def Holds : AdminCall → Prop
  | .policy _ .existing | .policy _ .acquire | .policy _ .register => True
  | _ => False

/-- The call has entered its request id and not yet created its job. -/
def Claims (id hash : Nat) : AdminCall → Prop
  | .policy request .acquire | .policy request .register =>
    request.requestId = id ∧ request.bodyHash = hash
  | _ => False

end AdminCall

namespace AdminSystem

/-- One operation at most owns the lease, and no request id has two jobs. -/
structure Exclusive (s : AdminSystem) : Prop where
  owner : ∀ kind kind' id id', s.lease.owners kind = some id → s.lease.owners kind' = some id' →
    kind = kind' ∧ id = id'
  created : (s.book.created.map Prod.fst).Nodup
  jobs : ∀ id, (s.book.jobs id).isSome = true ↔ ∃ hash, (id, hash) ∈ s.book.created

/-- A lease is released by the completion of its owner; none is granted to a promotion while
promotions are blocked; and a policy start that is refused as busy leaves its id unused. -/
structure StepSound (s : AdminSystem) (e : AdminEvent) : Prop where
  released : ∀ kind id, s.lease.owners kind = some id → (s.step e).lease.owners kind ≠ some id →
    ∃ succeeds call, e = .advance id.value succeeds ∧ s.calls id.value = some call ∧ call.Completing
  granted : ∀ id, (s.step e).lease.owners .promotion = some id →
    s.lease.owners .promotion ≠ some id → s.lease.promotionBlocked = false
  refused : ∀ i succeeds request error, e = .advance i succeeds →
    s.calls i = some (.policy request .acquire) →
    (s.step e).calls i = some (.policy request (.ended (.leaseBusy error))) →
    (s.step e).book.idempotency request.requestId = none ∧
      (s.step e).book.jobs request.requestId = none ∧
      ∀ hash, (request.requestId, hash) ∉ (s.step e).book.created

/-- No promotion stands between its look at the flag and the lock when the flag is set. -/
def blockGuard (s : AdminSystem) : AdminEvent → Prop
  | .block => ∀ i call, s.calls i = some call → call.leaseKind = some .promotion →
    ¬call.Acquiring
  | _ => True

/-! ## What a turn does -/

variable {lease : OperationLease} {s : AdminSystem} {i : Nat} {call : AdminCall}
  {kind kind' : OperationKind}

theorem activeKind_eq_none (h : lease.activeKind = none) (kind : OperationKind) :
    lease.owners kind = none := by
  have hnone := List.find?_eq_none.mp h kind (by cases kind <;> decide)
  simpa using hnone

inductive LeaseRule (lease : OperationLease) (i : Nat) (call call' : AdminCall) :
    OperationLease → Prop
  | keeps (hactive : call.Active → call'.Active) (hcompleting : ¬call.Completing) :
    LeaseRule lease i call call' lease
  | grants {kind : OperationKind} (hfree : ∀ kind, lease.owners kind = none)
    (hkind : call.leaseKind = some kind) (hacquiring : call.Acquiring) (hactive : call'.Active) :
    LeaseRule lease i call call'
      { lease with owners := Function.update lease.owners kind (some ⟨i⟩) }
  | releases {kind : OperationKind} (hkind : call.leaseKind = some kind)
    (hcompleting : call.Completing) : LeaseRule lease i call call' (lease.release kind ⟨i⟩)
  | leaves (hkind : call.leaseKind = none) (hcompleting : call.Completing) :
    LeaseRule lease i call call' lease

/-- What a turn of call `i` does to the table. -/
inductive BookRule (book : PolicyBook) (i : Nat) (call call' : AdminCall) : PolicyBook → Prop
  | keeps {jobs : Nat → Option (OperationPolicy × AdminJobState)}
    (hjobs : ∀ id, (jobs id).isSome = (book.jobs id).isSome) (hholds : call'.Holds → call.Holds)
    (hclaims : ∀ id hash, call'.Claims id hash → call.Claims id hash) :
    BookRule book i call call' { book with jobs }
  | holds (hfree : book.holder = none) (hclaims : ∀ id hash, ¬call'.Claims id hash) :
    BookRule book i call call' { book with holder := some i }
  | claims {id hash : Nat} (hfree : book.holder = none) (hnew : book.idempotency id = none)
    (hclaims : ∀ id' hash', call'.Claims id' hash' → id' = id ∧ hash' = hash) :
    BookRule book i call call'
      { book with
        holder := some i
        idempotency := Function.update book.idempotency id (some hash) }
  | unclaims {id hash : Nat} (hclaims : call.Claims id hash) (hends : ¬call'.Holds) :
    BookRule book i call call'
      { book with holder := none, idempotency := Function.update book.idempotency id none }
  | frees (hholds : call.Holds) (hends : ¬call'.Holds) :
    BookRule book i call call' { book with holder := none }
  | creates {id hash : Nat} {job : OperationPolicy × AdminJobState} (hclaims : call.Claims id hash)
    (hends : ¬call'.Holds) :
    BookRule book i call call'
      { book with
        holder := none
        jobs := Function.update book.jobs id (some job)
        created := (id, hash) :: book.created }

/-- A turn leaves the other calls alone, lets a promotion pass the flag only if it is not set, and
does to the lease and to the table what the rules say. -/
def TurnRule (s : AdminSystem) (i : Nat) (call : AdminCall) (s' : AdminSystem) : Prop :=
  ∃ call', s'.calls = Function.update s.calls i (some call') ∧
    call'.leaseKind = call.leaseKind ∧
    (call'.Acquiring → call.leaseKind = some .promotion → s.lease.promotionBlocked = false) ∧
    LeaseRule s.lease i call call' s'.lease ∧ BookRule s.book i call call' s'.book

theorem lifecycleTurn_rule {action : AdminAction} {phase : LifecyclePhase} (succeeds : Bool)
    (hcall : s.calls i = some (.lifecycle action phase)) :
    TurnRule s i (.lifecycle action phase) (s.lifecycleTurn i action succeeds phase) := by
  have hbook : ∀ phase', BookRule s.book i (.lifecycle action phase) (.lifecycle action phase')
      s.book := fun _ => .keeps (fun _ => rfl) nofun nofun
  cases phase with
  | profile profile =>
    simp only [lifecycleTurn]
    split <;> exact ⟨_, rfl, rfl, nofun, .keeps nofun nofun, hbook _⟩
  | flag =>
    simp only [lifecycleTurn]
    split
    · exact ⟨_, rfl, rfl, nofun, .keeps nofun nofun, hbook _⟩
    · rename_i hflag
      exact ⟨_, rfl, rfl, fun _ _ => eq_false_of_ne_true hflag, .keeps nofun nofun, hbook _⟩
  | acquire =>
    simp only [lifecycleTurn]
    cases hkind : operationKind action with
    | none => exact ⟨_, rfl, rfl, nofun, .keeps nofun nofun, hbook _⟩
    | some kind =>
      simp only [OperationLease.acquireLocked]
      cases hactive : s.lease.activeKind with
      | some active => exact ⟨_, rfl, rfl, nofun, .keeps nofun nofun, hbook _⟩
      | none =>
        exact ⟨_, rfl, rfl, nofun, .grants (activeKind_eq_none hactive) hkind trivial trivial,
          hbook _⟩
  | register => exact ⟨_, rfl, rfl, nofun, .keeps (fun _ => trivial) nofun, hbook _⟩
  | executing =>
    simp only [lifecycleTurn]
    cases hkind : operationKind action with
    | none => exact ⟨_, rfl, rfl, nofun, .leaves hkind trivial, hbook _⟩
    | some kind => exact ⟨_, rfl, rfl, nofun, .releases hkind trivial, hbook _⟩
  | finishing =>
    simp only [lifecycleTurn]
    split
    · exact ⟨_, rfl, rfl, nofun, .keeps nofun nofun, hbook _⟩
    · cases action <;> exact ⟨_, rfl, rfl, nofun, .keeps nofun nofun, hbook _⟩
  | clearing profile => exact ⟨_, rfl, rfl, nofun, .keeps nofun nofun, hbook _⟩
  | ended outcome =>
    refine ⟨_, ?_, rfl, nofun, .keeps nofun nofun, hbook (.ended outcome)⟩
    rw [← hcall, Function.update_eq_self]
    rfl

theorem policyTurn_rule {request : PolicyRequest} {phase : PolicyPhase} (succeeds : Bool)
    (hcall : s.calls i = some (.policy request phase)) :
    TurnRule s i (.policy request phase) (s.policyTurn i request succeeds phase) := by
  have hsame : s.calls = Function.update s.calls i (some (.policy request phase)) := by
    rw [← hcall, Function.update_eq_self]
  cases phase with
  | lookup =>
    simp only [policyTurn]
    split
    · exact ⟨_, hsame, rfl, nofun, .keeps nofun nofun, .keeps (fun _ => rfl) nofun nofun⟩
    · rename_i hholder
      have hfree : s.book.holder = none := by simpa using hholder
      split
      · split
        · exact ⟨_, rfl, rfl, nofun, .keeps nofun nofun, .holds hfree nofun⟩
        · exact ⟨_, rfl, rfl, nofun, .keeps nofun nofun, .keeps (fun _ => rfl) nofun nofun⟩
      · rename_i hnew
        refine ⟨_, rfl, rfl, fun _ hkind => absurd hkind request.leaseKind_ne_promotion,
          .keeps nofun nofun, .claims hfree hnew fun id hash hclaims => ?_⟩
        split at hclaims <;> exact ⟨hclaims.1.symm, hclaims.2.symm⟩
  | existing => exact ⟨_, rfl, rfl, nofun, .keeps nofun nofun, .frees trivial nofun⟩
  | acquire =>
    simp only [policyTurn]
    cases hkind : request.leaseKind with
    | none =>
      exact ⟨_, rfl, rfl, nofun, .keeps nofun nofun,
        .keeps (fun _ => rfl) (fun _ => trivial) fun _ _ h => h⟩
    | some kind =>
      simp only [OperationLease.acquireLocked]
      cases hactive : s.lease.activeKind with
      | some active =>
        exact ⟨_, rfl, rfl, nofun, .keeps nofun nofun, .unclaims ⟨rfl, rfl⟩ nofun⟩
      | none =>
        exact ⟨_, rfl, rfl, nofun, .grants (activeKind_eq_none hactive) hkind trivial trivial,
          .keeps (fun _ => rfl) (fun _ => trivial) fun _ _ h => h⟩
  | register =>
    exact ⟨_, rfl, rfl, nofun, .keeps (fun _ => trivial) nofun, .creates ⟨rfl, rfl⟩ nofun⟩
  | executing =>
    simp only [policyTurn]
    cases hkind : request.leaseKind with
    | none => exact ⟨_, rfl, rfl, nofun, .leaves hkind trivial, .keeps (fun _ => rfl) nofun nofun⟩
    | some kind =>
      exact ⟨_, rfl, rfl, nofun, .releases hkind trivial, .keeps (fun _ => rfl) nofun nofun⟩
  | finishing =>
    refine ⟨_, rfl, rfl, nofun, .keeps nofun nofun, .keeps (fun id => ?_) nofun nofun⟩
    by_cases hid : id = request.requestId
    · rw [hid, Function.update_self, Option.isSome_map]
    · rw [Function.update_of_ne hid]
  | ended outcome =>
    exact ⟨_, hsame, rfl, nofun, .keeps nofun nofun, .keeps (fun _ => rfl) nofun nofun⟩

theorem turn_rule (succeeds : Bool) (hcall : s.calls i = some call) :
    TurnRule s i call (s.turn i succeeds call) := by
  cases call with
  | lifecycle action phase => exact lifecycleTurn_rule succeeds hcall
  | policy request phase => exact policyTurn_rule succeeds hcall

/-! ## The lease over time -/

/-- Every owner is a call between taking the lease and releasing it, and there is one only. -/
structure LeaseInv (calls : Nat → Option AdminCall) (lease : OperationLease) : Prop where
  owned : ∀ kind i, lease.owners kind = some ⟨i⟩ →
    ∃ call, calls i = some call ∧ call.leaseKind = some kind ∧ call.Active
  single : ∀ kind kind' id id', lease.owners kind = some id → lease.owners kind' = some id' →
    kind = kind' ∧ id = id'

theorem owners_release {id id' : OperationId}
    (h : (lease.release kind id).owners kind' = some id') :
    lease.owners kind' = some id' ∧ ¬(kind' = kind ∧ id' = id) := by
  unfold OperationLease.release at h
  split at h
  · rename_i howner
    by_cases hsame : kind' = kind
    · subst hsame
      simp only [Function.update_self] at h
      cases h
    · simp only [Function.update_of_ne hsame] at h
      exact ⟨h, fun hboth => hsame hboth.1⟩
  · rename_i howner
    exact ⟨h, fun ⟨hkind, hid⟩ => howner (hkind ▸ hid ▸ h)⟩

theorem owners_grant {id id' : OperationId} (hfree : ∀ kind, lease.owners kind = none)
    (h : Function.update lease.owners kind (some id) kind' = some id') :
    kind' = kind ∧ id' = id := by
  by_cases hsame : kind' = kind
  · subst hsame
    rw [Function.update_self] at h
    exact ⟨rfl, (Option.some.inj h).symm⟩
  · rw [Function.update_of_ne hsame, hfree] at h
    cases h

section Turn

variable {calls : Nat → Option AdminCall} {i : Nat} {call call' : AdminCall}

theorem leaseInv_turn {lease lease' : OperationLease} (hinv : LeaseInv calls lease)
    (hcall : calls i = some call) (hkind : call'.leaseKind = call.leaseKind)
    (hrule : LeaseRule lease i call call' lease') :
    LeaseInv (Function.update calls i (some call')) lease' := by
  -- an owner other than `i` keeps its call, and `i` itself keeps its kind
  have hkept : ∀ kind j, lease.owners kind = some ⟨j⟩ →
      (j = i → call.leaseKind = some kind → call.Active → call'.Active) →
      ∃ call, Function.update calls i (some call') j = some call ∧
        call.leaseKind = some kind ∧ call.Active := by
    intro kind j howner hactive
    obtain ⟨owner, hownerCall, hownerKind, hownerActive⟩ := hinv.owned kind j howner
    by_cases hj : j = i
    · subst hj
      cases hcall.symm.trans hownerCall
      exact ⟨call', Function.update_self _ _ _, hkind.trans hownerKind,
        hactive rfl hownerKind hownerActive⟩
    · exact ⟨owner, (Function.update_of_ne hj _ _).trans hownerCall, hownerKind, hownerActive⟩
  cases hrule with
  | keeps hactive _ =>
    exact ⟨fun kind j howner => hkept kind j howner fun _ _ => hactive, hinv.single⟩
  | @grants kind hfree hcallKind _ hactive =>
    refine ⟨fun kind' j howner => ?_, fun kind₁ kind₂ id₁ id₂ h₁ h₂ => ?_⟩
    · obtain ⟨rfl, hj⟩ := owners_grant hfree howner
      cases hj
      exact ⟨call', Function.update_self _ _ _, hkind.trans hcallKind, hactive⟩
    · obtain ⟨rfl, rfl⟩ := owners_grant hfree h₁
      obtain ⟨rfl, rfl⟩ := owners_grant hfree h₂
      exact ⟨rfl, rfl⟩
  | @releases kind hcallKind _ =>
    refine ⟨fun kind' j howner => ?_, fun kind₁ kind₂ id₁ id₂ h₁ h₂ => ?_⟩
    · obtain ⟨hbefore, hnot⟩ := owners_release howner
      refine hkept kind' j hbefore fun hj hownerKind _ => absurd ?_ hnot
      exact ⟨Option.some.inj (hownerKind.symm.trans hcallKind), by rw [hj]⟩
    · exact hinv.single _ _ _ _ (owners_release h₁).1 (owners_release h₂).1
  | leaves hcallKind _ =>
    refine ⟨fun kind j howner => hkept kind j howner fun _ hownerKind _ => ?_, hinv.single⟩
    cases hownerKind.symm.trans hcallKind

/-! ## The table of request ids -/

/-- The lock is held by the call that is in a section under it; an id that is entered has a job
or a call that is about to create it. -/
structure BookInv (calls : Nat → Option AdminCall) (book : PolicyBook) : Prop where
  holder : ∀ i call, calls i = some call → call.Holds → book.holder = some i
  claimed : ∀ i call, calls i = some call → ∀ id hash, call.Claims id hash →
    book.idempotency id = some hash ∧ ∀ hash', (id, hash') ∉ book.created
  entered : ∀ id hash, (id, hash) ∈ book.created → book.idempotency id = some hash
  created : (book.created.map Prod.fst).Nodup
  jobs : ∀ id, (book.jobs id).isSome = true ↔ ∃ hash, (id, hash) ∈ book.created

theorem holds_of_claims {id hash : Nat} (h : call.Claims id hash) : call.Holds := by
  rcases call with ⟨action, phase⟩ | ⟨request, phase⟩
  · cases h
  · cases phase <;> trivial

variable {book : PolicyBook}

section

variable (hinv : BookInv calls book)

include hinv

theorem BookInv.nobody (hfree : book.holder = none) (j : Nat) (other : AdminCall)
    (hother : calls j = some other) : ¬other.Holds := by
  intro hholds
  rw [hinv.holder j other hother hholds] at hfree
  cases hfree

theorem BookInv.freed (hcall : calls i = some call) (hholds : call.Holds) (hends : ¬call'.Holds)
    (j : Nat) (other : AdminCall) (hother : Function.update calls i (some call') j = some other) :
    ¬other.Holds := by
  intro hothers
  rcases TaskTable.update_eq_some hother with ⟨_, rfl⟩ | ⟨hj, hother⟩
  · exact hends hothers
  · have hi := hinv.holder i call hcall hholds
    rw [hinv.holder j other hother hothers] at hi
    exact hj (Option.some.inj hi)

/-- An id that is entered under the lock and taken back, or given its job, is not in use
otherwise. -/
theorem BookInv.entered_of_ne {id : Nat} {value : Option Nat}
    (hunused : ∀ hash, (id, hash) ∉ book.created) (id' hash' : Nat)
    (hmem : (id', hash') ∈ book.created) :
    Function.update book.idempotency id value id' = some hash' := by
  have hne : id' ≠ id := fun h => hunused hash' (h ▸ hmem)
  rw [Function.update_of_ne hne]
  exact hinv.entered id' hash' hmem

/-- When nobody holds the lock any more, the table is as good as before if its jobs are the ones
that were created, each entered under its body. -/
theorem BookInv.unlocked {book' : PolicyBook} (hcall : calls i = some call) (hholds : call.Holds)
    (hends : ¬call'.Holds)
    (hentered : ∀ id hash, (id, hash) ∈ book'.created → book'.idempotency id = some hash)
    (hcreated : (book'.created.map Prod.fst).Nodup)
    (hjobs : ∀ id, (book'.jobs id).isSome = true ↔ ∃ hash, (id, hash) ∈ book'.created) :
    BookInv (Function.update calls i (some call')) book' where
  holder j other hother hothers :=
    absurd hothers (hinv.freed hcall hholds hends j other hother)
  claimed j other hother _ _ hothers :=
    absurd (holds_of_claims hothers) (hinv.freed hcall hholds hends j other hother)
  entered := hentered
  created := hcreated
  jobs := hjobs

theorem BookInv.jobs_cons (id hash : Nat) (job : OperationPolicy × AdminJobState) (id' : Nat) :
    (Function.update book.jobs id (some job) id').isSome = true ↔
      ∃ hash', (id', hash') ∈ (id, hash) :: book.created := by
  by_cases hid : id' = id
  · subst hid
    rw [Function.update_self]
    exact ⟨fun _ => ⟨hash, List.mem_cons_self⟩, fun _ => rfl⟩
  · rw [Function.update_of_ne hid, hinv.jobs id']
    refine exists_congr fun hash' => ?_
    rw [List.mem_cons, Prod.mk.injEq]
    exact ⟨.inr, fun h => h.resolve_left fun hpair => hid hpair.1⟩

theorem bookInv_turn {book' : PolicyBook} (hcall : calls i = some call)
    (hrule : BookRule book i call call' book') :
    BookInv (Function.update calls i (some call')) book' := by
  cases hrule with
  | keeps hjobs hholds hclaims =>
    exact { hinv with
      holder := TaskTable.forall_update (fun hothers => hinv.holder i call hcall (hholds hothers))
        fun j other _ hother => hinv.holder j other hother
      claimed := TaskTable.forall_update
        (fun id hash hothers => hinv.claimed i call hcall id hash (hclaims id hash hothers))
        fun j other _ hother => hinv.claimed j other hother
      jobs := fun id => (hjobs id).symm ▸ hinv.jobs id }
  | holds hfree hclaims =>
    exact { hinv with
      holder := TaskTable.forall_update (fun _ => rfl)
        fun j other _ hother hothers => absurd hothers (hinv.nobody hfree j other hother)
      claimed := TaskTable.forall_update
        (fun id hash hothers => absurd hothers (hclaims id hash))
        fun j other _ hother => hinv.claimed j other hother }
  | @claims id hash hfree hnew hclaims =>
    have hunused : ∀ hash', (id, hash') ∉ book.created := by
      intro hash' hmem
      rw [hinv.entered id hash' hmem] at hnew
      cases hnew
    refine { hinv with
      holder := TaskTable.forall_update (fun _ => rfl)
        fun j other _ hother hothers => absurd hothers (hinv.nobody hfree j other hother)
      claimed := TaskTable.forall_update (fun id' hash' hothers => ?_)
        fun j other _ hother _ _ hothers =>
          absurd (holds_of_claims hothers) (hinv.nobody hfree j other hother)
      entered := hinv.entered_of_ne hunused }
    obtain ⟨rfl, rfl⟩ := hclaims id' hash' hothers
    exact ⟨Function.update_self _ _ _, hunused⟩
  | @unclaims id hash hclaims hends =>
    have hunused := (hinv.claimed i call hcall id hash hclaims).2
    exact hinv.unlocked hcall (holds_of_claims hclaims) hends (hinv.entered_of_ne hunused)
      hinv.created hinv.jobs
  | frees hholds hends =>
    exact hinv.unlocked hcall hholds hends hinv.entered hinv.created hinv.jobs
  | @creates id hash job hclaims hends =>
    obtain ⟨hentered, hunused⟩ := hinv.claimed i call hcall id hash hclaims
    refine hinv.unlocked hcall (holds_of_claims hclaims) hends (fun id' hash' hmem => ?_)
      (List.nodup_cons.mpr ⟨fun hmem => ?_, hinv.created⟩) (hinv.jobs_cons id hash job)
    · rcases List.mem_cons.mp hmem with hnew | hmem
      · cases hnew
        exact hentered
      · exact hinv.entered id' hash' hmem
    · obtain ⟨⟨id', hash'⟩, hpair, hid⟩ := List.mem_map.mp hmem
      cases hid
      exact hunused hash' hpair

end

end Turn

/-! ## Starts -/

section Start

variable {calls : Nat → Option AdminCall} {i : Nat} {call : AdminCall}

theorem leaseInv_start {lease : OperationLease} (hinv : LeaseInv calls lease)
    (hnew : calls i = none) : LeaseInv (Function.update calls i (some call)) lease := by
  refine ⟨fun kind j howner => ?_, hinv.single⟩
  obtain ⟨owner, hcall, howns⟩ := hinv.owned kind j howner
  have hj : j ≠ i := by
    rintro rfl
    rw [hnew] at hcall
    cases hcall
  exact ⟨owner, (Function.update_of_ne hj _ _).trans hcall, howns⟩

theorem bookInv_start {book : PolicyBook} (hinv : BookInv calls book) (hholds : ¬call.Holds) :
    BookInv (Function.update calls i (some call)) book :=
  { hinv with
    holder := TaskTable.forall_update (fun hothers => absurd hothers hholds)
      fun j other _ hother => hinv.holder j other hother
    claimed := TaskTable.forall_update
      (fun _ _ hothers => absurd (holds_of_claims hothers) hholds)
      fun j other _ hother => hinv.claimed j other hother }

end Start

/-! ## Runs -/

/-- What holds of the lease, the table and the flag in every state. -/
structure Inv (s : AdminSystem) : Prop where
  lease : LeaseInv s.calls s.lease
  book : BookInv s.calls s.book
  blocked : s.lease.promotionBlocked = true → ∀ i call, s.calls i = some call →
    call.leaseKind = some .promotion → ¬call.Acquiring

theorem inv_init : init.Inv where
  lease := ⟨nofun, nofun⟩
  book := ⟨nofun, nofun, nofun, .nil, fun _ => ⟨nofun, nofun⟩⟩
  blocked := nofun

theorem Inv.exclusive (h : s.Inv) : s.Exclusive :=
  ⟨h.lease.single, h.book.created, h.book.jobs⟩

theorem promotionBlocked_of_rule {lease' : OperationLease} {call' : AdminCall}
    (h : LeaseRule lease i call call' lease') :
    lease'.promotionBlocked = lease.promotionBlocked := by
  cases h with
  | releases _ _ =>
    unfold OperationLease.release
    split <;> rfl
  | _ => rfl

theorem inv_start (h : s.Inv) (hnew : s.calls i = none) (hholds : ¬call.Holds)
    (hflag : call.leaseKind = some .promotion → ¬call.Acquiring) : (s.setCall i call).Inv where
  lease := leaseInv_start h.lease hnew
  book := bookInv_start h.book hholds
  blocked hblocked j other hother hkind := by
    rcases TaskTable.update_eq_some hother with ⟨_, rfl⟩ | ⟨_, hother⟩
    · exact hflag hkind
    · exact h.blocked hblocked j other hother hkind

theorem inv_turn (h : s.Inv) (succeeds : Bool) (hcall : s.calls i = some call) :
    (s.turn i succeeds call).Inv := by
  obtain ⟨call', hcalls, hkind, hflag, hlease, hbook⟩ := turn_rule succeeds hcall
  refine ⟨?_, ?_, fun hblocked j other hother hpromotion => ?_⟩
  · rw [hcalls]
    exact leaseInv_turn h.lease hcall hkind hlease
  · rw [hcalls]
    exact bookInv_turn h.book hcall hbook
  · rw [promotionBlocked_of_rule hlease] at hblocked
    rw [hcalls] at hother
    rcases TaskTable.update_eq_some hother with ⟨_, rfl⟩ | ⟨_, hother⟩
    · intro hacquiring
      rw [hflag hacquiring (hkind ▸ hpromotion)] at hblocked
      cases hblocked
    · exact h.blocked hblocked j other hother hpromotion

theorem inv_step (s : AdminSystem) (e : AdminEvent) (h : s.Inv) (hguard : s.blockGuard e) :
    (s.step e).Inv := by
  cases e with
  | startLifecycle i action =>
    simp only [step]
    split
    · exact h
    · rename_i hnew
      refine inv_start h (by simpa using hnew) (fun hholds => hholds) ?_
      cases action <;> nofun
  | startPolicy i request =>
    simp only [step]
    split
    · exact h
    · rename_i hnew
      exact inv_start h (by simpa using hnew) nofun nofun
  | advance i succeeds =>
    simp only [step]
    split
    · rename_i call hcall
      exact inv_turn h succeeds hcall
    · exact h
  | block =>
    exact ⟨⟨h.lease.owned, h.lease.single⟩, h.book, fun _ => hguard⟩
  | unblock =>
    exact ⟨⟨h.lease.owned, h.lease.single⟩, h.book, nofun⟩

theorem release_kept {id id' : OperationId} (howner : lease.owners kind' = some id')
    (hgone : (lease.release kind id).owners kind' ≠ some id') : id' = id := by
  unfold OperationLease.release at hgone
  split at hgone
  · rename_i hid
    by_cases hsame : kind' = kind
    · subst hsame
      exact Option.some.inj (howner.symm.trans hid)
    · simp only [Function.update_of_ne hsame] at hgone
      exact absurd howner hgone
  · exact absurd howner hgone

theorem Inv.refused (h : s.Inv) (succeeds : Bool) {request : PolicyRequest}
    {error : OperationLeaseError} (hcall : s.calls i = some (.policy request .acquire))
    (hended : (s.step (.advance i succeeds)).calls i =
      some (.policy request (.ended (.leaseBusy error)))) :
    (s.step (.advance i succeeds)).book.idempotency request.requestId = none ∧
      (s.step (.advance i succeeds)).book.jobs request.requestId = none ∧
      ∀ hash, (request.requestId, hash) ∉ (s.step (.advance i succeeds)).book.created := by
  obtain ⟨_, hunused⟩ :=
    h.book.claimed i _ hcall request.requestId request.bodyHash ⟨rfl, rfl⟩
  have hjob : s.book.jobs request.requestId = none := by
    refine Option.not_isSome_iff_eq_none.mp fun hsome => ?_
    obtain ⟨hash, hmem⟩ := (h.book.jobs request.requestId).mp hsome
    exact hunused hash hmem
  simp only [step, hcall, turn, policyTurn] at hended ⊢
  split at hended
  · simp only [setCall, Function.update_self] at hended
    cases hended
  · split at hended
    · exact ⟨Function.update_self _ _ _, hjob, hunused⟩
    · simp only [setCall, Function.update_self] at hended
      cases hended

theorem owners_step (s : AdminSystem) (e : AdminEvent) :
    (s.step e).lease.owners = s.lease.owners ∨
      ∃ i succeeds call call', e = .advance i succeeds ∧ s.calls i = some call ∧
        LeaseRule s.lease i call call' (s.step e).lease := by
  cases e with
  | startLifecycle i action =>
    simp only [step]
    split <;> exact .inl rfl
  | startPolicy i request =>
    simp only [step]
    split <;> exact .inl rfl
  | advance i succeeds =>
    simp only [step]
    split
    · rename_i call hcall
      obtain ⟨call', _, _, _, hlease, _⟩ := turn_rule succeeds hcall
      exact .inr ⟨i, succeeds, call, call', rfl, hcall, hlease⟩
    · exact .inl rfl
  | block => exact .inl rfl
  | unblock => exact .inl rfl

theorem Inv.stepSound (h : s.Inv) (e : AdminEvent) : s.StepSound e := by
  refine ⟨fun kind id howner hgone => ?_, fun id howner hbefore => ?_, ?_⟩
  · rcases owners_step s e with hsame | ⟨i, succeeds, call, call', rfl, hcall, hrule⟩
    · rw [hsame] at hgone
      exact absurd howner hgone
    · generalize (s.step (.advance i succeeds)).lease = lease' at hrule hgone
      cases hrule with
      | keeps _ _ => exact absurd howner hgone
      | grants hfree _ _ _ =>
        rw [hfree kind] at howner
        cases howner
      | releases _ hcompleting =>
        obtain rfl := release_kept howner hgone
        exact ⟨succeeds, call, rfl, hcall, hcompleting⟩
      | leaves _ _ => exact absurd howner hgone
  · rcases owners_step s e with hsame | ⟨i, succeeds, call, call', rfl, hcall, hrule⟩
    · rw [hsame] at howner
      exact absurd howner hbefore
    · generalize (s.step (.advance i succeeds)).lease = lease' at hrule howner
      cases hrule with
      | keeps _ _ => exact absurd howner hbefore
      | grants hfree hkind hacquiring _ =>
        obtain ⟨rfl, _⟩ := owners_grant hfree howner
        exact eq_false_of_ne_true fun hblocked =>
          h.blocked hblocked i call hcall hkind hacquiring
      | releases _ _ => exact absurd (owners_release howner).1 hbefore
      | leaves _ _ => exact absurd howner hbefore
  · rintro i succeeds request error rfl hcall hended
    exact h.refused succeeds hcall hended

/-- In every run in which the flag is not set between a promotion's look at it and the lock: one
operation at most owns the lease and no request id has two jobs, in every state; and a lease is
released by the completion of its owner only, none is granted to a promotion that is blocked, and
a policy start refused as busy leaves its id unused, in every step. -/
theorem starts_exclude_each_other (events : List AdminEvent)
    (hguard : Machine.Guarded blockGuard step init events) :
    (∀ t ∈ Machine.visited step init events, t.Exclusive) ∧
      ∀ p ∈ Machine.steps step init events, p.1.StepSound p.2 := by
  constructor
  · intro t ht
    exact (Machine.invariant_visited inv_step inv_init hguard t ht).exclusive
  · intro p hp
    exact (Machine.invariant_steps inv_step inv_init hguard p hp).stepSound p.2

/-- A promotion takes the lease, promotions are blocked, and a policy start is refused. -/
def contention : List AdminEvent :=
  [.startLifecycle 0 .promote, .advance 0 true, .advance 0 true, .block,
    .startPolicy 1 ⟨7, 9, .automatic⟩, .advance 1 true, .advance 1 true, .advance 0 true]

theorem starts_exclude_each_other_contention :
    Machine.Guarded blockGuard step init contention ∧
      (∀ t ∈ Machine.visited step init contention, t.Exclusive) ∧
      ∀ p ∈ Machine.steps step init contention, p.1.StepSound p.2 := by
  have hguard : Machine.Guarded blockGuard step init contention := by
    refine Machine.guarded_cons.mpr ⟨trivial, Machine.guarded_cons.mpr ⟨trivial,
      Machine.guarded_cons.mpr ⟨trivial, Machine.guarded_cons.mpr ⟨?_, fun p hp => ?_⟩⟩⟩⟩
    · -- the promotion has taken the lease
      intro i call hcall _
      rcases TaskTable.update_eq_some hcall with ⟨_, rfl⟩ | ⟨hi, hcall⟩
      · nofun
      · rcases TaskTable.update_eq_some hcall with ⟨rfl, _⟩ | ⟨_, hcall⟩
        · exact absurd rfl hi
        · rcases TaskTable.update_eq_some hcall with ⟨rfl, _⟩ | ⟨_, hcall⟩
          · exact absurd rfl hi
          · cases hcall
    · have hmem := Machine.mem_of_mem_steps hp
      rcases p with ⟨s, _ | _ | _ | _ | _⟩
      case block => simp at hmem
      all_goals trivial
  exact ⟨hguard, starts_exclude_each_other contention hguard⟩

/-- Promotions are blocked after a promotion has looked at the flag; it takes the lease all the
same. -/
theorem promotion_granted_while_blocked :
    let s := Machine.run step init [.startLifecycle 0 .promote, .advance 0 true, .block]
    s.lease.promotionBlocked = true ∧ s.lease.owners .promotion = none ∧
      (s.step (.advance 0 true)).lease.owners .promotion = some ⟨0⟩ ∧
      ¬s.StepSound (.advance 0 true) := by
  refine ⟨rfl, rfl, rfl, fun hsound => ?_⟩
  have hflag := hsound.granted ⟨0⟩ rfl nofun
  cases hflag

/-! ## The lease without the guard -/

theorem leaseInv_step (s : AdminSystem) (e : AdminEvent) (h : LeaseInv s.calls s.lease) :
    LeaseInv (s.step e).calls (s.step e).lease := by
  cases e with
  | startLifecycle i action =>
    simp only [step]
    split
    · exact h
    · rename_i hnew
      exact leaseInv_start h (by simpa using hnew)
  | startPolicy i request =>
    simp only [step]
    split
    · exact h
    · rename_i hnew
      exact leaseInv_start h (by simpa using hnew)
  | advance i succeeds =>
    simp only [step]
    split
    · rename_i call hcall
      obtain ⟨call', hcalls, hkind, _, hlease, _⟩ := turn_rule succeeds hcall
      rw [hcalls]
      exact leaseInv_turn h hcall hkind hlease
    · exact h
  | block => exact ⟨h.owned, h.single⟩
  | unblock => exact ⟨h.owned, h.single⟩

/-- Whenever promotions are blocked and however the calls end, no lease is left behind: either no
kind owns it, or its one owner is a call between taking and releasing it. -/
theorem lease_is_free_or_at_work (events : List AdminEvent) :
    let t := Machine.run step init events
    (∀ kind, t.lease.owners kind = none) ∨
      ∃ kind i call, t.lease.owners kind = some ⟨i⟩ ∧ t.calls i = some call ∧
        call.leaseKind = some kind ∧ call.Active ∧
        ∀ other, other ≠ kind → t.lease.owners other = none := by
  intro t
  have hinv : LeaseInv t.calls t.lease :=
    Machine.invariant_always (I := fun s => LeaseInv s.calls s.lease) leaseInv_step
      inv_init.lease t Machine.run_mem_visited
  cases hactive : t.lease.activeKind with
  | none => exact .inl (activeKind_eq_none hactive)
  | some kind =>
    have hsome := List.find?_some (p := fun kind => (t.lease.owners kind).isSome) hactive
    obtain ⟨⟨i⟩, howner⟩ := Option.isSome_iff_exists.mp hsome
    obtain ⟨call, hcall, hkind, hwork⟩ := hinv.owned kind i howner
    refine .inr ⟨kind, i, call, howner, hcall, hkind, hwork, fun other hother => ?_⟩
    refine Option.eq_none_iff_forall_ne_some.mpr fun id hid => ?_
    exact hother (hinv.single other kind id _ hid howner).1

end AdminSystem

end Siderostat
