import Mathlib.Data.List.Nodup
import Siderostat.Tp.Frame

/-!
# The sessions of a pair

A coordinator and a worker exchange requests that may be delivered late, in any order and more
than once, and each of them may crash between any two steps and start again from its file.
-/

namespace Siderostat

open Effect

/-! ## The steps that are no step of a session -/

namespace TpNode

/-- What everything leaves alone but the reservation of a session, its start and that of a
child.  A save is among this, and so is the account of the failures. -/
structure Tame (n m : TpNode) : Prop where
  role : m.config.role = n.config.role
  allocated : m.allocated = n.allocated
  childStarts : m.childStarts = n.childStarts
  lastSession : m.journal.lastSession = n.journal.lastSession
  saved : m.saved.lastSession = n.saved.lastSession ∨
    m.saved.lastSession = n.journal.lastSession
  session : m.session = n.session ∨ m.session = none
  sent : ∀ r ∈ m.sent, r ∈ n.sent ∨ n.MaySend r

section Tame

variable {n m : TpNode} {session : Nat}

theorem Tame.refl (n : TpNode) : n.Tame n where
  role := rfl
  allocated := rfl
  childStarts := rfl
  lastSession := rfl
  saved := .inl rfl
  session := .inl rfl
  sent _ := .inl

theorem Tame.session_some (h : n.Tame m) {s : TpSession} (hs : m.session = some s) :
    n.session = some s := by
  rcases h.session with hsame | hnone
  · exact hsame.symm.trans hs
  · exact nomatch hnone.symm.trans hs

theorem Quiet.tame (h : n.Quiet m) : n.Tame m where
  role := by rw [h.config]
  allocated := h.allocated
  childStarts := h.childStarts
  lastSession := h.lastSession
  saved := h.file_of (P := fun j _ => j.lastSession = n.saved.lastSession ∨
    j.lastSession = n.journal.lastSession) (.inl rfl) (.inr rfl)
  session := h.session
  sent := h.sent

theorem tame_save : n.Tame n.save := { Tame.refl n with saved := .inr rfl }

theorem tame_markFailed : n.Tame (TpProgram.markFailed session n) := { Tame.refl n with }

theorem tame_refund {s : TpSession} : n.Tame (TpProgram.refund s n) := { Tame.refl n with }

theorem tame_noteFailure {reserved : Bool} : n.Tame (TpProgram.noteFailure session reserved n) := by
  unfold TpProgram.noteFailure
  split
  · split
    · exact { Tame.refl n with }
    · exact { Tame.refl n with }
  · exact Tame.refl n

/-- A property of nodes that tame steps respect. -/
def Calm (I : TpNode → Prop) : Prop := ∀ n m : TpNode, I n → n.Tame m → I m

theorem Calm.stable {I : TpNode → Prop} (h : Calm I) : Stable I :=
  fun n m hn hquiet => h n m hn hquiet.tame

end Tame

end TpNode

namespace TpProgram

section Calm

variable {α : Type} {I : TpNode → Prop}

theorem keeps_persist_calm (hI : TpNode.Calm I) : Keeps (fun r => I r.node) persistTpJournal :=
  keeps_persistTpJournal hI.stable fun _ hn => hI _ _ hn TpNode.tame_save

theorem keeps_tpNoteFailure (hI : TpNode.Calm I) {session : Nat} {reserved : Bool} :
    Keeps (fun r => I r.node) (tpNoteFailure session reserved) :=
  keeps_bind (keeps_update fun _ hn => hI _ _ hn TpNode.tame_noteFailure) fun _ =>
    keeps_bind (keeps_persist_calm hI) fun _ => keeps_pure

theorem keeps_markFailed (hI : TpNode.Calm I) {session : Nat} :
    Keeps (fun r => I r.node) (update (markFailed session)) :=
  keeps_update fun _ hn => hI _ _ hn TpNode.tame_markFailed

/-- `J s` holds when `s` has been found in the node; it has to let the node tell its worker
to stop `s`. -/
theorem keeps_tpReconcile {J : TpSession → TpNode → Prop} (hI : TpNode.Calm I)
    (hJ : ∀ s, TpNode.Calm (J s)) (hfound : ∀ n s, I n → n.session = some s → J s n)
    (hleave : ∀ n s, J s n → I n)
    (hstop : ∀ n s, J s n → n.config.role = .coordinator → QuietFrom n (tellStop s)) {now : Nat} :
    Keeps (fun r => I r.node) (tpReconcile now) := by
  have hquiet : ∀ {α : Type} {p : TpProgram α}, (∀ n, QuietFrom n p) →
      Keeps (fun r => I r.node) p := fun h => keeps_of_quiet hI.stable fun n _ => h n
  have hasked : ∀ n, QuietFrom n (tpPeer .node none) := fun _ => quiet_tpPeer_plain (.inl rfl)
  refine keeps_bind keeps_node fun n => keeps_ite ?_ (keeps_ite ?_ keeps_pure)
  · refine keeps_bind (keeps_attempt (hquiet hasked)) fun _ => keeps_ite ?_ keeps_pure
    exact keeps_bind keeps_node fun _ => keeps_ite (hquiet fun _ => quiet_tpFallbackLocked)
      (keeps_bind (hquiet fun _ => quiet_tpEvent rfl) fun _ => keeps_pure)
  · refine triple_bind triple_node fun m => ?_
    cases hsession : m.session with
    | none => exact triple_throw fun _ h => h.1
    | some s =>
      have hquiet' : ∀ {α : Type} {p : TpProgram α}, (∀ n, QuietFrom n p) →
          Keeps (fun r => J s r.node) p := fun h => keeps_of_quiet (hJ s).stable fun n _ => h n
      have hback := hquiet' fun _ => quiet_tpFallbackLocked
      refine triple_conseq (A := fun r => J s r.node) (B := fun _ r => J s r.node)
        (F := fun _ r => J s r.node) ?_ ?_ (fun _ _ h => hleave _ s h) fun _ _ h => hleave _ s h
      · refine keeps_bind (keeps_attempt (keeps_await (hJ s).stable)) fun _ => ?_
        refine keeps_bind (keeps_attempt (hquiet' hasked)) fun _ => ?_
        refine keeps_bind keeps_node fun _ => keeps_ite ?_ keeps_pure
        refine keeps_bind (keeps_tpNoteFailure (hJ s)) fun _ => ?_
        refine keeps_bind (keeps_markFailed (hJ s)) fun _ => keeps_bind keeps_node fun _ => ?_
        refine keeps_ite ?_ (keeps_bind (hquiet' fun _ => quiet_tpEvent rfl) fun _ => keeps_pure)
        refine triple_bind triple_node fun k => triple_ite (fun hrole => ?_) fun _ => ?_
        · have hstable : TpNode.Stable fun n => J s n ∧ n.config.role = .coordinator :=
            (hJ s).stable.and fun _ _ hn hquiet => hquiet.config ▸ hn
          refine triple_conseq (keeps_of_quiet hstable fun n hn =>
            keeps_bind (hstop n s hn.1 hn.2) fun _ => quiet_tpFallbackLocked)
            ?_ (fun _ _ h => h.1) fun _ _ h => h.1
          rintro r ⟨hr, rfl⟩
          exact ⟨hr, hrole⟩
        · exact triple_conseq hback (fun _ h => h.1) (fun _ _ h => h) fun _ _ h => h
      · rintro r ⟨hr, rfl⟩
        exact hfound r.node s hr hsession

end Calm

end TpProgram

/-! ## What a node uses -/

namespace TpNode

/-- The node uses none but these sessions. -/
structure Within (A : List TpSession) (n : TpNode) : Prop where
  session : ∀ s, n.session = some s → s ∈ A
  allocated : n.allocated ⊆ A
  childStarts : n.childStarts ⊆ A
  sent : ∀ r ∈ n.sent, r.command = .node ∨ r.command = .pair ∨ r.named ∈ A

theorem Within.mono {A B : List TpSession} {n : TpNode} (h : n.Within A) (hsub : A ⊆ B) :
    n.Within B where
  session s hs := hsub (h.session s hs)
  allocated := List.Subset.trans h.allocated hsub
  childStarts := List.Subset.trans h.childStarts hsub
  sent r hr := (h.sent r hr).imp_right (Or.imp_right (hsub ·))

theorem calm_within {A : List TpSession} : Calm (Within A) := by
  intro n m h htame
  refine
    { session := fun s hs => h.session s (htame.session_some hs)
      allocated := htame.allocated ▸ h.allocated
      childStarts := htame.childStarts ▸ h.childStarts
      sent := fun r hr => ?_ }
  rcases htame.sent r hr with hold | hnode | hpair | hsession | hallocated
  · exact h.sent r hold
  · exact .inl hnode
  · exact .inr (.inl hpair)
  · exact .inr (.inr (h.session _ hsession))
  · exact .inr (.inr (h.allocated hallocated))

theorem Within.restart {A : List TpSession} {n : TpNode} (h : n.Within A) (identity : String) :
    (n.restart identity).Within A :=
  { h with session := fun _ hs => nomatch hs }

theorem pairwise_append_singleton {l : List TpSession} {s : TpSession}
    (h : l.Pairwise fun a b => a.id < b.id) (hs : ∀ t ∈ l, t.id < s.id) :
    (l ++ [s]).Pairwise fun a b => a.id < b.id := by
  refine List.pairwise_append.mpr ⟨h, List.pairwise_singleton _ _, fun t ht u hu => ?_⟩
  rw [List.mem_singleton.mp hu]
  exact hs t ht

theorem restoreTpState_lastSession (identity : String) (j : PersistentTpState) :
    (restoreTpState identity j).lastSession = j.lastSession := by
  unfold restoreTpState
  split <;> rfl

/-! ### The coordinator -/

/-- A coordinator that has allocated the sessions `A` and maybe more, one after the other. -/
structure Issuer (A : List TpSession) (n : TpNode) : Prop where
  role : n.config.role = .coordinator
  prior : A ⊆ n.allocated
  within : n.Within n.allocated
  increasing : n.allocated.Pairwise fun s t => s.id < t.id
  saved : ∀ s ∈ n.allocated, s.id ≤ n.saved.lastSession
  order : n.saved.lastSession ≤ n.journal.lastSession

/-- It has given the id of `s` to no other session. -/
structure Pending (A : List TpSession) (s : TpSession) (n : TpNode) : Prop extends n.Issuer A where
  last : n.journal.lastSession = s.id
  fresh : ∀ t ∈ n.allocated, t.id < s.id

structure Issued (A : List TpSession) (s : TpSession) (n : TpNode) : Prop extends n.Issuer A where
  mem : s ∈ n.allocated

structure Issuing (A : List TpSession) (s : TpSession) (n : TpNode) : Prop
    extends n.Issued A s where
  last : n.journal.lastSession = s.id

section Issuer

variable {A : List TpSession} {s : TpSession} {n m : TpNode}

theorem Tame.saved_le (h : n.Tame m) (horder : n.saved.lastSession ≤ n.journal.lastSession) :
    n.saved.lastSession ≤ m.saved.lastSession ∧
      m.saved.lastSession ≤ m.journal.lastSession := by
  have hlast := h.lastSession
  rcases h.saved with hsame | hnew <;> omega

theorem calm_issuer : Calm (Issuer A) := by
  intro n m h htame
  have hsaved := htame.saved_le h.order
  refine
    { role := htame.role.trans h.role
      prior := htame.allocated ▸ h.prior
      within := htame.allocated ▸ calm_within n m h.within htame
      increasing := htame.allocated ▸ h.increasing
      saved := fun s hs => ?_
      order := hsaved.2 }
  rw [htame.allocated] at hs
  exact Nat.le_trans (h.saved s hs) hsaved.1

theorem calm_pending : Calm (Pending A s) := fun n m h htame =>
  { calm_issuer n m h.toIssuer htame with
    last := htame.lastSession.trans h.last
    fresh := htame.allocated ▸ h.fresh }

theorem calm_issued : Calm (Issued A s) := fun n m h htame =>
  { calm_issuer n m h.toIssuer htame with mem := htame.allocated ▸ h.mem }

theorem calm_issuing : Calm (Issuing A s) := fun n m h htame =>
  { calm_issued n m h.toIssued htame with last := htame.lastSession.trans h.last }

theorem Issuer.reserve (h : n.Issuer A) (hs : n.journal.lastSession < s.id) :
    (TpProgram.reserve s n).Pending A s :=
  { h with
    within := { h.within with }
    order := Nat.le_trans h.order (Nat.le_of_lt hs)
    last := rfl
    fresh := fun t ht =>
      Nat.lt_of_le_of_lt (Nat.le_trans (h.saved t ht) h.order) hs }

theorem Pending.allocate (h : n.Pending A s) (hsaved : n.saved = n.journal) :
    Issuing A s { n with allocated := n.allocated ++ [s], starting := some s.id } := by
  have hsub : n.allocated ⊆ n.allocated ++ [s] := List.subset_append_left _ _
  have hwithin := h.within.mono hsub
  refine
    { h with
      prior := List.Subset.trans h.prior hsub
      within := { hwithin with allocated := List.Subset.refl _ }
      increasing := ?_
      saved := ?_
      mem := List.mem_append_right _ (List.mem_singleton_self _) }
  · exact pairwise_append_singleton h.increasing h.fresh
  · intro t ht
    show t.id ≤ n.saved.lastSession
    rcases List.mem_append.mp ht with hold | hnew
    · exact h.saved t hold
    · have hlast : n.saved.lastSession = s.id := by rw [hsaved, h.last]
      rw [List.mem_singleton.mp hnew]
      exact Nat.le_of_eq hlast.symm

theorem Issuer.restart (h : n.Issuer A) (identity : String) : (n.restart identity).Issuer A :=
  { h with
    within := h.within.restart identity
    order := Nat.le_of_eq (restoreTpState_lastSession identity n.saved).symm }

end Issuer

/-! ### The worker -/

/-- A worker that uses the sessions `A` and starts children for them one after the other,
each after its id was saved. -/
structure Follower (A : List TpSession) (n : TpNode) : Prop where
  role : n.config.role = .worker
  within : n.Within A
  increasing : n.childStarts.Pairwise fun s t => s.id < t.id
  saved : ∀ s ∈ n.childStarts, s.id ≤ n.saved.lastSession
  order : n.saved.lastSession ≤ n.journal.lastSession

/-- The id of `s` is beyond that of every child. -/
structure Asked (A : List TpSession) (s : TpSession) (n : TpNode) : Prop extends n.Follower A where
  fresh : ∀ t ∈ n.childStarts, t.id < s.id
  last : n.journal.lastSession = s.id

structure Prepared (A : List TpSession) (s : TpSession) (n : TpNode) : Prop
    extends n.Follower A where
  fresh : ∀ t ∈ n.childStarts, t.id < s.id
  reached : s.id ≤ n.saved.lastSession

section Follower

variable {A B : List TpSession} {s : TpSession} {n : TpNode}

theorem calm_follower : Calm (Follower A) := by
  intro n m h htame
  have hsaved := htame.saved_le h.order
  refine
    { role := htame.role.trans h.role
      within := calm_within n m h.within htame
      increasing := htame.childStarts ▸ h.increasing
      saved := fun s hs => ?_
      order := hsaved.2 }
  rw [htame.childStarts] at hs
  exact Nat.le_trans (h.saved s hs) hsaved.1

theorem calm_asked : Calm (Asked A s) := fun n m h htame =>
  { calm_follower n m h.toFollower htame with
    fresh := htame.childStarts ▸ h.fresh
    last := htame.lastSession.trans h.last }

theorem calm_prepared : Calm (Prepared A s) := fun n m h htame =>
  { calm_follower n m h.toFollower htame with
    fresh := htame.childStarts ▸ h.fresh
    reached := Nat.le_trans h.reached (htame.saved_le h.order).1 }

theorem Follower.ask (h : n.Follower A) (hs : n.journal.lastSession < s.id) :
    Asked A s { n with journal := { n.journal with lastSession := s.id } } :=
  { h with
    within := { h.within with }
    order := Nat.le_trans h.order (Nat.le_of_lt hs)
    fresh := fun t ht => Nat.lt_of_le_of_lt (Nat.le_trans (h.saved t ht) h.order) hs
    last := rfl }

theorem Asked.prepare (h : n.Asked A s) (hs : s ∈ A) (hsaved : n.saved = n.journal)
    (startupDeadline : Option Nat) :
    Prepared A s { n with session := some s, startupDeadline } :=
  { h with
    within := { h.within with
      session := by
        rintro t ⟨⟩
        exact hs }
    reached := by
      have hlast : n.saved.lastSession = s.id := by rw [hsaved, h.last]
      exact Nat.le_of_eq hlast.symm }

theorem Prepared.childStart (h : n.Prepared A s) (hs : s ∈ A) :
    Follower A { n with childStarts := n.childStarts ++ [s] } := by
  refine
    { h with
      within := { h.within with childStarts := ?_ }
      increasing := ?_
      saved := ?_ }
  · intro t ht
    rcases List.mem_append.mp ht with hold | hnew
    · exact h.within.childStarts hold
    · rw [List.mem_singleton.mp hnew]
      exact hs
  · exact pairwise_append_singleton h.increasing h.fresh
  · intro t ht
    rcases List.mem_append.mp ht with hold | hnew
    · exact h.saved t hold
    · rw [List.mem_singleton.mp hnew]
      exact h.reached

theorem Follower.mono (h : n.Follower A) (hsub : A ⊆ B) : n.Follower B :=
  { h with within := h.within.mono hsub }

theorem Follower.restart (h : n.Follower A) (identity : String) :
    (n.restart identity).Follower A :=
  { h with
    within := h.within.restart identity
    order := Nat.le_of_eq (restoreTpState_lastSession identity n.saved).symm }

end Follower

end TpNode

/-! ## The programs -/

namespace TpProgram

section Issuer

variable {A : List TpSession} {s : TpSession}

theorem issuing_tpStartUp : Keeps (fun r => r.node.Issuing A s) (tpStartUp s) := by
  have hstable : TpNode.Stable (TpNode.Issuing A s) := TpNode.calm_issuing.stable
  have hbegin : Keeps (fun r => r.node.Issuing A s) (tpBegin s) := by
    refine triple_tpBegin hstable hstable hstable ?_ ?_ ?_ ?_ ?_ ?_ ?_
    · intro n hn
      rw [← hn.last]
      exact hn
    · exact fun n hn => TpNode.calm_issuing _ _ hn TpNode.tame_save
    · intro n deadline hn _
      refine { hn with within := { hn.within with session := ?_ } }
      rintro t ⟨⟩
      exact hn.mem
    · exact fun n snapshot hn => { hn with within := { hn.within with } }
    · exact fun n hn => hn
    · exact fun n hn => hn
    · exact fun n hn => hn
  have hchild : Keeps (fun r => r.node.Issuing A s) (childStart s) := by
    refine keeps_childStart hstable fun n hn =>
      { hn with within := { hn.within with childStarts := ?_ } }
    intro t ht
    rcases List.mem_append.mp ht with hold | hnew
    · exact hn.within.childStarts hold
    · rw [List.mem_singleton.mp hnew]
      exact hn.mem
  have hprepare : Keeps (fun r => r.node.Issuing A s) (tpPrepareWorker s) :=
    keeps_of_quiet hstable fun n hn => quiet_tpPrepareWorker (.inr hn.mem)
  have hcomplete : Keeps (fun r => r.node.Issuing A s) (tpComplete s) :=
    keeps_of_quiet hstable fun n hn => quiet_tpComplete (.inr hn.mem)
  refine keeps_bind hbegin fun _ => keeps_bind hprepare fun _ => ?_
  exact keeps_bind hchild fun _ => hcomplete

theorem issuing_tpAttempt {later : Nat} :
    Keeps (fun r => r.node.Issuing A s) (tpAttempt s later) := by
  have hstop : Keeps (fun r => r.node.Issuing A s) (tellStop s) :=
    keeps_of_quiet TpNode.calm_issuing.stable fun n hn => quiet_tellStop (.inr hn.mem)
  have hback : Keeps (fun r => r.node.Issuing A s) tpFallbackLocked :=
    keeps_of_quiet TpNode.calm_issuing.stable fun _ _ => quiet_tpFallbackLocked
  refine keeps_bind (keeps_attempt issuing_tpStartUp) fun started => keeps_ite ?_ ?_
  · refine keeps_bind (keeps_markFailed TpNode.calm_issuing) fun _ => ?_
    refine keeps_bind (keeps_tpNoteFailure TpNode.calm_issuing) fun _ => ?_
    refine keeps_bind hstop fun _ => keeps_bind hback fun _ => ?_
    exact keeps_bind (keeps_update fun n hn =>
      TpNode.calm_issuing _ _ hn { TpNode.Tame.refl n with }) fun _ => keeps_throw
  · refine keeps_bind (keeps_update fun n hn =>
      TpNode.calm_issuing _ _ hn TpNode.tame_refund) fun _ => ?_
    exact keeps_bind (keeps_persist_calm TpNode.calm_issuing) fun _ => keeps_pure

theorem issuer_tpPromoteOwned {operation now later : Nat} :
    Keeps (fun r => r.node.Issuer A) (tpPromoteOwned operation now later) := by
  have hstable : TpNode.Stable (TpNode.Issuer A) := TpNode.calm_issuer.stable
  have hasked : Keeps (fun r => r.node.Issuer A) (tpPeer .node none) :=
    keeps_of_quiet hstable fun _ _ => quiet_tpPeer_plain (.inl rfl)
  refine keeps_bind keeps_node fun _ => keeps_bind keeps_ensure fun _ => ?_
  refine keeps_bind keeps_node fun _ => keeps_bind keeps_tpPolicyCheck fun _ => ?_
  refine keeps_bind keeps_node fun _ => keeps_bind keeps_ensure fun _ => ?_
  refine keeps_bind keeps_node fun _ => keeps_bind keeps_ensure fun _ => ?_
  refine keeps_bind keeps_node fun _ => keeps_bind keeps_ensure fun _ => ?_
  refine keeps_bind keeps_node fun _ => keeps_bind keeps_ensure fun _ => ?_
  refine keeps_bind hasked fun peer => keeps_bind (keeps_await hstable) fun _ => ?_
  refine triple_bind triple_node fun n => ?_
  refine triple_bind (keeps_ensure.weaken_error fun _ _ h => h.1) fun _ => ?_
  refine triple_bind (keeps_node.weaken_error fun _ _ h => h.1) fun _ => ?_
  generalize hs : ({ id := _, operation := _, epoch := _ } : TpSession) = s
  have hid : n.journal.lastSession < s.id := by
    rw [← hs]
    exact Nat.lt_succ_of_le (Nat.le_max_left _ _)
  refine triple_bind (Q := fun _ (r : TpRun) => r.node.Pending A s)
    (by rintro r ⟨hr, rfl⟩; exact hr.reserve hid) fun _ => ?_
  refine triple_bind (triple_conseq (triple_persistTpJournal TpNode.calm_pending.stable
    fun _ hn => TpNode.calm_pending _ _ hn TpNode.tame_save) (fun _ h => h) (fun _ _ h => h)
    fun _ _ h => h.toIssuer) fun _ => ?_
  refine triple_bind (Q := fun _ (r : TpRun) => r.node.Issuing A s)
    (fun r hr => hr.1.allocate hr.2.1) fun _ => ?_
  exact triple_conseq issuing_tpAttempt (fun _ h => h) (fun _ _ h => h.toIssuer)
    fun _ _ h => h.toIssuer

theorem issuer_tpReconcile {now : Nat} :
    Keeps (fun r => r.node.Issuer A) (tpReconcile now) :=
  keeps_tpReconcile TpNode.calm_issuer (fun _ => TpNode.calm_issued)
    (fun _ s hn hs => { hn with mem := hn.within.session s hs }) (fun _ _ hn => hn.toIssuer)
    fun _ _ hn _ => quiet_tellStop (.inr hn.mem)

theorem issuer_tpPrepare {r : TpRequest} : Keeps (fun r => r.node.Issuer A) (tpPrepare r) :=
  keeps_refused fun n hn => by
    rw [hn.role]
    rfl

end Issuer

section Follower

variable {A : List TpSession}

theorem follower_tpPromoteOwned {operation now later : Nat} :
    Keeps (fun r => r.node.Follower A) (tpPromoteOwned operation now later) :=
  keeps_refused fun n hn => by
    rw [hn.role]
    rfl

theorem follower_tpReconcile {now : Nat} :
    Keeps (fun r => r.node.Follower A) (tpReconcile now) :=
  keeps_tpReconcile (J := fun _ => TpNode.Follower A) TpNode.calm_follower
    (fun _ => TpNode.calm_follower) (fun _ _ hn _ => hn) (fun _ _ hn => hn)
    fun _ _ hn hrole => nomatch hn.role.symm.trans hrole

theorem follower_tpPrepare {r : TpRequest} (hr : r.named ∈ A) :
    Keeps (fun r => r.node.Follower A) (tpPrepare r) := by
  have hstable : TpNode.Stable (TpNode.Follower A) := TpNode.calm_follower.stable
  have hback : Keeps (fun r => r.node.Follower A) tpFallbackLocked :=
    keeps_of_quiet hstable fun _ _ => quiet_tpFallbackLocked
  refine keeps_bind keeps_node fun _ => keeps_bind keeps_ensure fun _ => ?_
  refine keeps_bind keeps_node fun m => ?_
  cases m.session with
  | some current => exact keeps_ensure
  | none =>
    have hlate : TpNode.Stable fun n => n.Follower A ∧ n.journal.lastSession < r.session :=
      hstable.and fun _ _ hn hquiet => by
        rw [hquiet.lastSession]
        exact hn
    refine triple_bind triple_node fun n => triple_bind (triple_conseq triple_ensure
      (fun _ h => h) (fun _ _ h => h) fun _ _ h => h.2.1) fun _ => ?_
    refine triple_conseq
      (A := fun run => run.node.Follower A ∧ run.node.journal.lastSession < r.session)
      ?_ ?_ (fun _ _ h => h) fun _ _ h => h
    · refine triple_bind ((keeps_await hlate).weaken_error fun _ _ h => h.1) fun _ => ?_
      have hchild : Triple (fun run => run.node.Prepared A r.named) (childStart r.named)
          (fun _ run => run.node.Follower A) (fun _ run => run.node.Follower A) :=
        triple_bind (Q := fun _ (run : TpRun) => run.node.Follower A)
          (fun run hn => hn.childStart hr) fun _ => keeps_await hstable
      refine triple_bind (triple_tpBegin hlate TpNode.calm_asked.stable
        TpNode.calm_prepared.stable (fun n hn => hn.1.ask hn.2)
        (fun n hn => TpNode.calm_asked _ _ hn TpNode.tame_save)
        (fun n deadline hn hsaved => hn.prepare hr hsaved deadline)
        (fun n snapshot hn => { hn with within := { hn.within with } })
        (fun _ hn => hn.1) (fun _ hn => hn.toFollower) fun _ hn => hn.toFollower) fun _ => ?_
      refine triple_bind (Q := fun _ (run : TpRun) => run.node.Follower A) ?_ fun _ => ?_
      · refine triple_conseq (triple_attempt hchild) (fun _ h => h) ?_ fun _ _ h => h.2
        rintro (_ | _) run hrun <;> exact hrun
      refine keeps_ite (keeps_bind hback fun _ => keeps_throw) ?_
      refine keeps_bind (keeps_await hstable) fun _ => keeps_bind keeps_ensure fun _ => ?_
      exact keeps_bind (keeps_tpEvent hstable rfl) fun _ => keeps_pure
    · rintro run ⟨⟨hn, rfl⟩, hlt⟩
      exact ⟨hn, of_decide_eq_true hlt⟩

end Follower

end TpProgram

/-! ## One operation -/

theorem TpNode.next_of_calm {I : TpNode → Prop} (hI : TpNode.Calm I)
    (hrestart : ∀ n identity, I n → I (n.restart identity))
    (hpromote : ∀ operation now later,
      Keeps (fun r => I r.node) (TpProgram.tpPromoteOwned operation now later))
    (hreconcile : ∀ now, Keeps (fun r => I r.node) (TpProgram.tpReconcile now)) {n : TpNode}
    (hn : I n) (e : TpNodeEvent)
    (hprepare : ∀ r seen now outcomes, e = .handle r seen now outcomes → r.command = .prepare →
      Keeps (fun r => I r.node) (TpProgram.tpPrepare r)) : I (n.next e) := by
  have hperform : ∀ {α : Type} {p : TpProgram α} (outcomes : List TpOutcome),
      Keeps (fun r => I r.node) p → I (n.perform p outcomes) := fun outcomes h =>
    perform_of h (fun _ hr => hr) (fun r hr => hrestart r.node _ hr) hn outcomes
  have hquiet : ∀ {α : Type} {p : TpProgram α} (outcomes : List TpOutcome),
      (∀ m, TpProgram.QuietFrom m p) → I (n.perform p outcomes) := fun outcomes h =>
    hperform outcomes (TpProgram.keeps_of_quiet hI.stable fun m _ => h m)
  cases e with
  | promote operation now later outcomes => exact hperform outcomes (hpromote operation now later)
  | handle r seen now outcomes =>
    refine hperform outcomes (TpProgram.keeps_handleTp ?_)
    by_cases hcommand : r.command = .prepare
    · simp only [TpProgram.tpCommand, hcommand]
      refine keeps_bind (hprepare r seen now outcomes rfl hcommand) fun _ => ?_
      exact keeps_bind (TpProgram.keeps_await hI.stable) fun _ => keeps_pure
    · exact TpProgram.keeps_of_quiet hI.stable fun _ _ => TpProgram.quiet_tpCommand hcommand
  | pair outcomes => exact hquiet outcomes fun _ => TpProgram.quiet_tpPair
  | reconcile now outcomes => exact hperform outcomes (hreconcile now)
  | demote outcomes => exact hquiet outcomes fun _ => TpProgram.quiet_tpDemote
  | operatorReconcile wasManual outcomes =>
    exact hquiet outcomes fun _ => TpProgram.quiet_operatorReconcile
  | stopForRestart outcomes => exact hquiet outcomes fun _ => TpProgram.quiet_tpStopForRestart
  | shutdown outcomes => exact hquiet outcomes fun _ => TpProgram.quiet_tpShutdown
  | move move => exact hI.stable n _ hn (TpNode.quiet_applyMove move)
  | restart identity => exact hrestart n identity hn

theorem TpNode.Issuer.next {A : List TpSession} {n : TpNode} (h : n.Issuer A) (e : TpNodeEvent) :
    (n.next e).Issuer A :=
  next_of_calm calm_issuer (fun _ identity hn => hn.restart identity)
    (fun _ _ _ => TpProgram.issuer_tpPromoteOwned) (fun _ => TpProgram.issuer_tpReconcile) h e
    fun _ _ _ _ _ _ => TpProgram.issuer_tpPrepare

theorem TpNode.Follower.next {A : List TpSession} {n : TpNode} (h : n.Follower A) (e : TpNodeEvent)
    (hprepare : ∀ r seen now outcomes, e = .handle r seen now outcomes → r.command = .prepare →
      r.named ∈ A) : (n.next e).Follower A :=
  next_of_calm calm_follower (fun _ identity hn => hn.restart identity)
    (fun _ _ _ => TpProgram.follower_tpPromoteOwned) (fun _ => TpProgram.follower_tpReconcile) h e
    fun r seen now outcomes heq hcommand =>
      TpProgram.follower_tpPrepare (hprepare r seen now outcomes heq hcommand)

/-- The session of the node is not the one the request is about. -/
def TpRequest.stale (r : TpRequest) (n : TpNode) : Bool :=
  n.session.all fun s => s.id != r.session || s.operation != r.operation

/-- A request to publish or to stop another session than the current one is refused before
anything is done. -/
theorem TpNode.handle_stale {n : TpNode} {r : TpRequest} {seen : TpEnvironment} {now : Nat}
    {outcomes : List TpOutcome} (hcommand : r.command = .ready ∨ r.command = .stop)
    (hstale : r.stale n = true) : n.next (.handle r seen now outcomes) = n := by
  -- the node is left as it is, and no wait is reached in which the process could die
  have hmatch : Triple (fun run => run.node = n) (TpProgram.tpMatch r) (fun _ _ => False)
      (fun fault run => fault = .failed ∧ run.node = n) := by
    refine triple_bind TpProgram.triple_node fun m => ?_
    cases hsession : m.session with
    | none => exact triple_throw fun run h => ⟨rfl, h.1⟩
    | some s =>
      refine triple_conseq TpProgram.triple_ensure (fun _ h => h) ?_ fun _ _ h => ⟨h.1, h.2.1⟩
      rintro _ run ⟨⟨hrun, rfl⟩, hsame⟩
      rw [hrun] at hsession
      simp only [Bool.and_eq_true, beq_iff_eq] at hsame
      simp [TpRequest.stale, hsession, hsame.1.1, hsame.1.2] at hstale
  have hensure : ∀ condition, Triple (fun run => run.node = n) (TpProgram.ensure condition)
      (fun _ run => run.node = n) (fun fault run => fault = .failed ∧ run.node = n) := fun _ =>
    triple_conseq TpProgram.triple_ensure (fun _ h => h) (fun _ _ h => h.1) fun _ _ h => h
  have hnode : Triple (fun run => run.node = n) TpProgram.node
      (fun _ run => run.node = n) (fun fault run => fault = .failed ∧ run.node = n) :=
    triple_conseq TpProgram.triple_node (fun _ h => h) (fun _ _ h => h.1) fun _ _ h => h
  have hcommand : Triple (fun run => run.node = n) (TpProgram.tpCommand r now)
      (fun _ run => run.node = n) (fun fault run => fault = .failed ∧ run.node = n) := by
    rcases hcommand with hready | hstop
    · simp only [TpProgram.tpCommand, hready]
      exact triple_bind hmatch fun _ _ h => h.elim
    · simp only [TpProgram.tpCommand, hstop]
      refine triple_bind ?_ fun _ => triple_pure fun _ h => h
      refine triple_bind hnode fun _ => triple_ite (fun _ => ?_) fun _ => ?_
      · exact triple_bind hnode fun _ => hensure _
      · exact triple_bind hmatch fun _ _ h => h.elim
  refine TpNode.perform_of (I := fun m => m = n) (E := fun fault run =>
    fault = .failed ∧ run.node = n) ?_ (fun _ h => h.2) (fun _ h => nomatch h.1) rfl outcomes
  refine triple_bind hnode fun _ => triple_bind (hensure _) fun _ => ?_
  refine triple_bind (hensure _) fun _ => triple_bind hcommand fun _ => ?_
  exact triple_bind hnode fun _ => triple_pure fun _ h => h

/-! ## The pair -/

/-- What a node starts with. -/
structure TpBoot where
  config : TpConfig
  environment : TpEnvironment
  generation : Nat
  saved : PersistentTpState
  deriving DecidableEq, Repr

def TpBoot.node (b : TpBoot) (role : LocalRole) : TpNode :=
  TpNode.start { b.config with role } b.environment b.generation b.saved

structure TpPair where
  coordinator : TpNode
  worker : TpNode
  deriving DecidableEq, Repr

inductive TpPairEvent where
  | coordinator (event : TpNodeEvent)
  | worker (event : TpNodeEvent)
  deriving DecidableEq, Repr

/-- A request can only be handled if it was sent. -/
def TpNodeEvent.possible (sent : List TpRequest) : TpNodeEvent → Bool
  | .handle request _ _ _ => sent.contains request
  | _ => true

/-- The sessions a node uses: its own, those it has allocated or started a child for, and
those its requests are about. -/
def TpNode.uses (n : TpNode) : List TpSession :=
  n.session.toList ++ n.allocated ++ n.childStarts ++
    (n.sent.filter fun r => r.command != .node && r.command != .pair).map TpRequest.named

theorem TpNode.Within.uses {A : List TpSession} {n : TpNode} (h : n.Within A) : n.uses ⊆ A := by
  intro s hs
  simp only [TpNode.uses, List.mem_append, Option.mem_toList, List.mem_map, List.mem_filter,
    Bool.and_eq_true, bne_iff_ne] at hs
  rcases hs with ((hsession | hallocated) | hstarted) | ⟨r, ⟨hr, hnode, hpair⟩, rfl⟩
  · exact h.session s hsession
  · exact h.allocated hallocated
  · exact h.childStarts hstarted
  · exact ((h.sent r hr).resolve_left hnode).resolve_left hpair

theorem eq_of_id_eq {l : List TpSession} (h : l.Pairwise fun s t => s.id < t.id) {s t : TpSession}
    (hs : s ∈ l) (ht : t ∈ l) (hid : s.id = t.id) : s = t := by
  have hnodup : (l.map TpSession.id).Nodup := List.pairwise_map.mpr (h.imp Nat.ne_of_lt)
  exact List.inj_on_of_nodup_map hnodup hs ht hid

namespace TpPair

def next (p : TpPair) : TpPairEvent → TpPair
  | .coordinator event =>
    if event.possible p.worker.sent then { p with coordinator := p.coordinator.next event } else p
  | .worker event =>
    if event.possible p.coordinator.sent then { p with worker := p.worker.next event } else p

def start (coordinator worker : TpBoot) : TpPair :=
  { coordinator := coordinator.node .coordinator, worker := worker.node .worker }

/-- Every session of the pair is one the coordinator has allocated. -/
structure Consistent (p : TpPair) : Prop where
  coordinator : p.coordinator.Issuer p.coordinator.allocated
  worker : p.worker.Follower p.coordinator.allocated

theorem consistent_start (coordinator worker : TpBoot) : (start coordinator worker).Consistent := by
  have hwithin : ∀ (b : TpBoot) (role : LocalRole), (b.node role).Within [] := fun _ _ =>
    { session := fun _ hs => nomatch hs
      allocated := List.Subset.refl _
      childStarts := List.Subset.refl _
      sent := fun _ hr => nomatch hr }
  have horder : ∀ (b : TpBoot) (role : LocalRole),
      (b.node role).saved.lastSession ≤ (b.node role).journal.lastSession := fun b _ =>
    Nat.le_of_eq (TpNode.restoreTpState_lastSession _ b.saved).symm
  exact
    { coordinator :=
        { role := rfl
          prior := List.Subset.refl _
          within := hwithin coordinator .coordinator
          increasing := List.Pairwise.nil
          saved := fun _ hs => nomatch hs
          order := horder coordinator .coordinator }
      worker :=
        { role := rfl
          within := hwithin worker .worker
          increasing := List.Pairwise.nil
          saved := fun _ hs => nomatch hs
          order := horder worker .worker } }

theorem Consistent.next {p : TpPair} (h : p.Consistent) (e : TpPairEvent) :
    (p.next e).Consistent := by
  cases e with
  | coordinator event =>
    simp only [TpPair.next]
    split
    · have hnext := h.coordinator.next event
      exact
        { coordinator := { hnext with prior := List.Subset.refl _ }
          worker := h.worker.mono hnext.prior }
    · exact h
  | worker event =>
    simp only [TpPair.next]
    split
    · rename_i hpossible
      refine { h with worker := h.worker.next event ?_ }
      rintro r seen now outcomes rfl hprepare
      have hsent : r ∈ p.coordinator.sent := List.contains_iff_mem.mp hpossible
      have hnamed := h.coordinator.within.sent r hsent
      rw [hprepare] at hnamed
      exact (hnamed.resolve_left nofun).resolve_left nofun
    · exact h

/-- In every run of a pair the worker starts its children for sessions with increasing ids,
and an id belongs to one operation only.  A request to publish or to stop a session that is
not the current one changes nothing. -/
theorem sessions_never_reused (coordinator worker : TpBoot) (events : List TpPairEvent) :
    ∀ p ∈ Machine.visited next (start coordinator worker) events,
      (p.worker.childStarts.map TpSession.id).Pairwise (· < ·) ∧
      (∀ s ∈ p.coordinator.uses ++ p.worker.uses, ∀ t ∈ p.coordinator.uses ++ p.worker.uses,
        s.id = t.id → s.operation = t.operation) ∧
      ∀ (r : TpRequest) (seen : TpEnvironment) (now : Nat) (outcomes : List TpOutcome),
        r.command = .ready ∨ r.command = .stop →
          (r.stale p.worker = true → p.next (.worker (.handle r seen now outcomes)) = p) ∧
          (r.stale p.coordinator = true →
            p.next (.coordinator (.handle r seen now outcomes)) = p) := by
  have hinv : ∀ p ∈ Machine.visited next (start coordinator worker) events, p.Consistent :=
    Machine.invariant_always (fun _ e h => h.next e) (consistent_start coordinator worker)
  intro p hp
  have h := hinv p hp
  refine ⟨List.pairwise_map.mpr h.worker.increasing, ?_, ?_⟩
  · have hallocated : p.coordinator.uses ++ p.worker.uses ⊆ p.coordinator.allocated :=
      List.append_subset.mpr ⟨h.coordinator.within.uses, h.worker.within.uses⟩
    intro s hs t ht hid
    rw [eq_of_id_eq h.coordinator.increasing (hallocated hs) (hallocated ht) hid]
  · intro r seen now outcomes hcommand
    refine ⟨fun hstale => ?_, fun hstale => ?_⟩
    · simp only [TpPair.next, TpNode.handle_stale hcommand hstale, ite_self]
    · simp only [TpPair.next, TpNode.handle_stale hcommand hstale, ite_self]

def sampleBoot : TpBoot :=
  { config := sampleTpConfig, environment := sampleTpEnvironment, generation := 0
    saved := defaultTpState }

def sampleRequest (command : TpCommand) (session operation : Nat) : TpRequest :=
  { version := 1, deployment := "pair", epoch := 0, session, operation, command }

/-- Two sessions.  The request for the first is delivered twice, and once more after the
worker has started again; the one to stop it is delivered again during the second. -/
def sampleEvents : List TpPairEvent :=
  let good := fun count => List.replicate count sampleOutcome
  let deliver := fun r => TpPairEvent.worker (.handle r sampleTpEnvironment 0 (good 12))
  sampleBringUp.map .coordinator ++ sampleBringUp.map .worker ++
  [.coordinator (.pair (good 5)), deliver (sampleRequest .pair 0 0),
    .coordinator (.promote 5 0 0 (good 20)), deliver (sampleRequest .prepare 1 5),
    deliver (sampleRequest .prepare 1 5), deliver (sampleRequest .ready 1 5),
    .coordinator (.demote (good 20)), deliver (sampleRequest .stop 1 5),
    .coordinator (.pair (good 5)), .worker (.restart "node")] ++
  sampleBringUp.map .worker ++
  [deliver (sampleRequest .pair 0 0), deliver (sampleRequest .prepare 1 5),
    .coordinator (.promote 6 0 0 (good 20)), deliver (sampleRequest .prepare 2 6),
    deliver (sampleRequest .stop 1 5)]

def samplePair : TpPair := Machine.run next (start sampleBoot sampleBoot) sampleEvents

theorem sessions_never_reused_on_samplePair :
    samplePair.worker.childStarts.map TpSession.id = [1, 2] ∧
      samplePair.worker.session = some { id := 2, operation := 6, epoch := 0 } ∧
      (samplePair.worker.childStarts.map TpSession.id).Pairwise (· < ·) ∧
      samplePair.next (.worker (.handle (sampleRequest .stop 1 5) sampleTpEnvironment 0 [])) =
        samplePair := by
  have hworker : samplePair.worker.childStarts.map TpSession.id = [1, 2] ∧
      samplePair.worker.session = some { id := 2, operation := 6, epoch := 0 } := by
    decide +kernel
  obtain ⟨hincreasing, _, hstale⟩ := sessions_never_reused sampleBoot sampleBoot sampleEvents
    samplePair Machine.run_mem_visited
  refine ⟨hworker.1, hworker.2, hincreasing, (hstale _ _ _ _ (.inr rfl)).1 ?_⟩
  simp only [TpRequest.stale, hworker.2]
  rfl

end TpPair

end Siderostat
