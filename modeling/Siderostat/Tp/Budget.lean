import Mathlib.Data.List.Nodup
import Mathlib.Data.List.Perm.Subperm
import Siderostat.Tp.Frame

/-!
# The failure budget of the coordinator

A session costs one failed attempt when it is reserved, gets it back when its start-up succeeds,
and costs one again when it is noted as failed later.
-/

namespace Siderostat

open Effect

/-! ## The account -/

/-- The sessions that have failed, and the last one, which still may. -/
def atRisk (failed : List Nat) (last t : Nat) : Bool := decide (t ∈ failed) || t == last

def TpLedger.mentioned (l : TpLedger) : List Nat := l.spent ++ l.started ++ l.closed.flatten

/-- The account of a journal, when these sessions have failed. -/
structure Balanced (failed : List Nat) (j : PersistentTpState) (l : TpLedger) : Prop where
  count : j.failedAttempts = l.charged.length
  bound : l.charged.length ≤ 3
  last : j.lastSession ∈ l.charged ∨ l.charged.length ≤ 2
  charged_nodup : l.charged.Nodup
  spent_nodup : l.spent.Nodup
  started_nodup : l.started.Nodup
  charged_spent : l.charged ⊆ l.spent
  spent_charged : ∀ t ∈ l.started, t ∈ l.spent → t ∈ l.charged
  mentioned : ∀ t ∈ l.mentioned, t ≤ j.lastSession
  lastFailed : j.lastFailedSession ≤ j.lastSession
  failed_spent : failed ⊆ l.spent
  closed : ∀ w ∈ l.closed, w.countP (atRisk failed j.lastSession) ≤ 3

theorem nodup_append_singleton {l : List Nat} {s : Nat} (h : l.Nodup) (hs : s ∉ l) :
    (l ++ [s]).Nodup := by
  rw [← List.concat_eq_append]
  exact h.concat hs

theorem append_singleton_subset {l m : List Nat} {s : Nat} (h : l ⊆ m) : l ++ [s] ⊆ m ++ [s] := by
  intro t ht
  rcases List.mem_append.mp ht with hold | hnew
  · exact List.mem_append_left _ (h hold)
  · exact List.mem_append_right _ hnew

namespace Balanced

variable {failed : List Nat} {j : PersistentTpState} {l : TpLedger} {s : Nat}

theorem spent_le (h : Balanced failed j l) {t : Nat} (ht : t ∈ l.spent) : t ≤ j.lastSession :=
  h.mentioned t (by simp [TpLedger.mentioned, ht])

theorem started_le (h : Balanced failed j l) {t : Nat} (ht : t ∈ l.started) : t ≤ j.lastSession :=
  h.mentioned t (by simp [TpLedger.mentioned, ht])

theorem closed_le (h : Balanced failed j l) {w : List Nat} (hw : w ∈ l.closed) {t : Nat}
    (ht : t ∈ w) : t ≤ j.lastSession := by
  refine h.mentioned t ?_
  simp only [TpLedger.mentioned, List.mem_append, List.mem_flatten]
  exact .inr ⟨w, hw, ht⟩

theorem atRisk_started_le (h : Balanced failed j l) :
    l.started.countP (atRisk failed j.lastSession) ≤ 3 := by
  rw [List.countP_eq_length_filter]
  have hnodup := h.started_nodup.filter (atRisk failed j.lastSession)
  have hmem : ∀ t ∈ l.started.filter (atRisk failed j.lastSession),
      t ∈ l.charged ∨ t = j.lastSession := by
    intro t ht
    obtain ⟨hstarted, hrisk⟩ := List.mem_filter.mp ht
    simp only [atRisk, Bool.or_eq_true, decide_eq_true_eq, beq_iff_eq] at hrisk
    exact hrisk.imp (fun hfailed => h.spent_charged t hstarted (h.failed_spent hfailed)) id
  rcases h.last with hlast | hlast
  · have hsub : l.started.filter (atRisk failed j.lastSession) ⊆ l.charged := fun t ht =>
      (hmem t ht).elim id fun heq => heq ▸ hlast
    exact Nat.le_trans (List.subperm_of_subset hnodup hsub).length_le h.bound
  · have hsub : l.started.filter (atRisk failed j.lastSession) ⊆ j.lastSession :: l.charged :=
      fun t ht => List.mem_cons.mpr (hmem t ht).symm
    have hle := (List.subperm_of_subset hnodup hsub).length_le
    rw [List.length_cons] at hle
    omega

theorem initial (j : PersistentTpState) (h : j.failedAttempts = 0)
    (hle : j.lastFailedSession ≤ j.lastSession) : Balanced [] j {} where
  count := h
  bound := Nat.zero_le 3
  last := .inr (Nat.zero_le 2)
  charged_nodup := List.nodup_nil
  spent_nodup := List.nodup_nil
  started_nodup := List.nodup_nil
  charged_spent _ := id
  spent_charged _ ht := nomatch ht
  mentioned _ ht := nomatch ht
  lastFailed := hle
  failed_spent _ ht := nomatch ht
  closed _ hw := nomatch hw

section

variable (h : Balanced failed j l)

include h

theorem reset : Balanced failed { j with failedAttempts := 0 } l.reset :=
  { h with
    count := rfl
    bound := Nat.zero_le 3
    last := .inr (Nat.zero_le 2)
    charged_nodup := List.nodup_nil
    started_nodup := List.nodup_nil
    charged_spent := List.nil_subset _
    spent_charged := fun _ ht => nomatch ht
    mentioned := by
      intro t ht
      simp only [TpLedger.mentioned, TpLedger.reset, List.append_nil, List.mem_append,
        List.mem_flatten] at ht
      rcases ht with hspent | ⟨w, hw, ht⟩
      · exact h.spent_le hspent
      split at hw
      · exact h.closed_le hw ht
      · rcases List.mem_append.mp hw with hold | hnew
        · exact h.closed_le hold ht
        · rw [List.mem_singleton.mp hnew] at ht
          exact h.started_le ht
    closed := by
      intro w hw
      simp only [TpLedger.reset] at hw
      split at hw
      · exact h.closed w hw
      · rcases List.mem_append.mp hw with hold | hnew
        · exact h.closed w hold
        · rw [List.mem_singleton.mp hnew]
          exact h.atRisk_started_le }

theorem fail (hspent : j.lastSession ∈ l.spent) : Balanced (failed ++ [j.lastSession]) j l :=
  { h with
    failed_spent := by
      intro t ht
      rcases List.mem_append.mp ht with hold | hnew
      · exact h.failed_spent hold
      · rw [List.mem_singleton.mp hnew]
        exact hspent
    closed := by
      intro w hw
      refine Nat.le_trans (List.countP_mono_left fun t _ hrisk => ?_) (h.closed w hw)
      simp only [atRisk, List.mem_append, List.mem_singleton, Bool.or_eq_true,
        decide_eq_true_eq, beq_iff_eq] at hrisk ⊢
      rcases hrisk with (hold | hlast) | hlast
      · exact .inl hold
      · exact .inr hlast
      · exact .inr hlast }

theorem reserve (hs : j.lastSession < s) (hlt : j.failedAttempts < 3) :
    Balanced failed
      { j with failedAttempts := j.failedAttempts + 1, lastSession := s }
      { l with
        charged := l.charged ++ [s], started := l.started ++ [s], spent := l.spent ++ [s] } := by
  have hspent : s ∉ l.spent := fun hmem => absurd (h.spent_le hmem) (by omega)
  have hstarted : s ∉ l.started := fun hmem => absurd (h.started_le hmem) (by omega)
  have hcharged : s ∉ l.charged := fun hmem => hspent (h.charged_spent hmem)
  have hcount := h.count
  exact
    { count := by simp [h.count]
      bound := by
        rw [List.length_append, List.length_singleton]
        omega
      last := .inl (by simp)
      charged_nodup := nodup_append_singleton h.charged_nodup hcharged
      spent_nodup := nodup_append_singleton h.spent_nodup hspent
      started_nodup := nodup_append_singleton h.started_nodup hstarted
      charged_spent := append_singleton_subset h.charged_spent
      spent_charged := by
        intro t ht ht'
        by_cases heq : t = s
        · exact List.mem_append_right _ (List.mem_singleton.mpr heq)
        · have hold := (List.mem_append.mp ht).resolve_right (mt List.mem_singleton.mp heq)
          have hcost := (List.mem_append.mp ht').resolve_right (mt List.mem_singleton.mp heq)
          exact List.mem_append_left _ (h.spent_charged t hold hcost)
      mentioned := by
        intro t ht
        show t ≤ s
        simp only [TpLedger.mentioned, List.mem_append, List.mem_singleton, List.mem_flatten] at ht
        rcases ht with ((hmem | heq) | hmem | heq) | ⟨w, hw, hmem⟩
        · have := h.spent_le hmem
          omega
        · omega
        · have := h.started_le hmem
          omega
        · omega
        · have := h.closed_le hw hmem
          omega
      lastFailed := Nat.le_trans h.lastFailed (Nat.le_of_lt hs)
      failed_spent := fun t ht => List.mem_append_left _ (h.failed_spent ht)
      closed := by
        intro w hw
        refine Nat.le_trans (List.countP_mono_left fun t ht hrisk => ?_) (h.closed w hw)
        have hle := h.closed_le hw ht
        simp only [atRisk, Bool.or_eq_true, decide_eq_true_eq, beq_iff_eq] at hrisk ⊢
        exact .inl (hrisk.resolve_right (by omega)) }

/-- A session gets its attempt back, unless a reset has done so. -/
theorem refund (hcharged : s ∈ l.charged ∨ l.charged = []) (hfailed : s ∉ failed) :
    Balanced failed { j with failedAttempts := j.failedAttempts - 1 }
      { l with charged := l.charged.erase s, spent := l.spent.erase s } := by
  have hcount := h.count
  have hbound := h.bound
  have hlength : (l.charged.erase s).length = l.charged.length - 1 := by
    rcases hcharged with hmem | hnil
    · exact List.length_erase_of_mem hmem
    · rw [hnil]
      rfl
  have hnot : s ∉ l.spent.erase s := h.spent_nodup.not_mem_erase
  exact
    { h with
      count := by
        rw [hlength]
        show j.failedAttempts - 1 = _
        omega
      bound := by
        rw [hlength]
        omega
      last := .inr (by
        rw [hlength]
        omega)
      charged_nodup := h.charged_nodup.erase s
      spent_nodup := h.spent_nodup.erase s
      charged_spent := by
        intro t ht
        have ⟨hne, hmem⟩ := h.charged_nodup.mem_erase_iff.mp ht
        exact h.spent_nodup.mem_erase_iff.mpr ⟨hne, h.charged_spent hmem⟩
      spent_charged := by
        intro t ht ht'
        have ⟨hne, hmem⟩ := h.spent_nodup.mem_erase_iff.mp ht'
        exact h.charged_nodup.mem_erase_iff.mpr ⟨hne, h.spent_charged t ht hmem⟩
      mentioned := by
        intro t ht
        refine h.mentioned t ?_
        simp only [TpLedger.mentioned, List.mem_append] at ht ⊢
        exact ht.imp_left (Or.imp_left List.mem_of_mem_erase)
      failed_spent := by
        intro t ht
        have hne : t ≠ s := fun heq => hfailed (heq ▸ ht)
        exact h.spent_nodup.mem_erase_iff.mpr ⟨hne, h.failed_spent ht⟩ }

theorem note (hs : j.lastSession = s) (hspent : s ∉ l.spent) :
    Balanced failed
      { j with
        lastFailedSession := s
        failedAttempts := min (j.failedAttempts + 1) 0xFFFFFFFF }
      { l with charged := l.charged ++ [s], spent := l.spent ++ [s] } := by
  have hcharged : s ∉ l.charged := fun hmem => hspent (h.charged_spent hmem)
  have hroom : l.charged.length ≤ 2 := h.last.resolve_left (hs ▸ hcharged)
  have hcount := h.count
  exact
    { h with
      count := by
        rw [List.length_append, List.length_singleton]
        show min (j.failedAttempts + 1) 0xFFFFFFFF = _
        omega
      bound := by
        rw [List.length_append, List.length_singleton]
        omega
      last := .inl (by simp [hs])
      charged_nodup := nodup_append_singleton h.charged_nodup hcharged
      spent_nodup := nodup_append_singleton h.spent_nodup hspent
      charged_spent := append_singleton_subset h.charged_spent
      spent_charged := by
        intro t ht ht'
        rcases List.mem_append.mp ht' with hold | hnew
        · exact List.mem_append_left _ (h.spent_charged t ht hold)
        · exact List.mem_append_right _ hnew
      mentioned := by
        intro t ht
        show t ≤ j.lastSession
        simp only [TpLedger.mentioned, List.mem_append, List.mem_singleton, List.mem_flatten] at ht
        rcases ht with ((hmem | heq) | hmem) | ⟨w, hw, hmem⟩
        · exact h.spent_le hmem
        · omega
        · exact h.started_le hmem
        · exact h.closed_le hw hmem
      lastFailed := Nat.le_of_eq hs.symm
      failed_spent := fun t ht => List.mem_append_left _ (h.failed_spent ht) }

theorem restore (identity : String) :
    Balanced failed (restoreTpState identity j)
      (if j.identity ≠ identity then l.reset else l) := by
  unfold restoreTpState
  by_cases hne : j.identity ≠ identity
  · rw [if_pos hne, if_pos hne]
    exact { h.reset with }
  · rw [if_neg hne, if_neg hne]
    exact h

end

end Balanced

/-! ## The node -/

namespace TpNode

/-- Both journals are accounted for.  The session of a node is one it has allocated, the
session it is in is the last of its journal, and one that is being started has been paid for
in both journals. -/
structure Budget (n : TpNode) : Prop where
  role : n.config.role = .coordinator
  memory : Balanced n.failedSessions n.journal n.ledger
  file : Balanced n.failedSessions n.saved n.savedLedger
  issued : ∀ s, n.session = some s → s ∈ n.allocated
  slot : ∀ s, n.session = some s → TpProgram.inSession n.snapshot.state = true →
    s.id = n.journal.lastSession
  underway : ∀ t, n.starting = some t → n.journal.lastSession = t ∧ n.saved.lastSession = t ∧
    t ∈ n.ledger.spent ∧ t ∈ n.savedLedger.spent

/-- No start-up is under way.  The session of the node has cost an attempt exactly if it
was noted as failed. -/
structure Resting (n : TpNode) : Prop extends n.Budget where
  starting : n.starting = none
  noted : ∀ s, n.session = some s → TpProgram.inSession n.snapshot.state = true →
    (s.id ≤ n.journal.lastFailedSession ↔ s.id ∈ n.ledger.spent)

/-- The session has been reserved and nothing else has become of it. -/
structure Charged (s : Nat) (n : TpNode) : Prop where
  last : n.journal.lastSession = s
  lastFailed : n.journal.lastFailedSession < s
  spent : s ∈ n.ledger.spent
  charged : s ∈ n.ledger.charged ∨ n.ledger.charged = []
  failed : s ∉ n.failedSessions

/-- A promotion may reserve a session. -/
structure Vacant (n : TpNode) : Prop extends n.Resting where
  outside : TpProgram.inSession n.snapshot.state = false
  room : n.journal.failedAttempts < 3

structure Reserved (s : TpSession) (n : TpNode) : Prop extends n.Budget, n.Charged s.id where
  starting : n.starting = none
  outside : TpProgram.inSession n.snapshot.state = false

structure Underway (s : TpSession) (n : TpNode) : Prop extends n.Budget, n.Charged s.id where
  starting : n.starting = some s.id
  allocated : s ∈ n.allocated

structure Known (s : TpSession) (n : TpNode) : Prop extends n.Resting where
  allocated : s ∈ n.allocated

/-- The session has been found in the node. -/
structure Watched (s : TpSession) (n : TpNode) : Prop extends n.Known s where
  last : s.id = n.journal.lastSession
  cost : s.id ≤ n.journal.lastFailedSession ↔ s.id ∈ n.ledger.spent

/-! ### What quiet steps keep -/

section Stable

variable {n m : TpNode} {s : TpSession}

theorem Quiet.outside (h : n.Quiet m) (hn : TpProgram.inSession n.snapshot.state = false) :
    TpProgram.inSession m.snapshot.state = false := by
  rw [Bool.eq_false_iff] at hn ⊢
  exact fun hm => hn (h.inSession hm)

theorem stable_budget : Stable Budget := by
  intro n m h hquiet
  refine
    { role := by rw [hquiet.config]; exact h.role
      memory := ?_
      file := ?_
      issued := fun s hs => hquiet.allocated ▸ h.issued s (hquiet.session_some hs)
      slot := ?_
      underway := ?_ }
  · rw [hquiet.failedSessions]
    exact hquiet.memory_of h.memory h.memory.reset
  · rw [hquiet.failedSessions]
    exact hquiet.file_of h.file h.memory.reset
  · intro s hs hin
    rw [hquiet.lastSession]
    exact h.slot s (hquiet.session_some hs) (hquiet.inSession hin)
  · intro t ht
    rw [hquiet.starting] at ht
    obtain ⟨hlast, hfile, hspent, hsaved⟩ := h.underway t ht
    rw [hquiet.lastSession, hquiet.spent]
    have hboth := hquiet.file_of (P := fun j l => j.lastSession = t ∧ t ∈ l.spent)
      ⟨hfile, hsaved⟩ ⟨hlast, hspent⟩
    exact ⟨hlast, hboth.1, hspent, hboth.2⟩

theorem stable_charged {s : Nat} : Stable (Charged s) := by
  intro n m h hquiet
  refine
    { last := hquiet.lastSession.trans h.last
      lastFailed := by rw [hquiet.lastFailedSession]; exact h.lastFailed
      spent := by rw [hquiet.spent]; exact h.spent
      charged := hquiet.memory_of (P := fun _ l => s ∈ l.charged ∨ l.charged = []) h.charged
        (.inr rfl)
      failed := by rw [hquiet.failedSessions]; exact h.failed }

theorem stable_resting : Stable Resting := by
  intro n m h hquiet
  refine
    { stable_budget n m h.toBudget hquiet with
      starting := hquiet.starting.trans h.starting
      noted := ?_ }
  intro s hs hin
  rw [hquiet.lastFailedSession, hquiet.spent]
  exact h.noted s (hquiet.session_some hs) (hquiet.inSession hin)

theorem stable_vacant : Stable Vacant := fun n m h hquiet =>
  { stable_resting n m h.toResting hquiet with
    outside := hquiet.outside h.outside
    room := hquiet.memory_of (P := fun j _ => j.failedAttempts < 3) h.room
      (Nat.zero_lt_succ 2) }

theorem stable_reserved : Stable (Reserved s) := fun n m h hquiet =>
  { stable_budget n m h.toBudget hquiet, stable_charged n m h.toCharged hquiet with
    starting := hquiet.starting.trans h.starting
    outside := hquiet.outside h.outside }

theorem stable_underway : Stable (Underway s) := fun n m h hquiet =>
  { stable_budget n m h.toBudget hquiet, stable_charged n m h.toCharged hquiet with
    starting := hquiet.starting.trans h.starting
    allocated := hquiet.allocated ▸ h.allocated }

theorem stable_known : Stable (Known s) := fun n m h hquiet =>
  { stable_resting n m h.toResting hquiet with
    allocated := hquiet.allocated ▸ h.allocated }

theorem stable_watched : Stable (Watched s) := fun n m h hquiet =>
  { stable_known n m h.toKnown hquiet with
    last := h.last.trans hquiet.lastSession.symm
    cost := by
      rw [hquiet.lastFailedSession, hquiet.spent]
      exact h.cost }

end Stable

/-! ### What a save keeps -/

section Save

variable {n : TpNode} {s : TpSession}

theorem Budget.save (h : n.Budget) : n.save.Budget :=
  { h with
    file := h.memory
    underway := by
      intro t ht
      obtain ⟨hlast, _, hspent, _⟩ := h.underway t ht
      exact ⟨hlast, hlast, hspent, hspent⟩ }

theorem Resting.save (h : n.Resting) : n.save.Resting := { h.toBudget.save, h with }

theorem Reserved.save (h : n.Reserved s) : n.save.Reserved s := { h.toBudget.save, h with }

theorem Underway.save (h : n.Underway s) : n.save.Underway s := { h.toBudget.save, h with }

theorem Known.save (h : n.Known s) : n.save.Known s := { h.toResting.save, h with }

theorem Watched.save (h : n.Watched s) : n.save.Watched s := { h.toResting.save, h with }

end Save

/-! ### The steps that change the account -/

section Steps

variable {n : TpNode} {s : TpSession}

theorem Vacant.reserve (h : n.Vacant) (hs : n.journal.lastSession < s.id) :
    (TpProgram.reserve s n).Reserved s where
  role := h.role
  memory := h.memory.reserve hs h.room
  file := h.file
  issued := h.issued
  slot _ _ hin := absurd hin (Bool.eq_false_iff.mp h.outside)
  underway _ ht := nomatch h.starting.symm.trans ht
  last := rfl
  lastFailed := Nat.lt_of_le_of_lt h.memory.lastFailed hs
  spent := List.mem_append_right _ (List.mem_singleton_self _)
  charged := .inl (List.mem_append_right _ (List.mem_singleton_self _))
  failed hmem :=
    absurd (h.memory.spent_le (h.memory.failed_spent hmem)) (Nat.not_le_of_lt hs)
  starting := h.starting
  outside := h.outside

theorem Reserved.resting (h : n.Reserved s) : n.Resting :=
  { h with noted := fun _ _ hin => absurd hin (Bool.eq_false_iff.mp h.outside) }

theorem Reserved.underway_of_saved (h : n.Reserved s) (hsaved : n.saved = n.journal)
    (hledger : n.savedLedger = n.ledger) :
    Underway s { n with allocated := n.allocated ++ [s], starting := some s.id } :=
  { h with
    issued := fun t ht => List.mem_append_left _ (h.issued t ht)
    underway := by
      rintro t ⟨⟩
      show n.journal.lastSession = s.id ∧ n.saved.lastSession = s.id ∧
        s.id ∈ n.ledger.spent ∧ s.id ∈ n.savedLedger.spent
      rw [hsaved, hledger]
      exact ⟨h.last, h.last, h.spent, h.spent⟩
    starting := rfl
    allocated := List.mem_append_right _ (List.mem_singleton_self _) }

theorem Underway.fail (h : n.Underway s) :
    (TpProgram.noteFailure s.id true (TpProgram.markFailed s.id n)).Known s := by
  obtain ⟨_, hfile, _, hsaved⟩ := h.underway s.id h.starting
  have hmemory := h.memory.fail (h.last ▸ h.spent)
  rw [h.last] at hmemory
  have hfail := h.file.fail (hfile ▸ hsaved)
  rw [hfile] at hfail
  simp only [TpProgram.noteFailure, TpProgram.markFailed, if_pos h.lastFailed]
  exact
    { h with
      memory := { hmemory with lastFailed := Nat.le_of_eq h.last.symm }
      file := hfail
      underway := fun _ ht => nomatch ht
      starting := rfl
      noted := by
        intro t ht hin
        have hid : t.id = s.id := (h.slot t ht hin).trans h.last
        rw [hid]
        exact iff_of_true (Nat.le_refl s.id) h.spent }

theorem Underway.refund (h : n.Underway s) : (TpProgram.refund s n).Resting :=
  { h with
    memory := h.memory.refund h.charged h.failed
    underway := fun _ ht => nomatch ht
    starting := rfl
    noted := by
      intro t ht hin
      have hid : t.id = s.id := (h.slot t ht hin).trans h.last
      rw [hid]
      exact iff_of_false (Nat.not_le_of_lt h.lastFailed) h.memory.spent_nodup.not_mem_erase }

theorem Watched.noteFailure (h : n.Watched s) :
    (TpProgram.noteFailure s.id false n).Watched s ∧
      s.id ∈ (TpProgram.noteFailure s.id false n).ledger.spent := by
  unfold TpProgram.noteFailure
  by_cases hnew : n.journal.lastFailedSession < s.id
  · have hspent : s.id ∉ n.ledger.spent := fun hmem => absurd (h.cost.mpr hmem) (by omega)
    have hpaid : s.id ∈ n.ledger.spent ++ [s.id] :=
      List.mem_append_right _ (List.mem_singleton_self _)
    rw [if_pos hnew, if_neg Bool.false_ne_true]
    refine
      ⟨{ h with
          memory := h.memory.note h.last.symm hspent
          underway := fun _ ht => nomatch h.starting.symm.trans ht
          noted := ?_
          cost := iff_of_true (Nat.le_refl s.id) hpaid }, hpaid⟩
    intro t ht hin
    have hid : t.id = s.id := (h.slot t ht hin).trans h.last.symm
    rw [hid]
    exact iff_of_true (Nat.le_refl s.id) hpaid
  · rw [if_neg hnew]
    exact ⟨h, h.cost.mp (Nat.le_of_not_lt hnew)⟩

theorem Watched.markFailed (h : n.Watched s) (hspent : s.id ∈ n.ledger.spent)
    (hsaved : n.saved = n.journal) (hledger : n.savedLedger = n.ledger) :
    (TpProgram.markFailed s.id n).Known s := by
  have hmemory := h.memory.fail (h.last ▸ hspent)
  rw [← h.last] at hmemory
  exact
    { h with
      memory := hmemory
      file := by
        show Balanced _ n.saved n.savedLedger
        rw [hsaved, hledger]
        exact hmemory
      underway := fun _ ht => nomatch ht
      starting := rfl }

theorem Budget.restart (h : n.Budget) (identity : String) : (n.restart identity).Resting := by
  have hfile : Balanced (n.failedSessions ++ n.starting.toList) n.saved n.savedLedger := by
    cases hstarting : n.starting with
    | none =>
      rw [Option.toList_none, List.append_nil]
      exact h.file
    | some t =>
      obtain ⟨_, hlast, _, hspent⟩ := h.underway t hstarting
      have hfail := h.file.fail (hlast ▸ hspent)
      rwa [hlast] at hfail
  exact
    { role := h.role
      memory := hfile.restore identity
      file := hfile
      issued := fun _ hs => nomatch hs
      slot := fun _ hs => nomatch hs
      underway := fun _ ht => nomatch ht
      starting := rfl
      noted := fun _ hs => nomatch hs }

end Steps

end TpNode

/-! ## The programs -/

namespace TpProgram

section Budget

variable {α : Type} {I : TpNode → Prop} {s : TpSession}

/-- After an error no start-up is under way; a crash can happen during one. -/
def Ended : TpFault → TpRun → Prop
  | .failed, r => r.node.Resting
  | .crashed, r => r.node.Budget

theorem ended_of_resting {fault : TpFault} {r : TpRun} (h : r.node.Resting) : Ended fault r := by
  cases fault with
  | failed => exact h
  | crashed => exact h.toBudget

theorem ended_of_keeps {p : TpProgram α} (h : Keeps (fun r => I r.node) p)
    (hI : ∀ n, I n → n.Resting) :
    Triple (fun r => I r.node) p (fun _ r => I r.node) Ended :=
  h.weaken_error fun _ _ hr => ended_of_resting (hI _ hr)

theorem underway_tpStartUp :
    Triple (fun r => r.node.Underway s ∧ inSession r.node.snapshot.state = false) (tpStartUp s)
      (fun _ r => r.node.Underway s) (fun _ r => r.node.Underway s) := by
  have hstable : TpNode.Stable fun n => n.Underway s ∧ inSession n.snapshot.state = false :=
    TpNode.stable_underway.and fun _ _ hn hquiet => hquiet.outside hn
  have hslot : TpNode.Stable fun n => n.Underway s ∧ ∀ t, n.session = some t → t = s :=
    TpNode.stable_underway.and fun _ _ hn hquiet t ht => hn t (hquiet.session_some ht)
  refine triple_bind (triple_tpBegin hstable hstable hslot ?_ ?_ ?_ ?_ ?_ ?_ ?_) fun _ => ?_
  · rintro n ⟨hn, hout⟩
    rw [← hn.last]
    exact ⟨hn, hout⟩
  · exact fun n hn => ⟨hn.1.save, hn.2⟩
  · rintro n deadline ⟨hn, hout⟩ _
    refine ⟨{ hn with issued := ?_, slot := ?_ }, ?_⟩
    · rintro t ⟨⟩
      exact hn.allocated
    · exact fun _ _ hin => absurd hin (Bool.eq_false_iff.mp hout)
    · rintro t ⟨⟩
      rfl
  · rintro n snapshot ⟨hn, hs⟩
    exact ⟨{ hn with slot := fun t ht _ => hs t ht ▸ hn.last.symm }, hs⟩
  · exact fun n hn => hn.1
  · exact fun n hn => hn.1
  · exact fun n hn => hn.1
  · have hprepare : Keeps (fun r => r.node.Underway s) (tpPrepareWorker s) :=
      keeps_of_quiet TpNode.stable_underway fun n hn => quiet_tpPrepareWorker (.inr hn.allocated)
    have hchild : Keeps (fun r => r.node.Underway s) (childStart s) :=
      keeps_childStart TpNode.stable_underway fun n hn => { hn with }
    have hcomplete : Keeps (fun r => r.node.Underway s) (tpComplete s) :=
      keeps_of_quiet TpNode.stable_underway fun n hn => quiet_tpComplete (.inr hn.allocated)
    exact triple_conseq (keeps_bind hprepare fun _ => keeps_bind hchild fun _ => hcomplete)
      (fun _ h => h.1) (fun _ _ h => h) fun _ _ h => h

theorem keeps_persist_resting : Keeps (fun r => r.node.Resting) persistTpJournal :=
  keeps_persistTpJournal TpNode.stable_resting fun _ h => h.save

theorem ended_tpGiveUp {later : Nat} :
    Triple (fun r => r.node.Underway s) (tpGiveUp s later) (fun _ r => r.node.Resting) Ended := by
  refine triple_bind (Q := fun _ (r : TpRun) => ∃ n, n.Underway s ∧ r.node = markFailed s.id n)
    (fun r hr => ⟨r.node, hr, rfl⟩) fun _ => ?_
  have hnote : Triple (fun r => ∃ n, n.Underway s ∧ r.node = markFailed s.id n)
      (tpNoteFailure s.id true) (fun _ r => r.node.Known s) Ended := by
    refine triple_bind (Q := fun _ (r : TpRun) => r.node.Known s) ?_ fun _ => ?_
    · rintro r ⟨n, hn, heq⟩
      show (noteFailure s.id true r.node).Known s
      rw [heq]
      exact hn.fail
    · refine ended_of_keeps (keeps_bind ?_ fun _ => keeps_pure) fun _ hn => hn.toResting
      exact keeps_persistTpJournal TpNode.stable_known fun n hn => hn.save
  have hstop : Keeps (fun r => r.node.Known s) (tellStop s) :=
    keeps_of_quiet TpNode.stable_known fun n hn => quiet_tellStop (.inr hn.allocated)
  have hfallback : Keeps (fun r => r.node.Known s) tpFallbackLocked :=
    keeps_of_quiet TpNode.stable_known fun _ _ => quiet_tpFallbackLocked
  refine triple_bind hnote fun _ => triple_conseq
    (keeps_bind hstop fun _ => keeps_bind hfallback fun _ => keeps_bind
      (keeps_update fun n hn => { hn with }) fun _ => keeps_throw)
    (fun _ h => h) (fun _ _ h => h.toResting) fun _ _ h => ended_of_resting h.toResting

theorem ended_tpAttempt {later : Nat} :
    Triple (fun r => r.node.Underway s ∧ inSession r.node.snapshot.state = false)
      (tpAttempt s later) (fun _ r => r.node.Resting) Ended := by
  refine triple_bind (Q := fun _ (r : TpRun) => r.node.Underway s) ?_ fun started => ?_
  · refine triple_conseq (triple_attempt underway_tpStartUp) (fun _ h => h) ?_ ?_
    · rintro (_ | _) r hr <;> exact hr
    · rintro fault r ⟨rfl, hr⟩
      exact hr.toBudget
  · refine triple_ite (fun _ => ended_tpGiveUp) fun _ => ?_
    refine triple_bind (Q := fun _ (r : TpRun) => r.node.Resting) (fun r hr => hr.refund)
      fun _ => ?_
    exact ended_of_keeps (keeps_bind keeps_persist_resting fun _ => keeps_pure) fun _ hn => hn

theorem ended_tpPromoteOwned {operation now later : Nat} :
    Triple (fun r => r.node.Resting) (tpPromoteOwned operation now later)
      (fun _ r => r.node.Resting) Ended := by
  have hresting : ∀ {α : Type} {p : TpProgram α}, Keeps (fun r => r.node.Resting) p →
      Triple (fun r => r.node.Resting) p (fun _ r => r.node.Resting) Ended :=
    fun h => ended_of_keeps h fun _ hn => hn
  have hvacant : ∀ {α : Type} {p : TpProgram α}, Keeps (fun r => r.node.Vacant) p →
      Triple (fun r => r.node.Vacant) p (fun _ r => r.node.Vacant) Ended :=
    fun h => ended_of_keeps h fun _ hn => hn.toResting
  refine triple_bind (hresting keeps_node) fun _ => triple_bind (hresting keeps_ensure) fun _ => ?_
  refine triple_bind (hresting keeps_node) fun _ => ?_
  refine triple_bind (hresting keeps_tpPolicyCheck) fun _ => ?_
  refine triple_bind (hresting keeps_node) fun _ => triple_bind (hresting keeps_ensure) fun _ => ?_
  -- what the checks establish
  refine triple_bind triple_node fun n => triple_bind (triple_conseq triple_ensure
    (fun _ h => h) (fun _ _ h => h) fun _ _ h => ended_of_resting h.2.1) fun _ => ?_
  refine triple_bind triple_node fun m => triple_bind (triple_conseq triple_ensure
    (fun _ h => h) (fun _ _ h => h) fun _ _ h => ended_of_resting h.2.1.1.1) fun _ => ?_
  refine triple_conseq (A := fun r => r.node.Vacant) ?_ ?_ (fun _ _ h => h) fun _ _ h => h
  · refine triple_bind (hvacant keeps_node) fun _ => triple_bind (hvacant keeps_ensure) fun _ => ?_
    refine triple_bind (hvacant (keeps_of_quiet TpNode.stable_vacant fun _ _ =>
      quiet_tpPeer_plain (.inl rfl))) fun peer => ?_
    refine triple_bind (hvacant (keeps_await TpNode.stable_vacant)) fun _ => ?_
    refine triple_bind triple_node fun n => triple_bind (keeps_ensure.weaken_error
      fun _ _ h => ended_of_resting h.1.toResting) fun _ => ?_
    refine triple_bind (keeps_node.weaken_error fun _ _ h => ended_of_resting h.1.toResting)
      fun later => ?_
    -- the reservation, and the save that makes it last
    generalize hs : ({ id := _, operation := _, epoch := _ } : TpSession) = s
    have hid : n.journal.lastSession < s.id := by
      rw [← hs]
      exact Nat.lt_succ_of_le (Nat.le_max_left _ _)
    refine triple_bind (Q := fun _ (r : TpRun) => r.node.Reserved s)
      (by rintro r ⟨hr, rfl⟩; exact hr.reserve hid) fun _ => ?_
    refine triple_bind (triple_conseq
      (triple_persistTpJournal TpNode.stable_reserved fun _ hn => hn.save) (fun _ h => h)
      (fun _ _ h => h) fun _ _ h => ended_of_resting h.resting) fun _ => ?_
    exact triple_bind (Q := fun _ (r : TpRun) =>
      r.node.Underway s ∧ inSession r.node.snapshot.state = false)
      (fun r hr => ⟨hr.1.underway_of_saved hr.2.1 hr.2.2, hr.1.outside⟩) fun _ => ended_tpAttempt
  · rintro r ⟨⟨⟨⟨hr, rfl⟩, hstate⟩, rfl⟩, hroom⟩
    rw [beq_iff_eq] at hstate
    refine { hr with outside := ?_, room := of_decide_eq_true hroom }
    rw [hstate]
    rfl

theorem keeps_noteFound {p : TpProgram α} (h : Keeps (fun r => r.node.Known s) p) :
    Triple (fun r => r.node.Watched s)
      (do
        tpNoteFailure s.id false
        update (markFailed s.id)
        p)
      (fun _ r => r.node.Resting) (fun _ r => r.node.Resting) := by
  have hstable : TpNode.Stable fun n => n.Watched s ∧ s.id ∈ n.ledger.spent :=
    TpNode.stable_watched.and fun _ _ hn hquiet => hquiet.spent ▸ hn
  refine triple_bind (Q := fun _ (r : TpRun) => (r.node.Watched s ∧ s.id ∈ r.node.ledger.spent) ∧
    r.node.saved = r.node.journal ∧ r.node.savedLedger = r.node.ledger) ?_ fun _ => ?_
  · refine triple_bind (Q := fun _ (r : TpRun) =>
      r.node.Watched s ∧ s.id ∈ r.node.ledger.spent) (fun r hr => hr.noteFailure) fun _ => ?_
    refine triple_bind (triple_conseq
      (triple_persistTpJournal hstable fun n hn => ⟨hn.1.save, hn.2⟩)
      (fun _ h => h) (fun _ _ h => h) fun _ _ h => h.1.toResting) fun _ => triple_pure fun _ h => h
  · refine triple_bind (Q := fun _ (r : TpRun) => r.node.Known s)
      (fun r hr => hr.1.1.markFailed hr.1.2 hr.2.1 hr.2.2) fun _ => ?_
    exact triple_conseq h (fun _ h => h) (fun _ _ h => h.toResting) fun _ _ h => h.toResting

theorem resting_tpReconcile {now : Nat} :
    Keeps (fun r => r.node.Resting) (tpReconcile now) := by
  have hfallback : Keeps (fun r => r.node.Resting) tpFallbackLocked :=
    keeps_of_quiet TpNode.stable_resting fun _ _ => quiet_tpFallbackLocked
  have hmanual : ∀ id, Keeps (fun r => r.node.Resting) (tpEvent .requireManualIntervention id) :=
    fun _ => keeps_tpEvent TpNode.stable_resting rfl
  have hasked : Keeps (fun r => r.node.Resting) (tpPeer .node none) :=
    keeps_of_quiet TpNode.stable_resting fun _ _ => quiet_tpPeer_plain (.inl rfl)
  refine triple_bind triple_node fun n => triple_ite (fun _ => ?_) fun _ => ?_
  · refine triple_conseq (keeps_bind (keeps_attempt hasked) fun _ => keeps_ite ?_ keeps_pure)
      (fun _ h => h.1) (fun _ _ h => h) fun _ _ h => h
    exact keeps_bind keeps_node fun _ =>
      keeps_ite hfallback (keeps_bind (hmanual 0) fun _ => keeps_pure)
  · refine triple_ite (fun hin => ?_) fun _ => triple_pure fun _ h => h.1
    refine triple_bind triple_node fun m => ?_
    cases hsession : m.session with
    | none => exact triple_throw fun _ h => h.1.1
    | some s =>
      refine triple_conseq (A := fun r => r.node.Watched s) ?_ ?_ (fun _ _ h => h) fun _ _ h => h
      · have hwatched : ∀ {α : Type} {p : TpProgram α}, Keeps (fun r => r.node.Watched s) p →
            Triple (fun r => r.node.Watched s) p (fun _ r => r.node.Watched s)
              (fun _ r => r.node.Resting) := fun h => h.weaken_error fun _ _ hr => hr.toResting
        have hknown : ∀ {α : Type} {p : TpProgram α}, (∀ n, QuietFrom n p) →
            Keeps (fun r => r.node.Known s) p :=
          fun h => keeps_of_quiet TpNode.stable_known fun n _ => h n
        refine triple_bind (hwatched (keeps_attempt (keeps_await TpNode.stable_watched)))
          fun child => ?_
        refine triple_bind (hwatched (keeps_attempt (keeps_of_quiet TpNode.stable_watched
          fun _ _ => quiet_tpPeer_plain (.inl rfl)))) fun peer => ?_
        refine triple_bind (hwatched keeps_node) fun _ => ?_
        refine triple_ite (fun _ => ?_) fun _ => triple_pure fun _ h => h.toResting
        refine keeps_noteFound (keeps_bind keeps_node fun _ => keeps_ite ?_ ?_)
        · have hstop : Keeps (fun r => r.node.Known s) (tellStop s) :=
            keeps_of_quiet TpNode.stable_known fun n hn => quiet_tellStop (.inr hn.allocated)
          have hback := hknown fun _ => quiet_tpFallbackLocked
          exact keeps_bind keeps_node fun _ => keeps_ite (keeps_bind hstop fun _ => hback) hback
        · exact keeps_bind (hknown fun _ => quiet_tpEvent rfl) fun _ => keeps_pure
      · rintro r ⟨⟨hr, rfl⟩, rfl⟩
        exact { hr with
          allocated := hr.issued s hsession
          last := hr.slot s hsession hin
          cost := hr.noted s hsession hin }

theorem resting_tpCommand {r : TpRequest} {now : Nat} :
    Keeps (fun r => r.node.Resting) (tpCommand r now) := by
  by_cases hcommand : r.command = .prepare
  · have hprepare : Keeps (fun r => r.node.Resting) (tpPrepare r) :=
      keeps_refused fun n hn => by
        rw [hn.role]
        rfl
    simp only [tpCommand, hcommand]
    refine keeps_bind hprepare fun _ => ?_
    exact keeps_bind (keeps_await TpNode.stable_resting) fun _ => keeps_pure
  · exact keeps_of_quiet TpNode.stable_resting fun _ _ => quiet_tpCommand hcommand

end Budget

end TpProgram

/-! ## Runs -/

namespace TpNode

variable {n : TpNode}

theorem Resting.perform {α : Type} {p : TpProgram α} (h : n.Resting)
    (hp : Triple (fun r => r.node.Resting) p (fun _ r => r.node.Resting) TpProgram.Ended)
    (outcomes : List TpOutcome) : (n.perform p outcomes).Resting :=
  perform_of hp (fun _ hr => hr) (fun _ hr => hr.restart _) h outcomes

theorem Resting.perform_quiet {α : Type} {p : TpProgram α} (h : n.Resting)
    (hp : ∀ m, TpProgram.QuietFrom m p) (outcomes : List TpOutcome) :
    (n.perform p outcomes).Resting :=
  h.perform (TpProgram.ended_of_keeps
    (TpProgram.keeps_of_quiet stable_resting fun m _ => hp m) fun _ hm => hm) outcomes

theorem Resting.next (h : n.Resting) (e : TpNodeEvent) : (n.next e).Resting := by
  cases e with
  | promote operation now later outcomes => exact h.perform TpProgram.ended_tpPromoteOwned outcomes
  | handle request seen now outcomes =>
    exact h.perform (TpProgram.ended_of_keeps
      (TpProgram.keeps_handleTp TpProgram.resting_tpCommand) fun _ hn => hn) outcomes
  | pair outcomes => exact h.perform_quiet (fun _ => TpProgram.quiet_tpPair) outcomes
  | reconcile now outcomes =>
    exact h.perform (TpProgram.ended_of_keeps TpProgram.resting_tpReconcile fun _ hn => hn) outcomes
  | demote outcomes => exact h.perform_quiet (fun _ => TpProgram.quiet_tpDemote) outcomes
  | operatorReconcile wasManual outcomes =>
    exact h.perform_quiet (fun _ => TpProgram.quiet_operatorReconcile) outcomes
  | stopForRestart outcomes =>
    exact h.perform_quiet (fun _ => TpProgram.quiet_tpStopForRestart) outcomes
  | shutdown outcomes => exact h.perform_quiet (fun _ => TpProgram.quiet_tpShutdown) outcomes
  | move move => exact stable_resting n _ h (quiet_applyMove move)
  | restart identity => exact h.toBudget.restart identity

def firstStart (config : TpConfig) (environment : TpEnvironment) (generation : Nat) : TpNode :=
  start { config with role := .coordinator } environment generation defaultTpState

theorem resting_firstStart (config : TpConfig) (environment : TpEnvironment) (generation : Nat) :
    (firstStart config environment generation).Resting := by
  have hfile : Balanced [] defaultTpState {} := Balanced.initial _ rfl (Nat.le_refl 0)
  have hreset : ({} : TpLedger).reset = {} := rfl
  have hmemory := hfile.restore config.identity
  rw [hreset, ite_self] at hmemory
  exact
    { role := rfl
      memory := hmemory
      file := hfile
      issued := fun _ hs => nomatch hs
      slot := fun _ hs => nomatch hs
      underway := fun _ ht => nomatch ht
      starting := rfl
      noted := fun _ hs => nomatch hs }

/-- In every run of a coordinator the count of failed attempts is the number of sessions
that are charged.  A session is charged at most once, one that has failed has cost exactly
one attempt, and between two resets at most three sessions that fail are started. -/
theorem failed_sessions_cost_one_attempt (config : TpConfig) (environment : TpEnvironment)
    (generation : Nat) (events : List TpNodeEvent) :
    ∀ n ∈ Machine.visited next (firstStart config environment generation) events,
      n.journal.failedAttempts = n.ledger.charged.length ∧
      (∀ t, n.ledger.charged.count t ≤ 1 ∧ n.ledger.spent.count t ≤ 1) ∧
      (∀ t ∈ n.failedSessions, n.ledger.spent.count t = 1 ∧
        (t ∈ n.ledger.started → n.ledger.charged.count t = 1)) ∧
      ∀ w ∈ n.ledger.closed ++ [n.ledger.started],
        (w.filter fun t => decide (t ∈ n.failedSessions)).length ≤ 3 := by
  have hinv : ∀ n ∈ Machine.visited next (firstStart config environment generation) events,
      n.Resting :=
    Machine.invariant_always (fun _ e h => h.next e)
      (resting_firstStart config environment generation)
  intro n hn
  have h := (hinv n hn).memory
  refine ⟨h.count, fun t => ⟨?_, ?_⟩, fun t ht => ⟨?_, fun hstarted => ?_⟩, fun w hw => ?_⟩
  · exact List.nodup_iff_count_le_one.mp h.charged_nodup t
  · exact List.nodup_iff_count_le_one.mp h.spent_nodup t
  · exact List.count_eq_one_of_mem h.spent_nodup (h.failed_spent ht)
  · exact List.count_eq_one_of_mem h.charged_nodup
      (h.spent_charged t hstarted (h.failed_spent ht))
  · have hrisk : w.countP (atRisk n.failedSessions n.journal.lastSession) ≤ 3 := by
      rcases List.mem_append.mp hw with hclosed | hstarted
      · exact h.closed w hclosed
      · rw [List.mem_singleton.mp hstarted]
        exact h.atRisk_started_le
    rw [← List.countP_eq_length_filter]
    refine Nat.le_trans (List.countP_mono_left fun t _ ht => ?_) hrisk
    rw [atRisk, ht, Bool.true_or]

/-- A start-up that fails, one that a crash cuts off, and a session whose failure is noticed
twice after it was ready, since the first note could not be saved.  The last promotion is
refused. -/
def exhaustingEvents : List TpNodeEvent :=
  let good := fun count => List.replicate count sampleOutcome
  let bad : TpOutcome := { result := .failed }
  let dead : TpOutcome := { result := .crashed }
  sampleBringUp ++
  [.pair (good 5), .promote 1 0 0 (good 3 ++ [bad] ++ good 9),
    .pair (good 5), .promote 2 0 0 (good 7 ++ [dead])] ++
  sampleBringUp ++
  [.pair (good 5), .promote 3 0 0 (good 20),
    .reconcile 0 ([bad] ++ good 1 ++ [bad]), .reconcile 0 ([bad] ++ good 10),
    .pair (good 5), .promote 4 0 0 (good 20)]

def exhaustedNode : TpNode :=
  Machine.run next (firstStart sampleTpConfig sampleTpEnvironment 0) exhaustingEvents

theorem failed_sessions_cost_one_attempt_on_exhaustedNode :
    exhaustedNode.failedSessions = [1, 2, 3] ∧ exhaustedNode.ledger.spent.count 3 = 1 ∧
      exhaustedNode.journal.failedAttempts = exhaustedNode.ledger.charged.length ∧
      exhaustedNode.ledger.started = [1, 2, 3] ∧
      (exhaustedNode.ledger.started.filter fun t =>
        decide (t ∈ exhaustedNode.failedSessions)).length ≤ 3 := by
  have hfailed : exhaustedNode.failedSessions = [1, 2, 3] := by decide +kernel
  have hstarted : exhaustedNode.ledger.started = [1, 2, 3] := by decide +kernel
  obtain ⟨hcount, _, hcost, hwindows⟩ := failed_sessions_cost_one_attempt sampleTpConfig
    sampleTpEnvironment 0 exhaustingEvents exhaustedNode Machine.run_mem_visited
  refine ⟨hfailed, (hcost 3 (by simp [hfailed])).1, hcount, hstarted, ?_⟩
  exact hwindows _ (List.mem_append_right _ (List.mem_singleton_self _))

end TpNode

end Siderostat
