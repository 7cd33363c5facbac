import Lotur.Operations.OperationalState

/-! What the rows of the operational tables say about the transactions that wrote them. A history
holds the transactions of every deployment, the newest first. -/
namespace Lotur.Operations

inductive Operation
  | recordCanaryResult (identity : DeploymentIdentity) (passed : Bool) (now : ℕ)
  | approveAdmission (identity : DeploymentIdentity) (accountId : String) (now : ℕ)
  | closeAdmission (identity : DeploymentIdentity) (now : ℕ)
  | setKillSwitch (identity : DeploymentIdentity) (enabled : Bool) (now : ℕ)
  | getOperationalState (identity : DeploymentIdentity)
  deriving DecidableEq, Repr

/-- `committed` is false when the actor is not allowed or the database refuses a statement: then
everything is rolled back. -/
structure Transaction where
  operation : Operation
  committed : Bool
  deriving DecidableEq, Repr

abbrev OperationHistory := List Transaction

namespace OperationalTables

def execute (tables : OperationalTables) : Operation → OperationalTables
  | .recordCanaryResult identity passed now => tables.recordCanaryResult identity passed now
  | .approveAdmission identity accountId now =>
    match tables.approveAdmission identity accountId now with
    | .ok approved => approved
    | .error _ => tables
  | .closeAdmission identity now => tables.closeAdmission identity now
  | .setKillSwitch _ enabled now => tables.setKillSwitch enabled now
  | .getOperationalState _ => tables

def perform (tables : OperationalTables) (transaction : Transaction) : OperationalTables :=
  if transaction.committed then tables.execute transaction.operation else tables

/-- The tables as the first migration leaves them. -/
def migrated (now : ℕ) : OperationalTables where
  killSwitchEnabled := false
  controlsUpdatedAt := now
  admissions _ := none

end OperationalTables

namespace Transaction

def passesCanary (transaction : Transaction) (identity : DeploymentIdentity) : Prop :=
  transaction.committed = true ∧ ∃ now, transaction.operation = .recordCanaryResult identity true now

def approves (transaction : Transaction) (identity : DeploymentIdentity) : Prop :=
  transaction.committed = true ∧
    ∃ accountId now, transaction.operation = .approveAdmission identity accountId now

/-- The transaction closes the admission of the deployment. -/
def closes (transaction : Transaction) (identity : DeploymentIdentity) : Prop :=
  transaction.committed = true ∧
    ((∃ now, transaction.operation = .closeAdmission identity now) ∨
      (∃ now, transaction.operation = .recordCanaryResult identity false now) ∨
      ∃ other now, transaction.operation = .setKillSwitch other true now)

/-- The transaction may change the row of the deployment. -/
def concerns (transaction : Transaction) (identity : DeploymentIdentity) : Prop :=
  transaction.committed = true ∧
    match transaction.operation with
    | .recordCanaryResult other _ _ | .approveAdmission other _ _ | .closeAdmission other _ =>
      other = identity
    | .setKillSwitch _ enabled _ => enabled = true
    | .getOperationalState _ => False

def setsKillSwitch (transaction : Transaction) : Option Bool :=
  match transaction.committed, transaction.operation with
  | true, .setKillSwitch _ enabled _ => some enabled
  | _, _ => none

end Transaction

namespace OperationHistory

def tables (migratedAt : ℕ) (history : OperationHistory) : OperationalTables :=
  history.foldr (fun transaction tables => tables.perform transaction) (.migrated migratedAt)

def killSwitchEnabled (history : OperationHistory) : Bool :=
  (history.findSome? Transaction.setsKillSwitch).getD false

/-- A canary has passed that nothing has closed since. -/
def HasPassed (history : OperationHistory) (identity : DeploymentIdentity) : Prop :=
  ∃ later canary earlier, history = later ++ canary :: earlier ∧ canary.passesCanary identity ∧
    ∀ transaction ∈ later, ¬transaction.closes identity

/-- After the last transaction that closed the admission a canary passed, and an approval came
after that canary. -/
def IsApproved (history : OperationHistory) (identity : DeploymentIdentity) : Prop :=
  ∃ later approval between canary earlier,
    history = later ++ approval :: (between ++ canary :: earlier) ∧
    canary.passesCanary identity ∧ approval.approves identity ∧
    ∀ transaction ∈ later ++ between, ¬transaction.closes identity

variable {history : OperationHistory} {transaction : Transaction} {identity : DeploymentIdentity}

theorem not_closes_of_passesCanary (h : transaction.passesCanary identity) :
    ¬transaction.closes identity := by
  obtain ⟨-, now, hoperation⟩ := h
  rintro ⟨-, ⟨_, h⟩ | ⟨_, h⟩ | ⟨_, _, h⟩⟩ <;> rw [hoperation] at h <;> cases h

theorem not_closes_of_approves (h : transaction.approves identity) :
    ¬transaction.closes identity := by
  obtain ⟨-, accountId, now, hoperation⟩ := h
  rintro ⟨-, ⟨_, h⟩ | ⟨_, h⟩ | ⟨_, _, h⟩⟩ <;> rw [hoperation] at h <;> cases h

theorem not_hasPassed_nil : ¬HasPassed [] identity := by
  rintro ⟨later, canary, earlier, hsplit, -⟩
  simp at hsplit

theorem hasPassed_cons : HasPassed (transaction :: history) identity ↔
    transaction.passesCanary identity ∨ ¬transaction.closes identity ∧ HasPassed history identity := by
  constructor
  · rintro ⟨later, canary, earlier, hsplit, hcanary, hopen⟩
    cases later with
    | nil =>
      cases hsplit
      exact Or.inl hcanary
    | cons first later =>
      cases hsplit
      exact Or.inr ⟨hopen _ List.mem_cons_self, later, canary, earlier, rfl, hcanary,
        fun t ht => hopen t (List.mem_cons_of_mem _ ht)⟩
  · rintro (hcanary | ⟨hopen, later, canary, earlier, rfl, hcanary, hlater⟩)
    · exact ⟨[], transaction, history, rfl, hcanary, nofun⟩
    · refine ⟨transaction :: later, canary, earlier, rfl, hcanary, ?_⟩
      exact List.forall_mem_cons.mpr ⟨hopen, hlater⟩

theorem not_isApproved_nil : ¬IsApproved [] identity := by
  rintro ⟨later, approval, between, canary, earlier, hsplit, -⟩
  simp at hsplit

theorem isApproved_cons : IsApproved (transaction :: history) identity ↔
    transaction.approves identity ∧ HasPassed history identity ∨
      ¬transaction.closes identity ∧ IsApproved history identity := by
  constructor
  · rintro ⟨later, approval, between, canary, earlier, hsplit, hcanary, happroval, hopen⟩
    cases later with
    | nil =>
      cases hsplit
      exact Or.inl ⟨happroval, between, canary, earlier, rfl, hcanary, hopen⟩
    | cons first later =>
      cases hsplit
      exact Or.inr ⟨hopen _ List.mem_cons_self, later, approval, between, canary, earlier, rfl,
        hcanary, happroval, fun t ht => hopen t (List.mem_cons_of_mem _ ht)⟩
  · rintro (⟨happroval, between, canary, earlier, rfl, hcanary, hopen⟩ |
      ⟨hopen, later, approval, between, canary, earlier, rfl, hcanary, happroval, hlater⟩)
    · exact ⟨[], transaction, between, canary, earlier, rfl, hcanary, happroval, hopen⟩
    · refine ⟨transaction :: later, approval, between, canary, earlier, rfl, hcanary, happroval, ?_⟩
      exact List.forall_mem_cons.mpr ⟨hopen, hlater⟩

theorem HasPassed.of_isApproved (h : IsApproved history identity) : HasPassed history identity := by
  induction history with
  | nil => exact absurd h not_isApproved_nil
  | cons transaction history ih =>
    rw [hasPassed_cons]
    rcases isApproved_cons.mp h with ⟨happroval, hpassed⟩ | ⟨hopen, hearlier⟩
    · exact Or.inr ⟨not_closes_of_approves happroval, hpassed⟩
    · exact Or.inr ⟨hopen, ih hearlier⟩

/-- The row of the deployment is what the history says about it. -/
structure Recorded (history : OperationHistory) (row : Option DeploymentAdmission)
    (identity : DeploymentIdentity) : Prop where
  passed : (∃ admission, row = some admission ∧ admission.canaryStatus = .PASSED) ↔
    HasPassed history identity
  checked : ∀ admission, row = some admission → admission.canaryStatus = .PASSED →
    admission.canaryCheckedAt.isSome = true
  approvedAt : ∀ admission, row = some admission →
    (admission.admissionApprovedAt.isSome = true ↔ IsApproved history identity)
  approvedBy : ∀ admission, row = some admission →
    (admission.admissionApprovedBy.isSome = true ↔ IsApproved history identity)

theorem recorded_nil (identity : DeploymentIdentity) : Recorded [] none identity where
  passed := by
    constructor
    · rintro ⟨admission, hrow, -⟩
      cases hrow
    · exact fun h => absurd h not_hasPassed_nil
  checked := nofun
  approvedAt := nofun
  approvedBy := nofun

variable {row : Option DeploymentAdmission}

theorem concerns_of_passesCanary (h : transaction.passesCanary identity) :
    transaction.concerns identity := by
  obtain ⟨hcommitted, now, hoperation⟩ := h
  rw [Transaction.concerns, hoperation]
  exact ⟨hcommitted, rfl⟩

theorem concerns_of_approves (h : transaction.approves identity) :
    transaction.concerns identity := by
  obtain ⟨hcommitted, accountId, now, hoperation⟩ := h
  rw [Transaction.concerns, hoperation]
  exact ⟨hcommitted, rfl⟩

theorem concerns_of_closes (h : transaction.closes identity) : transaction.concerns identity := by
  obtain ⟨hcommitted, ⟨now, hoperation⟩ | ⟨now, hoperation⟩ | ⟨other, now, hoperation⟩⟩ := h
  · rw [Transaction.concerns, hoperation]
    exact ⟨hcommitted, rfl⟩
  · rw [Transaction.concerns, hoperation]
    exact ⟨hcommitted, rfl⟩
  · rw [Transaction.concerns, hoperation]
    exact ⟨hcommitted, rfl⟩

/-- Other deployments keep their rows. -/
theorem admissions_of_not_concerns (tables : OperationalTables)
    (h : ¬transaction.concerns identity) :
    (tables.perform transaction).admissions identity = tables.admissions identity := by
  obtain ⟨operation, committed⟩ := transaction
  cases committed with
  | false => rfl
  | true =>
    simp only [Transaction.concerns, true_and] at h
    simp only [OperationalTables.perform, if_true]
    cases operation with
    | recordCanaryResult other passed now => exact Function.update_of_ne (Ne.symm h) _ _
    | approveAdmission other accountId now =>
      simp only [OperationalTables.execute, OperationalTables.approveAdmission]
      split
      · rename_i approved happroved
        split at happroved
        · split_ifs at happroved
          cases happroved
          exact Function.update_of_ne (Ne.symm h) _ _
        · cases happroved
      · rfl
    | closeAdmission other now => exact Function.update_of_ne (Ne.symm h) _ _
    | setKillSwitch other enabled now =>
      simp [OperationalTables.execute, OperationalTables.setKillSwitch, h]
    | getOperationalState other => rfl

theorem isApproved_of_not_concerns (h : ¬transaction.concerns identity) :
    IsApproved (transaction :: history) identity ↔ IsApproved history identity := by
  rw [isApproved_cons, or_iff_right fun happroved => h (concerns_of_approves happroved.1),
    and_iff_right (mt concerns_of_closes h)]

theorem Recorded.skip (h : Recorded history row identity) (hother : ¬transaction.concerns identity) :
    Recorded (transaction :: history) row identity where
  passed := by
    rw [h.passed, hasPassed_cons, or_iff_right (mt concerns_of_passesCanary hother),
      and_iff_right (mt concerns_of_closes hother)]
  checked := h.checked
  approvedAt admission hrow := by
    rw [h.approvedAt admission hrow, isApproved_of_not_concerns hother]
  approvedBy admission hrow := by
    rw [h.approvedBy admission hrow, isApproved_of_not_concerns hother]

/-- A transaction that closes the admission leaves a row that says so. -/
theorem recorded_closed (hcloses : transaction.closes identity)
    (hrow : ∀ admission, row = some admission → admission.canaryStatus ≠ .PASSED ∧
      admission.admissionApprovedAt = none ∧ admission.admissionApprovedBy = none) :
    Recorded (transaction :: history) row identity := by
  have hpassed : ¬HasPassed (transaction :: history) identity := by
    rw [hasPassed_cons]
    rintro (hcanary | ⟨hopen, -⟩)
    · exact not_closes_of_passesCanary hcanary hcloses
    · exact hopen hcloses
  have happroved : ¬IsApproved (transaction :: history) identity := mt .of_isApproved hpassed
  refine ⟨?_, ?_, ?_, ?_⟩
  · constructor
    · rintro ⟨admission, hadmission, hstatus⟩
      exact absurd hstatus (hrow admission hadmission).1
    · exact fun h => absurd h hpassed
  · exact fun admission hadmission hstatus => absurd hstatus (hrow admission hadmission).1
  · intro admission hadmission
    simp [(hrow admission hadmission).2.1, happroved]
  · intro admission hadmission
    simp [(hrow admission hadmission).2.2, happroved]

/-- A canary that passes keeps the approval of a canary that had passed. -/
theorem Recorded.canary (h : Recorded history row identity)
    (hcanary : transaction.passesCanary identity) (happroval : ¬transaction.approves identity)
    {next : DeploymentAdmission} (hstatus : next.canaryStatus = .PASSED)
    (hchecked : next.canaryCheckedAt.isSome = true)
    (hnone : row = none → next.admissionApprovedAt = none ∧ next.admissionApprovedBy = none)
    (hkept : ∀ admission, row = some admission → admission.canaryStatus = .PASSED →
      next.admissionApprovedAt = admission.admissionApprovedAt ∧
        next.admissionApprovedBy = admission.admissionApprovedBy)
    (hreset : ∀ admission, row = some admission → admission.canaryStatus ≠ .PASSED →
      next.admissionApprovedAt = none ∧ next.admissionApprovedBy = none) :
    Recorded (transaction :: history) (some next) identity := by
  have hopen := not_closes_of_passesCanary hcanary
  have happroved : IsApproved (transaction :: history) identity ↔ IsApproved history identity := by
    rw [isApproved_cons, or_iff_right fun h => happroval h.1, and_iff_right hopen]
  have hvalues : (next.admissionApprovedAt.isSome = true ↔ IsApproved history identity) ∧
      (next.admissionApprovedBy.isSome = true ↔ IsApproved history identity) := by
    by_cases hpassed : HasPassed history identity
    · obtain ⟨admission, hrow, hadmission⟩ := h.passed.mpr hpassed
      rw [(hkept admission hrow hadmission).1, (hkept admission hrow hadmission).2]
      exact ⟨h.approvedAt admission hrow, h.approvedBy admission hrow⟩
    · have hunapproved : ¬IsApproved history identity := mt .of_isApproved hpassed
      have hempty : next.admissionApprovedAt = none ∧ next.admissionApprovedBy = none := by
        cases hrow : row with
        | none => exact hnone hrow
        | some admission =>
          exact hreset admission hrow fun hadmission =>
            hpassed (h.passed.mp ⟨admission, hrow, hadmission⟩)
      simp [hempty.1, hempty.2, hunapproved]
  refine ⟨?_, ?_, ?_, ?_⟩
  · rw [hasPassed_cons]
    exact iff_of_true ⟨next, rfl, hstatus⟩ (Or.inl hcanary)
  · rintro _ ⟨⟩ -
    exact hchecked
  · rintro _ ⟨⟩
    rw [happroved]
    exact hvalues.1
  · rintro _ ⟨⟩
    rw [happroved]
    exact hvalues.2

theorem recordCanaryResult_recorded {tables : OperationalTables} {passed : Bool} {now : ℕ}
    (h : Recorded history (tables.admissions identity) identity)
    (htransaction : transaction = ⟨.recordCanaryResult identity passed now, true⟩) :
    Recorded (transaction :: history)
      ((tables.recordCanaryResult identity passed now).admissions identity) identity := by
  subst htransaction
  simp only [OperationalTables.recordCanaryResult, Function.update_self]
  cases passed with
  | false =>
    refine recorded_closed ⟨rfl, Or.inr (Or.inl ⟨now, rfl⟩)⟩ ?_
    rintro _ ⟨⟩
    split
    · exact ⟨nofun, rfl, rfl⟩
    · simp
  | true =>
    refine h.canary ⟨rfl, now, rfl⟩ (by rintro ⟨-, _, _, h⟩; cases h) ?_ ?_ ?_ ?_ ?_
    · split
      · rfl
      · rfl
    · split
      · rfl
      · rfl
    · intro hrow
      rw [hrow]
      exact ⟨rfl, rfl⟩
    · intro admission hrow hstatus
      simp [hrow, hstatus]
    · intro admission hrow hstatus
      simp [hrow, hstatus]

theorem approveAdmission_recorded {tables : OperationalTables} {accountId : String} {now : ℕ}
    (h : Recorded history (tables.admissions identity) identity)
    (htransaction : transaction = ⟨.approveAdmission identity accountId now, true⟩) :
    Recorded (transaction :: history)
      ((tables.execute (.approveAdmission identity accountId now)).admissions identity) identity := by
  have happroval : transaction.approves identity := by
    rw [htransaction]
    exact ⟨rfl, accountId, now, rfl⟩
  have hcanary : ¬transaction.passesCanary identity := by
    rw [htransaction]
    rintro ⟨-, _, h⟩
    cases h
  have hopen := not_closes_of_approves happroval
  have hpassed : HasPassed (transaction :: history) identity ↔ HasPassed history identity := by
    rw [hasPassed_cons, or_iff_right hcanary, and_iff_right hopen]
  by_cases hready : HasPassed history identity
  · obtain ⟨admission, hrow, hstatus⟩ := h.passed.mpr hready
    have happroved : IsApproved (transaction :: history) identity :=
      isApproved_cons.mpr (Or.inl ⟨happroval, hready⟩)
    simp only [OperationalTables.execute, OperationalTables.approveAdmission, hrow, hstatus, if_true,
      Function.update_self]
    refine ⟨?_, ?_, ?_, ?_⟩
    · exact iff_of_true ⟨_, rfl, rfl⟩ (hpassed.mpr hready)
    · rintro _ ⟨⟩ -
      exact h.checked admission hrow hstatus
    · rintro _ ⟨⟩
      exact iff_of_true rfl happroved
    · rintro _ ⟨⟩
      exact iff_of_true rfl happroved
  · have hsame : tables.execute (.approveAdmission identity accountId now) = tables := by
      have hrefused : ∀ admission, tables.admissions identity = some admission →
          admission.canaryStatus ≠ .PASSED := fun admission hrow hstatus =>
        hready (h.passed.mp ⟨admission, hrow, hstatus⟩)
      simp only [OperationalTables.execute, OperationalTables.approveAdmission]
      cases hrow : tables.admissions identity with
      | none => rfl
      | some admission => simp [hrefused admission hrow]
    have happroved : IsApproved (transaction :: history) identity ↔ IsApproved history identity := by
      rw [isApproved_cons, or_iff_right fun h => hready h.2, and_iff_right hopen]
    rw [hsame]
    refine ⟨h.passed.trans hpassed.symm, h.checked, ?_, ?_⟩
    · intro admission hrow
      exact (h.approvedAt admission hrow).trans happroved.symm
    · intro admission hrow
      exact (h.approvedBy admission hrow).trans happroved.symm

theorem perform_recorded {tables : OperationalTables} (transaction : Transaction)
    (h : ∀ identity, Recorded history (tables.admissions identity) identity)
    (identity : DeploymentIdentity) :
    Recorded (transaction :: history) ((tables.perform transaction).admissions identity) identity := by
  by_cases hconcerns : transaction.concerns identity
  · obtain ⟨operation, committed⟩ := transaction
    obtain ⟨rfl, hidentity⟩ := hconcerns
    simp only [OperationalTables.perform, if_true]
    cases operation with
    | recordCanaryResult other passed now =>
      obtain rfl : other = identity := hidentity
      exact recordCanaryResult_recorded (h other) rfl
    | approveAdmission other accountId now =>
      obtain rfl : other = identity := hidentity
      exact approveAdmission_recorded (h other) rfl
    | closeAdmission other now =>
      obtain rfl : other = identity := hidentity
      simp only [OperationalTables.execute, OperationalTables.closeAdmission, Function.update_self]
      refine recorded_closed ⟨rfl, Or.inl ⟨now, rfl⟩⟩ ?_
      rintro _ ⟨⟩
      exact ⟨nofun, rfl, rfl⟩
    | setKillSwitch other enabled now =>
      obtain rfl : enabled = true := hidentity
      refine recorded_closed ⟨rfl, Or.inr (Or.inr ⟨other, now, rfl⟩)⟩ ?_
      intro admission hrow
      simp only [OperationalTables.execute, OperationalTables.setKillSwitch, if_true,
        Option.map_eq_some_iff] at hrow
      obtain ⟨_, -, rfl⟩ := hrow
      exact ⟨nofun, rfl, rfl⟩
    | getOperationalState other => exact absurd hidentity not_false
  · rw [admissions_of_not_concerns tables hconcerns]
    exact (h identity).skip hconcerns

theorem tables_recorded (migratedAt : ℕ) (history : OperationHistory) :
    ∀ identity, Recorded history ((history.tables migratedAt).admissions identity) identity := by
  induction history with
  | nil => exact recorded_nil
  | cons transaction history ih => exact perform_recorded transaction ih

theorem tables_killSwitchEnabled (migratedAt : ℕ) (history : OperationHistory) :
    (history.tables migratedAt).killSwitchEnabled = history.killSwitchEnabled := by
  induction history with
  | nil => rfl
  | cons transaction history ih =>
    have hcons : tables migratedAt (transaction :: history) =
        (tables migratedAt history).perform transaction := rfl
    rw [hcons]
    obtain ⟨operation, committed⟩ := transaction
    cases committed with
    | false => exact ih
    | true =>
      cases operation with
      | setKillSwitch other enabled now => rfl
      | recordCanaryResult other passed now => exact ih
      | approveAdmission other accountId now =>
        refine Eq.trans ?_ ih
        simp only [OperationalTables.perform, OperationalTables.execute,
          OperationalTables.approveAdmission, if_true]
        split
        · rename_i approved happroved
          split at happroved
          · split_ifs at happroved
            cases happroved
            rfl
          · cases happroved
        · rfl
      | closeAdmission other now => exact ih
      | getOperationalState other => exact ih

/-- What the cache of a deployment says once it has been given what was read for it. -/
def isAdmissionReady (migratedAt : ℕ) (history : OperationHistory) (cache : OperationalStateCache) :
    Bool :=
  match cache.apply ((history.tables migratedAt).readOperationalState cache.identity) with
  | .ok applied => applied.isAdmissionReady
  | .error _ => false

theorem isAdmissionReady_eq (migratedAt : ℕ) (history : OperationHistory)
    (cache : OperationalStateCache) : history.isAdmissionReady migratedAt cache = true ↔
      history.killSwitchEnabled = false ∧ history.IsApproved cache.identity := by
  have hrecorded := tables_recorded migratedAt history cache.identity
  have hsame (state : OperationalState) (hidentity : state.identity = cache.identity) :
      cache.apply state = .ok { cache with state := some state, available := true } := by
    simp [OperationalStateCache.apply, sameDeployment, hidentity]
  rw [← tables_killSwitchEnabled migratedAt]
  unfold isAdmissionReady OperationalTables.readOperationalState
  cases hrow : (history.tables migratedAt).admissions cache.identity with
  | none =>
    have hunapproved : ¬IsApproved history cache.identity := by
      intro happroved
      obtain ⟨admission, hadmission, -⟩ := hrecorded.passed.mpr (.of_isApproved happroved)
      rw [hrow] at hadmission
      cases hadmission
    simp [hsame, OperationalStateCache.isAdmissionReady, hunapproved]
  | some admission =>
    have hpassed : admission.canaryStatus = .PASSED ↔ HasPassed history cache.identity := by
      rw [← hrecorded.passed, hrow]
      simp
    have hchecked := hrecorded.checked admission hrow
    have hat := hrecorded.approvedAt admission hrow
    have hby := hrecorded.approvedBy admission hrow
    have himplies := @HasPassed.of_isApproved history cache.identity
    simp only [hsame, OperationalStateCache.isAdmissionReady, Option.any_some, Bool.true_and,
      Bool.and_eq_true, Bool.not_eq_true', decide_eq_true_eq, hat, hby]
    tauto

section Scenario

def production : DeploymentIdentity := ⟨"production", "sha256:1"⟩

/-- The switch is set and reset; then a canary passes twice, with the approval in between, and one
fails for another deployment. -/
def approvedOnce : OperationHistory :=
  [⟨.recordCanaryResult ⟨"staging", "sha256:1"⟩ false 6, true⟩,
    ⟨.recordCanaryResult production true 5, true⟩, ⟨.approveAdmission production "a" 4, true⟩,
    ⟨.recordCanaryResult production true 3, true⟩, ⟨.setKillSwitch production false 2, true⟩,
    ⟨.setKillSwitch production true 1, true⟩]

end Scenario

end OperationHistory

end Lotur.Operations
