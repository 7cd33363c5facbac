import Mathlib.Data.List.Basic
import Mathlib.Tactic

/-! The operational state of a deployment: `operational-state.ts`, the tables behind
`PostgresOperationalStateRepository`, and the cache of the gateway process. Times are milliseconds;
a transaction that its actor is not allowed changes nothing and is left out. -/
namespace Lotur.Operations

structure DeploymentIdentity where
  deploymentId : String
  configDigest : String
  deriving DecidableEq, Repr

def sameDeployment (left right : DeploymentIdentity) : Bool :=
  left.deploymentId = right.deploymentId && left.configDigest = right.configDigest

inductive CanaryStatus
  | UNKNOWN
  | PASSED
  | FAILED
  deriving DecidableEq, Repr

structure OperationalState where
  identity : DeploymentIdentity
  killSwitchEnabled : Bool
  canaryStatus : CanaryStatus
  canaryCheckedAt : Option ℕ
  admissionApprovedAt : Option ℕ
  admissionApprovedBy : Option String
  updatedAt : ℕ
  deriving DecidableEq, Repr

inductive OperationalStateError
  | CANARY_REQUIRED (message : String)
  | DEPLOYMENT_IDENTITY_MISMATCH (message : String)
  deriving DecidableEq, Repr

structure OperationalStateCache where
  identity : DeploymentIdentity
  state : Option OperationalState
  available : Bool
  deriving DecidableEq, Repr

namespace OperationalStateCache

def new (identity : DeploymentIdentity) : OperationalStateCache :=
  { identity, state := none, available := false }

def apply (cache : OperationalStateCache) (state : OperationalState) :
    Except OperationalStateError OperationalStateCache :=
  if sameDeployment cache.identity state.identity then
    .ok { cache with state := some state, available := true }
  else .error (.DEPLOYMENT_IDENTITY_MISMATCH "operational state belongs to a different deployment")

def markUnavailable (cache : OperationalStateCache) : OperationalStateCache :=
  { cache with available := false }

def isAdmissionReady (cache : OperationalStateCache) : Bool :=
  cache.available && cache.state.any fun state =>
    !state.killSwitchEnabled && state.canaryStatus = .PASSED && state.canaryCheckedAt.isSome &&
      state.admissionApprovedAt.isSome && state.admissionApprovedBy.isSome

def isKillSwitchEnabled (cache : OperationalStateCache) : Bool :=
  (cache.state.map OperationalState.killSwitchEnabled).getD true

/-- An enabled kill switch closes admission. -/
theorem not_ready_of_killSwitch {cache : OperationalStateCache}
    (h : cache.isKillSwitchEnabled = true) : cache.isAdmissionReady = false := by
  unfold isKillSwitchEnabled at h
  unfold isAdmissionReady
  cases hstate : cache.state with
  | none => simp
  | some state =>
    have henabled : state.killSwitchEnabled = true := by simpa [hstate] using h
    simp [henabled]

theorem apply_ok {cache cache' : OperationalStateCache} {state : OperationalState}
    (h : cache.apply state = .ok cache') :
    cache'.isKillSwitchEnabled = state.killSwitchEnabled := by
  unfold apply at h
  split_ifs at h
  cases h
  rfl

end OperationalStateCache

/-- A row of `rt_deployment_admissions`. -/
structure DeploymentAdmission where
  canaryStatus : CanaryStatus
  canaryCheckedAt : Option ℕ
  admissionApprovedAt : Option ℕ
  admissionApprovedBy : Option String
  updatedAt : ℕ
  deriving DecidableEq, Repr

/-- `rt_operational_controls` has one row. -/
structure OperationalTables where
  killSwitchEnabled : Bool
  controlsUpdatedAt : ℕ
  admissions : DeploymentIdentity → Option DeploymentAdmission

namespace OperationalTables

def readOperationalState (tables : OperationalTables) (identity : DeploymentIdentity) :
    OperationalState :=
  match tables.admissions identity with
  | none =>
    { identity
      killSwitchEnabled := tables.killSwitchEnabled
      canaryStatus := .UNKNOWN
      canaryCheckedAt := none
      admissionApprovedAt := none
      admissionApprovedBy := none
      updatedAt := tables.controlsUpdatedAt }
  | some row =>
    { identity
      killSwitchEnabled := tables.killSwitchEnabled
      canaryStatus := row.canaryStatus
      canaryCheckedAt := row.canaryCheckedAt
      admissionApprovedAt := row.admissionApprovedAt
      admissionApprovedBy := row.admissionApprovedBy
      updatedAt := row.updatedAt }

/-- Only a second success in a row keeps the approval. -/
def recordCanaryResult (tables : OperationalTables) (identity : DeploymentIdentity)
    (passed : Bool) (now : ℕ) : OperationalTables :=
  let canaryStatus := if passed then CanaryStatus.PASSED else .FAILED
  let keeps (row : DeploymentAdmission) := row.canaryStatus = .PASSED ∧ passed = true
  let row := match tables.admissions identity with
    | none =>
      { canaryStatus
        canaryCheckedAt := some now
        admissionApprovedAt := none
        admissionApprovedBy := none
        updatedAt := now }
    | some row =>
      { canaryStatus
        canaryCheckedAt := some now
        admissionApprovedAt := if keeps row then row.admissionApprovedAt else none
        admissionApprovedBy := if keeps row then row.admissionApprovedBy else none
        updatedAt := now }
  { tables with admissions := Function.update tables.admissions identity (some row) }

def approveAdmission (tables : OperationalTables) (identity : DeploymentIdentity)
    (accountId : String) (now : ℕ) : Except OperationalStateError OperationalTables :=
  match tables.admissions identity with
  | some row =>
    if row.canaryStatus = .PASSED then
      .ok { tables with admissions := Function.update tables.admissions identity (some { row with
        admissionApprovedAt := some now
        admissionApprovedBy := some accountId
        updatedAt := now }) }
    else .error (.CANARY_REQUIRED
      "matching successful canary is required before admission approval")
  | none => .error (.CANARY_REQUIRED
      "matching successful canary is required before admission approval")

def closedAdmission (now : ℕ) : DeploymentAdmission where
  canaryStatus := .UNKNOWN
  canaryCheckedAt := none
  admissionApprovedAt := none
  admissionApprovedBy := none
  updatedAt := now

def closeAdmission (tables : OperationalTables) (identity : DeploymentIdentity) (now : ℕ) :
    OperationalTables :=
  { tables with
    admissions := Function.update tables.admissions identity (some (closedAdmission now)) }

/-- Enabling closes the admission of every deployment. -/
def setKillSwitch (tables : OperationalTables) (enabled : Bool) (now : ℕ) : OperationalTables :=
  { killSwitchEnabled := enabled
    controlsUpdatedAt := now
    admissions := if enabled then
      fun identity => (tables.admissions identity).map fun _ => closedAdmission now
    else tables.admissions }

theorem read_killSwitch (tables : OperationalTables) (identity : DeploymentIdentity) :
    (tables.readOperationalState identity).killSwitchEnabled = tables.killSwitchEnabled := by
  unfold readOperationalState
  split <;> rfl

end OperationalTables

end Lotur.Operations
