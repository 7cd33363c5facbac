import Lotur.Library.Execution
import Lotur.Operations.OperationalState

/-! The kill switch of one gateway process: requests of administrators and the periodic refresh of
`main.ts` write the same cache and the same flag, each from what it read in the database. -/
namespace Lotur.Operations.KillSwitch

/-- A result of the database together with the number of kill switch changes persisted until it
was read. -/
structure Reading where
  state : OperationalState
  changes : ℕ
  deriving DecidableEq, Repr

/-- `setKillSwitch` of the control page, cut at its awaits. -/
inductive Request where
  | started (enabled : Bool)
  | persisted (enabled : Bool) (reading : Reading)
  | applied (enabled : Bool) (changes : ℕ)
  deriving DecidableEq, Repr

/-- The refresh in flight; `expired` when its deadline has passed. -/
structure Refresh where
  reading : Option Reading
  expired : Bool
  deriving DecidableEq, Repr

/-- `changes` are the kill switch entries of the audit log, the newest first. `refresh` is present
while `operationalRefreshRunning` is set. `acknowledged` and `completed` hold, for the requests
to enable that have gone through `persistKillSwitch` and through the whole handler, the number of
changes up to their own. -/
structure Process where
  tables : OperationalTables
  changes : List Bool
  cache : OperationalStateCache
  killSwitchEnabled : Bool
  refresh : Option Refresh
  requests : List Request
  acknowledged : List ℕ
  completed : List ℕ

inductive Label where
  | tick
  | readRow
  | refreshSettled
  | refreshFailed
  | refreshDeadline
  | connectionFailed
  | request (enabled : Bool)
  | persist (index now : ℕ)
  | persistFailed (index : ℕ)
  | apply (index : ℕ)
  | switch (index : ℕ)
  | otherKillSwitch (enabled : Bool) (now : ℕ)
  | recordCanaryResult (identity : DeploymentIdentity) (passed : Bool) (now : ℕ)
  | approveAdmission (identity : DeploymentIdentity) (accountId : String) (now : ℕ)
  | closeAdmission (identity : DeploymentIdentity) (now : ℕ)

/-- The transaction of `setKillSwitch`, in this process or another. -/
def Process.persist (p : Process) (enabled : Bool) (now : ℕ) : Process :=
  { p with tables := p.tables.setKillSwitch enabled now, changes := enabled :: p.changes }

def Process.read (p : Process) : Reading where
  state := p.tables.readOperationalState p.cache.identity
  changes := p.changes.length

/-- The refresh has its result: it is applied, unless the deadline came first. -/
def Process.refreshed (p : Process) (refresh : Refresh) (reading : Reading) : Process :=
  if refresh.expired then { p with refresh := none }
  else match p.cache.apply reading.state with
  | .error _ => { p with refresh := none, cache := p.cache.markUnavailable }
  | .ok cache => { p with
      refresh := none
      cache
      killSwitchEnabled := reading.state.killSwitchEnabled }

def step (p : Process) : Label → Option Process
  | .tick =>
    match p.refresh with
    | some _ => none
    | none => some { p with refresh := some ⟨none, false⟩ }
  | .readRow =>
    match p.refresh with
    | some ⟨none, expired⟩ => some { p with refresh := some ⟨some p.read, expired⟩ }
    | _ => none
  | .refreshSettled =>
    match p.refresh with
    | some ⟨some reading, expired⟩ => some (p.refreshed ⟨some reading, expired⟩ reading)
    | _ => none
  | .refreshFailed =>
    match p.refresh with
    | some refresh => some { p with
        refresh := none
        cache := if refresh.expired then p.cache else p.cache.markUnavailable }
    | none => none
  | .refreshDeadline =>
    match p.refresh with
    | some ⟨reading, false⟩ => some { p with
        refresh := some ⟨reading, true⟩
        cache := p.cache.markUnavailable }
    | _ => none
  | .connectionFailed => some { p with cache := p.cache.markUnavailable }
  | .request enabled => some { p with requests := p.requests ++ [.started enabled] }
  | .persist index now =>
    match p.requests[index]? with
    | some (.started enabled) =>
      let p := p.persist enabled now
      some { p with requests := p.requests.set index (.persisted enabled p.read) }
    | _ => none
  | .persistFailed index =>
    match p.requests[index]? with
    | some (.started _) => some { p with requests := p.requests.eraseIdx index }
    | _ => none
  | .apply index =>
    match p.requests[index]? with
    | some (.persisted enabled reading) =>
      match p.cache.apply reading.state with
      | .error _ => some { p with requests := p.requests.eraseIdx index }
      | .ok cache => some { p with
          cache
          requests := p.requests.set index (.applied enabled reading.changes)
          acknowledged := if enabled then reading.changes :: p.acknowledged else p.acknowledged }
    | _ => none
  | .switch index =>
    match p.requests[index]? with
    | some (.applied enabled changes) => some { p with
        killSwitchEnabled := enabled
        requests := p.requests.eraseIdx index
        completed := if enabled then changes :: p.completed else p.completed }
    | _ => none
  | .otherKillSwitch enabled now => some (p.persist enabled now)
  | .recordCanaryResult identity passed now =>
    some { p with tables := p.tables.recordCanaryResult identity passed now }
  | .approveAdmission identity accountId now =>
    match p.tables.approveAdmission identity accountId now with
    | .error _ => none
    | .ok tables => some { p with tables }
  | .closeAdmission identity now =>
    some { p with tables := p.tables.closeAdmission identity now }

/-- The process after its first read of the row. -/
def start (identity : DeploymentIdentity) (tables : OperationalTables) : Process where
  tables := tables
  changes := []
  cache :=
    { identity
      state := some (tables.readOperationalState identity)
      available := true }
  killSwitchEnabled := tables.killSwitchEnabled
  refresh := none
  requests := []
  acknowledged := []
  completed := []

/-- A disable was persisted behind that many changes. -/
def disabledSince (changes : List Bool) (count : ℕ) : Prop :=
  false ∈ changes.take (changes.length - count)

instance (changes : List Bool) (count : ℕ) : Decidable (disabledSince changes count) :=
  inferInstanceAs (Decidable (_ ∈ _))

/-- After an enable has gone through, and until a disable is persisted behind it, admission is
closed and the kill switch is on. -/
structure StaysEnabled (p : Process) : Prop where
  cache : ∀ count ∈ p.acknowledged, ¬ disabledSince p.changes count →
    p.cache.isKillSwitchEnabled = true ∧ p.cache.isAdmissionReady = false
  flag : ∀ count ∈ p.completed, ¬ disabledSince p.changes count → p.killSwitchEnabled = true

/-- A result that was read before an enable was persisted does not switch off behind it. -/
def NotOutrun (p : Process) (count : ℕ) : Prop :=
  ∀ enabled ∈ p.acknowledged, count < enabled → disabledSince p.changes enabled

instance (p : Process) (count : ℕ) : Decidable (NotOutrun p count) :=
  inferInstanceAs (Decidable (∀ enabled ∈ p.acknowledged, _ → _))

/-- No step uses a stale result that says the kill switch is off. -/
def Fresh (p : Process) : Label → Prop
  | .refreshSettled => ∀ refresh ∈ p.refresh, ∀ reading ∈ refresh.reading,
      refresh.expired = false → reading.state.killSwitchEnabled = false → NotOutrun p reading.changes
  | .apply index => ∀ request ∈ p.requests[index]?, match request with
      | .persisted false reading => NotOutrun p reading.changes
      | _ => True
  | .switch index => ∀ request ∈ p.requests[index]?, match request with
      | .applied false changes => NotOutrun p changes
      | _ => True
  | _ => True

/-- The change with that number, counted from the oldest. -/
def change? (changes : List Bool) (count : ℕ) : Option Bool :=
  (changes.drop (changes.length - count)).head?

theorem change?_push {changes : List Bool} {count : ℕ} (h : count ≤ changes.length) (b : Bool) :
    change? (b :: changes) count = change? changes count := by
  unfold change?
  rw [List.length_cons, Nat.succ_sub h]
  rfl

theorem change?_newest (changes : List Bool) (b : Bool) :
    change? (b :: changes) (changes.length + 1) = some b := by
  unfold change?
  rw [List.length_cons, Nat.sub_self]
  rfl

theorem not_disabledSince_push {changes : List Bool} {count : ℕ} {b : Bool}
    (hcount : count ≤ changes.length) (h : ¬ disabledSince (b :: changes) count) :
    ¬ disabledSince changes count := by
  intro hold
  apply h
  unfold disabledSince at hold ⊢
  rw [List.length_cons, Nat.succ_sub hcount, List.take_succ_cons]
  exact List.mem_cons_of_mem b hold

/-- Behind an enable, the switch reads off only after a disable. -/
theorem disabledSince_of_off {changes : List Bool} {enabled count : ℕ}
    (henabled : change? changes enabled = some true) (hpositive : 0 < count)
    (hcount : count ≤ changes.length) (hoff : change? changes count ≠ some true)
    (hle : enabled ≤ count) : disabledSince changes enabled := by
  have hlt : enabled < count := by
    rcases Nat.lt_or_eq_of_le hle with hlt | heq
    · exact hlt
    · exact absurd (heq ▸ henabled) hoff
  have hindex : changes.length - count < changes.length := by omega
  have hhead : change? changes count = some (changes[changes.length - count]) := by
    unfold change?
    rw [List.head?_drop, List.getElem?_eq_getElem hindex]
  have hfalse : changes[changes.length - count] = false := by
    rw [hhead] at hoff
    simpa using hoff
  unfold disabledSince
  rw [← hfalse]
  exact List.mem_take_iff_getElem.mpr ⟨changes.length - count, by omega, rfl⟩

/-- A reading says off only if the last change before it did not enable. -/
def Reading.Sound (changes : List Bool) (reading : Reading) : Prop :=
  reading.changes ≤ changes.length ∧
    (reading.state.killSwitchEnabled = false → change? changes reading.changes ≠ some true)

def Request.Sound (p : Process) : Request → Prop
  | .started _ => True
  | .persisted enabled reading =>
    0 < reading.changes ∧ reading.changes ≤ p.changes.length ∧
      reading.state.killSwitchEnabled = enabled ∧
      change? p.changes reading.changes = some enabled
  | .applied enabled count =>
    0 < count ∧ count ≤ p.changes.length ∧ change? p.changes count = some enabled ∧
      (enabled = true → count ∈ p.acknowledged)

structure Inv (p : Process) : Prop where
  row : p.tables.killSwitchEnabled = false → p.changes.head? ≠ some true
  refresh : ∀ refresh ∈ p.refresh, ∀ reading ∈ refresh.reading, reading.Sound p.changes
  requests : ∀ request ∈ p.requests, request.Sound p
  acknowledged : ∀ count ∈ p.acknowledged,
    0 < count ∧ count ≤ p.changes.length ∧ change? p.changes count = some true
  completed : ∀ count ∈ p.completed, count ∈ p.acknowledged
  stays : StaysEnabled p

variable {p p' : Process}

/-- Admission follows the switch in the cache. -/
theorem StaysEnabled.of_switch
    (hcache : ∀ count ∈ p.acknowledged, ¬ disabledSince p.changes count →
      p.cache.isKillSwitchEnabled = true)
    (hflag : ∀ count ∈ p.completed, ¬ disabledSince p.changes count →
      p.killSwitchEnabled = true) : StaysEnabled p where
  cache := fun count hcount hsince =>
    ⟨hcache count hcount hsince,
      OperationalStateCache.not_ready_of_killSwitch (hcache count hcount hsince)⟩
  flag := hflag

theorem markUnavailable_switch (cache : OperationalStateCache) :
    cache.markUnavailable.isKillSwitchEnabled = cache.isKillSwitchEnabled := rfl

/-- Steps that leave the changes, the switch and its requests alone. -/
theorem Inv.same (h : Inv p)
    (hrow : p'.tables.killSwitchEnabled = p.tables.killSwitchEnabled)
    (hchanges : p'.changes = p.changes)
    (hcache : p'.cache.isKillSwitchEnabled = p.cache.isKillSwitchEnabled)
    (hflag : p'.killSwitchEnabled = p.killSwitchEnabled)
    (hrefresh : ∀ refresh ∈ p'.refresh, ∀ reading ∈ refresh.reading, reading.Sound p.changes)
    (hrequests : ∀ request ∈ p'.requests, request.Sound p)
    (hacknowledged : p'.acknowledged = p.acknowledged) (hcompleted : p'.completed = p.completed) :
    Inv p' := by
  have hsound : ∀ request : Request, request.Sound p → request.Sound p' := by
    intro request hrequest
    cases request with
    | started enabled => trivial
    | persisted enabled reading =>
      unfold Request.Sound at hrequest ⊢
      rwa [hchanges]
    | applied enabled count =>
      unfold Request.Sound at hrequest ⊢
      rwa [hchanges, hacknowledged]
  refine ⟨?_, ?_, ?_, ?_, ?_, StaysEnabled.of_switch ?_ ?_⟩
  · rw [hrow, hchanges]
    exact h.row
  · rw [hchanges]
    exact hrefresh
  · exact fun request hrequest => hsound request (hrequests request hrequest)
  · rw [hacknowledged, hchanges]
    exact h.acknowledged
  · rw [hcompleted, hacknowledged]
    exact h.completed
  · rw [hacknowledged, hchanges, hcache]
    exact fun count hcount hsince => (h.stays.cache count hcount hsince).1
  · rw [hcompleted, hchanges, hflag]
    exact h.stays.flag

theorem read_sound (h : Inv p) : p.read.Sound p.changes := by
  refine ⟨le_rfl, ?_⟩
  intro hoff
  have hrow : p.tables.killSwitchEnabled = false := by
    rw [← OperationalTables.read_killSwitch p.tables p.cache.identity]
    exact hoff
  show change? p.changes p.changes.length ≠ some true
  unfold change?
  rw [Nat.sub_self, List.drop_zero]
  exact h.row hrow

theorem Reading.Sound.push {changes : List Bool} {reading : Reading} (h : reading.Sound changes)
    (b : Bool) : reading.Sound (b :: changes) := by
  refine ⟨h.1.trans (Nat.le_succ _), ?_⟩
  rw [change?_push h.1]
  exact h.2

theorem persist_inv (h : Inv p) (enabled : Bool) (now : ℕ) : Inv (p.persist enabled now) := by
  have hlength : (p.persist enabled now).changes.length = p.changes.length + 1 := rfl
  refine ⟨?_, ?_, ?_, ?_, h.completed, StaysEnabled.of_switch ?_ ?_⟩
  · intro hoff
    have henabled : enabled = false := hoff
    show (enabled :: p.changes).head? ≠ some true
    rw [henabled]
    simp
  · exact fun refresh hrefresh reading hreading =>
      (h.refresh refresh hrefresh reading hreading).push enabled
  · intro request hrequest
    have hold := h.requests request hrequest
    cases request with
    | started enabled => trivial
    | persisted other reading =>
      obtain ⟨hpositive, hle, hstate, hchange⟩ := hold
      refine ⟨hpositive, by omega, hstate, ?_⟩
      exact (change?_push hle enabled).trans hchange
    | applied other count =>
      obtain ⟨hpositive, hle, hchange, hacknowledged⟩ := hold
      refine ⟨hpositive, by omega, ?_, hacknowledged⟩
      exact (change?_push hle enabled).trans hchange
  · intro count hcount
    obtain ⟨hpositive, hle, hchange⟩ := h.acknowledged count hcount
    exact ⟨hpositive, by omega, (change?_push hle enabled).trans hchange⟩
  · intro count hcount hsince
    obtain ⟨-, hle, -⟩ := h.acknowledged count hcount
    exact (h.stays.cache count hcount (not_disabledSince_push hle hsince)).1
  · intro count hcount hsince
    obtain ⟨-, hle, -⟩ := h.acknowledged count (h.completed count hcount)
    exact h.stays.flag count hcount (not_disabledSince_push hle hsince)

/-- A result that says off and is not stale finds every enable followed by a disable. -/
theorem disabled_of_fresh (h : Inv p) {count : ℕ} (hcount : count ≤ p.changes.length)
    (hoff : change? p.changes count ≠ some true) (hfresh : NotOutrun p count) :
    ∀ enabled ∈ p.acknowledged, disabledSince p.changes enabled := by
  intro enabled henabled
  obtain ⟨hpositive, -, hchange⟩ := h.acknowledged enabled henabled
  rcases Nat.lt_or_ge count enabled with hlt | hle
  · exact hfresh enabled henabled hlt
  · exact disabledSince_of_off hchange (lt_of_lt_of_le hpositive hle) hcount hoff hle

theorem refreshed_inv (h : Inv p) {refresh : Refresh} {reading : Reading}
    (hrefresh : refresh ∈ p.refresh) (hreading : reading ∈ refresh.reading)
    (hfresh : refresh.expired = false → reading.state.killSwitchEnabled = false →
      NotOutrun p reading.changes) : Inv (p.refreshed refresh reading) := by
  obtain ⟨hle, hoff⟩ := h.refresh refresh hrefresh reading hreading
  unfold Process.refreshed
  split
  · exact h.same rfl rfl rfl rfl nofun h.requests rfl rfl
  · rename_i hexpired
    have hexpired : refresh.expired = false := by simpa using hexpired
    split
    · exact h.same rfl rfl rfl rfl nofun h.requests rfl rfl
    · rename_i cache happly
      have hcache := OperationalStateCache.apply_ok happly
      refine ⟨h.row, nofun, h.requests, h.acknowledged, h.completed,
        StaysEnabled.of_switch ?_ ?_⟩
      · intro count hcount hsince
        show cache.isKillSwitchEnabled = true
        rw [hcache]
        cases hstate : reading.state.killSwitchEnabled with
        | true => rfl
        | false =>
          exact absurd (disabled_of_fresh h hle (hoff hstate) (hfresh hexpired hstate) count hcount)
            hsince
      · intro count hcount hsince
        show reading.state.killSwitchEnabled = true
        cases hstate : reading.state.killSwitchEnabled with
        | true => rfl
        | false =>
          exact absurd (disabled_of_fresh h hle (hoff hstate) (hfresh hexpired hstate) count
            (h.completed count hcount)) hsince

theorem eraseIdx_sound (h : Inv p) (index : ℕ) :
    ∀ request ∈ p.requests.eraseIdx index, request.Sound p :=
  fun request hrequest => h.requests request (List.mem_of_mem_eraseIdx hrequest)

theorem apply_inv (h : Inv p) {index : ℕ} {enabled : Bool} {reading : Reading}
    {cache : OperationalStateCache}
    (hrequest : p.requests[index]? = some (.persisted enabled reading))
    (happly : p.cache.apply reading.state = .ok cache)
    (hfresh : enabled = false → NotOutrun p reading.changes) :
    Inv { p with
      cache
      requests := p.requests.set index (.applied enabled reading.changes)
      acknowledged := if enabled then reading.changes :: p.acknowledged else p.acknowledged } := by
  obtain ⟨hpositive, hle, hstate, hchange⟩ := h.requests _ (List.mem_of_getElem? hrequest)
  have hcache := OperationalStateCache.apply_ok happly
  have hgrows : ∀ count ∈ p.acknowledged,
      count ∈ if enabled then reading.changes :: p.acknowledged else p.acknowledged := by
    intro count hcount
    split_ifs
    · exact List.mem_cons_of_mem _ hcount
    · exact hcount
  refine ⟨h.row, h.refresh, ?_, ?_, fun count hcount => hgrows count (h.completed count hcount),
    StaysEnabled.of_switch ?_ h.stays.flag⟩
  · intro request hmem
    rcases List.mem_or_eq_of_mem_set hmem with hold | rfl
    · have hsound := h.requests request hold
      cases request with
      | started other => trivial
      | persisted other reading => exact hsound
      | applied other count =>
        exact ⟨hsound.1, hsound.2.1, hsound.2.2.1,
          fun hother => hgrows count (hsound.2.2.2 hother)⟩
    · refine ⟨hpositive, hle, hchange, ?_⟩
      intro henabled
      simp [henabled]
  · intro count hcount
    dsimp only at hcount
    split_ifs at hcount with henabled
    · rcases List.mem_cons.mp hcount with rfl | hmem
      · exact ⟨hpositive, hle, henabled ▸ hchange⟩
      · exact h.acknowledged count hmem
    · exact h.acknowledged count hcount
  · intro count hcount hsince
    show cache.isKillSwitchEnabled = true
    rw [hcache, hstate]
    cases enabled with
    | true => rfl
    | false =>
      have hoff : change? p.changes reading.changes ≠ some true := by
        rw [hchange]
        simp
      exact absurd (disabled_of_fresh h hle hoff (hfresh rfl) count hcount) hsince

theorem switch_inv (h : Inv p) {index : ℕ} {enabled : Bool} {count : ℕ}
    (hrequest : p.requests[index]? = some (.applied enabled count))
    (hfresh : enabled = false → NotOutrun p count) :
    Inv { p with
      killSwitchEnabled := enabled
      requests := p.requests.eraseIdx index
      completed := if enabled then count :: p.completed else p.completed } := by
  obtain ⟨hpositive, hle, hchange, hacknowledged⟩ :=
    h.requests _ (List.mem_of_getElem? hrequest)
  refine ⟨h.row, h.refresh, eraseIdx_sound h index, h.acknowledged, ?_,
    StaysEnabled.of_switch (fun count hcount hsince => (h.stays.cache count hcount hsince).1) ?_⟩
  · intro other hother
    dsimp only at hother
    split_ifs at hother with henabled
    · rcases List.mem_cons.mp hother with rfl | hmem
      · exact hacknowledged henabled
      · exact h.completed other hmem
    · exact h.completed other hother
  · intro other hother hsince
    show enabled = true
    cases enabled with
    | true => rfl
    | false =>
      have hoff : change? p.changes count ≠ some true := by
        rw [hchange]
        simp
      exact absurd (disabled_of_fresh h hle hoff (hfresh rfl) other (h.completed other hother))
        hsince

theorem requestPersisted_inv (h : Inv p) (index : ℕ) (enabled : Bool) (now : ℕ) :
    Inv { p.persist enabled now with
      requests := p.requests.set index (.persisted enabled (p.persist enabled now).read) } := by
  have hpersisted := persist_inv h enabled now
  refine hpersisted.same rfl rfl rfl rfl hpersisted.refresh ?_ rfl rfl
  intro request hmem
  rcases List.mem_or_eq_of_mem_set hmem with hold | rfl
  · exact hpersisted.requests request hold
  · exact ⟨Nat.succ_pos _, le_rfl, OperationalTables.read_killSwitch _ _,
      change?_newest p.changes enabled⟩

theorem refresh_step (h : Inv p) {label : Label} (hfresh : Fresh p label)
    (hlabel : label = .tick ∨ label = .readRow ∨ label = .refreshSettled ∨
      label = .refreshFailed ∨ label = .refreshDeadline ∨ label = .connectionFailed)
    (hstep : step p label = some p') : Inv p' := by
  rcases hlabel with rfl | rfl | rfl | rfl | rfl | rfl
  · simp only [step] at hstep
    split at hstep <;> cases hstep
    refine h.same rfl rfl rfl rfl ?_ h.requests rfl rfl
    rintro refresh hrefresh reading hreading
    cases hrefresh
    cases hreading
  · simp only [step] at hstep
    split at hstep <;> cases hstep
    refine h.same rfl rfl rfl rfl ?_ h.requests rfl rfl
    rintro refresh hrefresh reading hreading
    cases hrefresh
    cases hreading
    exact read_sound h
  · simp only [step] at hstep
    split at hstep
    · rename_i reading expired hrefresh
      cases hstep
      exact refreshed_inv h hrefresh rfl (hfresh _ hrefresh reading rfl)
    · cases hstep
  · simp only [step] at hstep
    split at hstep <;> cases hstep
    refine h.same rfl rfl ?_ rfl nofun h.requests rfl rfl
    dsimp only
    split_ifs
    · rfl
    · exact markUnavailable_switch p.cache
  · simp only [step] at hstep
    split at hstep
    · rename_i reading hrefresh
      cases hstep
      refine h.same rfl rfl rfl rfl ?_ h.requests rfl rfl
      rintro refresh hmem other hother
      cases hmem
      exact h.refresh _ hrefresh other hother
    · cases hstep
  · simp only [step] at hstep
    cases hstep
    exact h.same rfl rfl rfl rfl h.refresh h.requests rfl rfl

theorem request_step (h : Inv p) {label : Label} (hfresh : Fresh p label) {index : ℕ}
    (hlabel : (∃ now, label = .persist index now) ∨ label = .persistFailed index ∨
      label = .apply index ∨ label = .switch index)
    (hstep : step p label = some p') : Inv p' := by
  rcases hlabel with ⟨now, rfl⟩ | rfl | rfl | rfl
  · simp only [step] at hstep
    split at hstep
    · rename_i enabled hrequest
      cases hstep
      exact requestPersisted_inv h index enabled now
    · cases hstep
  · simp only [step] at hstep
    split at hstep <;> cases hstep
    exact h.same rfl rfl rfl rfl h.refresh (eraseIdx_sound h index) rfl rfl
  · simp only [step] at hstep
    split at hstep
    · rename_i enabled reading hrequest
      split at hstep
      · cases hstep
        exact h.same rfl rfl rfl rfl h.refresh (eraseIdx_sound h index) rfl rfl
      · rename_i cache happly
        cases hstep
        refine apply_inv h hrequest happly ?_
        rintro rfl
        exact hfresh _ hrequest
    · cases hstep
  · simp only [step] at hstep
    split at hstep
    · rename_i enabled count hrequest
      cases hstep
      refine switch_inv h hrequest ?_
      rintro rfl
      exact hfresh _ hrequest
    · cases hstep

theorem step_inv (p : Process) (label : Label) (p' : Process) (h : Inv p) (hfresh : Fresh p label)
    (hstep : step p label = some p') : Inv p' := by
  cases label with
  | tick => exact refresh_step h hfresh (by simp) hstep
  | readRow => exact refresh_step h hfresh (by simp) hstep
  | refreshSettled => exact refresh_step h hfresh (by simp) hstep
  | refreshFailed => exact refresh_step h hfresh (by simp) hstep
  | refreshDeadline => exact refresh_step h hfresh (by simp) hstep
  | connectionFailed => exact refresh_step h hfresh (by simp) hstep
  | request enabled =>
    simp only [step] at hstep
    cases hstep
    refine h.same rfl rfl rfl rfl h.refresh ?_ rfl rfl
    intro request hmem
    rcases List.mem_append.mp hmem with hold | hnew
    · exact h.requests request hold
    · rw [List.mem_singleton.mp hnew]
      trivial
  | persist index now => exact request_step h hfresh (Or.inl ⟨now, rfl⟩) hstep
  | persistFailed index => exact request_step h hfresh (Or.inr (Or.inl rfl)) hstep
  | apply index => exact request_step h hfresh (Or.inr (Or.inr (Or.inl rfl))) hstep
  | switch index => exact request_step h hfresh (Or.inr (Or.inr (Or.inr rfl))) hstep
  | otherKillSwitch enabled now =>
    simp only [step] at hstep
    cases hstep
    exact persist_inv h enabled now
  | recordCanaryResult identity passed now =>
    simp only [step] at hstep
    cases hstep
    exact h.same rfl rfl rfl rfl h.refresh h.requests rfl rfl
  | approveAdmission identity accountId now =>
    simp only [step] at hstep
    split at hstep
    · cases hstep
    · rename_i tables happroved
      cases hstep
      have hrow : tables.killSwitchEnabled = p.tables.killSwitchEnabled := by
        unfold OperationalTables.approveAdmission at happroved
        split at happroved
        · split_ifs at happroved
          cases happroved
          rfl
        · cases happroved
      exact h.same hrow rfl rfl rfl h.refresh h.requests rfl rfl
  | closeAdmission identity now =>
    simp only [step] at hstep
    cases hstep
    exact h.same rfl rfl rfl rfl h.refresh h.requests rfl rfl

theorem start_inv (identity : DeploymentIdentity) (tables : OperationalTables) :
    Inv (start identity tables) :=
  ⟨nofun, nofun, nofun, nofun, nofun, ⟨nofun, nofun⟩⟩

instance (p : Process) : (label : Label) → Decidable (Fresh p label)
  | .refreshSettled => inferInstanceAs (Decidable (∀ refresh ∈ p.refresh,
      ∀ reading ∈ refresh.reading, _ → _ → NotOutrun p reading.changes))
  | .apply index =>
    match h : p.requests[index]? with
    | some (.persisted false reading) => decidable_of_iff (NotOutrun p reading.changes) (by
        simp [Fresh, h])
    | some (.persisted true _) => isTrue (by simp [Fresh, h])
    | some (.started _) => isTrue (by simp [Fresh, h])
    | some (.applied _ _) => isTrue (by simp [Fresh, h])
    | none => isTrue (by simp [Fresh, h])
  | .switch index =>
    match h : p.requests[index]? with
    | some (.applied false count) => decidable_of_iff (NotOutrun p count) (by simp [Fresh, h])
    | some (.applied true _) => isTrue (by simp [Fresh, h])
    | some (.started _) => isTrue (by simp [Fresh, h])
    | some (.persisted _ _) => isTrue (by simp [Fresh, h])
    | none => isTrue (by simp [Fresh, h])
  | .tick => isTrue trivial
  | .readRow => isTrue trivial
  | .refreshFailed => isTrue trivial
  | .refreshDeadline => isTrue trivial
  | .connectionFailed => isTrue trivial
  | .request _ => isTrue trivial
  | .persist _ _ => isTrue trivial
  | .persistFailed _ => isTrue trivial
  | .otherKillSwitch _ _ => isTrue trivial
  | .recordCanaryResult _ _ _ => isTrue trivial
  | .approveAdmission _ _ _ => isTrue trivial
  | .closeAdmission _ _ => isTrue trivial

/-- In every run in which no result that was read before an enable switches off behind it, the
kill switch stays on until a disable is persisted. -/
theorem kill_switch_stays_enabled (identity : DeploymentIdentity) (tables : OperationalTables)
    (schedule : List Label) (p : Process)
    (hfresh : Execution.Guarded step Fresh (start identity tables) schedule)
    (hrun : Execution.run step (start identity tables) schedule = some p) : StaysEnabled p :=
  (Execution.invariant_of_guarded step_inv (start_inv identity tables) hfresh hrun).stays

def production : DeploymentIdentity := ⟨"production", "sha256:0"⟩

/-- The deployment has a canary result and is approved. -/
def approved : OperationalTables where
  killSwitchEnabled := false
  controlsUpdatedAt := 0
  admissions := fun _ => some
    { canaryStatus := .PASSED
      canaryCheckedAt := some 1
      admissionApprovedAt := some 2
      admissionApprovedBy := some "administrator"
      updatedAt := 2 }

/-- An administrator enables the kill switch. -/
def enable : List Label := [.request true, .persist 0 10, .apply 0, .switch 0]

theorem kill_switch_stays_enabled_refreshed :
    (Execution.run step (start production approved)
        (enable ++ [.tick, .readRow, .refreshSettled])).map
        (fun p => (p.killSwitchEnabled, p.cache.isAdmissionReady, p.completed)) =
        some (true, false, [1]) ∧
      ∀ p, Execution.run step (start production approved)
        (enable ++ [.tick, .readRow, .refreshSettled]) = some p → StaysEnabled p :=
  ⟨by decide, fun p hrun =>
    kill_switch_stays_enabled production approved _ p (by decide) hrun⟩

/-- A refresh that read the row before the enable is applied behind it, and opens admission. -/
theorem kill_switch_undone :
    ∃ p, Execution.run step (start production approved)
        ([.tick, .readRow] ++ enable ++ [.refreshSettled]) = some p ∧
      ¬ StaysEnabled p ∧ p.killSwitchEnabled = false ∧ p.cache.isAdmissionReady = true := by
  have hend : (Execution.run step (start production approved)
      ([.tick, .readRow] ++ enable ++ [.refreshSettled])).map
      (fun p => (p.killSwitchEnabled, p.cache.isAdmissionReady, p.completed, p.changes)) =
      some (false, true, [1], [true]) := by decide
  obtain ⟨p, hrun, hobserved⟩ := Option.map_eq_some_iff.mp hend
  simp only [Prod.mk.injEq] at hobserved
  obtain ⟨hflag, hready, hcompleted, hchanges⟩ := hobserved
  refine ⟨p, hrun, ?_, hflag, hready⟩
  intro hstays
  have hon := hstays.flag 1 (by rw [hcompleted]; decide) (by rw [hchanges]; decide)
  rw [hflag] at hon
  cases hon

end Lotur.Operations.KillSwitch
