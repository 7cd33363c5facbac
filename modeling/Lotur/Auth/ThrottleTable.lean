import Lotur.Auth.ArtifactTables

/-! What one recorded login failure does to the table of throttles. -/
namespace Lotur.Auth

namespace Table

variable {α : Type} {key : α → JsString}

/-- Rows of distinct keys put in one after the other. -/
theorem get_foldl_set {rows : List α} (hrows : (rows.map key).Nodup) (table : List α)
    (id : JsString) : get key (rows.foldl (set key) table) id =
      (get key rows id).or (get key table id) := by
  induction rows generalizing table with
  | nil => rfl
  | cons row rows ih =>
    rw [List.map_cons, List.nodup_cons] at hrows
    rw [List.foldl_cons, ih hrows.2]
    by_cases hid : key row = id
    · have hrest : get key rows id = none := get_eq_none_iff.2 fun other hother heq =>
        hrows.1 (List.mem_map.2 ⟨other, hother, heq.trans hid.symm⟩)
      have hfirst : get key (row :: rows) id = some row := by
        simp [get, hid]
      rw [hrest, hfirst, ← hid, get_set_self]
      rfl
    · have hskip : get key (row :: rows) id = get key rows id := by
        simp [get, hid]
      rw [hskip, get_set_ne fun heq => hid heq.symm]

theorem nodup_foldl_set {rows table : List α} (h : (table.map key).Nodup) :
    ((rows.foldl (set key) table).map key).Nodup := by
  induction rows generalizing table with
  | nil => exact h
  | cons row rows ih => exact ih (nodup_set h)

theorem length_set_le (table : List α) (row : α) :
    (set key table row).length ≤
      table.length + if (get key table (key row)).isNone then 1 else 0 := by
  unfold set
  by_cases hany : (table.any fun other => key other = key row) = true
  · rw [if_pos hany, List.length_map]
    exact Nat.le_add_right _ _
  · have hfree : get key table (key row) = none := get_eq_none_iff.2 fun other hother heq =>
      hany (List.any_eq_true.2 ⟨other, hother, by simpa using heq⟩)
    rw [if_neg hany, hfree, List.length_append]
    exact le_rfl

/-- The row of a key in what a filter leaves. -/
theorem get_filter {table : List α} (hkeys : (table.map key).Nodup) (p : α → Bool) (id : JsString) :
    get key (table.filter p) id = get key table id ∨
      get key (table.filter p) id = none ∧ ∀ row, get key table id = some row → p row = false := by
  cases hget : get key table id with
  | none =>
    refine Or.inl (get_eq_none_iff.2 fun row hrow => ?_)
    exact get_eq_none_iff.1 hget row (List.mem_of_mem_filter hrow)
  | some row =>
    obtain ⟨hrow, rfl⟩ := get_some hget
    cases hp : p row with
    | true =>
      have hkept : row ∈ table.filter p := List.mem_filter.2 ⟨hrow, hp⟩
      exact Or.inl (get_of_mem (hkeys.sublist (List.filter_sublist.map key)) hkept)
    | false =>
      refine Or.inr ⟨get_eq_none_iff.2 fun other hother hsame => ?_, ?_⟩
      · obtain ⟨hmem, htrue⟩ := List.mem_filter.1 hother
        rw [List.inj_on_of_nodup_map hkeys hmem hrow hsame, hp] at htrue
        cases htrue
      · rintro _ ⟨⟩
        exact hp

/-- The table grows by the rows whose keys are new. -/
theorem length_foldl_set_le {rows : List α} (hrows : (rows.map key).Nodup) (table : List α) :
    (rows.foldl (set key) table).length ≤
      table.length + rows.countP fun row => (get key table (key row)).isNone := by
  induction rows generalizing table with
  | nil => exact le_rfl
  | cons row rows ih =>
    rw [List.map_cons, List.nodup_cons] at hrows
    have hrest := ih hrows.2 (set key table row)
    have hfirst : (set key table row).length ≤
        table.length + if (get key table (key row)).isNone then 1 else 0 := length_set_le table row
    have hsame : (rows.countP fun other => (get key (set key table row) (key other)).isNone) =
        rows.countP fun other => (get key table (key other)).isNone := by
      refine List.countP_congr fun other hother => ?_
      have hne : key other ≠ key row := fun heq =>
        hrows.1 (List.mem_map.2 ⟨other, hother, heq⟩)
      rw [get_set_ne hne]
    rw [List.foldl_cons, List.countP_cons]
    omega

end Table

section Admission

variable {keys : List JsString} {known fresh : JsString → Bool} {room : ℕ}

/-- Of the admitted keys at most as many are new as there is room for. -/
theorem countP_admitted_le (hkeys : keys.Nodup) (hfresh : ∀ key, fresh key = !known key) :
    (keys.filter fun key => key ∈ keys.filter known ++ (keys.filter fresh).take room).countP
      fresh ≤ room := by
  rw [List.countP_eq_length_filter]
  have hnew : ((keys.filter fun key =>
      key ∈ keys.filter known ++ (keys.filter fresh).take room).filter fresh) ⊆
        (keys.filter fresh).take room := by
    intro key hkey
    obtain ⟨hadmitted, hnew⟩ := List.mem_filter.1 hkey
    rcases List.mem_append.1 (of_decide_eq_true (List.mem_filter.1 hadmitted).2) with hold | hmem
    · have hknown := (List.mem_filter.1 hold).2
      rw [hfresh, hknown] at hnew
      cases hnew
    · exact hmem
  have hle := (List.subperm_of_subset ((hkeys.filter _).filter _) hnew).length_le
  exact hle.trans (List.length_take_le _ _)

/-- All keys are admitted exactly when the new ones fit. -/
theorem length_admitted_iff (hkeys : keys.Nodup) (hfresh : ∀ key, fresh key = !known key) :
    (keys.filter known ++ (keys.filter fresh).take room).length = keys.length ↔
      ∀ key ∈ keys, key ∈ keys.filter known ++ (keys.filter fresh).take room := by
  have hsplit : keys.length = (keys.filter known).length + (keys.filter fresh).length := by
    have hsame : fresh = fun key => !known key := funext hfresh
    rw [hsame]
    exact List.length_eq_length_filter_add known
  constructor
  · intro hlength key hkey
    rw [List.length_append, List.length_take, hsplit] at hlength
    have hfits : (keys.filter fresh).take room = keys.filter fresh :=
      List.take_of_length_le (by omega)
    rw [hfits]
    cases hknown : known key with
    | true => exact List.mem_append_left _ (List.mem_filter.2 ⟨hkey, hknown⟩)
    | false =>
      refine List.mem_append_right _ (List.mem_filter.2 ⟨hkey, ?_⟩)
      rw [hfresh, hknown]
      rfl
  · intro hall
    have hle := (List.subperm_of_subset hkeys hall).length_le
    rw [List.length_append, List.length_take] at hle ⊢
    omega

end Admission

/-- The throttle of a key after the failure, given the one that is stored. -/
def LoginFailure.throttle (failure : LoginFailure) (stored : Option LoginThrottle)
    (key : JsString) : LoginThrottle :=
  let failures := match stored with
    | some throttle =>
      if failure.windowStartsAt < throttle.updatedAt then throttle.failures + 1 else 1
    | none => 1
  { key, failures, updatedAt := failure.now
    lockedUntil := if failure.lockThreshold ≤ failures then some failure.lockedUntil else none }

/-- What a recorded failure leaves: rows before the window may go, the keys with a row and as many
new ones as there is room for are counted, and only with all of them the failure is recorded. -/
structure Recording (failure : LoginFailure) (result : LoginThrottleRecordResult)
    (table table' : List LoginThrottle) : Prop where
  nodup : (table'.map LoginThrottle.key).Nodup
  size : table.length ≤ failure.limits.global → table'.length ≤ failure.limits.global
  counted : ∀ row ∈ result.throttles, row.key ∈ failure.keys ∧
    Table.get LoginThrottle.key table' row.key = some row ∧
    ((∃ stored, Table.get LoginThrottle.key table row.key = some stored ∧
        row = failure.throttle (some stored) row.key) ∨
      row = failure.throttle none row.key ∧ ∀ stored,
        Table.get LoginThrottle.key table row.key = some stored →
          stored.updatedAt ≤ failure.windowStartsAt)
  uncounted : ∀ key, (∀ row ∈ result.throttles, row.key ≠ key) →
    Table.get LoginThrottle.key table' key = Table.get LoginThrottle.key table key ∨
      Table.get LoginThrottle.key table' key = none ∧ ∀ stored,
        Table.get LoginThrottle.key table key = some stored →
          stored.updatedAt ≤ failure.windowStartsAt
  known : ∀ key ∈ failure.keys, ∀ stored, Table.get LoginThrottle.key table key = some stored →
    failure.windowStartsAt < stored.updatedAt → ∃ row ∈ result.throttles, row.key = key
  recorded : result.recorded = true ↔ ∀ key ∈ failure.keys, ∃ row ∈ result.throttles, row.key = key

namespace Repository

variable {r r' : Repository} {backend : Backend} {placement : Placement} {failure : LoginFailure}
  {keys : List JsString}

/-- Only rows from before the window are reclaimed. -/
theorem reclaimThrottles_sublist :
    (r.reclaimThrottles backend placement failure keys).Sublist r.loginThrottles := by
  cases backend with
  | inMemory => exact List.filter_sublist
  | postgres => exact List.filter_sublist

theorem mem_expired {α : Type} {expiresAt : α → ℤ} {ctid : α → ℕ} {table : List α} {now : ℤ}
    {row : α} (h : row ∈ Table.expired expiresAt ctid table now) :
    row ∈ table ∧ expiresAt row ≤ now := by
  have hmem := (List.mem_insertionSort _).1 h
  exact ⟨List.mem_of_mem_filter hmem, of_decide_eq_true (List.mem_filter.1 hmem).2⟩

theorem get_reclaimThrottles (hkeys : (r.loginThrottles.map LoginThrottle.key).Nodup)
    (key : JsString) :
    Table.get LoginThrottle.key (r.reclaimThrottles backend placement failure keys) key =
        Table.get LoginThrottle.key r.loginThrottles key ∨
      Table.get LoginThrottle.key (r.reclaimThrottles backend placement failure keys) key = none ∧
        ∀ stored, Table.get LoginThrottle.key r.loginThrottles key = some stored →
          stored.updatedAt ≤ failure.windowStartsAt := by
  cases backend with
  | inMemory =>
    refine (Table.get_filter hkeys _ key).imp_right fun h => ⟨h.1, fun stored hstored => ?_⟩
    exact not_lt.1 (of_decide_eq_false (h.2 stored hstored))
  | postgres =>
    refine (Table.get_filter hkeys _ key).imp_right fun h => ⟨h.1, fun stored hstored => ?_⟩
    have hbatch := not_not.1 (of_decide_eq_false (h.2 stored hstored))
    obtain ⟨other, hother, hsame⟩ := List.mem_map.1 hbatch
    obtain ⟨hmem, hstale⟩ := mem_expired (List.mem_of_mem_take hother)
    have heq : other = stored := List.inj_on_of_nodup_map hkeys (List.mem_of_mem_filter hmem)
      (Table.get_some hstored).1 hsame
    exact heq ▸ hstale

theorem recordLoginFailure_recording (hkeys : (r.loginThrottles.map LoginThrottle.key).Nodup)
    {result : LoginThrottleRecordResult}
    (h : r.recordLoginFailure backend placement failure = (result, r')) :
    Recording failure result r.loginThrottles r'.loginThrottles := by
  have hsorted := List.perm_insertionSort (fun left right : JsString => left ≤ right)
    failure.keys.dedup
  obtain ⟨keys, hdef⟩ : ∃ keys, keys =
    failure.keys.dedup.insertionSort fun left right => left ≤ right := ⟨_, rfl⟩
  have hnodup : keys.Nodup := hdef ▸ hsorted.nodup_iff.2 failure.keys.nodup_dedup
  have hmem : ∀ key, key ∈ keys ↔ key ∈ failure.keys := by
    intro key
    rw [hdef, hsorted.mem_iff, List.mem_dedup]
  obtain ⟨stored, hstored⟩ : ∃ stored, stored =
    r.reclaimThrottles backend placement failure keys := ⟨_, rfl⟩
  have hreclaimed : ∀ key,
      Table.get LoginThrottle.key stored key = Table.get LoginThrottle.key r.loginThrottles key ∨
        Table.get LoginThrottle.key stored key = none ∧ ∀ row,
          Table.get LoginThrottle.key r.loginThrottles key = some row →
            row.updatedAt ≤ failure.windowStartsAt := hstored ▸ get_reclaimThrottles hkeys
  obtain ⟨admitted, hadmitted⟩ : ∃ admitted, admitted =
      (keys.filter fun key => (Table.get LoginThrottle.key stored key).isSome) ++
        (keys.filter fun key => (Table.get LoginThrottle.key stored key).isNone).take
          (failure.limits.global - stored.length) := ⟨_, rfl⟩
  obtain ⟨rows, hrows⟩ : ∃ rows, rows = (keys.filter fun key => key ∈ admitted).map fun key =>
      failure.throttle (Table.get LoginThrottle.key stored key) key := ⟨_, rfl⟩
  have hfresh : ∀ key, (Table.get LoginThrottle.key stored key).isNone =
      !(Table.get LoginThrottle.key stored key).isSome := fun key => by simp
  have hresult : result = ⟨decide (admitted.length = keys.length), rows⟩ := by
    rw [hrows, hadmitted, hstored, hdef]
    exact (congrArg Prod.fst h).symm
  have htable : r'.loginThrottles = rows.foldl (Table.set LoginThrottle.key) stored := by
    rw [hrows, hadmitted, hstored, hdef]
    exact (congrArg (fun pair => pair.2.loginThrottles) h).symm
  have hrowKeys : rows.map LoginThrottle.key = keys.filter fun key => key ∈ admitted := by
    rw [hrows, List.map_map]
    exact List.map_id _
  have hrowsNodup : (rows.map LoginThrottle.key).Nodup := hrowKeys ▸ hnodup.filter _
  have hsublist : stored.Sublist r.loginThrottles := hstored ▸ reclaimThrottles_sublist
  have hrowOf : ∀ key ∈ keys, key ∈ admitted → ∃ row ∈ rows, row.key = key := by
    intro key hkey hin
    refine ⟨failure.throttle (Table.get LoginThrottle.key stored key) key, ?_, rfl⟩
    rw [hrows]
    exact List.mem_map_of_mem (List.mem_filter.2 ⟨hkey, decide_eq_true hin⟩)
  have hof : ∀ row ∈ rows, row.key ∈ keys ∧ row.key ∈ admitted ∧
      row = failure.throttle (Table.get LoginThrottle.key stored row.key) row.key := by
    intro row hrow
    rw [hrows] at hrow
    obtain ⟨key, hkey, rfl⟩ := List.mem_map.1 hrow
    obtain ⟨hkeysMem, hin⟩ := List.mem_filter.1 hkey
    exact ⟨hkeysMem, of_decide_eq_true hin, rfl⟩
  have hget := Table.get_foldl_set hrowsNodup stored
  rw [← htable] at hget
  subst hresult
  refine ⟨?_, fun hsize => ?_, fun row hrow => ?_, fun key hkey => ?_,
    fun key hkey found hfound hlive => ?_, ?_⟩
  · rw [htable]
    exact Table.nodup_foldl_set (hkeys.sublist (hsublist.map _))
  · have hlength := Table.length_foldl_set_le hrowsNodup stored
    have hnew : (keys.filter fun key => key ∈ admitted).countP
        (fun key => (Table.get LoginThrottle.key stored key).isNone) ≤
          failure.limits.global - stored.length := hadmitted ▸ countP_admitted_le hnodup hfresh
    rw [← hrowKeys, List.countP_map] at hnew
    have hkept := hsublist.length_le
    rw [htable]
    simp only [Function.comp_def] at hnew
    omega
  · obtain ⟨hrowKey, -, hrowEq⟩ := hof row hrow
    refine ⟨(hmem _).1 hrowKey, ?_, ?_⟩
    · rw [hget, Table.get_of_mem hrowsNodup hrow]
      rfl
    · rcases hreclaimed row.key with hsame | ⟨hnone, hstale⟩
      · rw [hsame] at hrowEq
        cases hfound : Table.get LoginThrottle.key r.loginThrottles row.key with
        | some found => exact Or.inl ⟨found, rfl, by rw [hfound] at hrowEq; exact hrowEq⟩
        | none => exact Or.inr ⟨by rw [hfound] at hrowEq; exact hrowEq, nofun⟩
      · exact Or.inr ⟨by rw [hnone] at hrowEq; exact hrowEq, hstale⟩
  · have hnone : Table.get LoginThrottle.key rows key = none := Table.get_eq_none_iff.2 hkey
    rw [hget, hnone, Option.none_or]
    exact hreclaimed key
  · have hkept : Table.get LoginThrottle.key stored key = some found := by
      rcases hreclaimed key with hsame | ⟨-, hstale⟩
      · exact hsame.trans hfound
      · exact absurd (hstale found hfound) (not_le.2 hlive)
    refine hrowOf key ((hmem key).2 hkey) ?_
    rw [hadmitted]
    exact List.mem_append_left _ (List.mem_filter.2 ⟨(hmem key).2 hkey, by rw [hkept]; rfl⟩)
  · have hall : admitted.length = keys.length ↔ ∀ key ∈ keys, key ∈ admitted :=
      hadmitted ▸ length_admitted_iff hnodup hfresh
    refine decide_eq_true_iff.trans (hall.trans ?_)
    constructor
    · exact fun hall key hkey => hrowOf key ((hmem key).2 hkey) (hall key ((hmem key).2 hkey))
    · intro hall key hkey
      obtain ⟨row, hrow, rfl⟩ := hall key ((hmem key).1 hkey)
      exact (hof row hrow).2.1

theorem nodup_deleteLoginThrottles (keys : List JsString)
    (h : (r.loginThrottles.map LoginThrottle.key).Nodup) :
    ((r.deleteLoginThrottles keys).loginThrottles.map LoginThrottle.key).Nodup :=
  h.sublist (List.filter_sublist.map _)

theorem get_deleteLoginThrottles_mem {key : JsString} (hkey : key ∈ keys) :
    Table.get LoginThrottle.key (r.deleteLoginThrottles keys).loginThrottles key = none :=
  Table.get_eq_none_iff.2 fun _ hrow heq =>
    of_decide_eq_true (List.mem_filter.1 hrow).2 (heq ▸ hkey)

theorem get_deleteLoginThrottles_ne {key : JsString} (hkey : key ∉ keys) :
    Table.get LoginThrottle.key (r.deleteLoginThrottles keys).loginThrottles key =
      Table.get LoginThrottle.key r.loginThrottles key := by
  unfold Table.get deleteLoginThrottles
  dsimp only
  rw [List.find?_filter]
  refine List.find?_congr fun row _ => ?_
  by_cases heq : row.key = key
  · simp [heq, hkey]
  · simp [heq]

end Repository

end Lotur.Auth
