import Lotur.Protocol.JsText
import Lotur.Review.DraftTexts

/-! What each call of a draft store does to its drafts and to the storage. -/
namespace Lotur.Review.Drafts
open JsString OpenHttp

section Storage
variable {storage : DraftStorage} {name other value : JsString}

theorem getItem_setItem_own : (storage.setItem name value).getItem name = some value :=
  List.lookup_put_own name value storage

theorem getItem_setItem_other (h : other ≠ name) :
    (storage.setItem name value).getItem other = storage.getItem other :=
  List.lookup_put_other h value storage

theorem getItem_removeItem_own : (storage.removeItem name).getItem name = none :=
  List.lookup_filter_own name storage

theorem getItem_removeItem_other (h : other ≠ name) :
    (storage.removeItem name).getItem other = storage.getItem other :=
  List.lookup_filter_other h storage

/-- The second storage is the first without some of its items. -/
def Removes (storage storage' : DraftStorage) : Prop :=
  ∀ name, storage'.getItem name = storage.getItem name ∨ storage'.getItem name = none

theorem Removes.refl (storage : DraftStorage) : Removes storage storage := fun _ => .inl rfl

theorem Removes.trans {first second third : DraftStorage} (h : Removes first second)
    (h' : Removes second third) : Removes first third := by
  intro name
  rcases h' name with heq | hnone
  · rw [heq]
    exact h name
  · exact .inr hnone

theorem removes_removeItem (storage : DraftStorage) (name : JsString) :
    Removes storage (storage.removeItem name) := by
  intro other
  by_cases heq : other = name
  · exact .inr (heq ▸ getItem_removeItem_own)
  · exact .inl (getItem_removeItem_other heq)

theorem removes_foldl (names : List JsString) (storage : DraftStorage) :
    Removes storage (names.foldl DraftStorage.removeItem storage) := by
  induction names generalizing storage with
  | nil => exact .refl storage
  | cons name names ih => exact (removes_removeItem storage name).trans (ih _)

theorem getItem_foldl_removeItem {names : List JsString} (h : name ∉ names) :
    (names.foldl DraftStorage.removeItem storage).getItem name = storage.getItem name := by
  induction names generalizing storage with
  | nil => rfl
  | cons other names ih =>
    rw [List.mem_cons, not_or] at h
    rw [List.foldl_cons, ih h.2, getItem_removeItem_other h.1]

/-- No text under a name of drafts is too long. -/
def Bounded (storage : DraftStorage) : Prop :=
  ∀ name value, startsWith name draftPrefix = true → storage.getItem name = some value →
    value.length ≤ maxSerializedLength

theorem Bounded.removes {storage storage' : DraftStorage} (h : Bounded storage)
    (hremoves : Removes storage storage') : Bounded storage' := by
  intro name value hname hvalue
  rcases hremoves name with heq | hnone
  · exact h name value hname (heq ▸ hvalue)
  · rw [hnone] at hvalue
    cases hvalue

theorem Bounded.setItem (h : Bounded storage) (hvalue : value.length ≤ maxSerializedLength) :
    Bounded (storage.setItem name value) := by
  intro other found hother hfound
  by_cases heq : other = name
  · rw [heq, getItem_setItem_own] at hfound
    cases hfound
    exact hvalue
  · rw [getItem_setItem_other heq] at hfound
    exact h other found hother hfound

theorem startsWith_storageKeyOf (channel : Option JsString) (scope : JsString) :
    startsWith (storageKeyOf channel scope) draftPrefix = true :=
  startsWith_iff.2 (List.prefix_append draftPrefix _)

end Storage

section Lengths
variable (host : DraftHost)

theorem length_ofNat_le {n : ℕ} (h : n < 10 ^ 16) : (JsString.ofNat n).length ≤ 16 := by
  unfold JsString.ofNat
  split_ifs with hzero
  · exact Nat.le_add_left 1 15
  · rw [List.length_map, List.length_reverse]
    exact (Nat.digits_length_le_iff (by norm_num) n).2 h

theorem length_print_le {n : ℤ} (h : n.natAbs ≤ 2 ^ 53) :
    (host.format.print n).length ≤ 17 := by
  have hdigits : (JsString.ofNat n.natAbs).length ≤ 16 :=
    length_ofNat_le (h.trans_lt (by norm_num))
  rw [host.format.print_integer n h, List.length_append]
  split_ifs
  · rw [List.length_singleton]
    omega
  · rw [List.length_nil]
    omega

/-- The text between its fixed parts. -/
theorem serialized_eq (time : ℤ) (drafts : List (JsString × Draft)) :
    serialized host time drafts =
      ofAscii "\x7b\"expiresAt\":" ++ host.format.print ((time + ttlMs : ℤ) : ℚ) ++
        ofAscii ",\"entries\":[" ++
          join [0x2c] (drafts.map fun entry => (entryJson entry).stringify host.format) ++
            ofAscii "]\x7d" := by
  have hitems : ∀ items : List Json, Json.stringifyItems host.format items =
      items.map (Json.stringify host.format) := by
    intro items
    induction items with
    | nil => rfl
    | cons item items ih => rw [Json.stringifyItems, List.map_cons, ih]
  have hfields : ∀ first second : JsString, join [0x2c] [first, second] = first ++ 0x2c :: second := by
    intro first second
    unfold join
    rw [List.intercalate_cons_cons, List.intercalate_singleton, List.append_assoc]
    rfl
  unfold serialized
  rw [Json.stringify, Json.stringifyFields, Json.stringifyFields, Json.stringifyFields,
    Json.stringify, Json.stringify, hfields, hitems, List.map_map]
  have hexpires : quoteJsonString (ofAscii "expiresAt") = ofAscii "\"expiresAt\"" := by decide
  have hentries : quoteJsonString (ofAscii "entries") = ofAscii "\"entries\"" := by decide
  rw [hexpires, hentries]
  simp only [ofAscii, List.append_assoc, List.cons_append]
  rfl

theorem length_serialized (time : ℤ) (drafts : List (JsString × Draft)) :
    (serialized host time drafts).length =
      27 + (host.format.print ((time + ttlMs : ℤ) : ℚ)).length +
        (join [0x2c] (drafts.map fun entry => (entryJson entry).stringify host.format)).length := by
  have hstart : (ofAscii "\x7b\"expiresAt\":").length = 13 := by decide
  have hmiddle : (ofAscii ",\"entries\":[").length = 12 := by decide
  have hend : (ofAscii "]\x7d").length = 2 := by decide
  rw [serialized_eq, List.length_append, List.length_append, List.length_append,
    List.length_append, hstart, hmiddle, hend]
  omega

theorem expiry_natAbs {time : ℤ} (h : isTimeValue time = true) :
    (time + ttlMs).natAbs ≤ 2 ^ 53 := by
  unfold isTimeValue at h
  rw [Bool.and_eq_true, decide_eq_true_eq, decide_eq_true_eq] at h
  unfold ttlMs
  omega

theorem length_serialized_nil {time : ℤ} (h : isTimeValue time = true) :
    (serialized host time []).length ≤ maxSerializedLength := by
  have hprint := length_print_le host (expiry_natAbs h)
  rw [length_serialized]
  change 27 + _ + 0 ≤ 250000
  omega

end Lengths

section Persist
variable (host : DraftHost) (clock : Clock)

/-- The newest drafts are kept whose text is short enough. -/
theorem evict_spec (drafts : List (JsString × Draft)) (reading : ℕ) :
    ∃ last, (evict host clock drafts reading).1 <:+ drafts ∧
      (evict host clock drafts reading).2 =
        serialized host (clock.now last) (evict host clock drafts reading).1 ∧
      (evict host clock drafts reading).2.length ≤ maxSerializedLength := by
  induction drafts generalizing reading with
  | nil =>
    exact ⟨reading, List.suffix_rfl, rfl,
      length_serialized_nil host (clock.isTimeValue_now reading)⟩
  | cons entry later ih =>
    rw [evict]
    split_ifs with hlong
    · obtain ⟨last, hsuffix, hvalue, hlength⟩ := ih (reading + 1)
      exact ⟨last, hsuffix.trans (List.suffix_cons entry later), hvalue, hlength⟩
    · exact ⟨reading, List.suffix_rfl, rfl, not_lt.1 hlong⟩

theorem evict_of_fits {drafts : List (JsString × Draft)} {reading : ℕ}
    (h : (serialized host (clock.now reading) drafts).length ≤ maxSerializedLength) :
    evict host clock drafts reading = (drafts, serialized host (clock.now reading) drafts) := by
  cases drafts with
  | nil => rfl
  | cons entry later =>
    rw [evict]
    exact if_neg h.not_gt

theorem evict_of_long {entry : JsString × Draft} {later : List (JsString × Draft)} {reading : ℕ}
    (h : maxSerializedLength < (serialized host (clock.now reading) (entry :: later)).length) :
    evict host clock (entry :: later) reading = evict host clock later (reading + 1) := by
  rw [evict]
  exact if_pos h

/-- What saving does in a scope. -/
structure Persisted (scope : JsString) (s s' : DraftState) : Prop where
  sameScope : s'.scope = s.scope
  version : s'.version = s.version
  suffix : s'.drafts <:+ s.drafts
  count : s'.drafts.length ≤ maxEntries
  stored : (s'.drafts = [] ∧ s'.storage = s.storage.removeItem (storageKeyOf host.channel scope)) ∨
    ∃ last, (serialized host (clock.now last) s'.drafts).length ≤ maxSerializedLength ∧
      s'.storage = s.storage.setItem (storageKeyOf host.channel scope)
        (serialized host (clock.now last) s'.drafts)
  fits : s.drafts.length ≤ maxEntries →
    (serialized host (clock.now 0) s.drafts).length ≤ maxSerializedLength → s'.drafts = s.drafts

theorem persist_unscoped {s : DraftState} (h : s.scope = none) : persist host clock s = s := by
  unfold persist
  rw [h]

theorem persist_spec {s : DraftState} {scope : JsString} (h : s.scope = some scope) :
    Persisted host clock scope s (persist host clock s) := by
  have hcount : (s.drafts.drop (s.drafts.length - maxEntries)).length ≤ maxEntries := by
    rw [List.length_drop]
    omega
  have hall : s.drafts.length ≤ maxEntries →
      s.drafts.drop (s.drafts.length - maxEntries) = s.drafts := by
    intro hfew
    rw [Nat.sub_eq_zero_of_le hfew, List.drop_zero]
  unfold persist
  rw [h]
  dsimp only
  split_ifs with hnone
  · refine ⟨h.symm, rfl, List.nil_suffix, Nat.zero_le _, .inl ⟨rfl, rfl⟩, fun hfew _ => ?_⟩
    exact hnone.symm.trans (hall hfew)
  · obtain ⟨last, hsuffix, hvalue, hlength⟩ :=
      evict_spec host clock (s.drafts.drop (s.drafts.length - maxEntries)) 0
    refine ⟨h.symm, rfl, hsuffix.trans (List.drop_suffix _ _),
      hsuffix.length_le.trans hcount, .inr ⟨last, ?_, ?_⟩, fun hfew hfits => ?_⟩
    · rw [hvalue] at hlength
      exact hlength
    · rw [hvalue]
    · dsimp only
      rw [hall hfew, evict_of_fits host clock hfits]

/-- Few drafts with a short text are saved as they are. -/
theorem persist_of_fits {s : DraftState} {scope : JsString} (hscope : s.scope = some scope)
    (hsome : s.drafts ≠ []) (hcount : s.drafts.length ≤ maxEntries)
    (hfits : (serialized host (clock.now 0) s.drafts).length ≤ maxSerializedLength) :
    persist host clock s = { s with
      storage := s.storage.setItem (storageKeyOf host.channel scope)
        (serialized host (clock.now 0) s.drafts) } := by
  have hall : s.drafts.drop (s.drafts.length - maxEntries) = s.drafts := by
    rw [Nat.sub_eq_zero_of_le hcount, List.drop_zero]
  unfold persist
  rw [hscope]
  dsimp only
  rw [hall, if_neg hsome, evict_of_fits host clock hfits]

end Persist

section Names
variable (host : DraftHost)

/-- An array of texts is read as it was written. -/
theorem parse_texts (texts : List JsString) :
    Json.parse host.format (jsonArray (texts.map quoteJsonString)) =
      some (.array (texts.map .string)) := by
  have hitems : ∀ texts : List JsString,
      Json.stringifyItems host.format (texts.map .string) = texts.map quoteJsonString ∧
        Json.normalItems host.format (texts.map .string) = texts.map .string := by
    intro texts
    induction texts with
    | nil => exact ⟨rfl, rfl⟩
    | cons text texts ih =>
      rw [List.map_cons, List.map_cons, Json.stringifyItems, Json.normalItems, ih.1, ih.2]
      exact ⟨rfl, rfl⟩
  have hread := Json.parse_stringify host.format (.array (texts.map .string))
  rw [Json.stringify, Json.normal, (hitems texts).1, (hitems texts).2] at hread
  exact hread

theorem parse_scopeText (session accountId projectId revisionId : JsString) :
    (Json.parse host.format (scopeText session accountId projectId revisionId)).bind
      firstProperty = some (some (.string session)) := by
  unfold scopeText
  rw [parse_texts]
  rfl

theorem savedScopeText_storageKeyOf (scope : JsString) :
    savedScopeText host (storageKeyOf host.channel scope) = some scope := by
  have hread := parse_texts host [scope, host.channel.getD (ofAscii "comments")]
  rw [List.map_cons, List.map_singleton] at hread
  unfold savedScopeText storageKeyOf
  rw [List.drop_left, hread]
  rfl

/-- Drafts of two scopes lie under two names. -/
theorem storageKeyOf_injective {scope scope' : JsString}
    (h : storageKeyOf host.channel scope = storageKeyOf host.channel scope') : scope = scope' := by
  have hread := savedScopeText_storageKeyOf host scope
  rw [h, savedScopeText_storageKeyOf host scope'] at hread
  exact (Option.some.inj hread).symm

end Names

section Open
variable (host : DraftHost) (clock : Clock) {session : Option Json}

theorem length_of_fresh {time : ℤ} {candidate value : JsString}
    (h : isStale host session time candidate value = some false) :
    value.length ≤ maxSerializedLength := by
  unfold isStale at h
  simp only [Option.bind_eq_bind, Option.bind_eq_some_iff] at h
  obtain ⟨_, -, _, -, _, -, h⟩ := h
  split_ifs at h with hchecks
  · cases h
  · rw [not_or, not_or] at hchecks
    exact not_lt.1 hchecks.2.2

theorem removes_purge (names : List JsString) (reading : ℕ) (storage : DraftStorage) :
    Removes storage (purge host clock session names reading storage) := by
  induction names generalizing reading storage with
  | nil => exact .refl storage
  | cons candidate names ih =>
    rw [purge]
    split_ifs
    · exact ih (reading + 1) storage
    · exact (removes_removeItem storage candidate).trans (ih (reading + 1) _)

theorem purge_bounded (names : List JsString) (reading : ℕ) (storage : DraftStorage)
    {name value : JsString} (hname : name ∈ names)
    (hvalue : (purge host clock session names reading storage).getItem name = some value) :
    value.length ≤ maxSerializedLength := by
  induction names generalizing reading storage with
  | nil => exact absurd hname List.not_mem_nil
  | cons candidate names ih =>
    rw [purge] at hvalue
    rcases List.mem_cons.1 hname with rfl | hname
    · split_ifs at hvalue with hfresh
      · rcases removes_purge host clock names (reading + 1) storage name with heq | hnone
        · have hlength := length_of_fresh host hfresh
          rw [heq] at hvalue
          rw [hvalue, Option.getD_some] at hlength
          exact hlength
        · rw [hnone] at hvalue
          cases hvalue
      · rcases removes_purge host clock names (reading + 1) (storage.removeItem name) name
          with heq | hnone
        · rw [heq, getItem_removeItem_own] at hvalue
          cases hvalue
        · rw [hnone] at hvalue
          cases hvalue
    · exact ih (reading + 1) _ hname hvalue

/-- What is fresh at every reading stays. -/
theorem getItem_purge (names : List JsString) (reading : ℕ) {storage : DraftStorage}
    {name value : JsString} (hvalue : storage.getItem name = some value)
    (hfresh : ∀ i, isStale host session (clock.now i) name value = some false) :
    (purge host clock session names reading storage).getItem name = some value := by
  induction names generalizing reading storage with
  | nil => exact hvalue
  | cons candidate names ih =>
    rw [purge]
    refine ih (reading + 1) ?_
    by_cases heq : name = candidate
    · subst heq
      rw [if_pos]
      · exact hvalue
      · rw [hvalue]
        exact hfresh reading
    · split_ifs
      · exact hvalue
      · rw [getItem_removeItem_other heq]
        exact hvalue

theorem mem_draftNames {storage : DraftStorage} {name value : JsString}
    (hname : startsWith name draftPrefix = true) (hvalue : storage.getItem name = some value) :
    name ∈ draftNames host storage := by
  have hmem : name ∈ storage.map Prod.fst := List.mem_map_of_mem (List.mem_of_lookup hvalue)
  unfold draftNames
  exact List.mem_filter.2 ⟨(host.order_perm _).mem_iff.2 hmem, hname⟩

theorem removes_purged (storageKey : JsString) (storage : DraftStorage) :
    Removes storage (purged host clock session storageKey storage) :=
  (removes_purge host clock _ 0 storage).trans (removes_foldl _ _)

theorem bounded_purged (storageKey : JsString) (storage : DraftStorage) :
    Bounded (purged host clock session storageKey storage) := by
  have hpurge : Bounded (purge host clock session (draftNames host storage) 0 storage) := by
    intro name value hname hvalue
    rcases removes_purge host clock (draftNames host storage) 0 storage name with heq | hnone
    · exact purge_bounded host clock _ 0 storage
        (mem_draftNames host hname (heq ▸ hvalue)) hvalue
    · rw [hnone] at hvalue
      cases hvalue
  exact hpurge.removes (removes_foldl _ _)

theorem getItem_purged {storage : DraftStorage} {name value : JsString}
    (hvalue : storage.getItem name = some value)
    (hfresh : ∀ i, isStale host session (clock.now i) name value = some false) :
    (purged host clock session name storage).getItem name = some value := by
  unfold purged
  dsimp only
  rw [getItem_foldl_removeItem, getItem_purge host clock _ 0 hvalue hfresh]
  intro hmem
  have hne := (List.mem_filter.1 (List.mem_of_mem_take hmem)).2
  exact of_decide_eq_true hne rfl

/-- The drafts of a scope are fresh in a session of theirs until they expire. -/
theorem isStale_own {user accountId projectId revisionId raw : JsString} {time : ℤ}
    {expiresAt : JsNumber} {entries : List Json} (hraw : raw ≠ [])
    (hlength : raw.length ≤ maxSerializedLength)
    (hsaved : savedFields host raw = some (expiresAt, entries))
    (hfresh : isAtMost time expiresAt = false) :
    isStale host (some (.string user)) time
      (storageKeyOf host.channel (scopeText user accountId projectId revisionId)) raw =
        some false := by
  have hscope := parse_scopeText host user accountId projectId revisionId
  obtain ⟨parts, hparts, hfirst⟩ := Option.bind_eq_some_iff.1 hscope
  have hexpired : isExpired host time raw = some false := by
    unfold savedFields at hsaved
    rw [Option.bind_eq_bind] at hsaved
    obtain ⟨saved, hparsed, hsaved⟩ := Option.bind_eq_some_iff.1 hsaved
    unfold isExpired
    rw [hparsed]
    cases saved with
    | object fields =>
      dsimp only at hsaved
      split at hsaved
      · next hexpiry _ =>
        cases hsaved
        have hfound : expiryOf (.object fields) = some (some (.number expiresAt)) := by
          rw [expiryOf, hexpiry]
        rw [Option.bind_eq_bind, Option.bind_some, Option.bind_eq_bind, hfound, Option.bind_some]
        change some (isAtMost time expiresAt) = _
        rw [hfresh]
      · cases hsaved
    | null | bool | number | string | array => cases hsaved
  have hchecks : ¬ (strictEquals (some (.string user)) (some (.string user)) = false ∨ raw = [] ∨
      maxSerializedLength < raw.length) := by
    rintro (hdiffer | hnone | hlong)
    · rw [show strictEquals (some (.string user)) (some (.string user)) = true from
        decide_eq_true rfl] at hdiffer
      cases hdiffer
    · exact hraw hnone
    · exact hlong.not_ge hlength
  unfold isStale
  rw [savedScopeText_storageKeyOf, Option.bind_eq_bind, Option.bind_some, hparts,
    Option.bind_eq_bind, Option.bind_some, hfirst, Option.bind_eq_bind, Option.bind_some,
    if_neg hchecks, hexpired]

/-- What setting a scope does. -/
structure Opened (scope : JsString) (s s' : DraftState) : Prop where
  isScope : s'.scope = some scope
  removes : Removes s.storage s'.storage
  bounded : Bounded s'.storage
  seen : visible s'.drafts = storedContents host s'.storage (storageKeyOf host.channel scope)
  restored : Restored s.version (s'.drafts, s'.version)
  count : s'.drafts.length ≤ maxEntries

/-- Nothing is restored. -/
theorem opened_empty {scope : JsString} {s : DraftState} (hversion : s.version ≤ 2 ^ 53)
    {storage : DraftStorage} (hremoves : Removes s.storage storage) (hbounded : Bounded storage)
    (hnone : storedContents host storage (storageKeyOf host.channel scope) = []) :
    Opened host scope s { s with drafts := [], scope := some scope, storage } :=
  ⟨rfl, hremoves, hbounded, hnone.symm, restored_foldl hversion [], Nat.zero_le _⟩

theorem openScope_spec (user accountId projectId revisionId : JsString) {s : DraftState}
    (hversion : s.version ≤ 2 ^ 53) :
    Opened host (scopeText user accountId projectId revisionId) s
      (openScope host clock (scopeText user accountId projectId revisionId) s) := by
  unfold openScope
  rw [parse_scopeText]
  dsimp only
  generalize scopeText user accountId projectId revisionId = scope
  have hremoves := @removes_purged host clock (some (.string user)) (storageKeyOf host.channel scope)
    s.storage
  have hbounded := @bounded_purged host clock (some (.string user)) (storageKeyOf host.channel scope)
    s.storage
  generalize purged host clock (some (.string user)) (storageKeyOf host.channel scope) s.storage =
    storage at hremoves hbounded
  have hremoved : Removes s.storage (storage.removeItem (storageKeyOf host.channel scope)) :=
    hremoves.trans (removes_removeItem _ _)
  have hgone := opened_empty host hversion hremoved (hbounded.removes (removes_removeItem _ _))
    (storedContents_none host getItem_removeItem_own)
  cases hraw : storage.getItem (storageKeyOf host.channel scope) with
  | none =>
    exact opened_empty host hversion hremoves hbounded (storedContents_none host hraw)
  | some raw =>
    dsimp only
    split_ifs with hlong
    · refine opened_empty host hversion hremoves hbounded ?_
      unfold storedContents
      rw [hraw]
      exact if_pos hlong
    · cases hsaved : savedFields host raw with
      | none => exact hgone
      | some fields =>
        obtain ⟨expiresAt, entries⟩ := fields
        dsimp only
        split_ifs with hexpired
        · exact hgone
        · refine ⟨rfl, hremoves, hbounded, ?_, restored_foldl hversion _, ?_⟩
          · unfold storedContents
            rw [hraw]
            dsimp only
            rw [if_neg hlong, hsaved]
            exact visible_restored _ [] s.version
          · have hcount := length_restored (latestEntries entries) ([], s.version)
            have hlatest := length_latestEntries entries
            rw [List.length_nil] at hcount
            dsimp only
            omega

/-- A text that has not expired is read. -/
theorem openScope_reads (user accountId projectId revisionId : JsString) {s : DraftState}
    {raw : JsString} {expiresAt : JsNumber} {entries : List Json}
    (hraw : s.storage.getItem (storageKeyOf host.channel
      (scopeText user accountId projectId revisionId)) = some raw)
    (hnonempty : raw ≠ []) (hlength : raw.length ≤ maxSerializedLength)
    (hsaved : savedFields host raw = some (expiresAt, entries))
    (hfresh : ∀ i, isAtMost (clock.now i) expiresAt = false) :
    (openScope host clock (scopeText user accountId projectId revisionId) s).drafts =
        ((latestEntries entries).foldl restoreDraft ([], s.version)).1 ∧
      (openScope host clock (scopeText user accountId projectId revisionId) s).version =
        ((latestEntries entries).foldl restoreDraft ([], s.version)).2 := by
  have hkept := getItem_purged host clock hraw
    fun i => isStale_own host hnonempty hlength hsaved (hfresh i)
  have hchecks : ¬ (raw = [] ∨ maxSerializedLength < raw.length) :=
    not_or.2 ⟨hnonempty, hlength.not_gt⟩
  unfold openScope
  rw [parse_scopeText]
  dsimp only
  rw [hkept]
  dsimp only
  rw [if_neg hchecks, hsaved]
  dsimp only
  rw [if_neg (by rw [hfresh]; exact Bool.false_ne_true)]
  exact ⟨rfl, rfl⟩

end Open

end Lotur.Review.Drafts
