import Lotur.Review.Drafts
import Lotur.Review.JsonRoundTrip

/-! The texts that a draft store saves, and what is read of them. -/
namespace Lotur.Review.Drafts
open JsString OpenHttp

section Versions
variable {version : ℕ}

theorem nextVersion_le : nextVersion version ≤ 2 ^ 53 := min_le_right _ _

theorem le_nextVersion (h : version ≤ 2 ^ 53) : version ≤ nextVersion version :=
  le_min (Nat.le_succ version) h

theorem nextVersion_pos : 1 ≤ nextVersion version :=
  le_min (Nat.le_add_left 1 version) (by norm_num)

/-- A version that is still exact is a new one. -/
theorem nextVersion_eq (h : nextVersion version < 2 ^ 53) : nextVersion version = version + 1 := by
  unfold nextVersion at h ⊢
  omega

theorem iterate_nextVersion {version : ℕ} (h : version ≤ 2 ^ 53) (n : ℕ) :
    nextVersion^[n] version = min (version + n) (2 ^ 53) := by
  induction n generalizing version with
  | zero => exact (min_eq_left h).symm
  | succ n ih =>
    rw [Function.iterate_succ_apply, ih nextVersion_le]
    unfold nextVersion
    omega

end Versions

/-- A draft as its user sees it. -/
def Draft.content (draft : Draft) : Content := (draft.text, draft.data)

/-- The drafts as their user sees them. -/
def visible (drafts : List (JsString × Draft)) : List (JsString × Content) :=
  drafts.map (Prod.map id Draft.content)

/-- A draft within the limits of what is read. -/
structure ValidEntry (entry : JsString × Draft) : Prop where
  id : entry.1.length ≤ 5000
  text : entry.2.text.length ≤ 4000
  version : 1 ≤ entry.2.version

section Saved
variable (host : DraftHost)

/-- What the text of a draft keeps of it. -/
def Content.normal (content : Content) : Content :=
  (content.1, content.2.map (Json.normal host.format))

theorem normalItems_eq_map (format : NumberFormat) (items : List Json) :
    Json.normalItems format items = items.map (Json.normal format) := by
  induction items with
  | nil => rfl
  | cons item items ih => rw [Json.normalItems, List.map_cons, ih]

theorem read_print_integer (format : NumberFormat) {n : ℤ} (h : n.natAbs ≤ 2 ^ 53) :
    format.read (format.print n) = .finite n :=
  format.read_print n (format.isDouble_integer n h)

theorem read_print_natural (format : NumberFormat) {n : ℕ} (h : n ≤ 2 ^ 53) :
    format.read (format.print n) = .finite n := by
  have hread := read_print_integer format (n := (n : ℤ)) h
  rwa [Int.cast_natCast] at hread

theorem normal_entryJson {entry : JsString × Draft} (h : entry.2.version ≤ 2 ^ 53) :
    (entryJson entry).normal host.format = .array [.string entry.1, .object
      ([(ofAscii "text", .string entry.2.text),
        (ofAscii "version", .number (.finite entry.2.version))] ++
          (entry.2.data.map (Json.normal host.format)).toList.map
            fun data => (ofAscii "data", data))] := by
  have hread := read_print_natural host.format h
  obtain ⟨id, text, version, data⟩ := entry
  unfold entryJson Draft.json
  rw [Json.normal, Json.normalItems, Json.normalItems, Json.normalItems, Json.normal, Json.normal]
  cases data with
  | none =>
    rw [Option.toList_none, List.map_nil, List.append_nil, Json.normalFields, Json.normalFields,
      Json.normalFields, Json.normal, Json.normal, hread]
    rfl
  | some data =>
    rw [Option.toList_some, List.map_singleton, List.cons_append, List.cons_append, List.nil_append,
      Json.normalFields, Json.normalFields, Json.normalFields, Json.normalFields, Json.normal,
      Json.normal, hread]
    rfl

/-- A draft within the limits is read back. -/
theorem savedDraft_entryJson {entry : JsString × Draft} (hvalid : ValidEntry entry)
    (hversion : entry.2.version < 2 ^ 53) :
    savedDraft ((entryJson entry).normal host.format) =
      some (entry.1, entry.2.content.normal host) := by
  have hsafe : isSafeVersion (.finite (entry.2.version : ℚ)) = true := by
    unfold isSafeVersion
    dsimp only
    rw [Rat.den_natCast, Rat.num_natCast, Bool.and_eq_true, Bool.and_eq_true, decide_eq_true_eq,
      decide_eq_true_eq, decide_eq_true_eq]
    have hpos := hvalid.version
    omega
  have hchecks := And.intro hvalid.id (And.intro hvalid.text hsafe)
  rw [normal_entryJson host hversion.le]
  obtain ⟨id, text, version, data⟩ := entry
  cases data with
  | none => exact if_pos hchecks
  | some data => exact if_pos hchecks

/-- The fields of a saved text. -/
theorem savedFields_serialized {time : ℤ} (htime : isTimeValue time = true)
    (drafts : List (JsString × Draft)) : savedFields host (serialized host time drafts) =
      some (.finite ((time + ttlMs : ℤ) : ℚ),
        drafts.map fun entry => (entryJson entry).normal host.format) := by
  have hread : host.format.read (host.format.print ((time + ttlMs : ℤ) : ℚ)) =
      .finite ((time + ttlMs : ℤ) : ℚ) := by
    refine read_print_integer host.format ?_
    unfold isTimeValue at htime
    rw [Bool.and_eq_true, decide_eq_true_eq, decide_eq_true_eq] at htime
    unfold ttlMs
    omega
  unfold savedFields serialized
  rw [Json.parse_stringify, Json.normal, Json.normalFields, Json.normalFields, Json.normalFields,
    Json.normal, Json.normal, hread, normalItems_eq_map, List.map_map]
  rfl

end Saved

section Contents

/-- The drafts among the entries of a text. -/
def contents (entries : List Json) : List (JsString × Content) :=
  (entries.filterMap savedDraft).foldl (fun found entry => List.put entry.1 entry.2 found) []

/-- The user sees what the text holds, whatever versions it gets. -/
theorem visible_restored (entries : List Json) (drafts : List (JsString × Draft)) (version : ℕ) :
    visible (entries.foldl restoreDraft (drafts, version)).1 =
      (entries.filterMap savedDraft).foldl (fun found entry => List.put entry.1 entry.2 found)
        (visible drafts) := by
  induction entries generalizing drafts version with
  | nil => rfl
  | cons entry entries ih =>
    rw [List.foldl_cons]
    cases hsaved : savedDraft entry with
    | none =>
      have hstep : restoreDraft (drafts, version) entry = (drafts, version) := by
        unfold restoreDraft
        rw [hsaved]
      rw [hstep, List.filterMap_cons_none hsaved]
      exact ih drafts version
    | some saved =>
      obtain ⟨id, text, data⟩ := saved
      have hstep : restoreDraft (drafts, version) entry =
          (List.put id ⟨text, nextVersion version, data⟩ drafts, nextVersion version) := by
        unfold restoreDraft
        rw [hsaved]
      rw [hstep, List.filterMap_cons_some hsaved, List.foldl_cons, ih]
      unfold visible
      rw [List.map_put]
      rfl

/-- What is restored over some drafts has new versions and lies within the limits. -/
structure Restored (version : ℕ) (restored : List (JsString × Draft) × ℕ) : Prop where
  nodup : (restored.1.map Prod.fst).Nodup
  valid : ∀ entry ∈ restored.1, ValidEntry entry
  mono : version ≤ restored.2
  limit : restored.2 ≤ 2 ^ 53
  fresh : restored.2 < 2 ^ 53 → ∀ entry ∈ restored.1,
    version < entry.2.version ∧ entry.2.version ≤ restored.2

theorem Restored.next {version : ℕ} {restored : List (JsString × Draft) × ℕ}
    (h : Restored version restored) (entry : Json) : Restored version (restoreDraft restored entry) := by
  unfold restoreDraft
  cases hsaved : savedDraft entry with
  | none => exact h
  | some saved =>
    obtain ⟨id, text, data⟩ := saved
    have hlimits : id.length ≤ 5000 ∧ text.length ≤ 4000 := by
      unfold savedDraft at hsaved
      split at hsaved
      · split at hsaved
        · split_ifs at hsaved with hchecks
          cases hsaved
          exact ⟨hchecks.1, hchecks.2.1⟩
        · cases hsaved
      · cases hsaved
    have hle := le_nextVersion h.limit
    constructor
    · exact List.nodup_put h.nodup id _
    · intro other hother
      rcases List.mem_put hother with hold | rfl
      · exact h.valid other hold
      · exact ⟨hlimits.1, hlimits.2, nextVersion_pos⟩
    · exact h.mono.trans hle
    · exact nextVersion_le
    · intro hexact other hother
      have hnext := nextVersion_eq hexact
      rcases List.mem_put hother with hold | rfl
      · have hfresh := h.fresh (hle.trans_lt hexact) other hold
        exact ⟨hfresh.1, hfresh.2.trans hle⟩
      · refine ⟨?_, le_rfl⟩
        have hmono := h.mono
        dsimp only
        omega

theorem restored_foldl {version : ℕ} (hversion : version ≤ 2 ^ 53) (entries : List Json) :
    Restored version (entries.foldl restoreDraft ([], version)) := by
  have hstart : Restored version ([], version) := by
    refine ⟨List.nodup_nil, ?_, le_rfl, hversion, ?_⟩
    · exact fun _ hentry => absurd hentry List.not_mem_nil
    · exact fun _ _ hentry => absurd hentry List.not_mem_nil
  generalize ([], version) = restored at hstart ⊢
  induction entries generalizing restored with
  | nil => exact hstart
  | cons entry entries ih => exact ih _ (hstart.next entry)

theorem length_restoreDraft (restored : List (JsString × Draft) × ℕ) (entry : Json) :
    (restoreDraft restored entry).1.length ≤ restored.1.length + 1 := by
  unfold restoreDraft
  cases savedDraft entry with
  | none => exact Nat.le_succ _
  | some saved =>
    unfold List.put
    dsimp only
    split_ifs
    · rw [List.length_map]
      exact Nat.le_succ _
    · rw [List.length_append]
      exact le_rfl

theorem length_restored (entries : List Json) (restored : List (JsString × Draft) × ℕ) :
    (entries.foldl restoreDraft restored).1.length ≤ restored.1.length + entries.length := by
  induction entries generalizing restored with
  | nil => exact le_rfl
  | cons entry entries ih =>
    have hone := length_restoreDraft restored entry
    have hrest := ih (restoreDraft restored entry)
    rw [List.foldl_cons, List.length_cons]
    omega

theorem length_latestEntries (entries : List Json) :
    (latestEntries entries).length ≤ maxEntries := by
  unfold latestEntries
  rw [List.length_drop]
  omega

/-- Drafts with keys of their own are what their entries hold. -/
theorem contents_entryJson (host : DraftHost) {drafts : List (JsString × Draft)}
    (hnodup : (drafts.map Prod.fst).Nodup) (hvalid : ∀ entry ∈ drafts, ValidEntry entry)
    (hversion : ∀ entry ∈ drafts, entry.2.version < 2 ^ 53) :
    contents (drafts.map fun entry => (entryJson entry).normal host.format) =
      (visible drafts).map (Prod.map id (Content.normal host)) := by
  have hsaved : (drafts.map fun entry => (entryJson entry).normal host.format).filterMap savedDraft =
      drafts.map fun entry => (entry.1, entry.2.content.normal host) := by
    rw [List.filterMap_map, ← List.filterMap_eq_map]
    refine List.filterMap_congr fun entry hentry => ?_
    exact savedDraft_entryJson host (hvalid entry hentry) (hversion entry hentry)
  unfold contents visible
  rw [hsaved, List.foldl_put, List.nil_append, List.map_map]
  · rfl
  · rw [List.nil_append, List.map_map]
    exact hnodup

end Contents

section Renumbered
variable (host : DraftHost)

/-- The drafts of a text get versions in their order. -/
def renumbered : ℕ → List (JsString × Draft) → List (JsString × Draft)
  | _, [] => []
  | version, (id, draft) :: later =>
    (id, ⟨draft.text, nextVersion version, draft.data.map (Json.normal host.format)⟩) ::
      renumbered (nextVersion version) later

theorem foldl_restoreDraft {drafts : List (JsString × Draft)}
    (hvalid : ∀ entry ∈ drafts, ValidEntry entry)
    (hversion : ∀ entry ∈ drafts, entry.2.version < 2 ^ 53) (others : List (JsString × Draft))
    (hnodup : ((others ++ drafts).map Prod.fst).Nodup) (version : ℕ) :
    (drafts.map fun entry => (entryJson entry).normal host.format).foldl restoreDraft
        (others, version) =
      (others ++ renumbered host version drafts, nextVersion^[drafts.length] version) := by
  induction drafts generalizing others version with
  | nil => rw [renumbered, List.append_nil]; rfl
  | cons entry later ih =>
    rw [List.forall_mem_cons] at hvalid hversion
    have hnew : others.lookup entry.1 = none := by
      rw [List.lookup_none_iff]
      intro other hother heq
      rw [List.map_append, List.nodup_append] at hnodup
      exact hnodup.2.2 _ (List.mem_map_of_mem hother) _ (List.mem_map_of_mem List.mem_cons_self) heq
    have hstep : restoreDraft (others, version) ((entryJson entry).normal host.format) =
        (others ++ [(entry.1, ⟨entry.2.text, nextVersion version,
          entry.2.data.map (Json.normal host.format)⟩)], nextVersion version) := by
      unfold restoreDraft
      rw [savedDraft_entryJson host hvalid.1 hversion.1]
      exact congrArg (·, _) (List.put_of_new hnew _)
    have hnodup' : ((others ++ [(entry.1, (⟨entry.2.text, nextVersion version,
        entry.2.data.map (Json.normal host.format)⟩ : Draft))] ++ later).map Prod.fst).Nodup := by
      rw [List.append_cons, List.map_append, List.map_append, List.map_singleton] at hnodup
      rw [List.map_append, List.map_append, List.map_singleton]
      exact hnodup
    rw [List.map_cons, List.foldl_cons, hstep, ih hvalid.2 hversion.2 _ hnodup', renumbered,
      List.append_assoc]
    rfl

end Renumbered

section Stored
variable (host : DraftHost)

/-- The drafts that a storage holds under a name, expired or not. -/
def storedContents (storage : DraftStorage) (name : JsString) : List (JsString × Content) :=
  match storage.getItem name with
  | none => []
  | some raw =>
    if raw = [] ∨ maxSerializedLength < raw.length then []
    else
      match savedFields host raw with
      | none => []
      | some (_, entries) => contents (latestEntries entries)

theorem storedContents_none {storage : DraftStorage} {name : JsString}
    (h : storage.getItem name = none) : storedContents host storage name = [] := by
  unfold storedContents
  rw [h]

theorem storedContents_congr {storage storage' : DraftStorage} {name : JsString}
    (h : storage'.getItem name = storage.getItem name) :
    storedContents host storage' name = storedContents host storage name := by
  unfold storedContents
  rw [h]

end Stored

end Lotur.Review.Drafts
