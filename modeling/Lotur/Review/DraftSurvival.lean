import Lotur.Review.DraftRuns

/-! Drafts survive a submission and a reload. -/
namespace Lotur.Review.Drafts
open JsString OpenHttp

section Newer
variable {host : DraftHost}

/-- Every draft of the second state was there in the same scope, or is newer than the counter of
the first. -/
def Newer (s s' : DraftState) : Prop :=
  ∀ id draft, s'.drafts.lookup id = some draft →
    (s.drafts.lookup id = some draft ∧ s'.scope = s.scope) ∨ s.version < draft.version

theorem lookup_deleteDraft {s : DraftState} {id other : JsString} {draft : Draft}
    (h : (deleteDraft s id).drafts.lookup other = some draft) :
    s.drafts.lookup other = some draft ∧ other ≠ id := by
  by_cases heq : other = id
  · rw [heq] at h
    exact absurd (h.symm.trans (List.lookup_filter_own id s.drafts)) (by simp)
  · exact ⟨(List.lookup_filter_other heq s.drafts).symm.trans h, heq⟩

/-- Saving only drops drafts. -/
theorem lookup_persist {s : DraftState} (hsound : Sound s) (clock : Clock) {id : JsString}
    {draft : Draft} (h : (persist host clock s).drafts.lookup id = some draft) :
    s.drafts.lookup id = some draft := by
  cases hscope : s.scope with
  | none => rwa [persist_unscoped host clock hscope] at h
  | some scope =>
    have hsuffix := (persist_spec host clock hscope).suffix
    exact List.lookup_of_mem hsound.nodup (hsuffix.subset (List.mem_of_lookup h))

theorem scope_persist (clock : Clock) (s : DraftState) :
    (persist host clock s).scope = s.scope ∧ (persist host clock s).version = s.version := by
  cases hscope : s.scope with
  | none =>
    rw [persist_unscoped host clock hscope]
    exact ⟨hscope, rfl⟩
  | some scope =>
    have hpersist := persist_spec host clock hscope
    exact ⟨hpersist.sameScope.trans hscope, hpersist.version⟩

theorem newer_deleted {s : DraftState} (hsound : Sound s) (clock : Clock) (id : JsString) :
    Newer s (persist host clock (deleteDraft s id)) := by
  intro other draft hdraft
  have hold := lookup_deleteDraft (lookup_persist (hsound.deleteDraft id) clock hdraft)
  exact .inl ⟨hold.1, (scope_persist clock _).1⟩

theorem version_deleted (clock : Clock) (s : DraftState) (id : JsString) :
    (persist host clock (deleteDraft s id)).version = s.version :=
  (scope_persist clock (deleteDraft s id)).2

theorem version_step {s : DraftState} (hkept : Kept host s) {command : DraftCommand}
    (hvalid : command.Valid host) : s.version ≤ (perform host s command).version := by
  cases command with
  | setScope clock next =>
    change s.version ≤ (setScope host clock next s).1.version
    unfold setScope
    split_ifs
    · exact le_rfl
    · cases next with
      | none => exact le_rfl
      | some next =>
        obtain ⟨context, hcontext⟩ := hvalid
        obtain ⟨user, accountId, projectId, revisionId, rfl⟩ := reviewDraftScope_eq hcontext
        exact (openScope_spec host clock user accountId projectId revisionId
          hkept.sound.limit).restored.mono
  | write clock path threadId text data =>
    change s.version ≤ (write host clock path threadId text data s).version
    rw [write_eq, (scope_persist clock _).2]
    split_ifs
    · exact le_nextVersion hkept.sound.limit
    · exact le_rfl
  | capture path threadId => exact le_rfl
  | acknowledge clock submitted =>
    change s.version ≤ (acknowledge host clock submitted s).1.version
    unfold acknowledge
    split_ifs
    · exact le_rfl
    · exact (version_deleted clock s submitted.key).ge
  | remove clock path threadId => exact (version_deleted clock s _).ge
  | clear => exact le_rfl

theorem newer_step {s : DraftState} (hkept : Kept host s) {command : DraftCommand}
    (hvalid : command.Valid host) (hexact : (perform host s command).version < 2 ^ 53) :
    Newer s (perform host s command) := by
  cases command with
  | setScope clock next =>
    change (setScope host clock next s).1.version < 2 ^ 53 at hexact
    change Newer s (setScope host clock next s).1
    unfold setScope at hexact ⊢
    split_ifs at hexact ⊢ with hsame
    · exact fun _ _ hdraft => .inl ⟨hdraft, rfl⟩
    · cases next with
      | none => exact fun _ _ hdraft => absurd hdraft (by simp)
      | some next =>
        obtain ⟨context, hcontext⟩ := hvalid
        obtain ⟨user, accountId, projectId, revisionId, rfl⟩ := reviewDraftScope_eq hcontext
        have hopened := openScope_spec host clock user accountId projectId revisionId
          hkept.sound.limit
        intro id draft hdraft
        exact .inr (hopened.restored.fresh hexact _ (List.mem_of_lookup hdraft)).1
  | write clock path threadId text data =>
    change (write host clock path threadId text data s).version < 2 ^ 53 at hexact
    change Newer s (write host clock path threadId text data s)
    rw [write_eq] at hexact ⊢
    split_ifs at hexact ⊢ with hnonempty
    · rw [(scope_persist clock _).2] at hexact
      intro id draft hdraft
      have hsound : Sound (appended s (draftKey path threadId) (text.take 4000, data)) := by
        refine hkept.sound.appended hvalid.1 ?_
        rw [List.length_take]
        exact min_le_left _ _
      have happended := lookup_persist hsound clock hdraft
      change List.lookup id (_ ++ _) = _ at happended
      rw [List.lookup_append, Option.or_eq_some_iff] at happended
      rcases happended with hold | ⟨-, hnew⟩
      · exact .inl ⟨(lookup_deleteDraft hold).1, (scope_persist clock _).1⟩
      · have hmem := List.mem_singleton.1 (List.mem_of_lookup hnew)
        right
        have hversion : draft.version = nextVersion s.version :=
          congrArg (fun entry => Draft.version entry.2) hmem
        rw [hversion, nextVersion_eq hexact]
        exact Nat.lt_succ_self _
    · exact newer_deleted hkept.sound clock _
  | capture path threadId => exact fun _ _ hdraft => .inl ⟨hdraft, rfl⟩
  | acknowledge clock submitted =>
    change Newer s (acknowledge host clock submitted s).1
    unfold acknowledge
    split_ifs
    · exact fun _ _ hdraft => .inl ⟨hdraft, rfl⟩
    · exact newer_deleted hkept.sound clock _
  | remove clock path threadId => exact newer_deleted hkept.sound clock _
  | clear => exact fun _ _ hdraft => absurd hdraft (by simp [perform, clear])

theorem version_run {s : DraftState} (hkept : Kept host s) {commands : List DraftCommand}
    (hvalid : ∀ command ∈ commands, command.Valid host) :
    s.version ≤ (run host s commands).version := by
  induction commands generalizing s with
  | nil => exact le_rfl
  | cons command commands ih =>
    rw [List.forall_mem_cons] at hvalid
    exact (version_step hkept hvalid.1).trans (ih (hkept.step hvalid.1) hvalid.2)

/-- A draft that is no newer than the start of a run was there all the time. -/
theorem draft_of_run {s : DraftState} (hkept : Kept host s) {commands : List DraftCommand}
    (hvalid : ∀ command ∈ commands, command.Valid host)
    (hexact : (run host s commands).version < 2 ^ 53) {id : JsString} {draft : Draft}
    (hdraft : (run host s commands).drafts.lookup id = some draft)
    (hold : draft.version ≤ s.version) :
    s.drafts.lookup id = some draft ∧ (run host s commands).scope = s.scope := by
  induction commands generalizing s with
  | nil => exact ⟨hdraft, rfl⟩
  | cons command commands ih =>
    rw [List.forall_mem_cons] at hvalid
    have hkept' := hkept.step hvalid.1
    have hversion := version_step hkept hvalid.1
    obtain ⟨hnext, hscope⟩ := ih hkept' hvalid.2 hexact hdraft (hold.trans hversion)
    have hexact' := (version_run hkept' hvalid.2).trans_lt hexact
    rcases newer_step hkept hvalid.1 hexact' id draft hnext with ⟨hlookup, hsame⟩ | hnewer
    · exact ⟨hlookup, hscope.trans hsame⟩
    · exact absurd hold hnewer.not_ge

end Newer

section Acknowledge
variable {host : DraftHost}

theorem run_append (s : DraftState) (first last : List DraftCommand) :
    run host s (first ++ last) = run host (run host s first) last := List.foldl_append

/-- An acknowledged draft is the one that was captured, and it was there ever since. -/
theorem acknowledge_captured {s : DraftState} (hkept : Kept host s) (path threadId : JsString)
    {between : List DraftCommand} (hvalid : ∀ command ∈ between, command.Valid host)
    (hexact : (run host s between).version < 2 ^ 53) (clock : Clock)
    (hacknowledged : (acknowledge host clock (capture s path threadId)
      (run host s between)).2 = true) {first last : List DraftCommand}
    (hbetween : between = first ++ last) :
    (run host s first).scope = (capture s path threadId).scope ∧
      (run host s first).drafts.lookup (capture s path threadId).key =
        some (capture s path threadId).toDraft := by
  unfold acknowledge at hacknowledged
  split_ifs at hacknowledged with hrefused
  rw [not_or, not_not, not_not] at hrefused
  obtain ⟨hscope, hversion⟩ := hrefused
  obtain ⟨draft, hdraft, hsame⟩ := Option.map_eq_some_iff.1 hversion
  have hexact' : s.version < 2 ^ 53 := (version_run hkept hvalid).trans_lt hexact
  have hold : draft.version ≤ s.version := by
    rw [hsame]
    unfold capture get
    cases hget : s.drafts.lookup (draftKey path threadId) with
    | none => exact Nat.zero_le _
    | some found =>
      exact hkept.sound.versions hexact' _ (List.mem_of_lookup hget)
  have hcaptured : (capture s path threadId).toDraft = draft := by
    have hstart := (draft_of_run hkept hvalid hexact hdraft hold).1
    unfold capture get
    dsimp only
    rw [show s.drafts.lookup (draftKey path threadId) = some draft from hstart, Option.getD_some]
  subst hbetween
  have hfirst : ∀ command ∈ first, command.Valid host :=
    fun command hcommand => hvalid command (List.mem_append_left _ hcommand)
  have hlast : ∀ command ∈ last, command.Valid host :=
    fun command hcommand => hvalid command (List.mem_append_right _ hcommand)
  rw [run_append] at hdraft hscope hexact
  obtain ⟨hlookup, hsameScope⟩ := draft_of_run (hkept.run hfirst) hlast hexact hdraft
    (hold.trans (version_run hkept hfirst))
  exact ⟨hsameScope.symm.trans hscope.symm, hcaptured ▸ hlookup⟩

/-- An acknowledgement removes its draft; others go, the oldest first, only where the rest is too
long to be saved. -/
theorem acknowledge_others {s : DraftState} {scope : JsString} (hscope : s.scope = some scope)
    (hcount : s.drafts.length ≤ maxEntries) (clock : Clock) (submitted : Submission) :
    ((acknowledge host clock submitted s).2 = false →
      (acknowledge host clock submitted s).1 = s) ∧
    ((acknowledge host clock submitted s).2 = true →
      (acknowledge host clock submitted s).1.drafts <:+ (deleteDraft s submitted.key).drafts ∧
        ((serialized host (clock.now 0) (deleteDraft s submitted.key).drafts).length ≤
            maxSerializedLength →
          (acknowledge host clock submitted s).1.drafts =
            (deleteDraft s submitted.key).drafts)) := by
  unfold acknowledge
  split_ifs
  · exact ⟨fun _ => rfl, by rintro ⟨⟩⟩
  · have hpersist := persist_spec host clock (s := deleteDraft s submitted.key) hscope
    refine ⟨by rintro ⟨⟩, fun _ => ⟨hpersist.suffix, hpersist.fits ?_⟩⟩
    exact List.filter_sublist.length_le.trans hcount

end Acknowledge

section Reload
variable {host : DraftHost}

/-- What is saved in a scope has not expired at any reading of the clock. -/
def Unexpired (host : DraftHost) (scope : JsString) (storage : DraftStorage) (clock : Clock) : Prop :=
  ∀ raw expiresAt entries, storage.getItem (storageKeyOf host.channel scope) = some raw →
    savedFields host raw = some (expiresAt, entries) →
      ∀ i, isAtMost (clock.now i) expiresAt = false

/-- A new store on the storage after its scope was set. -/
def reopened (host : DraftHost) (clock : Clock) (scope : JsString) (storage : DraftStorage) :
    DraftState :=
  (setScope host clock (some scope) (.new storage)).1

theorem reopened_eq (clock : Clock) (scope : JsString) (storage : DraftStorage) :
    reopened host clock scope storage = openScope host clock scope (.new storage) := by
  unfold reopened setScope
  rw [if_neg (by rintro ⟨⟩)]

/-- The new store reads what is stored. -/
theorem visible_reopened {scope : JsString} (hscope : IsDraftScope scope) {storage : DraftStorage}
    {clock : Clock} (hunexpired : Unexpired host scope storage clock) :
    visible (reopened host clock scope storage).drafts =
      storedContents host storage (storageKeyOf host.channel scope) := by
  obtain ⟨user, accountId, projectId, revisionId, rfl⟩ := hscope
  have hopened := openScope_spec host clock user accountId projectId revisionId
    (s := .new storage) (Nat.zero_le _)
  rw [reopened_eq]
  -- Where the storage holds nothing to read, neither does what is left of it.
  have hnothing : storedContents host storage (storageKeyOf host.channel
      (scopeText user accountId projectId revisionId)) = [] →
        visible (openScope host clock (scopeText user accountId projectId revisionId)
          (.new storage)).drafts = [] := by
    intro hnone
    rw [hopened.seen]
    rcases hopened.removes (storageKeyOf host.channel
      (scopeText user accountId projectId revisionId)) with heq | hgone
    · exact (storedContents_congr host heq).trans hnone
    · exact storedContents_none host hgone
  by_cases hnone : storedContents host storage (storageKeyOf host.channel
      (scopeText user accountId projectId revisionId)) = []
  · rw [hnothing hnone, hnone]
  · have hstored := hnone
    unfold storedContents at hnone ⊢
    cases hraw : storage.getItem (storageKeyOf host.channel
        (scopeText user accountId projectId revisionId)) with
    | none =>
      rw [hraw] at hnone
      exact absurd rfl hnone
    | some raw =>
      rw [hraw] at hnone
      dsimp only at hnone ⊢
      split_ifs at hnone ⊢ with hlong
      · exact absurd rfl hnone
      · rw [not_or, not_lt] at hlong
        cases hsaved : savedFields host raw with
        | none =>
          rw [hsaved] at hnone
          exact absurd rfl hnone
        | some fields =>
          obtain ⟨expiresAt, entries⟩ := fields
          rw [(openScope_reads host clock user accountId projectId revisionId hraw hlong.1
            hlong.2 hsaved (hunexpired raw expiresAt entries hraw hsaved)).1]
          exact visible_restored _ [] _

theorem normal_of_data {content : Content}
    (h : ∀ value, content.2 = some value → value.IsData host.format) :
    content.normal host = content := by
  obtain ⟨text, data⟩ := content
  cases data with
  | none => rfl
  | some value =>
    unfold Content.normal
    rw [Option.map_some, Json.normal_of_isData host.format value (h value rfl)]

/-- A draft is read back with its text and data. -/
theorem get_reopened {s : DraftState} {scope : JsString} (hscope : IsDraftScope scope)
    (hsaved : Saved host scope s) {clock : Clock}
    (hunexpired : Unexpired host scope s.storage clock) (path threadId : JsString) :
    (get s path threadId = none →
      get (reopened host clock scope s.storage) path threadId = none) ∧
    ∀ draft, get s path threadId = some draft →
      (∀ value, draft.data = some value → value.IsData host.format) →
        ∃ version, get (reopened host clock scope s.storage) path threadId =
          some ⟨draft.text, version, draft.data⟩ := by
  have hlookup : ∀ drafts : List (JsString × Draft),
      (visible drafts).lookup (draftKey path threadId) =
        (drafts.lookup (draftKey path threadId)).map Draft.content :=
    fun drafts => List.lookup_map_values Draft.content _ drafts
  have hread : ((get (reopened host clock scope s.storage) path threadId).map Draft.content =
      (get s path threadId).map Draft.content) ∨
      ((get (reopened host clock scope s.storage) path threadId).map Draft.content =
        ((get s path threadId).map Draft.content).map (Content.normal host)) := by
    unfold get
    rw [← hlookup, ← hlookup, visible_reopened hscope hunexpired]
    rcases hsaved with heq | heq
    · rw [heq]
      exact .inl rfl
    · rw [heq, List.lookup_map_values]
      exact .inr rfl
  constructor
  · intro hnone
    rw [hnone] at hread
    rcases hread with hread | hread
    · exact Option.map_eq_none_iff.1 hread
    · exact Option.map_eq_none_iff.1 hread
  · intro draft hdraft hdata
    have hnormal : draft.content.normal host = draft.content := normal_of_data hdata
    rw [hdraft, Option.map_some, Option.map_some, hnormal, or_self] at hread
    obtain ⟨found, hfound, hcontent⟩ := Option.map_eq_some_iff.1 hread
    obtain ⟨text, version, data⟩ := found
    obtain ⟨htext, hdata'⟩ := Prod.mk.inj hcontent
    refine ⟨version, hfound.trans ?_⟩
    rw [← htext, ← hdata']

end Reload

end Lotur.Review.Drafts
