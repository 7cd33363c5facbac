import Lotur.Review.DraftSteps

/-! What a draft store keeps over its calls. -/
namespace Lotur.Review.Drafts
open JsString OpenHttp

section Invariant
variable (host : DraftHost)

/-- Drafts with keys of their own, within the limits, and no newer than the counter. -/
structure Sound (s : DraftState) : Prop where
  limit : s.version ≤ 2 ^ 53
  nodup : (s.drafts.map Prod.fst).Nodup
  valid : ∀ entry ∈ s.drafts, ValidEntry entry
  versions : s.version < 2 ^ 53 → ∀ entry ∈ s.drafts, entry.2.version ≤ s.version

/-- The storage holds what the user sees, or what a text keeps of it. -/
def Saved (scope : JsString) (s : DraftState) : Prop :=
  storedContents host s.storage (storageKeyOf host.channel scope) = visible s.drafts ∨
    storedContents host s.storage (storageKeyOf host.channel scope) =
      (visible s.drafts).map (Prod.map id (Content.normal host))

/-- A scope as `reviewDraftScope` makes it. -/
def IsDraftScope (scope : JsString) : Prop :=
  ∃ user accountId projectId revisionId, scope = scopeText user accountId projectId revisionId

structure InScope (scope : JsString) (s : DraftState) : Prop where
  isScope : IsDraftScope scope
  count : s.drafts.length ≤ maxEntries
  bounded : Bounded s.storage
  saved : s.version < 2 ^ 53 → Saved host scope s

structure Kept (s : DraftState) : Prop where
  sound : Sound s
  inScope : ∀ scope, s.scope = some scope → InScope host scope s

variable {host}

theorem Sound.sublist {s s' : DraftState} (h : Sound s) (hversion : s'.version = s.version)
    (hdrafts : s'.drafts.Sublist s.drafts) : Sound s' where
  limit := hversion ▸ h.limit
  nodup := h.nodup.sublist (hdrafts.map Prod.fst)
  valid entry hentry := h.valid entry (hdrafts.subset hentry)
  versions hexact entry hentry := by
    rw [hversion] at hexact ⊢
    exact h.versions hexact entry (hdrafts.subset hentry)

theorem Sound.deleteDraft {s : DraftState} (h : Sound s) (id : JsString) :
    Sound (deleteDraft s id) :=
  h.sublist rfl List.filter_sublist

/-- The entries of a text are read up to the limit, which the drafts keep to. -/
theorem latestEntries_of_count {entries : List Json} (h : entries.length ≤ maxEntries) :
    latestEntries entries = entries := by
  unfold latestEntries
  rw [Nat.sub_eq_zero_of_le h, List.drop_zero]

theorem serialized_ne_nil (time : ℤ) (drafts : List (JsString × Draft)) :
    serialized host time drafts ≠ [] := by
  unfold serialized
  rw [Json.stringify]
  exact List.cons_ne_nil _ _

/-- What was written is stored. -/
theorem storedContents_serialized {storage : DraftStorage} {name : JsString} {time : ℤ}
    {s : DraftState} (hsound : Sound s) (hexact : s.version < 2 ^ 53)
    (htime : isTimeValue time = true) (hcount : s.drafts.length ≤ maxEntries)
    (hlength : (serialized host time s.drafts).length ≤ maxSerializedLength)
    (hitem : storage.getItem name = some (serialized host time s.drafts)) :
    storedContents host storage name =
      (visible s.drafts).map (Prod.map id (Content.normal host)) := by
  unfold storedContents
  rw [hitem]
  dsimp only
  rw [if_neg (not_or.2 ⟨serialized_ne_nil time s.drafts, hlength.not_gt⟩),
    savedFields_serialized host htime]
  dsimp only
  rw [latestEntries_of_count (by rwa [List.length_map]),
    contents_entryJson host hsound.nodup hsound.valid]
  exact fun entry hentry => (hsound.versions hexact entry hentry).trans_lt hexact

/-- Saving keeps everything. -/
theorem Kept.persist {s : DraftState} (hsound : Sound s)
    (hscoped : ∀ scope, s.scope = some scope → IsDraftScope scope ∧ Bounded s.storage)
    (clock : Clock) :
    Kept host (persist host clock s) := by
  cases hscope : s.scope with
  | none =>
    rw [persist_unscoped host clock hscope]
    refine ⟨hsound, fun scope hsome => ?_⟩
    rw [hscope] at hsome
    cases hsome
  | some scope =>
    have hpersist := persist_spec host clock hscope
    have hsound' := hsound.sublist hpersist.version hpersist.suffix.sublist
    refine ⟨hsound', fun other hother => ?_⟩
    obtain rfl : scope = other := by
      rw [hpersist.sameScope, hscope] at hother
      exact Option.some.inj hother
    obtain ⟨hisScope, hbounded⟩ := hscoped scope hscope
    rcases hpersist.stored with ⟨hnone, hstorage⟩ | ⟨last, hlength, hstorage⟩
    · refine ⟨hisScope, hpersist.count, ?_, fun _ => .inl ?_⟩
      · rw [hstorage]
        exact hbounded.removes (removes_removeItem _ _)
      · rw [storedContents_none host (by rw [hstorage]; exact getItem_removeItem_own), hnone]
        rfl
    · refine ⟨hisScope, hpersist.count, ?_, fun hexact => .inr ?_⟩
      · rw [hstorage]
        exact hbounded.setItem hlength
      · refine storedContents_serialized hsound' hexact (clock.isTimeValue_now last)
          hpersist.count hlength ?_
        rw [hstorage]
        exact getItem_setItem_own

end Invariant

section Steps
variable (host : DraftHost)

/-- Scopes as `reviewDraftScope` makes them, JSON data and keys of a length that is read. -/
def DraftCommand.Valid : DraftCommand → Prop
  | .setScope _ next => ∃ context, next = reviewDraftScope context
  | .write _ path threadId _ data =>
    (draftKey path threadId).length ≤ 5000 ∧ ∀ value, data = some value → value.IsData host.format
  | _ => True

variable {host}

theorem reviewDraftScope_eq {context : ReviewContext} {scope : JsString}
    (h : some scope = reviewDraftScope context) : IsDraftScope scope := by
  unfold reviewDraftScope at h
  cases hsession : context.draftSession with
  | none =>
    rw [hsession] at h
    cases h
  | some session =>
    rw [hsession] at h
    dsimp only at h
    split_ifs at h
    exact ⟨_, _, _, _, Option.some.inj h⟩

theorem Kept.openScope {s : DraftState} (h : Kept host s) (clock : Clock)
    (user accountId projectId revisionId : JsString) :
    Kept host (openScope host clock (scopeText user accountId projectId revisionId) s) := by
  have hopened := openScope_spec host clock user accountId projectId revisionId h.sound.limit
  have hrestored := hopened.restored
  refine ⟨⟨hrestored.limit, hrestored.nodup, hrestored.valid, ?_⟩, fun scope hscope => ?_⟩
  · exact fun hexact entry hentry => (hrestored.fresh hexact entry hentry).2
  · rw [hopened.isScope] at hscope
    cases hscope
    exact ⟨⟨_, _, _, _, rfl⟩, hopened.count, hopened.bounded, fun _ => .inl hopened.seen.symm⟩

/-- A new version is put at the end. -/
def appended (s : DraftState) (id : JsString) (content : Content) : DraftState :=
  { deleteDraft s id with
    drafts := (deleteDraft s id).drafts ++ [(id, ⟨content.1, nextVersion s.version, content.2⟩)]
    version := nextVersion s.version }

theorem write_eq (clock : Clock) (path threadId text : JsString) (data : Option Json)
    (s : DraftState) : write host clock path threadId text data s = persist host clock
      (if text ≠ [] ∨ data.isSome = true then
        appended s (draftKey path threadId) (text.take 4000, data)
      else deleteDraft s (draftKey path threadId)) := by
  unfold write
  dsimp only
  split_ifs <;> rfl

/-- A draft whose text fits is put behind the others and saved. -/
theorem write_of_fits (host : DraftHost) (clock : Clock) {s : DraftState} {scope : JsString}
    (hscope : s.scope = some scope) (path threadId text : JsString) (htext : text ≠ [])
    (data : Option Json) (drafts : List (JsString × Draft))
    (hdrafts : drafts = (deleteDraft s (draftKey path threadId)).drafts ++
      [(draftKey path threadId, ⟨text.take 4000, nextVersion s.version, data⟩)])
    (hcount : drafts.length ≤ maxEntries)
    (hfits : (serialized host (clock.now 0) drafts).length ≤ maxSerializedLength) :
    write host clock path threadId text data s =
      { s with
        drafts
        version := nextVersion s.version
        storage := s.storage.setItem (storageKeyOf host.channel scope)
          (serialized host (clock.now 0) drafts) } := by
  subst hdrafts
  rw [write_eq, if_pos (.inl htext)]
  exact persist_of_fits (s := appended s _ _) host clock hscope
    (List.append_ne_nil_of_right_ne_nil _ (List.cons_ne_nil _ _)) hcount hfits

theorem Sound.appended {s : DraftState} (h : Sound s) {id : JsString} (hid : id.length ≤ 5000)
    {content : Content} (htext : content.1.length ≤ 4000) : Sound (appended s id content) := by
  have hdeleted := h.deleteDraft id
  have hle := le_nextVersion h.limit
  refine ⟨nextVersion_le, ?_, ?_, ?_⟩
  · change (List.map Prod.fst (_ ++ _)).Nodup
    rw [List.map_append, List.nodup_append]
    refine ⟨hdeleted.nodup, List.nodup_singleton id, ?_⟩
    rintro other hother _ hkey rfl
    obtain ⟨entry, hentry, rfl⟩ := List.mem_map.1 hother
    exact of_decide_eq_true (List.mem_filter.1 hentry).2 (List.mem_singleton.1 hkey)
  · intro entry hentry
    rcases List.mem_append.1 hentry with hold | hnew
    · exact hdeleted.valid entry hold
    · rw [List.mem_singleton.1 hnew]
      exact ⟨hid, htext, nextVersion_pos⟩
  · intro hexact entry hentry
    rcases List.mem_append.1 hentry with hold | hnew
    · exact (hdeleted.versions (hle.trans_lt hexact) entry hold).trans hle
    · rw [List.mem_singleton.1 hnew]
      exact le_rfl

theorem Kept.step {s : DraftState} (h : Kept host s) {command : DraftCommand}
    (hvalid : command.Valid host) : Kept host (perform host s command) := by
  have hscoped : ∀ scope, s.scope = some scope → IsDraftScope scope ∧ Bounded s.storage :=
    fun scope hscope => ⟨(h.inScope scope hscope).isScope, (h.inScope scope hscope).bounded⟩
  cases command with
  | setScope clock next =>
    change Kept host (setScope host clock next s).1
    unfold setScope
    split_ifs with hsame
    · exact h
    · cases next with
      | none => exact ⟨h.sound.sublist rfl (List.nil_sublist _), by rintro _ ⟨⟩⟩
      | some next =>
        obtain ⟨context, hcontext⟩ := hvalid
        obtain ⟨user, accountId, projectId, revisionId, rfl⟩ := reviewDraftScope_eq hcontext
        exact h.openScope clock user accountId projectId revisionId
  | write clock path threadId text data =>
    change Kept host (write host clock path threadId text data s)
    rw [write_eq]
    split_ifs
    · refine Kept.persist (h.sound.appended hvalid.1 ?_) hscoped clock
      rw [List.length_take]
      exact min_le_left _ _
    · exact Kept.persist (h.sound.deleteDraft _) hscoped clock
  | capture path threadId => exact h
  | acknowledge clock submitted =>
    change Kept host (acknowledge host clock submitted s).1
    unfold acknowledge
    split_ifs
    · exact h
    · exact Kept.persist (h.sound.deleteDraft _) hscoped clock
  | remove clock path threadId => exact Kept.persist (h.sound.deleteDraft _) hscoped clock
  | clear =>
    refine ⟨h.sound.sublist rfl (List.nil_sublist _), fun scope hscope => ?_⟩
    have hremoves : Removes s.storage (clear s).storage := by
      intro name
      have hlookup := List.lookup_filter_key (fun name => !startsWith name draftPrefix) name s.storage
      by_cases hname : startsWith name draftPrefix = true
      · rw [if_neg (by rw [hname]; decide)] at hlookup
        exact .inr hlookup
      · rw [if_pos (by rw [Bool.eq_false_iff.2 hname]; rfl)] at hlookup
        exact .inl hlookup
    have hgone : (clear s).storage.getItem (storageKeyOf host.channel scope) = none := by
      have hlookup := List.lookup_filter_key (fun name => !startsWith name draftPrefix)
        (storageKeyOf host.channel scope) s.storage
      rwa [startsWith_storageKeyOf, if_neg (by decide)] at hlookup
    exact ⟨(hscoped scope hscope).1, Nat.zero_le _, (hscoped scope hscope).2.removes hremoves,
      fun _ => .inl (storedContents_none host hgone)⟩

theorem kept_new (storage : DraftStorage) : Kept host (.new storage) :=
  ⟨⟨Nat.zero_le _, List.nodup_nil, fun _ hentry => absurd hentry List.not_mem_nil,
    fun _ _ hentry => absurd hentry List.not_mem_nil⟩, by rintro _ ⟨⟩⟩

theorem Kept.run {s : DraftState} (h : Kept host s) {commands : List DraftCommand}
    (hvalid : ∀ command ∈ commands, command.Valid host) : Kept host (run host s commands) := by
  induction commands generalizing s with
  | nil => exact h
  | cons command commands ih =>
    rw [List.forall_mem_cons] at hvalid
    exact ih (h.step hvalid.1) hvalid.2

end Steps

end Lotur.Review.Drafts
