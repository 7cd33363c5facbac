import Lotur.Review.DraftSurvival

/-! Where the drafts of a scope come from, and what a draft store keeps in all. -/
namespace Lotur.Review.Drafts
open JsString OpenHttp

section Origins
variable (host : DraftHost) (storage : DraftStorage)

/-- The content was written in the scope in the course of the calls. -/
def Written (commands : List DraftCommand) (scope id : JsString) (content : Content) : Prop :=
  ∃ before clock path threadId text data after,
    commands = before ++ .write clock path threadId text data :: after ∧
      (run host (.new storage) before).scope = some scope ∧ id = draftKey path threadId ∧
        content = (text.take 4000, data)

/-- The draft was written in the scope, or the storage held it for the scope at first. -/
def From (commands : List DraftCommand) (scope : JsString) (entry : JsString × Content) : Prop :=
  ∃ source : Content, (Written host storage commands scope entry.1 source ∨
      (entry.1, source) ∈ storedContents host storage (storageKeyOf host.channel scope)) ∧
    entry.2.1 = source.1 ∧
    ((∀ value, source.2 = some value → value.IsData host.format) → entry.2 = source)

structure Origins (commands : List DraftCommand) (s : DraftState) : Prop where
  stored : ∀ scope, ∀ entry ∈ storedContents host s.storage (storageKeyOf host.channel scope),
    From host storage commands scope entry
  held : ∀ scope, s.scope = some scope → ∀ entry ∈ visible s.drafts,
    From host storage commands scope entry

variable {host storage}

theorem Written.append {commands : List DraftCommand} {scope id : JsString} {content : Content}
    (h : Written host storage commands scope id content) (command : DraftCommand) :
    Written host storage (commands ++ [command]) scope id content := by
  obtain ⟨before, clock, path, threadId, text, data, after, rfl, hfacts⟩ := h
  refine ⟨before, clock, path, threadId, text, data, after ++ [command], ?_, hfacts⟩
  rw [List.append_assoc, List.cons_append]

theorem From.append {commands : List DraftCommand} {scope : JsString} {entry : JsString × Content}
    (h : From host storage commands scope entry) (command : DraftCommand) :
    From host storage (commands ++ [command]) scope entry := by
  obtain ⟨source, hsource, htext, hdata⟩ := h
  exact ⟨source, hsource.imp_left fun hwritten => hwritten.append command, htext, hdata⟩

/-- What a text keeps of a draft comes from where the draft does. -/
theorem From.normal {commands : List DraftCommand} {scope : JsString} {entry : JsString × Content}
    (h : From host storage commands scope entry) :
    From host storage commands scope (Prod.map id (Content.normal host) entry) := by
  obtain ⟨source, hsource, htext, hdata⟩ := h
  refine ⟨source, hsource, htext, fun hsourceData => ?_⟩
  have heq := hdata hsourceData
  change entry.2.normal host = source
  rw [heq]
  exact normal_of_data hsourceData

theorem Origins.append {commands : List DraftCommand} {s : DraftState}
    (h : Origins host storage commands s) (command : DraftCommand) :
    Origins host storage (commands ++ [command]) s :=
  ⟨fun scope entry hentry => (h.stored scope entry hentry).append command,
    fun scope hscope entry hentry => (h.held scope hscope entry hentry).append command⟩

theorem storedContents_removes {storage storage' : DraftStorage} (h : Removes storage storage')
    {name : JsString} {entry : JsString × Content}
    (hentry : entry ∈ storedContents host storage' name) :
    entry ∈ storedContents host storage name := by
  rcases h name with heq | hnone
  · rwa [storedContents_congr host heq] at hentry
  · rw [storedContents_none host hnone] at hentry
    exact absurd hentry List.not_mem_nil

theorem Origins.removes {commands : List DraftCommand} {s s' : DraftState}
    (h : Origins host storage commands s) (hremoves : Removes s.storage s'.storage)
    (hdrafts : s'.drafts = []) : Origins host storage commands s' where
  stored scope entry hentry := h.stored scope entry (storedContents_removes hremoves hentry)
  held scope _ entry hentry := by
    rw [hdrafts] at hentry
    exact absurd hentry List.not_mem_nil

theorem visible_sublist {drafts drafts' : List (JsString × Draft)} (h : drafts'.Sublist drafts) :
    (visible drafts').Sublist (visible drafts) := h.map _

/-- Saving stores drafts under the name of their own scope. -/
theorem Origins.persist {commands : List DraftCommand} {s : DraftState} (hsound : Sound s)
    (hexact : s.version < 2 ^ 53) (h : Origins host storage commands s) (clock : Clock) :
    Origins host storage commands (persist host clock s) := by
  cases hscope : s.scope with
  | none => rwa [persist_unscoped host clock hscope]
  | some scope =>
    have hpersist := persist_spec host clock hscope
    have hheld : ∀ entry ∈ visible (Drafts.persist host clock s).drafts,
        From host storage commands scope entry :=
      fun entry hentry => h.held scope hscope entry
        ((visible_sublist hpersist.suffix.sublist).subset hentry)
    refine ⟨fun other entry hentry => ?_, fun other hother entry hentry => ?_⟩
    · by_cases hsame : storageKeyOf host.channel other = storageKeyOf host.channel scope
      · obtain rfl := storageKeyOf_injective host hsame
        rcases hpersist.stored with ⟨hnone, hstorage⟩ | ⟨last, hlength, hstorage⟩
        · rw [storedContents_none host (by rw [hstorage]; exact getItem_removeItem_own)] at hentry
          exact absurd hentry List.not_mem_nil
        · rw [storedContents_serialized (hsound.sublist hpersist.version hpersist.suffix.sublist)
            (by rwa [hpersist.version]) (clock.isTimeValue_now last) hpersist.count hlength
            (by rw [hstorage]; exact getItem_setItem_own)] at hentry
          obtain ⟨seen, hseen, rfl⟩ := List.mem_map.1 hentry
          exact (hheld seen hseen).normal
      · have hitem : (Drafts.persist host clock s).storage.getItem
            (storageKeyOf host.channel other) =
              s.storage.getItem (storageKeyOf host.channel other) := by
          rcases hpersist.stored with ⟨-, hstorage⟩ | ⟨last, -, hstorage⟩
          · rw [hstorage, getItem_removeItem_other hsame]
          · rw [hstorage, getItem_setItem_other hsame]
        rw [storedContents_congr host hitem] at hentry
        exact h.stored other entry hentry
    · rw [hpersist.sameScope, hscope] at hother
      obtain rfl := Option.some.inj hother
      exact hheld entry hentry

theorem Origins.deleteDraft {commands : List DraftCommand} {s : DraftState}
    (h : Origins host storage commands s) (id : JsString) :
    Origins host storage commands (deleteDraft s id) where
  stored := h.stored
  held scope hscope entry hentry := h.held scope hscope entry
    ((visible_sublist List.filter_sublist).subset hentry)

/-- A written draft comes from its call. -/
theorem Origins.appended {commands : List DraftCommand} {clock : Clock}
    {path threadId text : JsString} {data : Option Json}
    (h : Origins host storage commands (run host (.new storage) commands)) :
    Origins host storage (commands ++ [.write clock path threadId text data])
      (appended (run host (.new storage) commands) (draftKey path threadId)
        (text.take 4000, data)) := by
  have hdeleted := (h.append (.write clock path threadId text data)).deleteDraft
    (draftKey path threadId)
  refine ⟨hdeleted.stored, fun scope hscope entry hentry => ?_⟩
  change entry ∈ visible (_ ++ _) at hentry
  unfold visible at hentry
  rw [List.map_append, List.mem_append] at hentry
  rcases hentry with hold | hnew
  · exact hdeleted.held scope hscope entry hold
  · rw [List.map_singleton] at hnew
    rw [List.mem_singleton.1 hnew]
    refine ⟨(text.take 4000, data), .inl ?_, rfl, fun _ => rfl⟩
    exact ⟨commands, clock, path, threadId, text, data, [], rfl, hscope, rfl, rfl⟩

theorem Origins.step {commands : List DraftCommand} {command : DraftCommand}
    (hkept : Kept host (run host (.new storage) commands)) (hvalid : command.Valid host)
    (hexact : (run host (.new storage) (commands ++ [command])).version < 2 ^ 53)
    (h : Origins host storage commands (run host (.new storage) commands)) :
    Origins host storage (commands ++ [command])
      (run host (.new storage) (commands ++ [command])) := by
  have hrun : run host (.new storage) (commands ++ [command]) =
      perform host (run host (.new storage) commands) command := run_append _ _ _
  rw [hrun] at hexact ⊢
  have hbefore : (run host (.new storage) commands).version < 2 ^ 53 :=
    (version_step hkept hvalid).trans_lt hexact
  have happend := h.append command
  have hpersist : ∀ clock id, Origins host storage (commands ++ [command])
      (Drafts.persist host clock (Drafts.deleteDraft (run host (.new storage) commands) id)) :=
    fun clock id => Origins.persist (hkept.sound.deleteDraft id) hbefore (happend.deleteDraft id)
      clock
  cases command with
  | setScope clock next =>
    change Origins host storage _ (setScope host clock next _).1
    unfold setScope
    split_ifs with hsame
    · exact happend
    · cases next with
      | none => exact happend.removes (.refl _) rfl
      | some next =>
        obtain ⟨context, hcontext⟩ := hvalid
        obtain ⟨user, accountId, projectId, revisionId, rfl⟩ := reviewDraftScope_eq hcontext
        have hopened := openScope_spec host clock user accountId projectId revisionId
          hkept.sound.limit
        refine ⟨fun scope entry hentry => ?_, fun scope hscope entry hentry => ?_⟩
        · exact happend.stored scope entry (storedContents_removes hopened.removes hentry)
        · rw [hopened.isScope] at hscope
          cases hscope
          rw [hopened.seen] at hentry
          exact happend.stored _ entry (storedContents_removes hopened.removes hentry)
  | write clock path threadId text data =>
    change (write host clock path threadId text data _).version < 2 ^ 53 at hexact
    change Origins host storage _ (write host clock path threadId text data _)
    rw [write_eq] at hexact ⊢
    split_ifs at hexact ⊢ with hnonempty
    · rw [(scope_persist clock _).2] at hexact
      refine Origins.persist (hkept.sound.appended hvalid.1 ?_) hexact h.appended clock
      rw [List.length_take]
      exact min_le_left _ _
    · exact hpersist clock _
  | capture path threadId => exact happend
  | acknowledge clock submitted =>
    change Origins host storage _ (acknowledge host clock submitted _).1
    unfold acknowledge
    split_ifs
    · exact happend
    · exact hpersist clock _
  | remove clock path threadId => exact hpersist clock _
  | clear =>
    refine happend.removes ?_ rfl
    intro name
    have hlookup := List.lookup_filter_key (fun name => !startsWith name draftPrefix) name
      (run host (.new storage) commands).storage
    split_ifs at hlookup
    · exact .inl hlookup
    · exact .inr hlookup

theorem origins_run {commands : List DraftCommand}
    (hvalid : ∀ command ∈ commands, command.Valid host)
    (hexact : (run host (.new storage) commands).version < 2 ^ 53) :
    Origins host storage commands (run host (.new storage) commands) := by
  induction commands using List.reverseRecOn with
  | nil =>
    refine ⟨fun scope entry hentry => ⟨entry.2, .inr hentry, rfl, fun _ => rfl⟩, ?_⟩
    rintro _ ⟨⟩
  | append_singleton commands command ih =>
    have hbefore : ∀ command ∈ commands, command.Valid host :=
      fun command hcommand => hvalid command (List.mem_append_left _ hcommand)
    have hlast : command.Valid host := hvalid command (by simp)
    have hkept := (@kept_new host storage).run hbefore
    have hexact' : (run host (.new storage) commands).version < 2 ^ 53 := by
      refine lt_of_le_of_lt ?_ hexact
      rw [run_append]
      exact version_step hkept hlast
    exact Origins.step hkept hlast hexact (ih hbefore hexact')

end Origins

end Lotur.Review.Drafts
