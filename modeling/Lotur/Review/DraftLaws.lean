import Lotur.Review.DraftOrigins
import Lotur.Review.IntegerFormat

/-! What a draft store promises in every run, and what it does not. -/
namespace Lotur.Review.Drafts
open JsString OpenHttp

/-- What holds of a run that ends in a scope. -/
structure Survives (host : DraftHost) (storage : DraftStorage) (commands : List DraftCommand)
    (scope : JsString) : Prop where
  captured : ∀ before path threadId between clock,
    commands = before ++ .capture path threadId :: between →
      (acknowledge host clock (capture (run host (.new storage) before) path threadId)
        (run host (.new storage) commands)).2 = true →
      ∀ first last, between = first ++ last →
        (run host (.new storage) (before ++ .capture path threadId :: first)).scope =
          (capture (run host (.new storage) before) path threadId).scope ∧
        get (run host (.new storage) (before ++ .capture path threadId :: first)) path threadId =
          some (capture (run host (.new storage) before) path threadId).toDraft
  refused : ∀ clock submitted,
    (acknowledge host clock submitted (run host (.new storage) commands)).2 = false →
      (acknowledge host clock submitted (run host (.new storage) commands)).1 =
        run host (.new storage) commands
  acknowledged : ∀ clock submitted,
    (acknowledge host clock submitted (run host (.new storage) commands)).2 = true →
      (acknowledge host clock submitted (run host (.new storage) commands)).1.drafts <:+
        (deleteDraft (run host (.new storage) commands) submitted.key).drafts ∧
      ((serialized host (clock.now 0)
          (deleteDraft (run host (.new storage) commands) submitted.key).drafts).length ≤
            maxSerializedLength →
        (acknowledge host clock submitted (run host (.new storage) commands)).1.drafts =
          (deleteDraft (run host (.new storage) commands) submitted.key).drafts)
  count : (run host (.new storage) commands).drafts.length ≤ maxEntries
  bounded : Bounded (run host (.new storage) commands).storage
  reloaded : ∀ clock, Unexpired host scope (run host (.new storage) commands).storage clock →
    ∀ path threadId,
      (get (run host (.new storage) commands) path threadId = none →
        get (reopened host clock scope (run host (.new storage) commands).storage) path threadId =
          none) ∧
      ∀ draft, get (run host (.new storage) commands) path threadId = some draft →
        (∀ value, draft.data = some value → value.IsData host.format) →
          ∃ version, get (reopened host clock scope (run host (.new storage) commands).storage)
            path threadId = some ⟨draft.text, version, draft.data⟩
  own : ∀ entry ∈ visible (run host (.new storage) commands).drafts,
    From host storage commands scope entry
  separate : ∀ clock other, IsDraftScope other →
    ∀ entry ∈ visible (reopened host clock other (run host (.new storage) commands).storage).drafts,
      From host storage commands other entry

def sampleHost : DraftHost := ⟨integerFormat, none, id, fun _ => .refl _⟩
def sampleClock : Clock := ⟨fun _ => 0, fun _ => rfl⟩

def sampleScope (revision : String) : JsString :=
  scopeText (ofAscii "session") (ofAscii "account") (ofAscii "project") (ofAscii revision)

def openSample (revision : String) : DraftCommand :=
  .setScope sampleClock (some (sampleScope revision))

def writeSample (threadId : String) (data : Option Json) : DraftCommand :=
  .write sampleClock [] (ofAscii threadId) (ofAscii "a") data

/-- Drafts survive submissions and reloads, up to what is evicted. -/
theorem drafts_survive (host : DraftHost) (storage : DraftStorage) (commands : List DraftCommand)
    (hvalid : ∀ command ∈ commands, command.Valid host)
    (hexact : (run host (.new storage) commands).version < 2 ^ 53) (scope : JsString)
    (hscope : (run host (.new storage) commands).scope = some scope) :
    Survives host storage commands scope := by
  have hkept := (@kept_new host storage).run hvalid
  have hinScope := hkept.inScope scope hscope
  have horigins := origins_run hvalid hexact
  constructor
  · intro before path threadId between clock hcommands hacknowledged first last hbetween
    have hbefore : ∀ command ∈ before, command.Valid host := fun command hcommand =>
      hvalid command (by rw [hcommands]; exact List.mem_append_left _ hcommand)
    have hlater : ∀ command ∈ between, command.Valid host := fun command hcommand =>
      hvalid command (by
        rw [hcommands]
        exact List.mem_append_right _ (List.mem_cons_of_mem _ hcommand))
    have hrun : ∀ later, run host (.new storage) (before ++ .capture path threadId :: later) =
        run host (run host (.new storage) before) later := fun later => run_append _ _ _
    rw [hrun]
    rw [hcommands, hrun] at hexact hacknowledged
    exact acknowledge_captured ((@kept_new host storage).run hbefore) path threadId hlater hexact
      clock hacknowledged hbetween
  · intro clock submitted
    exact (acknowledge_others hscope hinScope.count clock submitted).1
  · intro clock submitted
    exact (acknowledge_others hscope hinScope.count clock submitted).2
  · exact hinScope.count
  · exact hinScope.bounded
  · intro clock hunexpired path threadId
    exact get_reopened hinScope.isScope (hinScope.saved hexact) hunexpired path threadId
  · exact horigins.held scope hscope
  · intro clock other hother entry hentry
    obtain ⟨user, accountId, projectId, revisionId, rfl⟩ := hother
    have hopened := openScope_spec host clock user accountId projectId revisionId
      (s := .new (run host (.new storage) commands).storage) (Nat.zero_le _)
    rw [reopened_eq, hopened.seen] at hentry
    exact horigins.stored _ entry (storedContents_removes hopened.removes hentry)

theorem drafts_survive_sample : Survives sampleHost []
    [openSample "1", writeSample "" none, .capture [] [], writeSample "2" none] (sampleScope "1") :=
  drafts_survive sampleHost [] _
    (by
      simp only [List.forall_mem_cons]
      refine ⟨?_, ⟨by decide, by rintro _ ⟨⟩⟩, trivial, ⟨by decide, by rintro _ ⟨⟩⟩,
        fun _ h => absurd h List.not_mem_nil⟩
      exact ⟨⟨some (ofAscii "session"), ofAscii "account", ofAscii "project", ofAscii "1"⟩, rfl⟩)
    (by decide +kernel) (sampleScope "1") (by decide +kernel)

section Eviction

/-- Data that fills the storage together with three other drafts. -/
def longData : Json := .string (List.replicate 249789 0x61)

/-- The text of an entry whose draft says `a`. -/
theorem stringify_sample (id : JsString) (version : ℕ) (data : Option Json) :
    (entryJson (id, ⟨ofAscii "a", version, data⟩)).stringify integerFormat =
      0x5b :: quoteJsonString id ++ ofAscii ",\x7b\"text\":\"a\",\"version\":" ++
        integerFormat.print version ++
          (match data with
            | none => []
            | some value => ofAscii ",\"data\":" ++ value.stringify integerFormat) ++
              ofAscii "\x7d]" := by
  have htext : quoteJsonString (ofAscii "text") = ofAscii "\"text\"" := by decide
  have ha : quoteJsonString (ofAscii "a") = ofAscii "\"a\"" := by decide
  have hversion : quoteJsonString (ofAscii "version") = ofAscii "\"version\"" := by decide
  have hdata : quoteJsonString (ofAscii "data") = ofAscii "\"data\"" := by decide
  unfold entryJson Draft.json
  cases data with
  | none =>
    simp only [Option.toList_none, List.map_nil, List.append_nil, Json.stringify,
      Json.stringifyItems, Json.stringifyFields, htext, ha, hversion, join,
      List.intercalate_cons_cons, List.intercalate_singleton]
    simp [ofAscii]
  | some value =>
    simp only [Option.toList_some, List.map_cons, List.map_nil, List.cons_append, List.nil_append,
      Json.stringify, Json.stringifyItems, Json.stringifyFields, htext, ha, hversion, hdata, join,
      List.intercalate_cons_cons, List.intercalate_singleton]
    simp [ofAscii]

theorem length_sample (id : JsString) (version : ℕ) (data : Option Json) :
    ((entryJson (id, ⟨ofAscii "a", version, data⟩)).stringify integerFormat).length =
      26 + (quoteJsonString id).length + (integerFormat.print version).length +
        (match data with
          | none => 0
          | some value => 8 + (value.stringify integerFormat).length) := by
  have hmiddle : (ofAscii ",\x7b\"text\":\"a\",\"version\":").length = 23 := by decide
  have hdata : (ofAscii ",\"data\":").length = 8 := by decide
  have hend : (ofAscii "\x7d]").length = 2 := by decide
  rw [stringify_sample, List.length_append, List.length_append, List.length_append,
    List.length_append, List.length_cons, hmiddle, hend]
  cases data with
  | none =>
    dsimp only
    rw [List.length_nil]
    omega
  | some value =>
    dsimp only
    rw [List.length_append, hdata]
    omega

theorem length_longData : (longData.stringify integerFormat).length = 249791 := by
  have hplain : (List.replicate 249789 0x61 : JsString).all isPlain = true := by
    rw [List.all_eq_true]
    intro unit hunit
    rw [List.eq_of_mem_replicate hunit]
    decide
  unfold longData
  rw [Json.stringify, quoteJsonString_plain hplain, List.cons_append, List.length_cons,
    List.length_append, List.length_replicate, List.length_singleton]

theorem length_join_cons (text : JsString) {texts : List JsString} (h : texts ≠ []) :
    (join [0x2c] (text :: texts)).length = text.length + 1 + (join [0x2c] texts).length := by
  obtain ⟨second, later, rfl⟩ := List.exists_cons_of_ne_nil h
  unfold join
  rw [List.intercalate_cons_cons, List.length_append, List.length_append, List.length_singleton]

/-- Three short drafts and a long one. -/
def sampleDrafts (data : Json) (version : ℕ) : List (JsString × Draft) :=
  [(draftKey [] [], ⟨ofAscii "a", version + 1, none⟩),
    (draftKey [] (ofAscii "1"), ⟨ofAscii "a", version + 2, none⟩),
    (draftKey [] (ofAscii "2"), ⟨ofAscii "a", version + 3, none⟩),
    (draftKey [] (ofAscii "3"), ⟨ofAscii "a", version + 4, some data⟩)]

theorem length_quotes : (quoteJsonString (draftKey [] [])).length = 13 ∧
    ∀ unit ∈ [ofAscii "1", ofAscii "2", ofAscii "3"],
      (quoteJsonString (draftKey [] unit)).length = 14 := by
  decide

/-- The text of the drafts grows with the digits of their versions. -/
theorem length_samples {data : Json} (hdata : (data.stringify integerFormat).length = 249791)
    {version k : ℕ} (hversion : version + 4 ≤ 2 ^ 53)
    (hlow : 10 ^ k ≤ version + 1) (hhigh : version + 4 < 10 ^ (k + 1)) :
    (serialized sampleHost 0 (sampleDrafts data version)).length = 249996 + 4 * (k + 1) ∧
      (serialized sampleHost 0 (sampleDrafts data version).tail).length = 249956 + 3 * (k + 1) := by
  have hquotes := length_quotes.2
  have hone := hquotes (ofAscii "1") (by decide)
  have htwo := hquotes (ofAscii "2") (by decide)
  have hthree := hquotes (ofAscii "3") (by decide)
  have hprint : ∀ i, 1 ≤ i → i ≤ 4 →
      (integerFormat.print ((version + i : ℕ) : ℚ)).length = k + 1 := by
    intro i hi hi'
    exact length_print (by omega) (by omega) (by omega)
  have hexpiry : (sampleHost.format.print ((0 + ttlMs : ℤ) : ℚ)).length = 8 := by
    decide +kernel
  have hformat : sampleHost.format = integerFormat := rfl
  have htail : (join [0x2c] ((sampleDrafts data version).tail.map fun entry =>
      (entryJson entry).stringify integerFormat)).length = 249921 + 3 * (k + 1) := by
    unfold sampleDrafts
    rw [List.tail_cons, List.map_cons, List.map_cons, List.map_cons, List.map_nil,
      length_join_cons _ (List.cons_ne_nil _ _), length_join_cons _ (List.cons_ne_nil _ _)]
    unfold join
    rw [List.intercalate_singleton, length_sample, length_sample, length_sample, hone, htwo, hthree,
      hprint 2 (by norm_num) (by norm_num), hprint 3 (by norm_num) (by norm_num),
      hprint 4 (by norm_num) (by norm_num)]
    dsimp only
    rw [hdata]
    omega
  rw [length_serialized, length_serialized, hexpiry, hformat]
  constructor
  · have hsplit : (sampleDrafts data version).map (fun entry =>
          (entryJson entry).stringify integerFormat) =
        (entryJson (draftKey [] [], ⟨ofAscii "a", version + 1, none⟩)).stringify integerFormat ::
          (sampleDrafts data version).tail.map fun entry =>
            (entryJson entry).stringify integerFormat := rfl
    have hmore : (sampleDrafts data version).tail.map (fun entry =>
        (entryJson entry).stringify integerFormat) ≠ [] := List.cons_ne_nil _ _
    rw [hsplit, length_join_cons _ hmore, htail, length_sample, length_quotes.1,
      hprint 1 (by norm_num) (by norm_num)]
    dsimp only
    omega
  · rw [htail]
    omega


/-- Drafts that are written outside of a scope are not saved, but they count. -/
theorem run_unscoped (host : DraftHost) (threadId : String) {s : DraftState}
    (hscope : s.scope = none) (hversion : s.version ≤ 2 ^ 53) (n : ℕ) :
    (run host s (List.replicate n (writeSample threadId none))).scope = none ∧
      (run host s (List.replicate n (writeSample threadId none))).storage = s.storage ∧
      (run host s (List.replicate n (writeSample threadId none))).version =
        min (s.version + n) (2 ^ 53) := by
  induction n generalizing s with
  | zero => exact ⟨hscope, rfl, (min_eq_left hversion).symm⟩
  | succ n ih =>
    have hstep : perform host s (writeSample threadId none) =
        appended s (draftKey [] (ofAscii threadId)) (ofAscii "a", none) := by
      change write host sampleClock [] (ofAscii threadId) (ofAscii "a") none s = _
      rw [write_eq, if_pos (.inl (List.cons_ne_nil _ _))]
      exact persist_unscoped host sampleClock hscope
    have hrun : run host s (List.replicate (n + 1) (writeSample threadId none)) =
        run host (appended s (draftKey [] (ofAscii threadId)) (ofAscii "a", none))
          (List.replicate n (writeSample threadId none)) := by
      rw [← hstep]
      rfl
    rw [hrun]
    obtain ⟨hscope', hstorage, hcounted⟩ :=
      ih (s := appended s (draftKey [] (ofAscii threadId)) (ofAscii "a", none)) hscope nextVersion_le
    refine ⟨hscope', hstorage, hcounted.trans ?_⟩
    change min (nextVersion s.version + n) _ = _
    unfold nextVersion
    omega

theorem perform_openSample (host : DraftHost) {s : DraftState} (hscope : s.scope = none)
    (revision : String) :
    perform host s (openSample revision) = openScope host sampleClock (sampleScope revision) s := by
  change (setScope host sampleClock (some (sampleScope revision)) s).1 = _
  unfold setScope
  rw [hscope, if_neg (by rintro ⟨⟩)]

theorem renumbered_samples {data : Json} (hdata : data.normal integerFormat = data) {version : ℕ}
    (hversion : version + 4 ≤ 2 ^ 53) :
    renumbered sampleHost version (sampleDrafts data 0) = sampleDrafts data version := by
  have hone : nextVersion version = version + 1 := min_eq_left (by omega)
  have htwo : nextVersion (version + 1) = version + 2 := min_eq_left (by omega)
  have hthree : nextVersion (version + 2) = version + 3 := min_eq_left (by omega)
  have hfour : nextVersion (version + 3) = version + 4 := min_eq_left (by omega)
  unfold sampleDrafts
  rw [renumbered, renumbered, renumbered, renumbered, renumbered, hone, htwo, hthree, hfour]
  change _ = ([_, _, _, (draftKey [] (ofAscii "3"), ⟨ofAscii "a", version + 4, some data⟩)] :
    List (JsString × Draft))
  rw [Option.map_some, show sampleHost.format = integerFormat from rfl, hdata]
  rfl

def savedSamples (data : Json) : DraftStorage :=
  [(storageKeyOf none (sampleScope "1"), serialized sampleHost 0 (sampleDrafts data 0))]

/-- Many drafts outside of a scope, before one is set. -/
def countedCommands (n : ℕ) : List DraftCommand :=
  List.replicate n (writeSample "" none) ++ [openSample "1"]

/-- The drafts are restored with long versions. -/
theorem run_counted {data : Json} (hlength : (data.stringify integerFormat).length = 249791)
    (hdata : data.normal integerFormat = data) {n : ℕ} (hn : n + 4 ≤ 2 ^ 53) :
    (run sampleHost (.new (savedSamples data)) (countedCommands n)).drafts = sampleDrafts data n ∧
      (run sampleHost (.new (savedSamples data)) (countedCommands n)).version = n + 4 ∧
      (run sampleHost (.new (savedSamples data)) (countedCommands n)).scope =
        some (sampleScope "1") := by
  obtain ⟨hscope, hstorage, hversion⟩ :=
    run_unscoped sampleHost "" (s := .new (savedSamples data)) rfl (Nat.zero_le _) n
  unfold countedCommands
  rw [run_append]
  generalize run sampleHost (.new (savedSamples data)) (List.replicate n (writeSample "" none)) = s
    at hscope hstorage hversion
  change s.storage = savedSamples data at hstorage
  change s.version = min (0 + n) (2 ^ 53) at hversion
  change (perform sampleHost s (openSample "1")).drafts = _ ∧
    (perform sampleHost s (openSample "1")).version = _ ∧
    (perform sampleHost s (openSample "1")).scope = _
  rw [perform_openSample sampleHost hscope]
  have hcount : s.version = n :=
    hversion.trans ((Nat.zero_add n).symm ▸ min_eq_left ((Nat.le_add_right n 4).trans hn))
  have htime : isTimeValue 0 = true := rfl
  have hvalid : ∀ entry ∈ sampleDrafts data 0, ValidEntry entry := by
    unfold sampleDrafts
    simp only [List.forall_mem_cons]
    refine ⟨?_, ?_, ?_, ?_, fun _ hentry => absurd hentry List.not_mem_nil⟩
    all_goals
      refine ⟨?_, ?_, Nat.succ_pos _⟩
      all_goals
        dsimp only
        decide
  have hexact : ∀ entry ∈ sampleDrafts data 0, entry.2.version < 2 ^ 53 := by
    unfold sampleDrafts
    simp only [List.forall_mem_cons]
    refine ⟨?_, ?_, ?_, ?_, fun _ hentry => absurd hentry List.not_mem_nil⟩
    all_goals norm_num
  have hnodup : ((sampleDrafts data 0).map Prod.fst).Nodup := by
    change [draftKey [] [], draftKey [] (ofAscii "1"), draftKey [] (ofAscii "2"),
      draftKey [] (ofAscii "3")].Nodup
    decide
  have hitem : s.storage.getItem (storageKeyOf sampleHost.channel (sampleScope "1")) =
      some (serialized sampleHost 0 (sampleDrafts data 0)) := by
    rw [hstorage]
    exact List.lookup_cons_self
  have hfits : (serialized sampleHost 0 (sampleDrafts data 0)).length ≤ maxSerializedLength :=
    (length_samples hlength (k := 0) (by norm_num) (by norm_num) (by norm_num)).1.le
  have hfour : (sampleDrafts data 0).length ≤ maxEntries := Nat.le_add_left 4 36
  have hreads := openScope_reads sampleHost sampleClock _ _ _ _ hitem
    (serialized_ne_nil 0 _) hfits (savedFields_serialized sampleHost htime _) fun _ => rfl
  have hrestored := foldl_restoreDraft sampleHost hvalid hexact [] hnodup n
  rw [latestEntries_of_count (by rw [List.length_map]; exact hfour), hcount, hrestored,
    List.nil_append, renumbered_samples hdata hn] at hreads
  have hopened := openScope_spec sampleHost sampleClock (ofAscii "session") (ofAscii "account")
    (ofAscii "project") (ofAscii "1") (s := s) (hcount.trans_le ((Nat.le_add_right n 4).trans hn))
  refine ⟨hreads.1, hreads.2.trans ?_, hopened.isScope⟩
  exact (iterate_nextVersion ((Nat.le_add_right n 4).trans hn) 4).trans (min_eq_left hn)

/-- The draft of a thread is gone once another one is acknowledged. -/
theorem acknowledge_counted {data : Json} (hlength : (data.stringify integerFormat).length = 249791)
    {n k : ℕ} (hn : n + 4 ≤ 2 ^ 53) (hlow : 10 ^ k ≤ n + 1) (hhigh : n + 4 < 10 ^ (k + 1))
    (hk : 14 < k) {s : DraftState} {scope : JsString}
    (hscope : s.scope = some scope) (hdrafts : s.drafts = sampleDrafts data n) :
    (acknowledge sampleHost sampleClock (capture s [] []) s).2 = true ∧
      get (acknowledge sampleHost sampleClock (capture s [] []) s).1 [] (ofAscii "1") = none := by
  have hfirst : s.drafts.lookup (draftKey [] []) = some ⟨ofAscii "a", n + 1, none⟩ := by
    rw [hdrafts]
    exact List.lookup_cons_self
  have haccepted : ¬ ((capture s [] []).scope ≠ s.scope ∨
      (s.drafts.lookup (capture s [] []).key).map Draft.version ≠
        some (capture s [] []).version) := by
    rw [not_or, not_not, not_not]
    refine ⟨rfl, ?_⟩
    unfold capture get
    dsimp only
    rw [hfirst]
    rfl
  have hrest : (deleteDraft s (draftKey [] [])).drafts = (sampleDrafts data n).tail := by
    unfold deleteDraft
    rw [hdrafts]
    rfl
  unfold acknowledge
  rw [if_neg haccepted]
  refine ⟨rfl, ?_⟩
  have hpersist := persist_spec sampleHost sampleClock
    (s := deleteDraft s (capture s [] []).key) hscope
  have hsuffix := hpersist.suffix
  rw [show (capture s [] []).key = draftKey [] [] from rfl] at hsuffix hpersist ⊢
  rw [hrest] at hsuffix
  rcases List.suffix_cons_iff.1 hsuffix with hall | hlater
  · have hlong := (length_samples hlength hn hlow hhigh).2
    exfalso
    rcases hpersist.stored with ⟨hnone, -⟩ | ⟨last, hshort, -⟩
    · rw [hall] at hnone
      cases hnone
    · rw [hall] at hshort
      have hlimit : 249956 + 3 * (k + 1) ≤ 250000 := hlong.symm.trans_le hshort
      omega
  · unfold get
    rw [List.lookup_none_iff]
    intro entry hentry
    have hkeys : ∀ key ∈ [draftKey [] (ofAscii "2"), draftKey [] (ofAscii "3")],
        key ≠ draftKey [] (ofAscii "1") := by
      decide
    refine hkeys entry.1 ?_
    exact List.mem_map_of_mem (f := Prod.fst) (hlater.subset hentry)

def saturatedCommands (n : ℕ) : List DraftCommand :=
  countedCommands n ++ [writeSample "" none]

def rewriteSample : DraftCommand := .write sampleClock [] [] (ofAscii "b") none

/-- Past the exact doubles a draft written later has the version of the captured one. -/
theorem run_saturated {n : ℕ} (hn : 2 ^ 53 ≤ n) :
    (run sampleHost (.new []) (saturatedCommands n)).scope = some (sampleScope "1") ∧
    (run sampleHost (.new []) (saturatedCommands n)).drafts =
      [(draftKey [] [], ⟨ofAscii "a", 2 ^ 53, none⟩)] ∧
    (run sampleHost (.new []) (saturatedCommands n)).version = 2 ^ 53 := by
  obtain ⟨hscope, hstorage, hversion⟩ :=
    run_unscoped sampleHost "" (s := .new []) rfl (Nat.zero_le _) n
  unfold saturatedCommands countedCommands
  rw [run_append, run_append]
  generalize run sampleHost (.new []) (List.replicate n (writeSample "" none)) = s
    at hscope hstorage hversion
  change s.storage = [] at hstorage
  have hfull : s.version = 2 ^ 53 := hversion.trans (min_eq_right (hn.trans (Nat.le_add_left n 0)))
  have hopened := openScope_spec sampleHost sampleClock (ofAscii "session") (ofAscii "account")
    (ofAscii "project") (ofAscii "1") (s := s) hfull.le
  change Opened sampleHost (sampleScope "1") s
    (openScope sampleHost sampleClock (sampleScope "1") s) at hopened
  rw [show run sampleHost s [openSample "1"] = perform sampleHost s (openSample "1") from rfl,
    perform_openSample sampleHost hscope]
  generalize openScope sampleHost sampleClock (sampleScope "1") s = opened at hopened
  have hempty : opened.drafts = [] := by
    have hseen := hopened.seen
    rw [storedContents_none] at hseen
    · exact List.map_eq_nil_iff.1 hseen
    · rcases hopened.removes (storageKeyOf sampleHost.channel (sampleScope "1")) with heq | hgone
      · rw [heq, hstorage]
        rfl
      · exact hgone
  have hsame : opened.version = 2 ^ 53 :=
    le_antisymm hopened.restored.limit (hfull.ge.trans hopened.restored.mono)
  have hnext : nextVersion opened.version = 2 ^ 53 := by
    rw [hsame]
    rfl
  have hwritten := write_of_fits sampleHost sampleClock hopened.isScope [] []
    (ofAscii "a") (List.cons_ne_nil _ _) none [(draftKey [] [], ⟨ofAscii "a", 2 ^ 53, none⟩)]
    (by
      unfold deleteDraft
      rw [hempty, hnext]
      rfl) (by decide) (by decide +kernel)
  change (write sampleHost sampleClock [] [] (ofAscii "a") none opened).scope = _ ∧
    (write sampleHost sampleClock [] [] (ofAscii "a") none opened).drafts = _ ∧
    (write sampleHost sampleClock [] [] (ofAscii "a") none opened).version = _
  rw [hwritten]
  exact ⟨hopened.isScope, rfl, hnext⟩

/-- The acknowledgement of the old draft removes the new one. -/
theorem acknowledge_saturated {s : DraftState} {scope : JsString} (hscope : s.scope = some scope)
    (hdrafts : s.drafts = [(draftKey [] [], ⟨ofAscii "a", 2 ^ 53, none⟩)])
    (hversion : s.version = 2 ^ 53) :
    read (perform sampleHost s rewriteSample) [] [] = ofAscii "b" ∧
      (acknowledge sampleHost sampleClock (capture s [] [])
        (perform sampleHost s rewriteSample)).2 = true ∧
      get (acknowledge sampleHost sampleClock (capture s [] [])
        (perform sampleHost s rewriteSample)).1 [] [] = none := by
  have hnext : nextVersion s.version = 2 ^ 53 := by
    rw [hversion]
    rfl
  have hwritten := write_of_fits sampleHost sampleClock hscope [] []
    (ofAscii "b") (List.cons_ne_nil _ _) none [(draftKey [] [], ⟨ofAscii "b", 2 ^ 53, none⟩)]
    (by
      unfold deleteDraft
      rw [hdrafts, hnext]
      rfl) (by decide) (by decide +kernel)
  change perform sampleHost s rewriteSample = _ at hwritten
  have hcaptured : capture s [] [] =
      ⟨⟨ofAscii "a", 2 ^ 53, none⟩, draftKey [] [], some scope⟩ := by
    unfold capture get
    rw [hdrafts, hscope, List.lookup_cons_self]
    rfl
  have haccepted : ∀ s' : DraftState, s'.scope = some scope →
      s'.drafts = [(draftKey [] [], ⟨ofAscii "b", 2 ^ 53, none⟩)] →
      (acknowledge sampleHost sampleClock
        ⟨⟨ofAscii "a", 2 ^ 53, none⟩, draftKey [] [], some scope⟩ s').2 = true ∧
      get (acknowledge sampleHost sampleClock
        ⟨⟨ofAscii "a", 2 ^ 53, none⟩, draftKey [] [], some scope⟩ s').1 [] [] = none := by
    intro s' hscope' hdrafts'
    have hdeleted : (deleteDraft s' (draftKey [] [])).drafts = [] := by
      unfold deleteDraft
      rw [hdrafts']
      rfl
    have hpersist := persist_spec sampleHost sampleClock (s := deleteDraft s' (draftKey [] []))
      hscope'
    have hnone := hpersist.suffix
    rw [hdeleted, List.suffix_nil] at hnone
    unfold acknowledge
    rw [hscope', hdrafts', List.lookup_cons_self, if_neg]
    · refine ⟨rfl, ?_⟩
      unfold get
      rw [hnone]
      rfl
    · rw [not_or, not_not, not_not]
      exact ⟨rfl, rfl⟩
  rw [hwritten, hcaptured]
  refine ⟨?_, haccepted _ hscope rfl⟩
  unfold read get
  rw [List.lookup_cons_self]
  rfl

theorem normal_longData : longData.normal integerFormat = longData := rfl

theorem valid_countedCommands (n : ℕ) :
    ∀ command ∈ countedCommands n, command.Valid sampleHost := by
  intro command hcommand
  rcases List.mem_append.1 hcommand with hwrite | hopen
  · rw [List.eq_of_mem_replicate hwrite]
    exact ⟨by decide, by rintro _ ⟨⟩⟩
  · rw [List.mem_singleton.1 hopen]
    exact ⟨⟨some (ofAscii "session"), ofAscii "account", ofAscii "project", ofAscii "1"⟩, rfl⟩

/-- An acknowledgement can evict the draft of another thread, and past the exact doubles it can
remove a draft that was written after the captured one. -/
theorem drafts_lost :
    (∃ storage commands path threadId other,
      (∀ command ∈ commands, command.Valid sampleHost) ∧
      (run sampleHost (.new storage) commands).version < 2 ^ 53 ∧
      (run sampleHost (.new storage) commands).scope = some (sampleScope "1") ∧
      draftKey path other ≠ draftKey path threadId ∧
      read (run sampleHost (.new storage) commands) path other = ofAscii "a" ∧
      (acknowledge sampleHost sampleClock
        (capture (run sampleHost (.new storage) commands) path threadId)
        (run sampleHost (.new storage) commands)).2 = true ∧
      get (acknowledge sampleHost sampleClock
        (capture (run sampleHost (.new storage) commands) path threadId)
        (run sampleHost (.new storage) commands)).1 path other = none) ∧
    ∃ commands path threadId written,
      (∀ command ∈ commands ++ [written], command.Valid sampleHost) ∧
      read (run sampleHost (.new []) commands) path threadId = ofAscii "a" ∧
      read (perform sampleHost (run sampleHost (.new []) commands) written) path threadId =
        ofAscii "b" ∧
      (acknowledge sampleHost sampleClock
        (capture (run sampleHost (.new []) commands) path threadId)
        (perform sampleHost (run sampleHost (.new []) commands) written)).2 = true ∧
      get (acknowledge sampleHost sampleClock
        (capture (run sampleHost (.new []) commands) path threadId)
        (perform sampleHost (run sampleHost (.new []) commands) written)).1 path threadId =
          none := by
  constructor
  · obtain ⟨hdrafts, hversion, hscope⟩ :=
      run_counted length_longData normal_longData (n := 10 ^ 15) (by norm_num)
    refine ⟨savedSamples longData, countedCommands (10 ^ 15), [], [], ofAscii "1",
      valid_countedCommands _, ?_, hscope, by decide, ?_, ?_⟩
    · rw [hversion]
      norm_num
    · unfold read get
      rw [hdrafts]
      rfl
    · exact acknowledge_counted length_longData (k := 15) (by norm_num) (by norm_num) (by norm_num)
        (by norm_num) hscope hdrafts
  · obtain ⟨hscope, hdrafts, hversion⟩ := run_saturated (le_refl (2 ^ 53))
    refine ⟨saturatedCommands (2 ^ 53), [], [], rewriteSample, ?_, ?_,
      acknowledge_saturated hscope hdrafts hversion⟩
    · intro command hcommand
      rcases List.mem_append.1 hcommand with hcommand | hrewrite
      · rcases List.mem_append.1 hcommand with hcounted | hwrite
        · exact valid_countedCommands _ command hcounted
        · rw [List.mem_singleton.1 hwrite]
          exact ⟨by decide, by rintro _ ⟨⟩⟩
      · rw [List.mem_singleton.1 hrewrite]
        exact ⟨by decide, by rintro _ ⟨⟩⟩
    · unfold read get
      rw [hdrafts, List.lookup_cons_self]
      rfl

end Eviction

end Lotur.Review.Drafts
