import Lotur.Review.Journal

/-! The content of comments and replies: its versions count its changes, and a deleted item is never
touched again. -/
namespace Lotur.Review

inductive Item where
  | comment (threadId : JsString)
  | reply (threadId replyId : JsString)
  deriving DecidableEq, Repr

structure Content where
  body : Option JsString
  version : ℕ
  author : ReviewIdentity
  deletedBy : Option ReviewIdentity
  deletedAt : Option ℤ
  deriving DecidableEq, Repr

def PageCommentThread.content (thread : PageCommentThread) : Content :=
  ⟨thread.body, thread.version, thread.author, thread.deletedBy, thread.deletedAt⟩

def ReviewReply.content (reply : ReviewReply) : Content :=
  ⟨reply.body, reply.version, reply.author, reply.deletedBy, reply.deletedAt⟩

def findReply (r : ReviewRepository) (threadId replyId : JsString) : Option ReviewReply :=
  (r.findThread threadId).bind fun thread => Auth.Table.get ReviewReply.id thread.replies replyId

def contentOf (r : ReviewRepository) : Item → Option Content
  | .comment threadId => (r.findThread threadId).map PageCommentThread.content
  | .reply threadId replyId => (findReply r threadId replyId).map ReviewReply.content

theorem contentOf_comment (r : ReviewRepository) (threadId : JsString) :
    contentOf r (.comment threadId) = (r.findThread threadId).map PageCommentThread.content := rfl

theorem contentOf_reply (r : ReviewRepository) (threadId replyId : JsString) :
    contentOf r (.reply threadId replyId) =
      (findReply r threadId replyId).map ReviewReply.content := rfl

/-- A body goes when, and only when, someone deletes it. -/
structure ContentSound (content : Content) : Prop where
  tombstone : content.body = none ↔ content.deletedAt.isSome ∧ content.deletedBy.isSome
  together : content.deletedBy.isSome = content.deletedAt.isSome

theorem ContentSound.edited {old new : Content} (h : ContentSound old) (hlive : old.deletedAt = none)
    (hbody : new.body.isSome) (hat : new.deletedAt = old.deletedAt)
    (hby : new.deletedBy = old.deletedBy) : ContentSound new := by
  refine ⟨?_, by rw [hat, hby]; exact h.together⟩
  rw [hat, hlive]
  simp [Option.isSome_iff_ne_none.1 hbody]

theorem ContentSound.deleted {new : Content} (hbody : new.body = none) (hat : new.deletedAt.isSome)
    (hby : new.deletedBy.isSome) : ContentSound new :=
  ⟨by simp [hbody, hat, hby], by rw [hat, hby]⟩

/-- The item a command edited or deleted, and the version it expected. -/
def mutation : ReviewCommand × ReviewResult → List (Item × ℕ)
  | (command, result) =>
    if result.isSuccess then
      match command with
      | .updateComment input => [(.comment input.threadId, input.expectedVersion)]
      | .deleteComment input => [(.comment input.threadId, input.expectedVersion)]
      | .updateReply replyId input => [(.reply input.threadId replyId, input.expectedVersion)]
      | .deleteReply replyId input => [(.reply input.threadId replyId, input.expectedVersion)]
      | _ => []
    else []

def mutations (done : List (ReviewCommand × ReviewResult)) : List (Item × ℕ) :=
  done.flatMap mutation

theorem mutations_append (done : List (ReviewCommand × ReviewResult))
    (entry : ReviewCommand × ReviewResult) :
    mutations (done ++ [entry]) = mutations done ++ mutation entry := by
  simp [mutations]

theorem mutation_failed (command : ReviewCommand) {result : ReviewResult}
    (h : result.isSuccess = false) : mutation (command, result) = [] := by
  simp [mutation, h]

/-- What a command does to the items: nothing, one more item, or the next version of one that was
not deleted. -/
inductive ContentStep (content content' : Item → Option Content) : List (Item × ℕ) → Prop
  | same (hsame : content' = content) : ContentStep content content' []
  | created (item : Item) (added : Content) (free : content item = none)
      (hcontent : content' = Function.update content item (some added)) (first : added.version = 1)
      (sound : ContentSound added) : ContentStep content content' []
  | changed (item : Item) (old new : Content) (found : content item = some old)
      (live : old.deletedAt = none) (hcontent : content' = Function.update content item (some new))
      (next : new.version = old.version + 1) (sound : ContentSound old → ContentSound new) :
      ContentStep content content' [(item, old.version)]

section Updates
variable {r r' : ReviewRepository} {thread old : PageCommentThread}

theorem findReply_writes (h : Writes thread r r') (threadId replyId : JsString) :
    findReply r' threadId replyId = if threadId = thread.id then
      Auth.Table.get ReviewReply.id thread.replies replyId else findReply r threadId replyId := by
  unfold findReply
  rw [h.findThread]
  split_ifs with hid
  · rw [hid, Function.update_self]
    rfl
  · rw [Function.update_of_ne hid]

theorem findReply_found (old : PageCommentThread) {threadId : JsString}
    (h : r.findThread threadId = some old) (replyId : JsString) :
    findReply r threadId replyId = Auth.Table.get ReviewReply.id old.replies replyId := by
  unfold findReply
  rw [h]
  rfl

theorem findReply_free {threadId : JsString} (h : r.findThread threadId = none)
    (replyId : JsString) : findReply r threadId replyId = none := by
  unfold findReply
  rw [h]
  rfl

/-- A thread is written with the replies it had. -/
theorem Writes.commentContent (h : Writes thread r r')
    (hreplies : ∀ replyId, findReply r thread.id replyId =
      Auth.Table.get ReviewReply.id thread.replies replyId) :
    contentOf r' = Function.update (contentOf r) (.comment thread.id) (some thread.content) := by
  funext item
  cases item with
  | comment threadId =>
    rw [contentOf_comment, h.findThread]
    by_cases hid : threadId = thread.id
    · subst hid
      simp
    · have hitem : Item.comment threadId ≠ .comment thread.id := by simpa using hid
      rw [Function.update_of_ne hid, Function.update_of_ne hitem, contentOf_comment]
  | reply threadId replyId =>
    have hitem : Item.reply threadId replyId ≠ .comment thread.id := by simp
    rw [Function.update_of_ne hitem, contentOf_reply, contentOf_reply, findReply_writes h]
    split_ifs with hid
    · rw [hid, hreplies]
    · rfl

/-- A thread is written with its own content as it was and one reply new. -/
theorem Writes.replyContent (h : Writes thread r r') (hfound : r.findThread thread.id = some old)
    (hsame : thread.content = old.content) {reply : ReviewReply}
    (hreplies : ∀ replyId, Auth.Table.get ReviewReply.id thread.replies replyId =
      if replyId = reply.id then some reply
      else Auth.Table.get ReviewReply.id old.replies replyId) :
    contentOf r' =
      Function.update (contentOf r) (.reply thread.id reply.id) (some reply.content) := by
  funext item
  cases item with
  | comment threadId =>
    have hitem : Item.comment threadId ≠ .reply thread.id reply.id := by simp
    rw [Function.update_of_ne hitem, contentOf_comment, contentOf_comment, h.findThread]
    by_cases hid : threadId = thread.id
    · subst hid
      rw [Function.update_self, hfound, Option.map_some, Option.map_some, hsame]
    · rw [Function.update_of_ne hid]
  | reply threadId replyId =>
    rw [contentOf_reply, findReply_writes h]
    by_cases hid : threadId = thread.id
    · subst hid
      rw [if_pos rfl, hreplies]
      by_cases hreply : replyId = reply.id
      · subst hreply
        simp
      · have hitem : Item.reply thread.id replyId ≠ .reply thread.id reply.id := by simpa using hreply
        rw [Function.update_of_ne hitem, if_neg hreply, contentOf_reply, findReply_found old hfound]
    · have hitem : Item.reply threadId replyId ≠ .reply thread.id reply.id := by
        simp [hid]
      rw [if_neg hid, Function.update_of_ne hitem, contentOf_reply]

theorem get_withReply {reply : ReviewReply}
    (hfree : Auth.Table.get ReviewReply.id old.replies reply.id = none) (replyId : JsString) :
    Auth.Table.get ReviewReply.id (withReply old reply).replies replyId =
      if replyId = reply.id then some reply
      else Auth.Table.get ReviewReply.id old.replies replyId := by
  have hset : (withReply old reply).replies = Auth.Table.set ReviewReply.id old.replies reply :=
    (Auth.Table.set_of_free hfree).symm
  rw [hset]
  split_ifs with hid
  · rw [hid]
    exact Auth.Table.get_set_self
  · exact Auth.Table.get_set_ne hid

theorem get_replaceReply (reply : ReviewReply) {present : ReviewReply} (changedAt : ℤ)
    (hfound : Auth.Table.get ReviewReply.id old.replies reply.id = some present)
    (replyId : JsString) :
    Auth.Table.get ReviewReply.id (ReviewRepository.replaceReply old reply changedAt).replies replyId =
      if replyId = reply.id then some reply
      else Auth.Table.get ReviewReply.id old.replies replyId := by
  unfold ReviewRepository.replaceReply
  dsimp only
  rw [Auth.Table.get_map_replace]
  split_ifs with hid
  · rw [hid, hfound, Option.map_some, if_pos (Auth.Table.get_some hfound).2]
  · cases hget : Auth.Table.get ReviewReply.id old.replies replyId with
    | none => rfl
    | some other =>
      have hother : other.id ≠ reply.id := by
        rw [(Auth.Table.get_some hget).2]
        exact hid
      rw [Option.map_some, if_neg hother]

end Updates

theorem newContent_sound (content : NewContent) (threadId : JsString) :
    ContentSound (newReply content threadId).content :=
  ⟨by simp [newReply, ReviewReply.content], rfl⟩

/-- Every command takes one content step, and its log entry is that of the step. -/
theorem ThreadStep.contentStep {r r' : ReviewRepository} {command : ReviewCommand}
    {result : ReviewResult} {thread : PageCommentThread} (hstep : ThreadStep r command result thread)
    (hwrites : Writes thread r r')
    (hfresh : ∀ reply, command = .createReply reply →
      findReply r reply.threadId reply.content.id = none) :
    ContentStep (contentOf r) (contentOf r') (mutation (command, result)) := by
  cases hstep with
  | created command pinNumber free =>
    refine .created (.comment command.content.id) _ ?_ (hwrites.commentContent fun replyId => ?_) rfl
      ⟨by simp [newThread, PageCommentThread.content], rfl⟩
    · rw [contentOf_comment, free]
      rfl
    · exact findReply_free free replyId
  | replied command old found unresolved live =>
    have hself := findThread_self found
    have hfree : findReply r old.id command.content.id = none := by
      rw [findThread_id found]
      exact hfresh command rfl
    have hget : Auth.Table.get ReviewReply.id old.replies command.content.id = none := by
      rw [← hfree, findReply_found old hself]
    refine .created (.reply old.id command.content.id) _ ?_ ?_ rfl
      (newContent_sound command.content command.threadId)
    · rw [contentOf_reply, hfree]
      rfl
    · exact hwrites.replyContent hself rfl (get_withReply hget)
  | statusChanged input old found may =>
    have hself := findThread_self found
    have hsame : (ReviewRepository.changedThread old input).content = old.content ∧
        (ReviewRepository.changedThread old input).replies = old.replies ∧
        (ReviewRepository.changedThread old input).id = old.id := by
      unfold ReviewRepository.changedThread
      dsimp only
      split_ifs <;> exact ⟨rfl, rfl, rfl⟩
    refine .same ?_
    rw [hwrites.commentContent, Function.update_eq_self_iff, hsame.1, hsame.2.2, contentOf_comment,
      hself]
    · rfl
    · intro replyId
      rw [hsame.2.1, hsame.2.2]
      exact findReply_found old hself replyId
  | commentUpdated input old found may =>
    have hself := findThread_self found
    have hlog : mutation (.updateComment input, .updatedThread (editedThread old input)) =
        [(.comment old.id, old.content.version)] := by
      rw [PageCommentThread.content, may.version_eq, findThread_id found]
      rfl
    rw [hlog]
    refine .changed _ old.content _ ?_ may.live
      (hwrites.commentContent (findReply_found old hself)) rfl fun h => ?_
    · rw [contentOf_comment, hself]
      rfl
    · exact h.edited may.live rfl rfl rfl
  | commentDeleted input old found may =>
    have hself := findThread_self found
    have hlog : mutation (.deleteComment input, .updatedThread (deletedThread old input)) =
        [(.comment old.id, old.content.version)] := by
      rw [PageCommentThread.content, may.version_eq, findThread_id found]
      rfl
    rw [hlog]
    refine .changed _ old.content _ ?_ may.live
      (hwrites.commentContent (findReply_found old hself)) rfl fun _ => ?_
    · rw [contentOf_comment, hself]
      rfl
    · exact .deleted rfl rfl rfl
  | replyUpdated replyId input old reply found foundReply may =>
    have hself := findThread_self found
    obtain rfl := (Auth.Table.get_some foundReply).2
    have hlog : mutation (.updateReply reply.id input, .updatedReply (editedReply reply input)) =
        [(.reply old.id reply.id, reply.content.version)] := by
      rw [ReviewReply.content, may.version_eq, findThread_id found]
      rfl
    have hcontent := hwrites.replyContent hself rfl
      (get_replaceReply (editedReply reply input) _ foundReply)
    rw [hlog]
    refine .changed _ reply.content (editedReply reply input).content ?_ may.live hcontent rfl fun h => ?_
    · rw [contentOf_reply, findReply_found old hself, foundReply]
      rfl
    · exact h.edited may.live rfl rfl rfl
  | replyDeleted replyId input old reply found foundReply may =>
    have hself := findThread_self found
    obtain rfl := (Auth.Table.get_some foundReply).2
    have hlog : mutation (.deleteReply reply.id input, .updatedReply (deletedReply reply input)) =
        [(.reply old.id reply.id, reply.content.version)] := by
      rw [ReviewReply.content, may.version_eq, findThread_id found]
      rfl
    have hcontent := hwrites.replyContent hself rfl
      (get_replaceReply (deletedReply reply input) _ foundReply)
    rw [hlog]
    refine .changed _ reply.content (deletedReply reply input).content ?_ may.live hcontent rfl fun _ => ?_
    · rw [contentOf_reply, findReply_found old hself, foundReply]
      rfl
    · exact .deleted rfl rfl rfl

/-- The id a command gives to a new reply. -/
def newReplyId : ReviewCommand → Option JsString
  | .createReply command => some command.content.id
  | _ => none

/-- `generateId` gives no reply the id of another. -/
def DistinctIds (s : Journal) (command : ReviewCommand) : Prop :=
  ∀ thread ∈ s.repository.threads, ∀ reply ∈ thread.replies, newReplyId command ≠ some reply.id

instance (s : Journal) (command : ReviewCommand) : Decidable (DistinctIds s command) :=
  inferInstanceAs (Decidable (∀ thread ∈ s.repository.threads, ∀ reply ∈ thread.replies,
    newReplyId command ≠ some reply.id))

theorem DistinctIds.findReply {s : Journal} {command : ReplyCommand}
    (h : DistinctIds s (.createReply command)) (threadId : JsString) :
    findReply s.repository threadId command.content.id = none := by
  unfold Review.findReply
  cases hfound : s.repository.findThread threadId with
  | none => rfl
  | some thread =>
    refine Auth.Table.get_eq_none_iff.2 fun reply hreply hid => ?_
    refine h thread (Auth.Table.get_some hfound).1 reply hreply ?_
    rw [hid]
    rfl

def versionOf (r : ReviewRepository) (item : Item) : Option ℕ := (contentOf r item).map Content.version

/-- The content of a journal: replies with ids of their own, sound items, and a log that tells how
they came to be. -/
structure ContentKept (s : Journal) : Prop where
  replyIds : ∀ thread ∈ s.repository.threads, (thread.replies.map ReviewReply.id).Nodup
  sound : ∀ item content, contentOf s.repository item = some content → ContentSound content
  recorded : OptimisticVersions.Recorded (versionOf s.repository) (mutations s.done)

theorem contentOf_empty (accounts : List Auth.Account) (item : Item) :
    contentOf (.empty accounts) item = none := by
  cases item <;> rfl

theorem ContentKept.empty (accounts : List Auth.Account) : ContentKept (.empty accounts) := by
  refine ⟨fun _ h => absurd h List.not_mem_nil, fun item content h => ?_,
    OptimisticVersions.recorded_nil fun item => ?_⟩
  · rw [Journal.empty, contentOf_empty] at h
    cases h
  · unfold versionOf
    rw [Journal.empty, contentOf_empty]
    rfl

section Steps
variable {r r' : ReviewRepository} {log : List (Item × ℕ)} {entry : List (Item × ℕ)}

theorem versionOf_update {item : Item} {new : Content}
    (h : contentOf r' = Function.update (contentOf r) item (some new)) :
    versionOf r' = Function.update (versionOf r) item (some new.version) := by
  funext other
  unfold versionOf
  rw [h]
  by_cases hother : other = item
  · subst hother
    simp
  · rw [Function.update_of_ne hother, Function.update_of_ne hother]

theorem ContentStep.recorded (hstep : ContentStep (contentOf r) (contentOf r') entry)
    (h : OptimisticVersions.Recorded (versionOf r) log) :
    OptimisticVersions.Recorded (versionOf r') (log ++ entry) := by
  cases hstep with
  | same hsame =>
    rw [List.append_nil]
    refine h.congr fun item => ?_
    unfold versionOf
    rw [hsame]
  | created item added free hcontent first sound =>
    rw [List.append_nil, versionOf_update hcontent, first]
    refine h.create ?_
    unfold versionOf
    rw [free]
    rfl
  | changed item old new found live hcontent next sound =>
    rw [versionOf_update hcontent, next]
    refine h.change ?_
    unfold versionOf
    rw [found]
    rfl

theorem ContentStep.sound (hstep : ContentStep (contentOf r) (contentOf r') entry)
    (h : ∀ item content, contentOf r item = some content → ContentSound content)
    (item : Item) (content : Content) (hitem : contentOf r' item = some content) :
    ContentSound content := by
  cases hstep with
  | same hsame =>
    rw [hsame] at hitem
    exact h item content hitem
  | created other added free hcontent first sound =>
    rw [hcontent] at hitem
    by_cases hother : item = other
    · subst hother
      rw [Function.update_self, Option.some.injEq] at hitem
      exact hitem ▸ sound
    · rw [Function.update_of_ne hother] at hitem
      exact h item content hitem
  | changed other old new found live hcontent next sound =>
    rw [hcontent] at hitem
    by_cases hother : item = other
    · subst hother
      rw [Function.update_self, Option.some.injEq] at hitem
      exact hitem ▸ sound (h item old found)
    · rw [Function.update_of_ne hother] at hitem
      exact h item content hitem

/-- A deleted item stays as it is. -/
theorem ContentStep.deleted (hstep : ContentStep (contentOf r) (contentOf r') entry) {item : Item}
    {content : Content} (hitem : contentOf r item = some content)
    (hdeleted : content.deletedAt.isSome) : contentOf r' item = some content := by
  cases hstep with
  | same hsame => rwa [hsame]
  | created other added free hcontent first sound =>
    have hother : item ≠ other := by
      rintro rfl
      rw [free] at hitem
      cases hitem
    rwa [hcontent, Function.update_of_ne hother]
  | changed other old new found live hcontent next sound =>
    have hother : item ≠ other := by
      rintro rfl
      rw [found, Option.some.injEq] at hitem
      subst hitem
      rw [live] at hdeleted
      cases hdeleted
    rwa [hcontent, Function.update_of_ne hother]

end Steps

theorem ThreadStep.replyIds {r : ReviewRepository} {command : ReviewCommand} {result : ReviewResult}
    {thread : PageCommentThread} (hstep : ThreadStep r command result thread)
    (hfresh : ∀ reply, command = .createReply reply →
      findReply r reply.threadId reply.content.id = none)
    (h : ∀ old ∈ r.threads, (old.replies.map ReviewReply.id).Nodup) :
    (thread.replies.map ReviewReply.id).Nodup := by
  have hold : ∀ {threadId : JsString} {old : PageCommentThread},
      r.findThread threadId = some old → (old.replies.map ReviewReply.id).Nodup :=
    fun hfound => h _ (Auth.Table.get_some hfound).1
  have hreplace : ∀ (old : PageCommentThread) (reply : ReviewReply) (changedAt : ℤ),
      (ReviewRepository.replaceReply old reply changedAt).replies.map ReviewReply.id =
        old.replies.map ReviewReply.id := by
    intro old reply changedAt
    unfold ReviewRepository.replaceReply
    rw [List.map_map]
    exact List.map_congr_left fun candidate _ => Auth.Table.key_replace ReviewReply.id reply candidate
  cases hstep with
  | created command pinNumber free => exact List.nodup_nil
  | replied command old found unresolved live =>
    have hfree : Auth.Table.get ReviewReply.id old.replies command.content.id = none := by
      rw [← findReply_found old found]
      exact hfresh command rfl
    have hset : (withReply old (newReply command.content command.threadId)).replies =
        Auth.Table.set ReviewReply.id old.replies (newReply command.content command.threadId) :=
      (Auth.Table.set_of_free hfree).symm
    rw [hset]
    exact Auth.Table.nodup_set (hold found)
  | statusChanged input old found may =>
    have hsame : (ReviewRepository.changedThread old input).replies = old.replies := by
      unfold ReviewRepository.changedThread
      dsimp only
      split_ifs <;> rfl
    rw [hsame]
    exact hold found
  | commentUpdated input old found may =>
    have hprior := hold found
    exact hprior
  | commentDeleted input old found may =>
    have hprior := hold found
    exact hprior
  | replyUpdated replyId input old reply found foundReply may =>
    rw [hreplace]
    exact hold found
  | replyDeleted replyId input old reply found foundReply may =>
    rw [hreplace]
    exact hold found

/-- Every effect is a content step, whether it failed or not. -/
theorem Effect.contentStep {s : Journal} {command : ReviewCommand}
    {outcome : ReviewResult × ReviewRepository} (hdistinct : DistinctIds s command)
    (heffect : Effect s.repository command outcome) :
    ContentStep (contentOf s.repository) (contentOf outcome.2) (mutation (command, outcome.1)) := by
  have hsame : ∀ {r' : ReviewRepository},
      (∀ threadId, r'.findThread threadId = s.repository.findThread threadId) →
      contentOf r' = contentOf s.repository := by
    intro r' hfind
    funext item
    cases item with
    | comment threadId => rw [contentOf_comment, contentOf_comment, hfind]
    | reply threadId replyId =>
      rw [contentOf_reply, contentOf_reply, findReply, findReply, hfind]
  cases heffect with
  | refused result r' failed unchanged =>
    rw [mutation_failed command failed]
    exact .same (hsame unchanged.findThread)
  | wrote result r' thread step writes =>
    refine step.contentStep writes fun reply hcommand => ?_
    subst hcommand
    exact hdistinct.findReply _
  | read input notification r' asked threadId found announces =>
    subst asked
    exact .same (hsame announces.findThread)

theorem ContentKept.effect {s : Journal} {command : ReviewCommand}
    {outcome : ReviewResult × ReviewRepository} (h : ContentKept s)
    (hdistinct : DistinctIds s command) (heffect : Effect s.repository command outcome) :
    ContentKept ⟨outcome.2, s.done ++ [(command, outcome.1)]⟩ := by
  have hstep := heffect.contentStep hdistinct
  refine ⟨?_, hstep.sound h.sound, ?_⟩
  · cases heffect with
    | refused result r' failed unchanged =>
      rw [unchanged.threads]
      exact h.replyIds
    | wrote result r' thread step writes =>
      intro other hother
      rw [writes.threads] at hother
      rcases Auth.Table.mem_set hother with hold | rfl
      · exact h.replyIds other hold
      · refine step.replyIds (fun reply hcommand => ?_) h.replyIds
        subst hcommand
        exact hdistinct.findReply _
    | read input notification r' asked threadId found announces =>
      rw [announces.threads]
      exact h.replyIds
  · rw [mutations_append]
    exact hstep.recorded h.recorded

/-- What has to hold of a command that writes comments or replies for it to succeed. -/
def Permitted (r : ReviewRepository) : ReviewCommand → Prop
  | .createReply command => ∃ thread, r.findThread command.threadId = some thread ∧
      thread.status ≠ .resolved ∧ thread.deletedAt = none
  | .updateComment input => ∃ thread, r.findThread input.threadId = some thread ∧
      MayEdit thread thread.author.accountId thread.version thread.deletedAt input
  | .deleteComment input => ∃ thread, r.findThread input.threadId = some thread ∧
      MayDelete thread.author.accountId thread.version thread.deletedAt input
  | .updateReply replyId input => ∃ thread reply, r.findThread input.threadId = some thread ∧
      Auth.Table.get ReviewReply.id thread.replies replyId = some reply ∧
      MayEdit thread reply.author.accountId reply.version reply.deletedAt input
  | .deleteReply replyId input => ∃ thread reply, r.findThread input.threadId = some thread ∧
      Auth.Table.get ReviewReply.id thread.replies replyId = some reply ∧
      MayDelete reply.author.accountId reply.version reply.deletedAt input
  | _ => True

theorem ThreadStep.permitted {r : ReviewRepository} {command : ReviewCommand}
    {result : ReviewResult} {thread : PageCommentThread}
    (hstep : ThreadStep r command result thread) : Permitted r command := by
  cases hstep with
  | created command pinNumber free => trivial
  | replied command old found unresolved live => exact ⟨old, found, unresolved, live⟩
  | statusChanged input old found may => trivial
  | commentUpdated input old found may => exact ⟨old, found, may⟩
  | commentDeleted input old found may => exact ⟨old, found, may⟩
  | replyUpdated replyId input old reply found foundReply may =>
    exact ⟨old, reply, found, foundReply, may⟩
  | replyDeleted replyId input old reply found foundReply may =>
    exact ⟨old, reply, found, foundReply, may⟩

/-- The items are the comments and replies that are stored. -/
theorem ContentKept.stored {s : Journal} (h : ContentKept s) (hkeyed : Keyed s.repository)
    {thread : PageCommentThread} (hthread : thread ∈ s.repository.threads) :
    contentOf s.repository (.comment thread.id) = some thread.content ∧
    ∀ reply ∈ thread.replies,
      contentOf s.repository (.reply thread.id reply.id) = some reply.content := by
  have hfound := hkeyed.findThread hthread
  constructor
  · rw [contentOf_comment, hfound]
    rfl
  · intro reply hreply
    rw [contentOf_reply, findReply_found thread hfound,
      Auth.Table.get_of_mem (h.replyIds thread hthread) hreply]
    rfl

theorem contentKept_of_run {backend : ReviewBackend} {accounts : List Auth.Account}
    {commands : List ReviewCommand} {s : Journal}
    (hdistinct : Execution.Guarded (Journal.step backend) DistinctIds (.empty accounts) commands)
    (hrun : Execution.run (Journal.step backend) (.empty accounts) commands = some s) :
    Keyed s.repository ∧ ContentKept s :=
  invariant_of_effects (ContentKept.empty accounts)
    (fun _ _ _ _ h hdistinct heffect => h.effect hdistinct heffect) hdistinct hrun

/-- Nothing that is done later touches a deleted item. -/
theorem deleted_of_run {backend : ReviewBackend} {commands : List ReviewCommand} {s s' : Journal}
    (hkeyed : Keyed s.repository) (h : ContentKept s)
    (hdistinct : Execution.Guarded (Journal.step backend) DistinctIds s commands)
    (hrun : Execution.run (Journal.step backend) s commands = some s') {item : Item}
    {content : Content} (hitem : contentOf s.repository item = some content)
    (hdeleted : content.deletedAt.isSome) :
    contentOf s'.repository item = some content ∧
      OptimisticVersions.accepted (mutations s'.done) item =
        OptimisticVersions.accepted (mutations s.done) item := by
  have hnext : ∀ s command s', (Keyed s.repository ∧ ContentKept s) ∧
      contentOf s.repository item = some content → DistinctIds s command →
      Journal.step backend s command = some s' →
      (Keyed s'.repository ∧ ContentKept s') ∧ contentOf s'.repository item = some content := by
    intro s command s' ⟨⟨hkeyed, hkept⟩, hcontent⟩ hdistinct hstep
    have heffect : Effect s.repository command (perform backend s.repository command) :=
      perform_effect hkeyed.notified command
    cases hstep
    exact ⟨⟨hkeyed.effect heffect, hkept.effect hdistinct heffect⟩,
      (heffect.contentStep hdistinct).deleted hcontent hdeleted⟩
  obtain ⟨⟨-, hkept⟩, hcontent⟩ := @Execution.invariant_of_guarded _ _ _ DistinctIds
    (fun s => (Keyed s.repository ∧ ContentKept s) ∧ contentOf s.repository item = some content)
    hnext s s' commands ⟨⟨hkeyed, h⟩, hitem⟩ hdistinct hrun
  refine ⟨hcontent, h.recorded.accepted_eq hkept.recorded ?_ ?_⟩
  · simp [versionOf, hitem]
  · rw [versionOf, versionOf, hcontent, hitem]

theorem content_versioned (backend : ReviewBackend) (accounts : List Auth.Account)
    (commands : List ReviewCommand) (s : Journal)
    (hdistinct : Execution.Guarded (Journal.step backend) DistinctIds (.empty accounts) commands)
    (hrun : Execution.run (Journal.step backend) (.empty accounts) commands = some s) :
    (∀ thread ∈ s.repository.threads,
      contentOf s.repository (.comment thread.id) = some thread.content ∧
      ∀ reply ∈ thread.replies,
        contentOf s.repository (.reply thread.id reply.id) = some reply.content) ∧
    (∀ item content, contentOf s.repository item = some content →
      content.version =
        1 + (OptimisticVersions.accepted (mutations s.done) item).length ∧
      ContentSound content) ∧
    (mutations s.done).Nodup ∧
    (∀ later s', Execution.Guarded (Journal.step backend) DistinctIds s later →
      Execution.run (Journal.step backend) s later = some s' →
      ∀ item content, contentOf s.repository item = some content → content.deletedAt.isSome →
        contentOf s'.repository item = some content ∧
          OptimisticVersions.accepted (mutations s'.done) item =
            OptimisticVersions.accepted (mutations s.done) item) ∧
    ∀ command, let outcome := perform backend s.repository command
      (outcome.1.isSuccess = false → Unchanged s.repository outcome.2) ∧
      (outcome.1.isSuccess = true → Permitted s.repository command) := by
  obtain ⟨hkeyed, hkept⟩ := contentKept_of_run hdistinct hrun
  refine ⟨fun thread hthread => hkept.stored hkeyed hthread, fun item content hitem => ?_,
    hkept.recorded.nodup, fun later s' hlater hrun' item content hitem hdeleted =>
      deleted_of_run hkeyed hkept hlater hrun' hitem hdeleted, fun command => ?_⟩
  · refine ⟨?_, hkept.sound item content hitem⟩
    apply hkept.recorded.version_eq
    rw [versionOf, hitem]
    rfl
  · have heffect : Effect s.repository command (perform backend s.repository command) :=
      perform_effect hkeyed.notified command
    revert heffect
    generalize perform backend s.repository command = outcome
    intro heffect
    cases heffect with
    | refused result r' failed unchanged =>
      refine ⟨fun _ => unchanged, fun hsuccess => ?_⟩
      rw [failed] at hsuccess
      cases hsuccess
    | wrote result r' thread step writes =>
      refine ⟨fun hfailed => ?_, fun _ => step.permitted⟩
      cases step <;> cases hfailed
    | read input notification r' asked threadId found announces =>
      subst asked
      exact ⟨fun hfailed => (by cases hfailed), fun _ => trivial⟩

theorem content_versioned_takenBack :
    ∃ s, Execution.run (Journal.step .inMemory) (.empty []) sampleCommands = some s ∧
      mutations s.done = [(.comment (JsString.ofAscii "thread"), 1),
        (.reply (JsString.ofAscii "thread") (JsString.ofAscii "reply"), 1)] ∧
      ∀ item content, contentOf s.repository item = some content → ContentSound content := by
  have hmutations : (Execution.run (Journal.step .inMemory) (.empty []) sampleCommands).map
      (fun s => mutations s.done) = some [(.comment (JsString.ofAscii "thread"), 1),
        (.reply (JsString.ofAscii "thread") (JsString.ofAscii "reply"), 1)] := by
    decide +kernel
  have hdistinct : Execution.Guarded (Journal.step .inMemory) DistinctIds (.empty [])
      sampleCommands := by
    decide +kernel
  obtain ⟨s, hrun, hdone⟩ := Option.map_eq_some_iff.1 hmutations
  have hsound := (content_versioned .inMemory [] sampleCommands s hdistinct hrun).2.1
  exact ⟨s, hrun, hdone, fun item content hitem => (hsound item content hitem).2⟩

end Lotur.Review
