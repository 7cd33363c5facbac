import Lotur.Library.InsertionOrder
import Lotur.Review.JsonText

/-! The store of unsent drafts and its copy in the storage of a browser tab, from
`apps/gateway/src/review-ui/drafts.ts`. -/
namespace Lotur.Review.Drafts
open JsString OpenHttp

structure Draft where
  text : JsString
  version : ℕ
  data : Option Json

structure Submission extends Draft where
  key : JsString
  scope : Option JsString

/-- The part of a context that a scope is made of. -/
structure ReviewContext where
  draftSession : Option JsString
  accountId : JsString
  projectId : JsString
  revisionId : JsString

/-- The text that starts the names of all drafts. -/
def draftPrefix : JsString := ofAscii "review-tunnel:drafts:v1:"
def ttlMs : ℤ := 12 * 60 * 60000
def maxEntries : ℕ := 40
def maxSerializedLength : ℕ := 250000

def scopeText (session accountId projectId revisionId : JsString) : JsString :=
  jsonArray ([session, accountId, projectId, revisionId].map quoteJsonString)

def reviewDraftScope (context : ReviewContext) : Option JsString :=
  match context.draftSession with
  | none => none
  | some session =>
    if session = [] then none
    else some (scopeText session context.accountId context.projectId context.revisionId)

section Storage

/-- The names in a storage and their values. -/
abbrev DraftStorage := List (JsString × JsString)

namespace DraftStorage

def getItem (storage : DraftStorage) (name : JsString) : Option JsString := storage.lookup name

def setItem (storage : DraftStorage) (name value : JsString) : DraftStorage :=
  List.put name value storage

def removeItem (storage : DraftStorage) (name : JsString) : DraftStorage :=
  storage.filter fun item => item.1 ≠ name

end DraftStorage

/-- What a store is created with: how numbers are written, its channel, and in which order `key(i)`
enumerates the names. -/
structure DraftHost where
  format : NumberFormat
  channel : Option JsString
  order : List JsString → List JsString
  order_perm : ∀ names, (order names).Perm names

/-- The readings of `now()` in one call. -/
structure Clock where
  now : ℕ → ℤ
  isTimeValue_now : ∀ i, isTimeValue (now i) = true

end Storage

structure DraftState where
  drafts : List (JsString × Draft)
  scope : Option JsString
  version : ℕ
  storage : DraftStorage

def DraftState.new (storage : DraftStorage) : DraftState := ⟨[], none, 0, storage⟩

/-- `++version` on a double. -/
def nextVersion (version : ℕ) : ℕ := min (version + 1) (2 ^ 53)

def draftKey (path threadId : JsString) : JsString :=
  jsonArray [quoteJsonString path, quoteJsonString threadId]

def storageKeyOf (channel : Option JsString) (scope : JsString) : JsString :=
  draftPrefix ++
    jsonArray [quoteJsonString scope, quoteJsonString (channel.getD (ofAscii "comments"))]

section Persist
variable (host : DraftHost) (clock : Clock)

def Draft.json (draft : Draft) : Json :=
  .object ([(ofAscii "text", .string draft.text),
    (ofAscii "version", .number (.finite draft.version))] ++
      draft.data.toList.map fun data => (ofAscii "data", data))

def entryJson (entry : JsString × Draft) : Json := .array [.string entry.1, entry.2.json]

def serialized (time : ℤ) (drafts : List (JsString × Draft)) : JsString :=
  (Json.object [(ofAscii "expiresAt", .number (.finite ((time + ttlMs : ℤ) : ℚ))),
    (ofAscii "entries", .array (drafts.map entryJson))]).stringify host.format

/-- The oldest drafts go while the text is too long. -/
def evict : List (JsString × Draft) → ℕ → List (JsString × Draft) × JsString
  | [], reading => ([], serialized host (clock.now reading) [])
  | entry :: later, reading =>
    let value := serialized host (clock.now reading) (entry :: later)
    if maxSerializedLength < value.length then evict later (reading + 1)
    else (entry :: later, value)

def persist (s : DraftState) : DraftState :=
  match s.scope with
  | none => s
  | some scope =>
    let storageKey := storageKeyOf host.channel scope
    let drafts := s.drafts.drop (s.drafts.length - maxEntries)
    if drafts = [] then
      { s with drafts := [], storage := s.storage.removeItem storageKey }
    else
      let kept := evict host clock drafts 0
      { s with drafts := kept.1, storage := s.storage.setItem storageKey kept.2 }

end Persist

section Restore
variable (host : DraftHost) (clock : Clock)

/-- `value[0]`; `none` where it throws, and `undefined` inside. -/
def firstProperty : Json → Option (Option Json)
  | .null => none
  | .array items => some items.head?
  | .string text => some (text.head?.map fun unit => .string [unit])
  | .object fields => some (fields.lookup (ofAscii "0"))
  | _ => some none

/-- `const [first] = value`; a string gives its first character. -/
def firstItem : Json → Option (Option Json)
  | .array items => some items.head?
  | .string [] => some none
  | .string [unit] => some (some (.string [unit]))
  | .string (high :: low :: _) =>
    some (some (.string
      (if isLeadingSurrogate high && isTrailingSurrogate low then [high, low] else [high])))
  | _ => none

/-- `===` on values of two different texts. -/
def strictEquals : Option Json → Option Json → Bool
  | none, none => true
  | some .null, some .null => true
  | some (.bool left), some (.bool right) => left = right
  | some (.number left), some (.number right) => left = right && left ≠ .nan
  | some (.string left), some (.string right) => left = right
  | _, _ => false

/-- `value.expiresAt`. -/
def expiryOf : Json → Option (Option Json)
  | .null => none
  | .object fields => some (fields.lookup (ofAscii "expiresAt"))
  | _ => some none

def isAtMost (time : ℤ) : JsNumber → Bool
  | .finite value => value ≤ time
  | .infinity negative => negative
  | .nan => false

/-- The text of the scope in a name, `String(savedScope)`. -/
def savedScopeText (candidate : JsString) : Option JsString := do
  match ← firstItem (← Json.parse host.format (candidate.drop draftPrefix.length)) with
  | none => some (ofAscii "undefined")
  | some savedScope => savedScope.toText host.format

/-- `JSON.parse(value).expiresAt <= now()`. -/
def isExpired (time : ℤ) (value : JsString) : Option Bool := do
  match ← expiryOf (← Json.parse host.format value) with
  | none => some (isAtMost time .nan)
  | some expiresAt => (expiresAt.toNumber host.format).map (isAtMost time)

/-- Whether the drafts of a name go when a session starts; `none` where the check throws. -/
def isStale (session : Option Json) (time : ℤ) (candidate value : JsString) : Option Bool := do
  let savedSession ← firstProperty (← Json.parse host.format (← savedScopeText host candidate))
  if strictEquals savedSession session = false ∨ value = [] ∨ maxSerializedLength < value.length then
    some true
  else isExpired host time value

def purge (session : Option Json) : List JsString → ℕ → DraftStorage → DraftStorage
  | [], _, storage => storage
  | candidate :: later, reading, storage =>
    purge session later (reading + 1)
      (if isStale host session (clock.now reading) candidate ((storage.getItem candidate).getD []) =
          some false then storage
        else storage.removeItem candidate)

/-- The expiry and the entries of a text; `none` where the checks throw. -/
def savedFields (raw : JsString) : Option (JsNumber × List Json) := do
  match ← Json.parse host.format raw with
  | .object fields =>
    match fields.lookup (ofAscii "expiresAt"), fields.lookup (ofAscii "entries") with
    | some (.number expiresAt), some (.array entries) => some (expiresAt, entries)
    | _, _ => none
  | _ => none

/-- `Number.isSafeInteger(version)` and at least 1. -/
def isSafeVersion : JsNumber → Bool
  | .finite value => value.den = 1 && 1 ≤ value.num && value.num ≤ 2 ^ 53 - 1
  | _ => false

/-- What a draft is to its user. -/
abbrev Content := JsString × Option Json

def savedDraft : Json → Option (JsString × Content)
  | .array [.string id, .object fields] =>
    match fields.lookup (ofAscii "text"), fields.lookup (ofAscii "version") with
    | some (.string text), some (.number version) =>
      if id.length ≤ 5000 ∧ text.length ≤ 4000 ∧ isSafeVersion version = true then
        some (id, text, fields.lookup (ofAscii "data"))
      else none
    | _, _ => none
  | _ => none

def restoreDraft (restored : List (JsString × Draft) × ℕ) (entry : Json) :
    List (JsString × Draft) × ℕ :=
  match savedDraft entry with
  | none => restored
  | some (id, text, data) =>
    let version := nextVersion restored.2
    (List.put id ⟨text, version, data⟩ restored.1, version)

/-- The entries of a text that are looked at. -/
def latestEntries (entries : List Json) : List Json := entries.drop (entries.length - maxEntries)

/-- The names of drafts in a storage. -/
def draftNames (storage : DraftStorage) : List JsString :=
  (host.order (storage.map Prod.fst)).filter fun name => startsWith name draftPrefix

/-- What `setScope` removes before it reads. -/
def purged (session : Option Json) (storageKey : JsString) (storage : DraftStorage) : DraftStorage :=
  let names := draftNames host storage
  ((names.filter fun name => name ≠ storageKey).take (names.length - 20)).foldl
    DraftStorage.removeItem (purge host clock session names 0 storage)

/-- The scope is set and its drafts are read. -/
def openScope (next : JsString) (s : DraftState) : DraftState :=
  let storageKey := storageKeyOf host.channel next
  let cleared := { s with drafts := [], scope := some next }
  match (Json.parse host.format next).bind firstProperty with
  | none => { cleared with storage := s.storage.removeItem storageKey }
  | some session =>
    let storage := purged host clock session storageKey s.storage
    match storage.getItem storageKey with
    | none => { cleared with storage }
    | some raw =>
      if raw = [] ∨ maxSerializedLength < raw.length then { cleared with storage }
      else
        match savedFields host raw with
        | none => { cleared with storage := storage.removeItem storageKey }
        | some (expiresAt, entries) =>
          if isAtMost (clock.now (draftNames host s.storage).length) expiresAt then
            { cleared with storage := storage.removeItem storageKey }
          else
            let restored := (latestEntries entries).foldl restoreDraft ([], s.version)
            { cleared with storage, drafts := restored.1, version := restored.2 }

def setScope (next : Option JsString) (s : DraftState) : DraftState × Bool :=
  if s.scope = next then (s, false)
  else
    match next with
    | none => ({ s with drafts := [], scope := none }, true)
    | some next => (openScope host clock next s, true)

end Restore

section Calls
variable (host : DraftHost) (clock : Clock)

def get (s : DraftState) (path threadId : JsString) : Option Draft :=
  s.drafts.lookup (draftKey path threadId)

def read (s : DraftState) (path threadId : JsString) : JsString :=
  ((get s path threadId).map Draft.text).getD []

def deleteDraft (s : DraftState) (id : JsString) : DraftState :=
  { s with drafts := s.drafts.filter fun entry => entry.1 ≠ id }

def write (path threadId text : JsString) (data : Option Json) (s : DraftState) : DraftState :=
  let id := draftKey path threadId
  let deleted := deleteDraft s id
  if text ≠ [] ∨ data.isSome = true then
    let version := nextVersion s.version
    persist host clock { deleted with
      drafts := deleted.drafts ++ [(id, ⟨text.take 4000, version, data⟩)]
      version }
  else persist host clock deleted

def capture (s : DraftState) (path threadId : JsString) : Submission :=
  { toDraft := (get s path threadId).getD ⟨[], 0, none⟩
    key := draftKey path threadId
    scope := s.scope }

def acknowledge (submitted : Submission) (s : DraftState) : DraftState × Bool :=
  if submitted.scope ≠ s.scope ∨
      (s.drafts.lookup submitted.key).map Draft.version ≠ some submitted.version then (s, false)
  else (persist host clock (deleteDraft s submitted.key), true)

def remove (path threadId : JsString) (s : DraftState) : DraftState :=
  persist host clock (deleteDraft s (draftKey path threadId))

def clear (s : DraftState) : DraftState :=
  { s with
    drafts := []
    storage := s.storage.filter fun item => !startsWith item.1 draftPrefix }

inductive DraftCommand where
  | setScope (clock : Clock) (next : Option JsString)
  | write (clock : Clock) (path threadId text : JsString) (data : Option Json)
  | capture (path threadId : JsString)
  | acknowledge (clock : Clock) (submitted : Submission)
  | remove (clock : Clock) (path threadId : JsString)
  | clear

def perform (s : DraftState) : DraftCommand → DraftState
  | .setScope clock next => (setScope host clock next s).1
  | .write clock path threadId text data => write host clock path threadId text data s
  | .capture _ _ => s
  | .acknowledge clock submitted => (acknowledge host clock submitted s).1
  | .remove clock path threadId => remove host clock path threadId s
  | .clear => clear s

def run (s : DraftState) (commands : List DraftCommand) : DraftState :=
  commands.foldl (perform host) s

end Calls

end Lotur.Review.Drafts
