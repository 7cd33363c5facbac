import Mathlib.Data.List.Basic
import Mathlib.Tactic

/-! The WHATWG URL parser on scalar values, relative to a base with a special scheme other than
`file`. The states of the standard are functions of the input that is left. The host parser, with
its domain processing, is a parameter. -/
namespace WhatwgUrl

/-- A scalar value string. -/
abbrev Text := List ℕ

def text (s : String) : Text := s.toList.map Char.toNat

inductive Path where
  | isOpaque (value : Text)
  | segments (list : List Text)
  deriving DecidableEq, Repr

structure Url where
  scheme : Text
  username : Text
  password : Text
  host : Option Text
  port : Option ℕ
  path : Path
  query : Option Text
  fragment : Option Text
  deriving DecidableEq, Repr

/-- The base URL: its scheme is special and not `file`. -/
structure Base where
  scheme : Text
  username : Text
  password : Text
  host : Text
  port : Option ℕ
  path : List Text
  query : Option Text
  deriving DecidableEq, Repr

/-- The special schemes with their default ports. -/
def specialSchemes : List (Text × Option ℕ) :=
  [(text "ftp", some 21), (text "file", none), (text "http", some 80), (text "https", some 443),
    (text "ws", some 80), (text "wss", some 443)]

def isSpecial (scheme : Text) : Bool := (specialSchemes.lookup scheme).isSome

def defaultPort (scheme : Text) : Option ℕ := (specialSchemes.lookup scheme).join

def isAlpha (c : ℕ) : Bool := (0x41 ≤ c && c ≤ 0x5a) || (0x61 ≤ c && c ≤ 0x7a)

def isDigit (c : ℕ) : Bool := 0x30 ≤ c && c ≤ 0x39

def lower (c : ℕ) : ℕ := if 0x41 ≤ c ∧ c ≤ 0x5a then c + 0x20 else c

/-- `/`, and `\` in a special URL. -/
def isSlash (special : Bool) (c : ℕ) : Bool := c = 0x2f || (special && c = 0x5c)

def utf8 (c : ℕ) : List ℕ :=
  if c < 0x80 then [c]
  else if c < 0x800 then [0xc0 + c / 0x40, 0x80 + c % 0x40]
  else if c < 0x10000 then [0xe0 + c / 0x1000, 0x80 + c / 0x40 % 0x40, 0x80 + c % 0x40]
  else [0xf0 + c / 0x40000, 0x80 + c / 0x1000 % 0x40, 0x80 + c / 0x40 % 0x40, 0x80 + c % 0x40]

/-- The upper case digit of the last four bits. -/
def hexDigit (n : ℕ) : ℕ := if n % 16 < 10 then 0x30 + n % 16 else 0x37 + n % 16

def c0ControlSet (c : ℕ) : Bool := c ≤ 0x1f || 0x7e < c
def fragmentSet (c : ℕ) : Bool := c0ControlSet c || c ∈ [0x20, 0x22, 0x3c, 0x3e, 0x60]
def querySet (c : ℕ) : Bool := c0ControlSet c || c ∈ [0x20, 0x22, 0x23, 0x3c, 0x3e]
def specialQuerySet (c : ℕ) : Bool := querySet c || c = 0x27
def pathSet (c : ℕ) : Bool := querySet c || c ∈ [0x3f, 0x5e, 0x60, 0x7b, 0x7d]
def userinfoSet (c : ℕ) : Bool :=
  pathSet c || c ∈ [0x2f, 0x3a, 0x3b, 0x3d, 0x40, 0x5b, 0x5c, 0x5d, 0x7c]

def percentEncode (set : ℕ → Bool) (c : ℕ) : Text :=
  if set c then (utf8 c).flatMap fun byte => [0x25, hexDigit (byte / 16), hexDigit byte]
  else [c]

def isSingleDot (segment : Text) : Bool := segment.map lower ∈ [text ".", text "%2e"]

def isDoubleDot (segment : Text) : Bool :=
  segment.map lower ∈ [text "..", text ".%2e", text "%2e.", text "%2e%2e"]

/-- A letter followed by `:` or `|`. -/
def isDriveLetter : Text → Bool
  | [letter, mark] => isAlpha letter && (mark = 0x3a || mark = 0x7c)
  | _ => false

def isNormalizedDriveLetter : Text → Bool
  | [letter, mark] => isAlpha letter && mark = 0x3a
  | _ => false

/-- The last segment goes, unless it is the drive letter of a `file` URL. -/
def shorten (scheme : Text) (path : List Text) : List Text :=
  match path with
  | [segment] => if scheme = text "file" && isNormalizedDriveLetter segment then path else []
  | _ => path.dropLast

/-- The path once a segment has ended, by a slash or otherwise. -/
def closeSegment (scheme : Text) (path : List Text) (buffer : Text) (slash : Bool) : List Text :=
  if isDoubleDot buffer then
    if slash then shorten scheme path else shorten scheme path ++ [[]]
  else if isSingleDot buffer then
    if slash then path else path ++ [[]]
  else if scheme = text "file" && path.isEmpty && isDriveLetter buffer then
    [buffer.take 1 ++ [0x3a]]
  else path ++ [buffer]

def fragmentState (url : Url) (buffer : Text) : Text → Url
  | [] => { url with fragment := some buffer }
  | c :: rest => fragmentState url (buffer ++ percentEncode fragmentSet c) rest

def queryState (url : Url) (buffer : Text) : Text → Url
  | [] => { url with query := some buffer }
  | c :: rest =>
    if c = 0x23 then fragmentState { url with query := some buffer } [] rest
    else queryState url (buffer ++ percentEncode
      (if isSpecial url.scheme then specialQuerySet else querySet) c) rest

def opaquePathState (url : Url) (buffer : Text) : Text → Url
  | [] => { url with path := .isOpaque buffer }
  | c :: rest =>
    if c = 0x3f then queryState { url with path := .isOpaque buffer } [] rest
    else if c = 0x23 then fragmentState { url with path := .isOpaque buffer } [] rest
    else opaquePathState url (buffer ++ percentEncode c0ControlSet c) rest

def pathState (url : Url) (path : List Text) (buffer : Text) : Text → Url
  | [] => { url with path := .segments (closeSegment url.scheme path buffer false) }
  | c :: rest =>
    if isSlash (isSpecial url.scheme) c then
      pathState url (closeSegment url.scheme path buffer true) [] rest
    else if c = 0x3f then queryState
      { url with path := .segments (closeSegment url.scheme path buffer false) } [] rest
    else if c = 0x23 then fragmentState
      { url with path := .segments (closeSegment url.scheme path buffer false) } [] rest
    else pathState url path (buffer ++ percentEncode pathSet c) rest

def pathStartState (url : Url) (input : Text) : Url :=
  match input with
  | [] => if isSpecial url.scheme then pathState url [] [] [] else { url with path := .segments [] }
  | c :: rest =>
    if isSpecial url.scheme then
      if isSlash true c then pathState url [] [] rest else pathState url [] [] input
    else if c = 0x3f then queryState { url with path := .segments [] } [] rest
    else if c = 0x23 then fragmentState { url with path := .segments [] } [] rest
    else if c = 0x2f then pathState url [] [] rest
    else pathState url [] [] input

/-- A port: digits only, at most 65535, and absent when it is the default. -/
def parsePort (scheme : Text) (digits : Text) : Option (Option ℕ) :=
  if digits.all isDigit then
    let port := digits.foldl (fun n digit => 10 * n + (digit - 0x30)) 0
    if 65535 < port then none
    else if digits.isEmpty || defaultPort scheme = some port then some none
    else some (some port)
  else none

/-- The host and what follows its first colon outside brackets. -/
def splitPort (inside : Bool) (host : Text) : Text → Text × Option Text
  | [] => (host, none)
  | c :: rest =>
    if c = 0x3a && !inside then (host, some rest)
    else splitPort (if c = 0x5b then true else if c = 0x5d then false else inside)
      (host ++ [c]) rest

/-- The text before the last `@` and the text after it. -/
def splitUserinfo (authority : Text) : Option Text × Text :=
  if 0x40 ∈ authority then
    let after := (authority.reverse.takeWhile (· ≠ 0x40)).reverse
    (some (authority.take (authority.length - after.length - 1)), after)
  else (none, authority)

variable (parseHost : Bool → Text → Option Text)

/-- Host and port of an authority without its userinfo. -/
def hostState (scheme : Text) (input : Text) : Option (Text × Option ℕ) :=
  match splitPort false [] input with
  | (host, none) =>
    if isSpecial scheme && host.isEmpty then none
    else (parseHost (!isSpecial scheme) host).map fun host => (host, none)
  | (host, some digits) =>
    if host.isEmpty then none
    else match parseHost (!isSpecial scheme) host with
    | none => none
    | some host => (parsePort scheme digits).map fun port => (host, port)

def endsAuthority (special : Bool) (c : ℕ) : Bool := isSlash special c || c = 0x3f || c = 0x23

/-- Host and port of the authority the input starts with. -/
def authorityHost (scheme : Text) (input : Text) : Option (Text × Option ℕ) :=
  match splitUserinfo (input.takeWhile fun c => !endsAuthority (isSpecial scheme) c) with
  | (none, host) => hostState parseHost scheme host
  | (some _, host) => if host.isEmpty then none else hostState parseHost scheme host

/-- The credentials of the userinfo, percent-encoded. -/
def credentials (userinfo : Option Text) : Text × Text :=
  match userinfo with
  | none => ([], [])
  | some userinfo =>
    ((userinfo.takeWhile (· ≠ 0x3a)).flatMap (percentEncode userinfoSet),
      ((userinfo.dropWhile (· ≠ 0x3a)).drop 1).flatMap (percentEncode userinfoSet))

def authorityState (scheme : Text) (input : Text) : Option Url :=
  let special := isSpecial scheme
  let authority := input.takeWhile fun c => !endsAuthority special c
  let (username, password) := credentials (splitUserinfo authority).1
  (authorityHost parseHost scheme input).map fun (host, port) =>
    pathStartState ⟨scheme, username, password, some host, port, .segments [], none, none⟩
      (input.dropWhile fun c => !endsAuthority special c)

/-- Any number of slashes may stand before the authority of a special URL. -/
def specialAuthorityIgnoreSlashesState (scheme : Text) (input : Text) : Option Url :=
  authorityState parseHost scheme (input.dropWhile (isSlash true))

def relativeSlashState (base : Base) (input : Text) : Option Url :=
  match input with
  | c :: rest =>
    if isSlash true c then specialAuthorityIgnoreSlashesState parseHost base.scheme rest
    else some (pathState ⟨base.scheme, base.username, base.password, some base.host, base.port,
      .segments [], none, none⟩ [] [] input)
  | [] => some (pathState ⟨base.scheme, base.username, base.password, some base.host, base.port,
      .segments [], none, none⟩ [] [] [])

def relativeState (base : Base) (input : Text) : Option Url :=
  let url : Url := ⟨base.scheme, base.username, base.password, some base.host, base.port,
    .segments base.path, base.query, none⟩
  match input with
  | [] => some url
  | c :: rest =>
    if isSlash true c then relativeSlashState parseHost base rest
    else if c = 0x3f then some (queryState url [] rest)
    else if c = 0x23 then some (fragmentState url [] rest)
    else some (pathState { url with query := none } (shorten base.scheme base.path) [] input)

/-- A `file` URL after its scheme; the base is of another scheme. -/
def fileState (input : Text) : Option Url :=
  let url : Url := ⟨text "file", [], [], some [], none, .segments [], none, none⟩
  match input with
  | first :: second :: rest =>
    if isSlash true first then
      if isSlash true second then
        let host := rest.takeWhile fun c => !endsAuthority true c
        let after := rest.dropWhile fun c => !endsAuthority true c
        if isDriveLetter host then some (pathState url [] host after)
        else if host.isEmpty then some (pathStartState url after)
        else (parseHost false host).map fun host =>
          pathStartState { url with host := some (if host = text "localhost" then [] else host) }
            after
      else some (pathState url [] [] (second :: rest))
    else some (pathState url [] [] input)
  | [first] => some (pathState url [] [] (if isSlash true first then [] else input))
  | [] => some (pathState url [] [] [])

/-- The scheme and what follows its colon. -/
def splitScheme (input : Text) : Option (Text × Text) :=
  match input with
  | [] => none
  | first :: _ =>
    let scheme := input.takeWhile fun c =>
      isAlpha c || isDigit c || c ∈ [0x2b, 0x2d, 0x2e]
    match input.drop scheme.length with
    | 0x3a :: rest => if isAlpha first then some (scheme.map lower, rest) else none
    | _ => none

/-- Controls and spaces at both ends, and tabs and newlines everywhere, are dropped. -/
def strip (input : Text) : Text :=
  ((((input.dropWhile (· ≤ 0x20)).reverse).dropWhile (· ≤ 0x20)).reverse).filter
    fun c => c ∉ [0x09, 0x0a, 0x0d]

def parse (base : Base) (input : Text) : Option Url :=
  let input := strip input
  match splitScheme input with
  | none => relativeState parseHost base input
  | some (scheme, rest) =>
    if scheme = text "file" then fileState parseHost rest
    else if isSpecial scheme then
      if base.scheme = scheme then
        match rest with
        | 0x2f :: 0x2f :: rest => specialAuthorityIgnoreSlashesState parseHost scheme rest
        | _ => relativeState parseHost base rest
      else specialAuthorityIgnoreSlashesState parseHost scheme rest
    else match rest with
    | 0x2f :: 0x2f :: rest => authorityState parseHost scheme rest
    | 0x2f :: rest =>
      some (pathState ⟨scheme, [], [], none, none, .segments [], none, none⟩ [] [] rest)
    | _ => some (opaquePathState ⟨scheme, [], [], none, none, .isOpaque [], none, none⟩ [] rest)

/-- An absolute URL with a special scheme other than `file`, as a base. -/
def parseBase (input : Text) : Option Base :=
  match splitScheme (strip input) with
  | none => none
  | some (scheme, rest) =>
    if isSpecial scheme && scheme ≠ text "file" then
      match specialAuthorityIgnoreSlashesState parseHost scheme rest with
      | some ⟨scheme, username, password, some host, port, .segments path, query, _⟩ =>
        some ⟨scheme, username, password, host, port, path, query⟩
      | _ => none
    else none

/-- The getter `pathname`. -/
def Url.pathname (url : Url) : Text :=
  match url.path with
  | .isOpaque value => value
  | .segments list => list.flatMap fun segment => 0x2f :: segment

/-- The getter `search`. -/
def Url.search (url : Url) : Text :=
  match url.query with
  | none => []
  | some [] => []
  | some query => 0x3f :: query

/-- Graphic ASCII: no space and no control. -/
def Printable (input : Text) : Prop := ∀ c ∈ input, 0x20 < c ∧ c < 0x7f

theorem Printable.append {left right : Text} (hleft : Printable left) (hright : Printable right) :
    Printable (left ++ right) := by
  intro c hc
  rcases List.mem_append.1 hc with hc | hc
  · exact hleft c hc
  · exact hright c hc

theorem printable_nil : Printable [] := nofun

theorem Printable.cons {c : ℕ} {rest : Text} (hc : 0x20 < c ∧ c < 0x7f) (hrest : Printable rest) :
    Printable (c :: rest) := by
  rintro d (_ | ⟨_, hd⟩)
  · exact hc
  · exact hrest d hd

theorem hexDigit_bounds (n : ℕ) : 0x20 < hexDigit n ∧ hexDigit n < 0x7f := by
  unfold hexDigit
  split_ifs <;> omega

/-- A set with every control, space and non-ASCII value leaves graphic ASCII. -/
theorem percentEncode_printable {set : ℕ → Bool} (hset : ∀ c, c ≤ 0x20 ∨ 0x7f ≤ c → set c = true)
    (c : ℕ) : Printable (percentEncode set c) := by
  unfold percentEncode
  split_ifs with hc
  · intro d hd
    obtain ⟨byte, -, hbyte⟩ := List.mem_flatMap.1 hd
    simp only [List.mem_cons, List.not_mem_nil, or_false] at hbyte
    rcases hbyte with rfl | rfl | rfl
    · omega
    · exact hexDigit_bounds _
    · exact hexDigit_bounds _
  · intro d hd
    rw [List.mem_singleton] at hd
    subst hd
    by_contra hout
    exact hc (hset d (by omega))

theorem querySet_control (c : ℕ) (hc : c ≤ 0x20 ∨ 0x7f ≤ c) : querySet c = true := by
  simp only [querySet, c0ControlSet, Bool.or_eq_true, decide_eq_true_eq, List.mem_cons]
  omega

theorem specialQuerySet_control (c : ℕ) (hc : c ≤ 0x20 ∨ 0x7f ≤ c) : specialQuerySet c = true := by
  simp [specialQuerySet, querySet_control c hc]

theorem pathSet_control (c : ℕ) (hc : c ≤ 0x20 ∨ 0x7f ≤ c) : pathSet c = true := by
  simp [pathSet, querySet_control c hc]

/-- Path and query are percent-encoded, and an opaque path starts with ASCII other than a slash. -/
structure Clean (url : Url) : Prop where
  path : ∀ list, url.path = .segments list → ∀ segment ∈ list, Printable segment
  isOpaque : ∀ value, url.path = .isOpaque value → ∀ c ∈ value.head?, c ≠ 0x2f ∧ c < 0x7f
  query : ∀ query, url.query = some query → Printable query

theorem Clean.setPath {url : Url} (h : Clean url) {list : List Text}
    (hlist : ∀ segment ∈ list, Printable segment) : Clean { url with path := .segments list } where
  path := by
    rintro _ ⟨⟩
    exact hlist
  isOpaque := nofun
  query := h.query

theorem fragmentState_clean {url : Url} (h : Clean url) (buffer input : Text) :
    Clean (fragmentState url buffer input) := by
  induction input generalizing buffer with
  | nil => exact ⟨h.path, h.isOpaque, h.query⟩
  | cons c rest ih => exact ih _

theorem Clean.setQuery {url : Url} (h : Clean url) {query : Text} (hquery : Printable query) :
    Clean { url with query := some query } where
  path := h.path
  isOpaque := h.isOpaque
  query := by
    rintro _ ⟨⟩
    exact hquery

theorem queryState_clean {url : Url} (h : Clean url) {buffer : Text} (hbuffer : Printable buffer)
    (input : Text) : Clean (queryState url buffer input) := by
  induction input generalizing buffer with
  | nil => exact h.setQuery hbuffer
  | cons c rest ih =>
    unfold queryState
    split_ifs
    · exact fragmentState_clean (h.setQuery hbuffer) [] rest
    · exact ih (hbuffer.append (percentEncode_printable specialQuerySet_control c))
    · exact ih (hbuffer.append (percentEncode_printable querySet_control c))

theorem shorten_subset (scheme : Text) (path : List Text) : shorten scheme path ⊆ path := by
  unfold shorten
  split
  · split_ifs
    · exact List.Subset.refl _
    · exact List.nil_subset _
  · exact List.dropLast_subset _

theorem closeSegment_printable (scheme : Text) {path : List Text} {buffer : Text} (slash : Bool)
    (hpath : ∀ segment ∈ path, Printable segment) (hbuffer : Printable buffer) :
    ∀ segment ∈ closeSegment scheme path buffer slash, Printable segment := by
  have hshort : ∀ segment ∈ shorten scheme path, Printable segment :=
    fun segment hsegment => hpath segment (shorten_subset scheme path hsegment)
  have hsnoc : ∀ {list : List Text} {last : Text}, (∀ segment ∈ list, Printable segment) →
      Printable last → ∀ segment ∈ list ++ [last], Printable segment := by
    intro list last hlist hlast segment hsegment
    rcases List.mem_append.1 hsegment with hsegment | hsegment
    · exact hlist segment hsegment
    · rw [List.mem_singleton.1 hsegment]
      exact hlast
  unfold closeSegment
  split_ifs
  · exact hshort
  · exact hsnoc hshort printable_nil
  · exact hpath
  · exact hsnoc hpath printable_nil
  · intro segment hsegment
    rw [List.mem_singleton.1 hsegment]
    refine Printable.append (fun c hc => hbuffer c (List.mem_of_mem_take hc)) ?_
    exact Printable.cons (by omega) printable_nil
  · exact hsnoc hpath hbuffer

theorem pathState_clean {url : Url} (h : Clean url) {path : List Text} {buffer : Text}
    (hpath : ∀ segment ∈ path, Printable segment) (hbuffer : Printable buffer) (input : Text) :
    Clean (pathState url path buffer input) := by
  induction input generalizing path buffer with
  | nil => exact h.setPath (closeSegment_printable _ false hpath hbuffer)
  | cons c rest ih =>
    have hclosed := h.setPath (closeSegment_printable url.scheme false hpath hbuffer)
    unfold pathState
    split_ifs
    · exact ih (closeSegment_printable _ true hpath hbuffer) printable_nil
    · exact queryState_clean hclosed printable_nil rest
    · exact fragmentState_clean hclosed [] rest
    · exact ih hpath (hbuffer.append (percentEncode_printable pathSet_control c))

theorem pathStartState_clean {url : Url} (h : Clean url) (input : Text) :
    Clean (pathStartState url input) := by
  have hnil : ∀ segment ∈ ([] : List Text), Printable segment := List.forall_mem_nil _
  have hempty := h.setPath hnil
  unfold pathStartState
  split
  · split_ifs
    · exact pathState_clean h hnil printable_nil _
    · exact hempty
  · split_ifs
    · exact pathState_clean h hnil printable_nil _
    · exact pathState_clean h hnil printable_nil _
    · exact queryState_clean hempty printable_nil _
    · exact fragmentState_clean hempty [] _
    · exact pathState_clean h hnil printable_nil _
    · exact pathState_clean h hnil printable_nil _

theorem utf8_ne_nil (c : ℕ) : utf8 c ≠ [] := by
  unfold utf8
  split_ifs <;> simp

/-- An encoded value starts with a percent sign, or is itself outside the set. -/
theorem percentEncode_head {set : ℕ → Bool} {c d : ℕ} (h : d ∈ (percentEncode set c).head?) :
    d = 0x25 ∨ d = c ∧ set c = false := by
  unfold percentEncode at h
  split_ifs at h with hset
  · obtain ⟨byte, bytes, hbytes⟩ := List.exists_cons_of_ne_nil (utf8_ne_nil c)
    rw [hbytes] at h
    cases h
    exact Or.inl rfl
  · cases h
    exact Or.inr ⟨rfl, by simpa using hset⟩

theorem percentEncode_ne_nil (set : ℕ → Bool) (c : ℕ) : percentEncode set c ≠ [] := by
  unfold percentEncode
  split_ifs
  · obtain ⟨byte, bytes, hbytes⟩ := List.exists_cons_of_ne_nil (utf8_ne_nil c)
    simp [hbytes]
  · simp

theorem opaquePathState_clean {url : Url} (hquery : url.query = none) {buffer input : Text}
    (hbuffer : ∀ c ∈ buffer.head?, c ≠ 0x2f ∧ c < 0x7f)
    (hinput : buffer = [] → input.head? ≠ some 0x2f) : Clean (opaquePathState url buffer input) := by
  induction input generalizing buffer with
  | nil =>
    refine ⟨nofun, ?_, fun query hsome => absurd hsome (by simp [opaquePathState, hquery])⟩
    rintro _ ⟨⟩
    exact hbuffer
  | cons c rest ih =>
    have hclean : Clean { url with path := .isOpaque buffer } := by
      refine ⟨nofun, ?_, fun query hsome => absurd hsome (by simp [hquery])⟩
      rintro _ ⟨⟩
      exact hbuffer
    unfold opaquePathState
    split_ifs
    · exact queryState_clean hclean printable_nil rest
    · exact fragmentState_clean hclean [] rest
    cases buffer with
    | nil =>
      have hc : c ≠ 0x2f := fun heq => hinput rfl (by rw [heq]; rfl)
      rw [List.nil_append]
      refine ih (fun d hd => ?_) fun hnil => absurd hnil (percentEncode_ne_nil _ _)
      rcases percentEncode_head hd with rfl | ⟨rfl, hset⟩
      · omega
      · simp only [c0ControlSet, Bool.or_eq_false_iff, decide_eq_false_iff_not] at hset
        omega
    | cons first tail => exact ih hbuffer nofun

section Parse

variable {parseHost} {base : Base} {url : Url} {input : Text}

theorem isDriveLetter_printable {buffer : Text} (h : isDriveLetter buffer = true) :
    Printable buffer := by
  match buffer with
  | [] => cases h
  | [_] => cases h
  | [letter, mark] =>
    simp only [isDriveLetter, isAlpha, Bool.and_eq_true, Bool.or_eq_true, decide_eq_true_eq] at h
    exact Printable.cons (by omega) (Printable.cons (by omega) printable_nil)
  | _ :: _ :: _ :: _ => cases h

theorem clean_empty (hpath : url.path = .segments []) (hquery : url.query = none) : Clean url where
  path list hlist := by
    rw [hpath] at hlist
    cases hlist
    exact List.forall_mem_nil _
  isOpaque value hvalue := by
    rw [hpath] at hvalue
    cases hvalue
  query query hsome := by
    rw [hquery] at hsome
    cases hsome

theorem authorityState_clean {scheme : Text} (h : authorityState parseHost scheme input = some url) :
    Clean url := by
  obtain ⟨⟨host, port⟩, -, rfl⟩ := Option.map_eq_some_iff.1 h
  exact pathStartState_clean (clean_empty rfl rfl) _

theorem fileState_clean (h : fileState parseHost input = some url) : Clean url := by
  have hnil : ∀ segment ∈ ([] : List Text), Printable segment := List.forall_mem_nil _
  have hurl : ∀ host : Text,
      Clean ⟨text "file", [], [], some host, none, .segments [], none, none⟩ :=
    fun host => clean_empty rfl rfl
  unfold fileState at h
  dsimp only at h
  split at h
  · split_ifs at h with hfirst hsecond hdrive hempty
    · cases h
      exact pathState_clean (hurl []) hnil (isDriveLetter_printable hdrive) _
    · cases h
      exact pathStartState_clean (hurl []) _
    · obtain ⟨host, -, rfl⟩ := Option.map_eq_some_iff.1 h
      exact pathStartState_clean (hurl _) _
    · cases h
      exact pathState_clean (hurl []) hnil printable_nil _
    · cases h
      exact pathState_clean (hurl []) hnil printable_nil _
  · cases h
    exact pathState_clean (hurl []) hnil printable_nil _
  · cases h
    exact pathState_clean (hurl []) hnil printable_nil _

/-- The base is itself percent-encoded. -/
structure Base.Clean (base : Base) : Prop where
  path : ∀ segment ∈ base.path, Printable segment
  query : ∀ query, base.query = some query → Printable query

theorem parseBase_clean (h : parseBase parseHost input = some base) : base.Clean := by
  unfold parseBase at h
  split at h
  · cases h
  split_ifs at h
  split at h
  next scheme username password host port path query fragment hurl =>
    have hclean := authorityState_clean hurl
    cases h
    exact ⟨hclean.path path rfl, hclean.query⟩
  next => cases h

theorem relativeState_clean (hbase : base.Clean) (h : relativeState parseHost base input = some url) :
    Clean url := by
  have hnil : ∀ segment ∈ ([] : List Text), Printable segment := List.forall_mem_nil _
  have hinherited : Clean ⟨base.scheme, base.username, base.password, some base.host, base.port,
      .segments base.path, base.query, none⟩ := by
    refine ⟨?_, nofun, hbase.query⟩
    rintro _ ⟨⟩
    exact hbase.path
  unfold relativeState at h
  dsimp only at h
  split at h
  · cases h
    exact hinherited
  · split_ifs at h
    · unfold relativeSlashState at h
      split at h
      · split_ifs at h
        · exact authorityState_clean h
        · cases h
          exact pathState_clean (clean_empty rfl rfl) hnil printable_nil _
      · cases h
        exact pathState_clean (clean_empty rfl rfl) hnil printable_nil _
    · cases h
      exact queryState_clean hinherited printable_nil _
    · cases h
      exact fragmentState_clean hinherited [] _
    · have hpath : Clean ⟨base.scheme, base.username, base.password, some base.host, base.port,
          .segments base.path, none, none⟩ := ⟨hinherited.path, hinherited.isOpaque, nofun⟩
      cases h
      refine pathState_clean hpath ?_ printable_nil _
      exact fun segment hsegment => hbase.path segment (shorten_subset _ _ hsegment)

/-- Whatever the input, what the parser returns is percent-encoded. -/
theorem parse_clean (hbase : base.Clean) (h : parse parseHost base input = some url) : Clean url := by
  unfold parse at h
  dsimp only at h
  split at h
  · exact relativeState_clean hbase h
  · split_ifs at h
    · exact fileState_clean h
    · split at h
      · exact authorityState_clean h
      · exact relativeState_clean hbase h
    · exact authorityState_clean h
    · split at h
      · exact authorityState_clean h
      · cases h
        exact pathState_clean (clean_empty rfl rfl) (List.forall_mem_nil _) printable_nil _
      · cases h
        next rest hslashes hslash =>
          refine opaquePathState_clean rfl (fun _ hnone => absurd hnone (by simp)) fun _ hhead => ?_
          obtain ⟨tail, htail⟩ := List.head?_eq_some_iff.1 hhead
          exact hslash tail htail

theorem Clean.printable (h : Clean url) (hslash : url.pathname.head? = some 0x2f) :
    Printable (url.pathname ++ url.search) := by
  refine Printable.append ?_ ?_
  · cases hpath : url.path with
    | isOpaque value =>
      have hhead : value.head? = some 0x2f := by simpa [Url.pathname, hpath] using hslash
      exact absurd rfl (h.isOpaque value hpath _ hhead).1
    | segments list =>
      intro c hc
      simp only [Url.pathname, hpath, List.mem_flatMap, List.mem_cons] at hc
      obtain ⟨segment, hsegment, rfl | hc⟩ := hc
      · omega
      · exact h.path list hpath segment hsegment c hc
  · cases hquery : url.query with
    | none => simpa [Url.search, hquery] using printable_nil
    | some query =>
      cases query with
      | nil => simpa [Url.search, hquery] using printable_nil
      | cons first rest =>
        simp only [Url.search, hquery]
        exact Printable.cons (by omega) (h.query _ hquery)

theorem strip_printable (h : Printable input) : strip input = input := by
  have hdrop : ∀ {part : Text}, Printable part → part.dropWhile (· ≤ 0x20) = part := by
    intro part hpart
    cases part with
    | nil => rfl
    | cons c rest =>
      have hc := hpart c List.mem_cons_self
      rw [List.dropWhile_cons_of_neg (by simpa using hc.1)]
  have hreverse : Printable input.reverse := fun c hc => h c (List.mem_reverse.1 hc)
  unfold strip
  rw [hdrop h, hdrop hreverse, List.reverse_reverse]
  refine List.filter_eq_self.2 fun c hc => ?_
  have hbounds := h c hc
  simp only [List.mem_cons, List.not_mem_nil, or_false, decide_eq_true_eq]
  omega

theorem splitScheme_slash (rest : Text) : splitScheme (0x2f :: rest) = none := by
  simp [splitScheme, isAlpha, isDigit]

/-- A reference of the form `//host`, also when the second slash is a backslash. -/
def isNetworkPath : Text → Bool
  | 0x2f :: c :: _ => isSlash true c
  | _ => false

/-- The host and port a network-path reference names. -/
def networkHost (parseHost : Bool → Text → Option Text) (scheme : Text) (input : Text) :
    Option (Text × Option ℕ) :=
  authorityHost parseHost scheme ((input.drop 2).dropWhile (isSlash true))

/-- Host and port, the getter `host`. -/
def Url.authority (url : Url) : Option Text × Option ℕ := (url.host, url.port)

@[simp] theorem fragmentState_authority (url : Url) (buffer input : Text) :
    (fragmentState url buffer input).authority = url.authority := by
  induction input generalizing buffer with
  | nil => rfl
  | cons c rest ih => exact ih _

@[simp] theorem queryState_authority (url : Url) (buffer input : Text) :
    (queryState url buffer input).authority = url.authority := by
  induction input generalizing buffer with
  | nil => rfl
  | cons c rest ih =>
    unfold queryState
    split_ifs
    · exact fragmentState_authority _ _ _
    · exact ih _
    · exact ih _

@[simp] theorem pathState_authority (url : Url) (path : List Text) (buffer input : Text) :
    (pathState url path buffer input).authority = url.authority := by
  induction input generalizing path buffer with
  | nil => rfl
  | cons c rest ih =>
    unfold pathState
    split_ifs
    · exact ih _ _
    · exact queryState_authority _ _ _
    · exact fragmentState_authority _ _ _
    · exact ih _ _

@[simp] theorem pathStartState_authority (url : Url) (input : Text) :
    (pathStartState url input).authority = url.authority := by
  unfold pathStartState
  split
  · split_ifs
    · exact pathState_authority _ _ _ _
    · rfl
  · split_ifs
    · exact pathState_authority _ _ _ _
    · exact pathState_authority _ _ _ _
    · exact queryState_authority _ _ _
    · exact fragmentState_authority _ _ _
    · exact pathState_authority _ _ _ _
    · exact pathState_authority _ _ _ _

/-- A reference that starts with a slash stays with the authority of the base, unless it is a
network-path reference: that one goes to the authority it names. -/
theorem parse_slash_authority (hinput : Printable input) (hslash : input.head? = some 0x2f) :
    (parse parseHost base input).map Url.authority =
      if isNetworkPath input then
        (networkHost parseHost base.scheme input).map fun (host, port) => (some host, port)
      else some (some base.host, base.port) := by
  obtain ⟨rest, rfl⟩ := List.head?_eq_some_iff.1 hslash
  have hparse : parse parseHost base (0x2f :: rest) = relativeSlashState parseHost base rest := by
    simp only [parse, strip_printable hinput, splitScheme_slash, relativeState]
    rfl
  rw [hparse]
  cases rest with
  | nil =>
    simp only [relativeSlashState, isNetworkPath, Option.map_some, pathState_authority]
    rfl
  | cons c rest =>
    unfold relativeSlashState
    by_cases hc : isSlash true c = true
    · simp only [hc, if_true, isNetworkPath, specialAuthorityIgnoreSlashesState, authorityState,
        Option.map_map, Function.comp_def, pathStartState_authority, networkHost, List.drop]
      rfl
    · simp only [if_neg hc, isNetworkPath, Option.map_some, pathState_authority]
      rfl

end Parse

end WhatwgUrl
