import Lotur.Gateway.CookieHeader

/-! What a browser makes of the `Set-Cookie` headers that a tunnelled application sends, and what the
gateway finds in the `Cookie` header that comes back. -/
namespace Lotur.Gateway
open JsString
open ResponseHead (RESERVED_GATEWAY_COOKIES CR LF)

section Sent

/-- What Node takes as a unit of a header value or of a status message. -/
def isFieldUnit (unit : UInt16) : Bool :=
  unit = 0x09 || (0x20 ≤ unit && unit ≤ 0x7e) || (0x80 ≤ unit && unit ≤ 0xff)

/-- The lines that are written for a header. -/
def headerLines : Option OutgoingValue → List JsString
  | none => []
  | some (.one value) => [value]
  | some (.many values) => values

/-- `response.writeHead`: `none` is the `TypeError` for a value that cannot be written. -/
def writeHead (statusMessage : JsString) (headers : OutgoingHeaders) : Option OutgoingHeaders :=
  if statusMessage.all isFieldUnit ∧
      ∀ entry ∈ headers, ∀ line ∈ headerLines (some entry.2), line.all isFieldUnit then some headers
  else none

/-- The kept headers of an HTTP response, as they are handed to Node. -/
def responseHeaders (metadata : ResponseHeadersMetadata) : OutgoingHeaders :=
  headerPairsToOutgoingHeaders (isolateGatewayCredentials
    (sanitizeHopByHopHeaders metadata.headers) RESERVED_GATEWAY_COOKIES)

/-- The `Set-Cookie` values of an HTTP response, from its bytes. -/
def httpSetCookies (metadata : ResponseHeadersMetadata) : List JsString :=
  match writeHead metadata.statusMessage (responseHeaders metadata) with
  | none => []
  | some headers =>
    (headerLines (headers.get (ofAscii "set-cookie"))).map fun value => ofLatin1 (latin1 value)

/-- A value that nothing checks ends at the first CRLF of its bytes. -/
def writtenValue (value : JsString) : JsString :=
  ofLatin1 ((Separated.split CR LF (latin1 value)).headD [])

/-- The `Set-Cookie` values of the head of an upgrade. -/
def upgradeSetCookies (metadata : ResponseHeadersMetadata) : List JsString :=
  (headerValues (ResponseHead.keptHeaders metadata) (ofAscii "set-cookie")).map writtenValue

end Sent

section Browser

structure Cookie where
  name : JsString
  value : JsString
  deriving DecidableEq, Repr

def isControl (unit : UInt16) : Bool := (unit < 0x20 && unit ≠ 0x09) || unit = 0x7f

/-- The white space of the cookie grammar. -/
def isBlank (unit : UInt16) : Bool := unit = 0x20 || unit = 0x09

def trimBlank (text : JsString) : JsString := (text.dropWhile isBlank).rdropWhile isBlank

/-- The text up to the first semicolon. -/
def nameValuePair (text : JsString) : JsString := text.takeWhile (· ≠ 0x3b)

def readCookie (text : JsString) : Cookie :=
  match (nameValuePair text).before 0x3d with
  | none => { name := [], value := trimBlank (nameValuePair text) }
  | some name =>
    { name := trimBlank name, value := trimBlank ((nameValuePair text).drop (name.length + 1)) }

/-- A nameless cookie must not look like one with a guarded prefix. -/
def hasGuardedPrefix (value : JsString) : Bool :=
  value.toLowerCase.startsWith (ofAscii "__secure-") ||
    value.toLowerCase.startsWith (ofAscii "__host-")

/-- The browser takes the cookie; `keeps` stands for the rules on its attributes, on the page that
set it and on prefixes of its name, which can only drop it. -/
def Accepted (keeps : JsString → Bool) (text : JsString) : Prop :=
  text.any isControl = false ∧
    ((readCookie text).name ≠ [] ∨ (readCookie text).value ≠ []) ∧
    (readCookie text).name.length + (readCookie text).value.length ≤ 4096 ∧
    ((readCookie text).name = [] → hasGuardedPrefix (readCookie text).value = false) ∧
    keeps text = true

instance (keeps : JsString → Bool) (text : JsString) : Decidable (Accepted keeps text) :=
  inferInstanceAs (Decidable (_ ∧ _))

def storeCookie (keeps : JsString → Bool) (text : JsString) : Option Cookie :=
  if Accepted keeps text then some (readCookie text) else none

def Cookie.text (cookie : Cookie) : JsString :=
  if cookie.name = [] then cookie.value else cookie.name ++ 0x3d :: cookie.value

def cookieHeader (cookies : List Cookie) : JsString :=
  join (ofAscii "; ") (cookies.map Cookie.text)

end Browser

/-- However the browser puts together what it stored, the gateway finds none of its own cookies. -/
def PlantsNothing (keeps : JsString → Bool) (texts : List JsString) : Prop :=
  ∀ cookies : List Cookie, (∀ cookie ∈ cookies, ∃ text ∈ texts,
    storeCookie keeps text = some cookie) →
    ∀ name ∈ RESERVED_GATEWAY_COOKIES, cookieValues (cookieHeader cookies) name = []

/-- Nothing but blanks before the first `=`, and the name with its own `=` behind it. -/
def Nameless (name text : JsString) : Prop :=
  ∃ blanks white rest : JsString, text = blanks ++ 0x3d :: (white ++ name ++ 0x3d :: rest) ∧
    (∀ unit ∈ blanks, isBlank unit = true) ∧ ∀ unit ∈ white, isWhiteSpace unit = true

/-- The name before the first `=`. -/
def Named (name text : JsString) : Prop :=
  ∃ white blanks rest : JsString, text = white ++ name ++ blanks ++ 0x3d :: rest ∧
    (∀ unit ∈ white, isWhiteSpace unit = true) ∧ ∀ unit ∈ blanks, isBlank unit = true

theorem isWhiteSpace_of_isBlank {unit : UInt16} (h : isBlank unit = true) :
    isWhiteSpace unit = true := by
  simp only [isBlank, Bool.or_eq_true, decide_eq_true_eq] at h
  rcases h with rfl | rfl <;> decide

/-- Blanks are cut off on both sides. -/
theorem trimBlank_spec (text : JsString) : ∃ before after : JsString,
    text = before ++ trimBlank text ++ after ∧ (∀ unit ∈ before, isBlank unit = true) ∧
      ∀ unit ∈ after, isBlank unit = true := by
  refine ⟨text.takeWhile isBlank, (text.dropWhile isBlank).rtakeWhile isBlank, ?_,
    fun unit => List.mem_takeWhile_imp, fun unit => List.mem_rtakeWhile_imp⟩
  rw [trimBlank, List.append_assoc, List.rdropWhile_append_rtakeWhile,
    List.takeWhile_append_dropWhile]

theorem nameValuePair_append {left : JsString} (h : (0x3b : UInt16) ∉ left) (right : JsString) :
    nameValuePair (left ++ right) = left ++ nameValuePair right := by
  apply List.takeWhile_append_of_pos
  intro unit hunit
  have hne : unit ≠ 0x3b := fun heq => h (heq ▸ hunit)
  simpa using hne

theorem readCookie_of_pair {text name rest : JsString} (hname : (0x3d : UInt16) ∉ name)
    (h : nameValuePair text = name ++ 0x3d :: rest) :
    readCookie text = { name := trimBlank name, value := trimBlank rest } := by
  have hbefore : (nameValuePair text).before 0x3d = some name :=
    before_of_prefix hname ⟨rest, by rw [h, List.append_assoc]; rfl⟩
  rw [readCookie, hbefore, h]
  simp

/-- What a reserved name consists of. -/
structure Plain (name : JsString) : Prop where
  nonempty : name ≠ []
  white : ∀ unit ∈ name, isWhiteSpace unit = false
  equals : (0x3d : UInt16) ∉ name
  semicolon : (0x3b : UInt16) ∉ name

theorem reserved_plain {name : JsString} (h : name ∈ RESERVED_GATEWAY_COOKIES) : Plain name := by
  simp only [RESERVED_GATEWAY_COOKIES, List.mem_cons, List.not_mem_nil, or_false] at h
  have hplain : ∀ name : JsString, name ≠ [] → (name.all fun unit => !isWhiteSpace unit) = true →
      (0x3d : UInt16) ∉ name → (0x3b : UInt16) ∉ name → Plain name := by
    intro name hnonempty hwhite hequals hsemicolon
    refine ⟨hnonempty, fun unit hunit => ?_, hequals, hsemicolon⟩
    simpa using List.all_eq_true.1 hwhite unit hunit
  rcases h with rfl | rfl | rfl | rfl
  all_goals exact hplain _ (by decide) (by decide) (by decide) (by decide)

theorem Plain.head {name : JsString} (hname : Plain name) {drops : UInt16 → Bool}
    (h : ∀ unit ∈ name, drops unit = false) (rest : JsString) :
    ∀ unit ∈ (name ++ rest).head?, drops unit = false := by
  cases name with
  | nil => exact absurd rfl hname.nonempty
  | cons unit name =>
    rintro _ ⟨⟩
    exact h unit List.mem_cons_self

/-- Blanks around the name are cut off, other white space before it stays. -/
theorem trimBlank_named {name white blanks : JsString} (hname : Plain name)
    (hwhite : ∀ unit ∈ white, isWhiteSpace unit = true)
    (hblanks : ∀ unit ∈ blanks, isBlank unit = true) :
    ∃ inner : JsString, trimBlank (white ++ name ++ blanks) = inner ++ name ∧
      ∀ unit ∈ inner, isWhiteSpace unit = true := by
  have hinside : ∀ unit ∈ name, isBlank unit = false := by
    intro unit hunit
    by_contra hblank
    have hspace := isWhiteSpace_of_isBlank (by simpa using hblank)
    rw [hname.white unit hunit] at hspace
    cases hspace
  refine ⟨white.dropWhile isBlank, ?_, fun unit hunit =>
    hwhite unit ((List.dropWhile_suffix _).subset hunit)⟩
  have hlast : (white.dropWhile isBlank ++ name).rdropWhile isBlank =
      white.dropWhile isBlank ++ name := by
    rw [List.rdropWhile_eq_self_iff]
    intro hne
    rw [List.getLast_append_of_ne_nil _ hname.nonempty]
    simp [hinside _ (List.getLast_mem hname.nonempty)]
  rw [trimBlank, List.append_assoc, dropWhile_append_stop (hname.head hinside blanks),
    ← List.append_assoc, rdropWhile_append_of_pos hblanks, hlast]

section Found
variable {name text : JsString}

/-- The gateway looks for the name and its `=` behind white space. -/
theorem dropWhile_named (left right : JsString) :
    (left ++ 0x3d :: right).dropWhile isWhiteSpace =
      left.dropWhile isWhiteSpace ++ 0x3d :: right :=
  dropWhile_append_stop (by rintro _ ⟨⟩; decide) left

/-- A cookie that reads back under the name was nameless, or the name stood in its text. -/
theorem found_of_prefix (hname : Plain name)
    (h : name ++ [0x3d] <+: (readCookie text).text.dropWhile isWhiteSpace) :
    Nameless name text ∨ Named name text := by
  cases hbefore : (nameValuePair text).before 0x3d with
  | none =>
    exfalso
    have hnone : (0x3d : UInt16) ∉ nameValuePair text := by
      intro hmem
      simp [before, hmem] at hbefore
    obtain ⟨front, back, hpair, -, -⟩ := trimBlank_spec (nameValuePair text)
    have hread : (readCookie text).text = trimBlank (nameValuePair text) := by
      simp [readCookie, hbefore, Cookie.text]
    have hmem : (0x3d : UInt16) ∈ (readCookie text).text :=
      (List.dropWhile_suffix _).subset (h.subset (by simp))
    rw [hread] at hmem
    rw [hpair] at hnone
    exact hnone (by simp [hmem])
  | some raw =>
    obtain ⟨rest, hpair, hraw⟩ := before_eq_some hbefore
    have htext : text = raw ++ 0x3d :: rest ++ text.dropWhile (· ≠ 0x3b) := by
      rw [← hpair, nameValuePair, List.takeWhile_append_dropWhile]
    obtain ⟨front, back, hsplit, hfront, hback⟩ := trimBlank_spec raw
    obtain ⟨front', back', hvalue, hfront', -⟩ := trimBlank_spec rest
    rw [readCookie_of_pair hraw hpair] at h
    by_cases hempty : trimBlank raw = []
    · left
      simp only [Cookie.text, hempty, ↓reduceIte] at h
      obtain ⟨tail, htail⟩ := h
      refine ⟨front ++ back, front' ++ (trimBlank rest).takeWhile isWhiteSpace,
        tail ++ back' ++ text.dropWhile (· ≠ 0x3b), ?_, ?_, ?_⟩
      · have hlast : trimBlank rest = (trimBlank rest).takeWhile isWhiteSpace ++
            (name ++ [0x3d] ++ tail) := by rw [htail, List.takeWhile_append_dropWhile]
        rw [hempty] at hsplit
        conv_lhs => rw [htext, hsplit, hvalue, hlast]
        simp
      · intro unit hunit
        rcases List.mem_append.1 hunit with hunit | hunit
        · exact hfront unit hunit
        · exact hback unit hunit
      · intro unit hunit
        rcases List.mem_append.1 hunit with hunit | hunit
        · exact isWhiteSpace_of_isBlank (hfront' unit hunit)
        · exact List.mem_takeWhile_imp hunit
    · right
      simp only [Cookie.text, hempty, ↓reduceIte] at h
      rw [dropWhile_named] at h
      have hinner : (0x3d : UInt16) ∉ (trimBlank raw).dropWhile isWhiteSpace := by
        intro hmem
        rw [hsplit] at hraw
        exact hraw (by simp [(List.dropWhile_suffix _).subset hmem])
      have hsame : (trimBlank raw).dropWhile isWhiteSpace = name := by
        have hright := before_of_prefix hname.equals h
        have hleft : before 0x3d ((trimBlank raw).dropWhile isWhiteSpace ++ 0x3d :: trimBlank rest) =
            some ((trimBlank raw).dropWhile isWhiteSpace) :=
          before_of_prefix hinner ⟨trimBlank rest, by simp⟩
        rw [hleft] at hright
        exact Option.some.inj hright
      have hlast : trimBlank raw = (trimBlank raw).takeWhile isWhiteSpace ++ name := by
        rw [← hsame, List.takeWhile_append_dropWhile]
      refine ⟨front ++ (trimBlank raw).takeWhile isWhiteSpace, back,
        rest ++ text.dropWhile (· ≠ 0x3b), ?_, ?_, hback⟩
      · conv_lhs => rw [htext, hsplit, hlast]
        simp
      · intro unit hunit
        rcases List.mem_append.1 hunit with hunit | hunit
        · exact isWhiteSpace_of_isBlank (hfront unit hunit)
        · exact List.mem_takeWhile_imp hunit

theorem not_mem_of_all {test : UInt16 → Bool} {unit : UInt16} {units : JsString}
    (h : ∀ unit ∈ units, test unit = true) (hunit : test unit = false) : unit ∉ units := by
  intro hmem
  rw [h unit hmem] at hunit
  cases hunit

theorem prefix_of_nameless (hname : Plain name) (h : Nameless name text) :
    name ++ [0x3d] <+: (readCookie text).text.dropWhile isWhiteSpace := by
  obtain ⟨blanks, white, rest, rfl, hblanks, hwhite⟩ := h
  have hequals : (0x3d : UInt16) ∉ blanks := not_mem_of_all hblanks (by decide)
  have hsemicolon : (0x3b : UInt16) ∉ blanks ++ 0x3d :: (white ++ name ++ [0x3d]) := by
    simp [not_mem_of_all hblanks, not_mem_of_all hwhite, hname.semicolon, isBlank,
      (by decide : isWhiteSpace 0x3b = false)]
  have hpair : nameValuePair (blanks ++ 0x3d :: (white ++ name ++ 0x3d :: rest)) =
      blanks ++ 0x3d :: (white ++ (name ++ [0x3d] ++ nameValuePair rest)) := by
    have hsplit := nameValuePair_append hsemicolon rest
    simpa using hsplit
  have hempty : trimBlank blanks = [] := by
    rw [trimBlank, List.dropWhile_eq_nil_iff.2 hblanks]
    rfl
  obtain ⟨front, back, hvalue, hfront, hback⟩ :=
    trimBlank_spec (white ++ (name ++ [0x3d] ++ nameValuePair rest))
  have hstart : name ++ [0x3d] <+:
      (white ++ (name ++ [0x3d] ++ nameValuePair rest)).dropWhile isWhiteSpace := by
    have hplain := dropWhile_append_stop (hname.head hname.white ([0x3d] ++ nameValuePair rest)) []
    rw [List.dropWhile_append_of_pos hwhite, List.append_assoc]
    rw [List.nil_append, List.dropWhile_nil, List.nil_append] at hplain
    rw [hplain]
    exact ⟨nameValuePair rest, by simp⟩
  rw [readCookie_of_pair hequals hpair]
  simp only [Cookie.text, hempty, ↓reduceIte]
  rw [hvalue, List.append_assoc, List.dropWhile_append_of_pos fun unit hunit =>
    isWhiteSpace_of_isBlank (hfront unit hunit)] at hstart
  rwa [prefix_dropWhile_append_iff (by simp; decide) fun unit hunit =>
    isWhiteSpace_of_isBlank (hback unit hunit)] at hstart

theorem prefix_of_named (hname : Plain name) (h : Named name text) :
    name ++ [0x3d] <+: (readCookie text).text.dropWhile isWhiteSpace := by
  obtain ⟨white, blanks, rest, rfl, hwhite, hblanks⟩ := h
  have hequals : (0x3d : UInt16) ∉ white ++ name ++ blanks := by
    simp [not_mem_of_all hwhite, not_mem_of_all hblanks, hname.equals, isBlank,
      (by decide : isWhiteSpace 0x3d = false)]
  have hsemicolon : (0x3b : UInt16) ∉ white ++ name ++ blanks ++ [0x3d] := by
    simp [not_mem_of_all hwhite, not_mem_of_all hblanks, hname.semicolon, isBlank,
      (by decide : isWhiteSpace 0x3b = false)]
  have hpair : nameValuePair (white ++ name ++ blanks ++ 0x3d :: rest) =
      white ++ name ++ blanks ++ 0x3d :: nameValuePair rest := by
    have hsplit := nameValuePair_append hsemicolon rest
    simpa using hsplit
  obtain ⟨inner, hinner, hspace⟩ := trimBlank_named hname hwhite hblanks
  have hne : inner ++ name ≠ [] := by simp [hname.nonempty]
  rw [readCookie_of_pair hequals hpair]
  simp only [Cookie.text, hinner, hne, ↓reduceIte]
  have hplain := dropWhile_append_stop (hname.head hname.white []) inner
  rw [List.append_nil, List.dropWhile_eq_nil_iff.2 hspace, List.nil_append] at hplain
  rw [dropWhile_named, hplain]
  exact ⟨trimBlank (nameValuePair rest), by simp⟩

/-- What the gateway finds in a cookie, by the text the cookie was set with. -/
theorem found_iff (hname : Plain name) :
    name ++ [0x3d] <+: trim (readCookie text).text ↔ Nameless name text ∨ Named name text := by
  rw [prefix_trim_iff (by simp; decide)]
  constructor
  · exact found_of_prefix hname
  · rintro (h | h)
    · exact prefix_of_nameless hname h
    · exact prefix_of_named hname h

end Found

/-- A cookie goes back without a semicolon. -/
theorem readCookie_text (text : JsString) : (0x3b : UInt16) ∉ (readCookie text).text := by
  have hpair : (0x3b : UInt16) ∉ nameValuePair text := fun hmem => by
    simpa using List.mem_takeWhile_imp hmem
  have htrim (part : JsString) (hpart : (0x3b : UInt16) ∉ part) :
      (0x3b : UInt16) ∉ trimBlank part := fun hmem =>
    hpart ((List.dropWhile_suffix _).subset ((List.rdropWhile_prefix _ _).subset hmem))
  cases hbefore : (nameValuePair text).before 0x3d with
  | none =>
    have hread : (readCookie text).text = trimBlank (nameValuePair text) := by
      simp [readCookie, hbefore, Cookie.text]
    rw [hread]
    exact htrim _ hpair
  | some raw =>
    obtain ⟨rest, hsplit, hraw⟩ := before_eq_some hbefore
    rw [hsplit, List.mem_append, not_or, List.mem_cons, not_or] at hpair
    rw [readCookie_of_pair hraw hsplit, Cookie.text]
    split_ifs
    · exact htrim _ hpair.2.2
    · simp [htrim raw hpair.1, htrim rest hpair.2.2]

/-- The cookies of a header are found one by one. -/
theorem cookieValues_cookieHeader {cookies : List Cookie} {name : JsString}
    (h : ∀ cookie ∈ cookies, (0x3b : UInt16) ∉ cookie.text) :
    cookieValues (cookieHeader cookies) name = [] ↔
      ∀ cookie ∈ cookies, ¬ name ++ [0x3d] <+: trim cookie.text := by
  cases cookies with
  | nil =>
    have hempty : cookieValues (cookieHeader []) name = [] := by
      have hnone : ¬ name ++ [0x3d] <+: [] := by simp
      have hsplit : (split 0x3b (cookieHeader [])).map trim = [[]] := rfl
      rw [cookieValues, hsplit, List.filter_eq_nil_iff]
      intro part hpart
      rw [List.mem_singleton.1 hpart, startsWith_iff]
      exact hnone
    simp [hempty]
  | cons first rest =>
    have hparts : (split 0x3b (cookieHeader (first :: rest))).map trim =
        ((first :: rest).map Cookie.text).map trim := by
      apply map_trim_split_join (by decide) (by simp)
      simpa using h
    rw [cookieValues, hparts, List.filter_eq_nil_iff]
    simp only [List.forall_mem_map, startsWith_iff]

theorem storeCookie_eq_some {keeps : JsString → Bool} {text : JsString} {cookie : Cookie} :
    storeCookie keeps text = some cookie ↔ Accepted keeps text ∧ readCookie text = cookie := by
  simp [storeCookie]

/-- A text plants a cookie if the browser takes it and it carries a reserved name in either way. -/
theorem plantsNothing_iff {keeps : JsString → Bool} {texts : List JsString} :
    PlantsNothing keeps texts ↔ ∀ text ∈ texts, Accepted keeps text →
      ∀ name ∈ RESERVED_GATEWAY_COOKIES, ¬ Nameless name text ∧ ¬ Named name text := by
  constructor
  · intro h text htext haccepted name hname
    have hplain := reserved_plain hname
    have hnone := h [readCookie text] (by simpa using ⟨text, htext,
      storeCookie_eq_some.2 ⟨haccepted, rfl⟩⟩) name hname
    rw [cookieValues_cookieHeader (by simpa using readCookie_text text)] at hnone
    rw [← not_or, ← found_iff hplain]
    exact hnone _ List.mem_cons_self
  · intro h cookies hstored name hname
    have hplain := reserved_plain hname
    rw [cookieValues_cookieHeader]
    · intro cookie hcookie
      obtain ⟨text, htext, hstore⟩ := hstored cookie hcookie
      obtain ⟨haccepted, rfl⟩ := storeCookie_eq_some.1 hstore
      rw [found_iff hplain, not_or]
      exact h text htext haccepted name hname
    · intro cookie hcookie
      obtain ⟨text, -, hstore⟩ := hstored cookie hcookie
      obtain ⟨-, rfl⟩ := storeCookie_eq_some.1 hstore
      exact readCookie_text text

/-- The filter reads the name of a named cookie. -/
theorem Named.setCookieName {name text : JsString} (hname : Plain name) (h : Named name text) :
    setCookieName text = name := by
  obtain ⟨white, blanks, rest, rfl, hwhite, hblanks⟩ := h
  have hequals : (0x3d : UInt16) ∉ white ++ name ++ blanks := by
    simp [not_mem_of_all hwhite, not_mem_of_all hblanks, hname.equals, isBlank,
      (by decide : isWhiteSpace 0x3d = false)]
  have hbefore : before 0x3d (white ++ name ++ blanks ++ 0x3d :: rest) =
      some (white ++ name ++ blanks) := before_of_prefix hequals ⟨rest, by simp⟩
  have hself : name.trim = name := by
    apply trim_eq_self
    · simpa using hname.head hname.white []
    · intro unit hunit
      exact hname.white unit (List.mem_of_mem_getLast? hunit)
  rw [Lotur.setCookieName, hbefore, Option.getD_some,
    trim_append_white _ fun unit hunit => isWhiteSpace_of_isBlank (hblanks unit hunit),
    trim_eq_rdropWhile, List.dropWhile_append_of_pos hwhite, ← trim_eq_rdropWhile, hself]

theorem isolateHeader_setCookie {reserved : List JsString} {pair kept : HeaderPair}
    (h : isolateHeader reserved pair = some kept)
    (hname : kept.1.toLowerCase = ofAscii "set-cookie") :
    Lotur.setCookieName kept.2 ∉ reserved := by
  have hlower : pair.1.toLowerCase = ofAscii "set-cookie" := isolateHeader_name h ▸ hname
  have hother : ofAscii "set-cookie" ≠ ofAscii "cookie" := by decide
  obtain ⟨name, value⟩ := pair
  simp only [isolateHeader, hlower, hother, ↓reduceIte, true_and] at h
  split_ifs at h with htunnel hreserved
  cases h
  exact hreserved

theorem headerLines_ofValues (values : List JsString) :
    headerLines (OutgoingValue.ofValues values) = values := by
  match values with
  | [] => rfl
  | [_] => rfl
  | _ :: _ :: _ => rfl

theorem ofLatin1_latin1 {value : JsString} (h : value.all isFieldUnit = true) :
    ofLatin1 (latin1 value) = value := by
  rw [ofLatin1, latin1, List.map_map]
  conv_rhs => rw [← List.map_id value]
  apply List.map_congr_left
  intro unit hunit
  have hfield := List.all_eq_true.1 h unit hunit
  simp only [isFieldUnit, Bool.or_eq_true, Bool.and_eq_true, decide_eq_true_eq,
    UInt16.le_iff_toNat_le, ← UInt16.toNat_inj, UInt16.reduceToNat] at hfield
  apply UInt16.toNat_inj.mp
  rw [Function.comp_apply, UInt8.toNat_toUInt16, UInt16.toNat_toUInt8]
  change unit.toNat % 256 = unit.toNat
  omega

/-- An HTTP response carries the values as the filter let them through. -/
theorem httpSetCookies_mem {metadata : ResponseHeadersMetadata} {text : JsString}
    (h : text ∈ httpSetCookies metadata) :
    Lotur.setCookieName text ∉ RESERVED_GATEWAY_COOKIES := by
  unfold httpSetCookies at h
  cases hwrite : writeHead metadata.statusMessage (responseHeaders metadata) with
  | none =>
    rw [hwrite] at h
    cases h
  | some headers =>
    rw [hwrite] at h
    obtain ⟨value, hvalue, rfl⟩ := List.mem_map.1 h
    unfold writeHead at hwrite
    split_ifs at hwrite with hwritable
    cases hwrite
    have hlookup := headerPairsToOutgoingHeaders_get (isolateGatewayCredentials
      (sanitizeHopByHopHeaders metadata.headers) RESERVED_GATEWAY_COOKIES) (ofAscii "set-cookie")
    have hline : value.all isFieldUnit = true := by
      cases hget : (responseHeaders metadata).get (ofAscii "set-cookie") with
      | none =>
        rw [hget] at hvalue
        cases hvalue
      | some entry =>
        obtain ⟨front, back, hentries, -⟩ := List.lookup_eq_some_iff.1 hget
        rw [hget] at hvalue
        exact hwritable.2 (ofAscii "set-cookie", entry) (by simp [hentries]) value hvalue
    rw [ofLatin1_latin1 hline]
    rw [responseHeaders, hlookup, headerLines_ofValues] at hvalue
    obtain ⟨kept, hkept, rfl⟩ := List.mem_map.1 hvalue
    obtain ⟨hmem, hname⟩ := List.mem_filter.1 hkept
    obtain ⟨pair, -, hpair⟩ := List.mem_filterMap.1 hmem
    exact isolateHeader_setCookie hpair (by simpa using hname)

/-- The gateway finds a planted cookie exactly when a browser takes a value that hides a reserved name:
behind an empty name or, on an upgrade, in units that are cut to their low byte. -/
theorem plantsNothing_setCookies (keeps : JsString → Bool) (metadata : ResponseHeadersMetadata) :
    (PlantsNothing keeps (httpSetCookies metadata) ↔
        ∀ text ∈ httpSetCookies metadata, Accepted keeps text →
          ∀ name ∈ RESERVED_GATEWAY_COOKIES, ¬ Nameless name text) ∧
      (PlantsNothing keeps (upgradeSetCookies metadata) ↔
        ∀ text ∈ upgradeSetCookies metadata, Accepted keeps text →
          ∀ name ∈ RESERVED_GATEWAY_COOKIES, ¬ Nameless name text ∧ ¬ Named name text) := by
  refine ⟨?_, plantsNothing_iff⟩
  rw [plantsNothing_iff]
  constructor
  · intro h text htext haccepted name hname
    exact (h text htext haccepted name hname).1
  · intro h text htext haccepted name hname
    refine ⟨h text htext haccepted name hname, fun hnamed => httpSetCookies_mem htext ?_⟩
    rw [hnamed.setCookieName (reserved_plain hname)]
    exact hname

theorem not_plantsNothing {keeps : JsString → Bool} {texts : List JsString} {text : JsString}
    {cookie : Cookie} {name : JsString} (htext : text ∈ texts)
    (hstore : storeCookie keeps text = some cookie) (hname : name ∈ RESERVED_GATEWAY_COOKIES)
    (hfound : cookieValues (cookieHeader [cookie]) name ≠ []) : ¬ PlantsNothing keeps texts := by
  intro h
  apply hfound
  apply h _ _ name hname
  simpa using ⟨text, htext, hstore⟩

def plantedMetadata (value : JsString) : ResponseHeadersMetadata :=
  { statusCode := 200, statusMessage := ofAscii "OK", headers := [(ofAscii "Set-Cookie", value)] }

def plantedFields (value : JsString) : List (String × JsonValue) :=
  [("statusCode", .number 200), ("statusMessage", .string (ofAscii "OK")),
    ("headers", .array [.array [.string (ofAscii "Set-Cookie"), .string value]])]

def namelessValue : JsString := ofAscii "=rt_session_dev=evil"

-- The low byte of U+015F is the underscore.
def wideValue : JsString := ofAscii "rt" ++ 0x015f :: ofAscii "session_dev=evil"

set_option maxRecDepth 4000 in
theorem nameless_cookie_planted :
    parseResponseHeadersMetadata (plantedFields namelessValue) =
        .ok (plantedMetadata namelessValue) ∧
      httpSetCookies (plantedMetadata namelessValue) = [namelessValue] ∧
      storeCookie (fun _ => true) namelessValue =
        some { name := [], value := ofAscii "rt_session_dev=evil" } ∧
      parseCookie (some (cookieHeader [{ name := [], value := ofAscii "rt_session_dev=evil" }]))
        (ofAscii "rt_session_dev") = some (ofAscii "evil") ∧
      ¬ PlantsNothing (fun _ => true) (httpSetCookies (plantedMetadata namelessValue)) ∧
      ¬ PlantsNothing (fun _ => true) (upgradeSetCookies (plantedMetadata namelessValue)) ∧
      ¬ PlantsNothing (fun _ => true) (upgradeSetCookies (plantedMetadata wideValue)) := by
  have hstore : storeCookie (fun _ => true) namelessValue =
      some { name := [], value := ofAscii "rt_session_dev=evil" } := by decide +kernel
  have hwide : storeCookie (fun _ => true) (ofAscii "rt_session_dev=evil") =
      some { name := ofAscii "rt_session_dev", value := ofAscii "evil" } := by decide +kernel
  have hname : ofAscii "rt_session_dev" ∈ RESERVED_GATEWAY_COOKIES := by decide
  refine ⟨by decide +kernel, by decide +kernel, hstore, by decide +kernel, ?_, ?_, ?_⟩
  · exact not_plantsNothing (by decide +kernel) hstore hname (by decide +kernel)
  · exact not_plantsNothing (by decide +kernel) hstore hname (by decide +kernel)
  · exact not_plantsNothing (by decide +kernel) hwide hname (by decide +kernel)

end Lotur.Gateway
