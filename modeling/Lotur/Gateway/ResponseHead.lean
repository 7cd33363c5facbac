import Lotur.Library.Separated
import Lotur.Proxy.HeaderPolicy

/-! The head that the gateway writes to the browser socket of an upgrade, and how that
head reads back when it is cut at CRLF. -/
namespace Lotur.ResponseHead
open JsString

abbrev CR : UInt8 := 13
abbrev LF : UInt8 := 10

def RESERVED_GATEWAY_COOKIES : List JsString :=
  [ofAscii "__Host-rt_control", ofAscii "__Host-rt_session", ofAscii "rt_control_dev",
    ofAscii "rt_session_dev"]

def keptHeaders (metadata : ResponseHeadersMetadata) : List HeaderPair :=
  isolateGatewayCredentials metadata.headers RESERVED_GATEWAY_COOKIES

def statusLine (metadata : ResponseHeadersMetadata) : JsString :=
  ofAscii "HTTP/1.1 " ++ ofNat metadata.statusCode ++ ofAscii " " ++
    metadata.statusMessage.filter fun unit => unit ≠ 0x0d ∧ unit ≠ 0x0a

def headerLine (pair : HeaderPair) : JsString := pair.1 ++ ofAscii ": " ++ pair.2

def lines (metadata : ResponseHeadersMetadata) : List JsString :=
  statusLine metadata :: (keptHeaders metadata).map headerLine ++ [[], []]

/-- The lines are joined by CRLF as a string and then encoded, so a code unit whose low
byte is CR or LF reaches the socket as that byte. -/
def serializeRawHeaders (metadata : ResponseHeadersMetadata) : List UInt8 :=
  latin1 (join [0x0d, 0x0a] (lines metadata))

structure Head where
  statusLine : List UInt8
  headers : List (List UInt8 × List UInt8)
  deriving DecidableEq

def parseHeaderLine (line : List UInt8) : Option (List UInt8 × List UInt8) :=
  if 0x3a ∈ line then
    some (line.takeWhile (· ≠ 0x3a), (line.dropWhile (· ≠ 0x3a)).tail)
  else none

/-- Header lines up to the empty line, which must be the end of the head. -/
def parseHeaderLines : List (List UInt8) → Option (List (List UInt8 × List UInt8))
  | [] => none
  | [] :: rest => if rest = [[]] then some [] else none
  | line :: rest => do
      let header ← parseHeaderLine line
      let headers ← parseHeaderLines rest
      return header :: headers

/-- One status line, header lines and one empty line, cut at CRLF. -/
def parseHead (bytes : List UInt8) : Option Head :=
  match Separated.split CR LF bytes with
  | [] => none
  | first :: rest => (parseHeaderLines rest).map fun headers => { statusLine := first, headers }

/-- A received `Set-Cookie` line that sets one of the gateway's own cookies, read by the
name rule of `isolateGatewayCredentials`. -/
def SetsReservedCookie (header : List UInt8 × List UInt8) : Prop :=
  (ofLatin1 header.1).toLowerCase = ofAscii "set-cookie" ∧
    setCookieName (ofLatin1 header.2) ∈ RESERVED_GATEWAY_COOKIES

instance (header : List UInt8 × List UInt8) : Decidable (SetsReservedCookie header) :=
  inferInstanceAs (Decidable (_ ∧ _))

/-- The written head reads back as one status line and exactly the kept headers, and none
of its lines carries a gateway credential. -/
def ReadsBack (metadata : ResponseHeadersMetadata) : Prop :=
  ∃ head, parseHead (serializeRawHeaders metadata) = some head ∧
    head.statusLine = latin1 (statusLine metadata) ∧
    head.headers.map Prod.fst = (keptHeaders metadata).map (fun pair => latin1 pair.1) ∧
    (∀ header ∈ head.headers, ¬ SetsReservedCookie header) ∧
    ∀ header ∈ head.headers,
      (ofLatin1 header.1).toLowerCase.startsWith (ofAscii "x-review-tunnel-") = false

/-- No text of the head encodes to CR directly followed by LF, and no kept `Set-Cookie`
value encodes to one that names a gateway cookie. -/
def EncodesSafely (metadata : ResponseHeadersMetadata) : Prop :=
  ¬ Separated.Occurs CR LF (latin1 metadata.statusMessage) ∧
    (∀ pair ∈ keptHeaders metadata, ¬ Separated.Occurs CR LF (latin1 pair.2)) ∧
    ∀ pair ∈ keptHeaders metadata, pair.1.toLowerCase = ofAscii "set-cookie" →
      setCookieName (ofLatin1 (latin1 pair.2)) ∉ RESERVED_GATEWAY_COOKIES

theorem latin1_join (parts : List JsString) :
    latin1 (join [0x0d, 0x0a] parts) = Separated.join CR LF (parts.map latin1) := by
  induction parts with
  | nil => rfl
  | cons part parts ih =>
    cases parts with
    | nil => simp [join, Separated.join, List.intercalate]
    | cons next rest =>
      have hjoin : join [0x0d, 0x0a] (part :: next :: rest) =
          part ++ ([0x0d, 0x0a] ++ join [0x0d, 0x0a] (next :: rest)) := by
        simp [join, List.intercalate, List.intersperse]
      rw [hjoin, latin1_append, latin1_append, ih]
      rfl

section Units
variable {unit : UInt16}

theorem isTokenUnit_bounds (h : isTokenUnit unit = true) :
    0x21 ≤ unit.toNat ∧ unit.toNat ≤ 0x7e ∧ unit.toNat ≠ 0x3a := by
  simp only [isTokenUnit, Bool.or_eq_true, Bool.and_eq_true, decide_eq_true_eq, List.mem_cons,
    List.not_mem_nil, or_false, UInt16.le_iff_toNat_le] at h
  rcases h with ((h | h) | h) | h
  · rcases h with h | h | h | h | h | h | h | h | h | h | h | h | h | h | h <;> subst h <;> decide
  all_goals
    simp only [UInt16.reduceToNat] at h
    omega

theorem token_toUInt8 (h : isTokenUnit unit = true) :
    unit.toUInt8.toUInt16 = unit ∧ unit.toUInt8 ≠ CR ∧ unit.toUInt8 ≠ 0x3a := by
  have hb := isTokenUnit_bounds h
  have hnat : unit.toUInt8.toNat = unit.toNat := by
    rw [UInt16.toNat_toUInt8]
    omega
  refine ⟨?_, ?_, ?_⟩
  · apply UInt16.toNat_inj.mp
    rw [UInt8.toNat_toUInt16, hnat]
  · intro heq
    rw [heq] at hnat
    have : (13 : ℕ) = unit.toNat := hnat
    omega
  · intro heq
    rw [heq] at hnat
    have : (0x3a : ℕ) = unit.toNat := hnat
    omega

end Units

section Names
variable {name : JsString}

theorem name_units (h : headerNamePattern name = true) :
    ∀ unit ∈ name, isTokenUnit unit = true := by
  simp only [headerNamePattern, Bool.and_eq_true, List.all_eq_true] at h
  exact h.2

theorem ofLatin1_latin1_name (h : headerNamePattern name = true) :
    ofLatin1 (latin1 name) = name := by
  rw [ofLatin1, latin1, List.map_map]
  conv_rhs => rw [← List.map_id name]
  apply List.map_congr_left
  intro unit hunit
  exact (token_toUInt8 (name_units h unit hunit)).1

theorem name_bytes (h : headerNamePattern name = true) :
    CR ∉ latin1 name ∧ (0x3a : UInt8) ∉ latin1 name := by
  constructor <;> intro hmem
  all_goals
    obtain ⟨unit, hunit, hbyte⟩ := List.mem_map.mp hmem
    have htoken := token_toUInt8 (name_units h unit hunit)
  · exact htoken.2.1 hbyte
  · exact htoken.2.2 hbyte

end Names

theorem headerLine_occurs_iff {pair : HeaderPair} (h : headerNamePattern pair.1 = true) :
    Separated.Occurs CR LF (latin1 (headerLine pair)) ↔
      Separated.Occurs CR LF (latin1 pair.2) := by
  rw [headerLine, latin1_append]
  apply Separated.occurs_append_left_iff
  rw [latin1_append, List.mem_append, not_or]
  exact ⟨(name_bytes h).1, by decide⟩

theorem filter_checked_message {message : JsString} (h : hasForbiddenUnit message = false) :
    message.filter (fun unit => unit ≠ 0x0d ∧ unit ≠ 0x0a) = message := by
  rw [List.filter_eq_self]
  intro unit hunit
  simp only [hasForbiddenUnit, List.any_eq_false] at h
  have hnot := h unit hunit
  simp only [List.mem_cons, List.not_mem_nil, or_false, decide_eq_true_eq, not_or] at hnot
  simp [hnot.2.1, hnot.2.2]

theorem digits_bytes (n : ℕ) : CR ∉ latin1 (ofNat n) := by
  intro hmem
  obtain ⟨unit, hunit, hbyte⟩ := List.mem_map.mp hmem
  have hbounds := ofNat_units n unit hunit
  simp only [UInt16.le_iff_toNat_le, UInt16.reduceToNat] at hbounds
  have hnat : unit.toUInt8.toNat = 13 := by rw [hbyte]; rfl
  rw [UInt16.toNat_toUInt8] at hnat
  omega

theorem statusLine_occurs_iff {metadata : ResponseHeadersMetadata}
    (h : hasForbiddenUnit metadata.statusMessage = false) :
    Separated.Occurs CR LF (latin1 (statusLine metadata)) ↔
      Separated.Occurs CR LF (latin1 metadata.statusMessage) := by
  rw [statusLine, filter_checked_message h, latin1_append]
  apply Separated.occurs_append_left_iff
  simp only [latin1_append, List.mem_append, not_or]
  exact ⟨⟨by decide, digits_bytes _⟩, by decide⟩

theorem takeWhile_append_of_not_mem {α : Type*} [DecidableEq α] {separator : α} {left : List α}
    (h : separator ∉ left) (right : List α) :
    (left ++ separator :: right).takeWhile (· ≠ separator) = left ∧
      (left ++ separator :: right).dropWhile (· ≠ separator) = separator :: right := by
  induction left with
  | nil => simp
  | cons x left ih =>
    simp only [List.mem_cons, not_or] at h
    have hx : x ≠ separator := fun heq => h.1 heq.symm
    obtain ⟨htake, hdrop⟩ := ih h.2
    simp only [List.cons_append, List.takeWhile_cons, List.dropWhile_cons, hx, ne_eq,
      not_false_eq_true, decide_true, ↓reduceIte]
    exact ⟨by rw [htake], hdrop⟩

theorem latin1_headerLine (pair : HeaderPair) :
    latin1 (headerLine pair) = latin1 pair.1 ++ 0x3a :: 0x20 :: latin1 pair.2 := by
  rw [headerLine, latin1_append, latin1_append, List.append_assoc]
  rfl

theorem parseHeaderLine_headerLine {pair : HeaderPair} (h : headerNamePattern pair.1 = true) :
    parseHeaderLine (latin1 (headerLine pair)) =
      some (latin1 pair.1, 0x20 :: latin1 pair.2) := by
  have hparts := takeWhile_append_of_not_mem (name_bytes h).2 (0x20 :: latin1 pair.2)
  rw [latin1_headerLine, parseHeaderLine, if_pos (by simp), hparts.1, hparts.2]
  rfl

theorem parseHeaderLines_headerLines {pairs : List HeaderPair}
    (h : ∀ pair ∈ pairs, headerNamePattern pair.1 = true) :
    parseHeaderLines (pairs.map (fun pair => latin1 (headerLine pair)) ++ [[], []]) =
      some (pairs.map fun pair => (latin1 pair.1, 0x20 :: latin1 pair.2)) := by
  induction pairs with
  | nil => rfl
  | cons pair pairs ih =>
    have hline := parseHeaderLine_headerLine (h pair (by simp))
    have hrest := ih fun other hother => h other (by simp [hother])
    have hne : latin1 (headerLine pair) ≠ [] := by simp [latin1_headerLine]
    simp only [List.map_cons, List.cons_append]
    rw [parseHeaderLines]
    · rw [hline, hrest]
      rfl
    · exact hne

/-- A head with `n` headers was cut into `n` header lines, the empty line and the end. -/
theorem parseHeaderLines_length {lines : List (List UInt8)}
    {headers : List (List UInt8 × List UInt8)} (h : parseHeaderLines lines = some headers) :
    lines.length = headers.length + 2 := by
  induction lines generalizing headers with
  | nil => cases h
  | cons line rest ih =>
    cases line with
    | nil =>
      rw [parseHeaderLines] at h
      split_ifs at h with hrest
      cases h
      simp [hrest]
    | cons byte line =>
      rw [parseHeaderLines] at h
      · obtain ⟨header, -, h⟩ := Option.bind_eq_some_iff.mp h
        obtain ⟨tail, htail, h⟩ := Option.bind_eq_some_iff.mp h
        cases h
        simp [ih htail]
      · simp

theorem setCookieName_space (value : JsString) :
    setCookieName (0x20 :: value) = setCookieName value := by
  have htrim (text : JsString) : trim (0x20 :: text) = trim text := by
    have hspace : isWhiteSpace 0x20 = true := by decide
    simp [trim, hspace]
  have hne : ¬ (0x3d : UInt16) = 0x20 := by decide
  by_cases hmem : (0x3d : UInt16) ∈ value
  · simp [setCookieName, before, hmem, htrim]
  · simp [setCookieName, before, hmem, hne, htrim]

section Reading
variable {metadata : ResponseHeadersMetadata}

theorem keptHeaders_name (h : metadata.Checked) :
    ∀ pair ∈ keptHeaders metadata, headerNamePattern pair.1 = true := by
  intro pair hpair
  obtain ⟨⟨source, hsource, hname⟩, -⟩ := isolateGatewayCredentials_mem hpair
  rw [← hname]
  exact h.names source hsource

theorem split_serializeRawHeaders (metadata : ResponseHeadersMetadata) :
    Separated.split CR LF (serializeRawHeaders metadata) =
      (((lines metadata).map latin1).map (Separated.split CR LF)).flatten := by
  rw [serializeRawHeaders, latin1_join]
  exact Separated.split_join (by decide) _ (by simp [lines])

/-- No line holds the separator exactly when the status message and the kept values do not. -/
theorem lines_not_occurs_iff (h : metadata.Checked) :
    (∀ line ∈ (lines metadata).map latin1, ¬ Separated.Occurs CR LF line) ↔
      ¬ Separated.Occurs CR LF (latin1 metadata.statusMessage) ∧
        ∀ pair ∈ keptHeaders metadata, ¬ Separated.Occurs CR LF (latin1 pair.2) := by
  rw [← statusLine_occurs_iff h.message]
  constructor
  · intro hlines
    refine ⟨hlines _ (by simp [lines]), fun pair hpair => ?_⟩
    rw [← headerLine_occurs_iff (keptHeaders_name h pair hpair)]
    apply hlines
    rw [List.mem_map]
    refine ⟨headerLine pair, ?_, rfl⟩
    simp only [lines, List.cons_append, List.mem_cons, List.mem_append, List.mem_map]
    exact Or.inr (Or.inl ⟨pair, hpair, rfl⟩)
  · rintro ⟨hstatus, hvalues⟩ line hline
    simp only [lines, List.map_cons, List.map_append, List.cons_append, List.mem_cons,
      List.mem_append, List.mem_map] at hline
    rcases hline with rfl | ⟨text, ⟨pair, hpair, rfl⟩, rfl⟩ | hend
    · exact hstatus
    · rw [headerLine_occurs_iff (keptHeaders_name h pair hpair)]
      exact hvalues pair hpair
    · have hnil : line = [] := by simpa [latin1] using hend
      rw [hnil]
      exact id

/-- The head as it reads back when no line holds the separator. -/
theorem parseHead_of_not_occurs (h : metadata.Checked)
    (hlines : ∀ line ∈ (lines metadata).map latin1, ¬ Separated.Occurs CR LF line) :
    parseHead (serializeRawHeaders metadata) = some
      { statusLine := latin1 (statusLine metadata)
        headers := (keptHeaders metadata).map fun pair =>
          (latin1 pair.1, 0x20 :: latin1 pair.2) } := by
  have hsplit : Separated.split CR LF (serializeRawHeaders metadata) =
      (lines metadata).map latin1 := by
    rw [serializeRawHeaders, latin1_join]
    exact Separated.split_join_of_not_occurs (by decide) _ (by simp [lines]) hlines
  have hmap : (lines metadata).map latin1 = latin1 (statusLine metadata) ::
      ((keptHeaders metadata).map (fun pair => latin1 (headerLine pair)) ++ [[], []]) := by
    simp [lines, List.map_map, Function.comp_def, latin1]
  rw [parseHead, hsplit, hmap]
  simp only [parseHeaderLines_headerLines (keptHeaders_name h), Option.map_some]

/-- A head that reads back with the right number of headers has no injected line. -/
theorem not_occurs_of_parseHead {head : Head}
    (hparse : parseHead (serializeRawHeaders metadata) = some head)
    (hcount : head.headers.length = (keptHeaders metadata).length) :
    ∀ line ∈ (lines metadata).map latin1, ¬ Separated.Occurs CR LF line := by
  apply Separated.not_occurs_of_split_length
  rw [← split_serializeRawHeaders]
  unfold parseHead at hparse
  cases hsplit : Separated.split CR LF (serializeRawHeaders metadata) with
  | nil => rw [hsplit] at hparse; cases hparse
  | cons first rest =>
    simp only [hsplit, Option.map_eq_some_iff] at hparse
    obtain ⟨headers, hheaders, rfl⟩ := hparse
    have hlength := parseHeaderLines_length hheaders
    simp only at hcount
    simp [lines, hlength, hcount]

theorem setsReservedCookie_iff {pair : HeaderPair} (h : headerNamePattern pair.1 = true) :
    SetsReservedCookie (latin1 pair.1, 0x20 :: latin1 pair.2) ↔
      pair.1.toLowerCase = ofAscii "set-cookie" ∧
        setCookieName (ofLatin1 (latin1 pair.2)) ∈ RESERVED_GATEWAY_COOKIES := by
  have hvalue : ofLatin1 (0x20 :: latin1 pair.2) = 0x20 :: ofLatin1 (latin1 pair.2) := rfl
  rw [SetsReservedCookie, ofLatin1_latin1_name h, hvalue, setCookieName_space]

theorem readsBack_iff_of_checked (h : metadata.Checked) :
    ReadsBack metadata ↔ EncodesSafely metadata := by
  constructor
  · rintro ⟨head, hparse, -, hnames, hcookies, -⟩
    have hcount : head.headers.length = (keptHeaders metadata).length := by
      simpa using congrArg List.length hnames
    have hlines := not_occurs_of_parseHead hparse hcount
    obtain ⟨hmessage, hvalues⟩ := (lines_not_occurs_iff h).mp hlines
    rw [parseHead_of_not_occurs h hlines, Option.some.injEq] at hparse
    subst hparse
    refine ⟨hmessage, hvalues, fun pair hpair hname hreserved => ?_⟩
    apply hcookies (latin1 pair.1, 0x20 :: latin1 pair.2)
    · exact List.mem_map.mpr ⟨pair, hpair, rfl⟩
    · rw [setsReservedCookie_iff (keptHeaders_name h pair hpair)]
      exact ⟨hname, hreserved⟩
  · rintro ⟨hmessage, hvalues, hcookies⟩
    have hlines := (lines_not_occurs_iff h).mpr ⟨hmessage, hvalues⟩
    refine ⟨_, parseHead_of_not_occurs h hlines, rfl, by simp [Function.comp_def], ?_, ?_⟩
    · intro header hheader
      obtain ⟨pair, hpair, rfl⟩ := List.mem_map.mp hheader
      rw [setsReservedCookie_iff (keptHeaders_name h pair hpair)]
      rintro ⟨hname, hreserved⟩
      exact hcookies pair hpair hname hreserved
    · intro header hheader
      obtain ⟨pair, hpair, rfl⟩ := List.mem_map.mp hheader
      rw [ofLatin1_latin1_name (keptHeaders_name h pair hpair)]
      exact (isolateGatewayCredentials_mem hpair).2

end Reading

/-- The head written for an accepted payload reads back as it was meant exactly when its
texts encode safely. -/
theorem serializeRawHeaders_readsBack_iff (parse : List UInt8 → Except JsError JsonValue)
    (payload : List UInt8) (metadata : ResponseHeadersMetadata)
    (hdecode : decodeResponseHeadersMetadata parse payload = .ok metadata) :
    ReadsBack metadata ↔ EncodesSafely metadata :=
  readsBack_iff_of_checked (decodeResponseHeadersMetadata_checked hdecode)

/-- A platform parser that knows one payload and the object it denotes. -/
def parseOnly (payload : List UInt8) (fields : List (String × JsonValue)) :
    List UInt8 → Except JsError JsonValue :=
  fun bytes => if bytes = payload then .ok (.object fields)
    else .error (.typeError "metadata must be an object")

def acceptPayload : List UInt8 := latin1 (ofAscii
  "\x7b\"statusCode\":101,\"statusMessage\":\"OK\",\"headers\":[[\"upgrade\",\"websocket\"]]\x7d")

def acceptFields : List (String × JsonValue) :=
  [("statusCode", .number 101), ("statusMessage", .string (ofAscii "OK")),
    ("headers", .array [.array [.string (ofAscii "upgrade"), .string (ofAscii "websocket")]])]

def acceptMetadata : ResponseHeadersMetadata :=
  { statusCode := 101, statusMessage := ofAscii "OK"
    headers := [(ofAscii "upgrade", ofAscii "websocket")] }

set_option maxRecDepth 4000 in
theorem serializeRawHeaders_readsBack_upgrade :
    decodeResponseHeadersMetadata (parseOnly acceptPayload acceptFields) acceptPayload =
        .ok acceptMetadata ∧
      (ReadsBack acceptMetadata ↔ EncodesSafely acceptMetadata) := by
  have hdecode : decodeResponseHeadersMetadata (parseOnly acceptPayload acceptFields)
      acceptPayload = .ok acceptMetadata := by decide
  exact ⟨hdecode, serializeRawHeaders_readsBack_iff _ _ _ hdecode⟩

-- U+010D and U+010A pass the check for CR and LF and encode to exactly these bytes.
def injectedValue : JsString := ofAscii "a" ++ [0x010d, 0x010a] ++
  ofAscii "Set-Cookie: rt_session_dev=1"

def injectedPayload : List UInt8 := latin1 (ofAscii
  "\x7b\"statusCode\":101,\"statusMessage\":\"OK\",\"headers\":[[\"x\",\"a\\u010d\\u010aSet-Cookie: rt_session_dev=1\"]]\x7d")

def injectedFields : List (String × JsonValue) :=
  [("statusCode", .number 101), ("statusMessage", .string (ofAscii "OK")),
    ("headers", .array [.array [.string (ofAscii "x"), .string injectedValue]])]

def injectedMetadata : ResponseHeadersMetadata :=
  { statusCode := 101, statusMessage := ofAscii "OK", headers := [(ofAscii "x", injectedValue)] }

set_option maxRecDepth 4000 in
theorem serializeRawHeaders_injects_line :
    decodeResponseHeadersMetadata (parseOnly injectedPayload injectedFields) injectedPayload =
        .ok injectedMetadata ∧
      ¬ ReadsBack injectedMetadata ∧
      ∃ head, parseHead (serializeRawHeaders injectedMetadata) = some head ∧
        ∃ header ∈ head.headers, SetsReservedCookie header := by
  have hdecode : decodeResponseHeadersMetadata (parseOnly injectedPayload injectedFields)
      injectedPayload = .ok injectedMetadata := by decide
  refine ⟨hdecode, ?_, ?_⟩
  · rw [readsBack_iff_of_checked (decodeResponseHeadersMetadata_checked hdecode)]
    rintro ⟨-, hvalues, -⟩
    exact hvalues (ofAscii "x", injectedValue) (by decide) (by decide)
  · refine ⟨_, rfl, (latin1 (ofAscii "Set-Cookie"), latin1 (ofAscii " rt_session_dev=1")), ?_, ?_⟩
    · decide
    · decide

end Lotur.ResponseHead
