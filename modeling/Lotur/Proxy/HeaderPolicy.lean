import Lotur.Protocol.HttpMetadata

/-! `packages/proxy/src/header-policy.ts`: the hop-by-hop filter, the filter that keeps the gateway's
credentials to itself, and the record of headers handed to Node. -/
namespace Lotur
open JsString

def STANDARD_HOP_BY_HOP_HEADERS : List JsString :=
  ["connection", "keep-alive", "proxy-authenticate", "proxy-authorization", "proxy-connection", "te",
    "trailer", "transfer-encoding", "upgrade"].map ofAscii

/-- `toLowerCase` as far as the result can name a header: besides `A`-`Z` only the Kelvin sign has an
ASCII lower case letter, and a token with any other unit outside ASCII names none. -/
def lowerToken (token : JsString) : JsString :=
  token.map fun unit => if unit = 0x212a then 0x6b else lowerUnit unit

def connectionTokens (headers : List HeaderPair) : List JsString :=
  headers.flatMap fun (rawName, value) =>
    if rawName.toLowerCase = ofAscii "connection" then
      ((value.split 0x2c).map fun token => lowerToken token.trim).filter (· ≠ [])
    else []

def sanitizeHopByHopHeaders (headers : List HeaderPair) : List HeaderPair :=
  headers.filter fun (rawName, _) =>
    rawName.toLowerCase ∉ STANDARD_HOP_BY_HOP_HEADERS ∧
      rawName.toLowerCase ∉ connectionTokens headers

/-- The cookie name a `Cookie` part carries; the part is already trimmed. -/
def cookiePartName (part : JsString) : JsString :=
  match part.before 0x3d with
  | none => part
  | some name => name.trim

def setCookieName (value : JsString) : JsString := ((value.before 0x3d).getD value).trim

/-- The loop body of `isolateGatewayCredentials`: the pair pushed for one header, if any. -/
def isolateHeader (reservedCookieNames : List JsString) : HeaderPair → Option HeaderPair
  | (name, value) =>
    let lowerName := name.toLowerCase
    if lowerName.startsWith (ofAscii "x-review-tunnel-") then none
    else if lowerName = ofAscii "cookie" then
      let kept := ((value.split 0x3b).map trim).filter
        fun part => cookiePartName part ∉ reservedCookieNames
      if kept.length > 0 then some (name, join (ofAscii "; ") kept) else none
    else if lowerName = ofAscii "set-cookie" ∧ setCookieName value ∈ reservedCookieNames then none
    else some (name, value)

def isolateGatewayCredentials (headers : List HeaderPair) (reservedCookieNames : List JsString) :
    List HeaderPair := headers.filterMap (isolateHeader reservedCookieNames)

def rawHeadersToPairs : List JsString → List HeaderPair
  | name :: value :: rest => (name, value) :: rawHeadersToPairs rest
  | _ => []

/-- `string | string[]`. -/
inductive OutgoingValue where
  | one (value : JsString)
  | many (values : List JsString)
  deriving DecidableEq, Repr

def OutgoingValue.add (current : Option OutgoingValue) (value : JsString) : OutgoingValue :=
  match current with
  | none => .one value
  | some (.many values) => .many (values ++ [value])
  | some (.one first) => .many [first, value]

/-- An object without a prototype, its keys in the order they were set. -/
abbrev OutgoingHeaders := List (JsString × OutgoingValue)

namespace OutgoingHeaders

def get (output : OutgoingHeaders) (name : JsString) : Option OutgoingValue := output.lookup name

def set (output : OutgoingHeaders) (name : JsString) (value : OutgoingValue) : OutgoingHeaders :=
  if (output.get name).isSome then
    output.map fun entry => if entry.1 = name then (name, value) else entry
  else output ++ [(name, value)]

end OutgoingHeaders

def headerPairsToOutgoingHeaders (headers : List HeaderPair) : OutgoingHeaders :=
  headers.foldl (fun output (rawName, value) =>
    output.set rawName.toLowerCase (.add (output.get rawName.toLowerCase) value)) []

theorem isolateHeader_name {reserved : List JsString} {pair kept : HeaderPair}
    (h : isolateHeader reserved pair = some kept) : kept.1 = pair.1 := by
  obtain ⟨name, value⟩ := pair
  simp only [isolateHeader] at h
  split_ifs at h <;> cases h <;> rfl

theorem isolateHeader_not_tunnel {reserved : List JsString} {pair kept : HeaderPair}
    (h : isolateHeader reserved pair = some kept) :
    kept.1.toLowerCase.startsWith (ofAscii "x-review-tunnel-") = false := by
  rw [isolateHeader_name h]
  obtain ⟨name, value⟩ := pair
  simp only [isolateHeader] at h
  split_ifs at h with htunnel <;> simpa using htunnel

/-- A kept header has the name of a header that came in and never starts with the
tunnel's own prefix. -/
theorem isolateGatewayCredentials_mem {headers : List HeaderPair} {reserved : List JsString}
    {kept : HeaderPair} (h : kept ∈ isolateGatewayCredentials headers reserved) :
    (∃ pair ∈ headers, pair.1 = kept.1) ∧
      kept.1.toLowerCase.startsWith (ofAscii "x-review-tunnel-") = false := by
  obtain ⟨pair, hpair, hkept⟩ := List.mem_filterMap.mp h
  exact ⟨⟨pair, hpair, (isolateHeader_name hkept).symm⟩, isolateHeader_not_tunnel hkept⟩

/-- The values of a header in the order they came, its name compared as `toLowerCase` leaves it. -/
def headerValues (headers : List HeaderPair) (name : JsString) : List JsString :=
  (headers.filter fun pair => pair.1.toLowerCase = name).map Prod.snd

theorem headerValues_append (left right : List HeaderPair) (name : JsString) :
    headerValues (left ++ right) name = headerValues left name ++ headerValues right name := by
  simp [headerValues]

/-- A filter that looks at the name alone keeps all values of a header or none. -/
theorem headerValues_filter (headers : List HeaderPair) (keeps : JsString → Bool)
    (name : JsString) :
    headerValues (headers.filter fun pair => keeps pair.1.toLowerCase) name =
      if keeps name then headerValues headers name else [] := by
  induction headers with
  | nil => simp [headerValues]
  | cons pair headers ih =>
    rw [List.filter_cons]
    by_cases hname : pair.1.toLowerCase = name
    · subst hname
      by_cases hkeeps : keeps pair.1.toLowerCase = true
      · simpa [headerValues, hkeeps] using ih
      · simpa [headerValues, hkeeps] using ih
    · by_cases hkeeps : keeps pair.1.toLowerCase = true
      · simpa [headerValues, hkeeps, hname] using ih
      · simpa [headerValues, hkeeps, hname] using ih

/-- A step that leaves the names alone changes the values of a header one by one. -/
theorem headerValues_filterMap (headers : List HeaderPair)
    {push : HeaderPair → Option HeaderPair} {change : JsString → JsString → Option JsString}
    (h : ∀ pair, push pair = (change pair.1.toLowerCase pair.2).map (pair.1, ·))
    (name : JsString) :
    headerValues (headers.filterMap push) name =
      (headerValues headers name).filterMap (change name) := by
  induction headers with
  | nil => rfl
  | cons pair headers ih =>
    rw [List.filterMap_cons, h]
    by_cases hname : pair.1.toLowerCase = name
    · subst hname
      cases hchange : change pair.1.toLowerCase pair.2 with
      | none => simpa [headerValues, hchange] using ih
      | some value => simpa [headerValues, hchange] using ih
    · cases hchange : change pair.1.toLowerCase pair.2 with
      | none => simpa [headerValues, hname] using ih
      | some value => simpa [headerValues, hname] using ih

/-- The tokens are read off the values of `Connection` alone. -/
theorem connectionTokens_congr_values {left right : List HeaderPair}
    (h : headerValues left (ofAscii "connection") = headerValues right (ofAscii "connection")) :
    connectionTokens left = connectionTokens right := by
  have hvalues (headers : List HeaderPair) : connectionTokens headers =
      (headerValues headers (ofAscii "connection")).flatMap fun value =>
        ((value.split 0x2c).map fun token => lowerToken token.trim).filter (· ≠ []) := by
    induction headers with
    | nil => rfl
    | cons pair headers ih =>
      unfold connectionTokens at ih ⊢
      rw [List.flatMap_cons, ih]
      by_cases hname : pair.1.toLowerCase = ofAscii "connection"
      · simp [headerValues, hname]
      · simp [headerValues, hname]
  rw [hvalues, hvalues, h]

/-- A value alone is a string, several are an array. -/
def OutgoingValue.ofValues : List JsString → Option OutgoingValue
  | [] => none
  | [value] => some (.one value)
  | values => some (.many values)

theorem OutgoingValue.add_ofValues (values : List JsString) (value : JsString) :
    some (OutgoingValue.add (ofValues values) value) = ofValues (values ++ [value]) := by
  match values with
  | [] => rfl
  | [_] => rfl
  | _ :: _ :: _ => rfl

namespace OutgoingHeaders

theorem get_cons (key : JsString) (value : OutgoingValue) (rest : OutgoingHeaders)
    (name : JsString) :
    OutgoingHeaders.get ((key, value) :: rest) name =
      if name = key then some value else OutgoingHeaders.get rest name := by
  by_cases h : name = key
  · simp [get, h]
  · simp [get, List.lookup_cons, beq_eq_false_iff_ne.2 h, h]

theorem get_replace (output : OutgoingHeaders) (name other : JsString) (value : OutgoingValue) :
    OutgoingHeaders.get (output.map fun entry => if entry.1 = name then (name, value) else entry)
        other =
      if other = name then (output.get name).map fun _ => value else output.get other := by
  induction output with
  | nil => simp [get]
  | cons entry rest ih =>
    obtain ⟨key, current⟩ := entry
    rw [List.map_cons, get_cons]
    by_cases hkey : key = name
    · by_cases hother : other = name
      · simp [hkey, hother, get_cons]
      · simp [hkey, hother, get_cons, ih]
    · have hname : name ≠ key := Ne.symm hkey
      by_cases hother : other = name
      · subst hother
        simpa [hkey, hname, get_cons] using ih
      · simp [hkey, hother, get_cons, ih]

theorem get_append_single (output : OutgoingHeaders) (name other : JsString)
    (value : OutgoingValue) : OutgoingHeaders.get (output ++ [(name, value)]) other =
      (output.get other).or (if other = name then some value else none) := by
  simp only [get, List.lookup_append]
  exact congrArg _ (get_cons name value [] other)

theorem get_set_self (output : OutgoingHeaders) (name : JsString) (value : OutgoingValue) :
    (output.set name value).get name = some value := by
  unfold set
  split_ifs with hpresent
  · obtain ⟨current, hcurrent⟩ := Option.isSome_iff_exists.1 hpresent
    simp [get_replace, hcurrent]
  · have hnone : output.get name = none := by simpa only [Option.not_isSome_iff_eq_none] using hpresent
    simp [get_append_single, hnone]

theorem get_set_ne (output : OutgoingHeaders) {name other : JsString} (value : OutgoingValue)
    (hne : other ≠ name) : (output.set name value).get other = output.get other := by
  unfold set
  split_ifs
  · rw [get_replace, if_neg hne]
  · simp [get_append_single, hne]

end OutgoingHeaders

/-- The record holds the values of each header in their order. -/
theorem headerPairsToOutgoingHeaders_get (headers : List HeaderPair) (name : JsString) :
    (headerPairsToOutgoingHeaders headers).get name =
      OutgoingValue.ofValues (headerValues headers name) := by
  induction headers using List.reverseRecOn with
  | nil => rfl
  | append_singleton headers pair ih =>
    obtain ⟨rawName, value⟩ := pair
    rw [headerPairsToOutgoingHeaders, List.foldl_append, headerValues_append]
    change OutgoingHeaders.get (OutgoingHeaders.set (headerPairsToOutgoingHeaders headers)
      rawName.toLowerCase (.add (OutgoingHeaders.get (headerPairsToOutgoingHeaders headers)
        rawName.toLowerCase) value)) name = _
    by_cases hname : rawName.toLowerCase = name
    · subst hname
      rw [OutgoingHeaders.get_set_self, ih, OutgoingValue.add_ofValues]
      simp [headerValues]
    · rw [OutgoingHeaders.get_set_ne _ _ (Ne.symm hname), ih]
      simp [headerValues, hname]

end Lotur
