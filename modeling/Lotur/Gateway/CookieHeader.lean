import Lotur.Gateway.ResponseHead
import Lotur.Protocol.JsText

/-! `parseCookie` of `apps/gateway/src/web-auth.ts`, beside the cookie filter of the header policy. -/
namespace Lotur.Gateway
open JsString
open ResponseHead (RESERVED_GATEWAY_COOKIES)

def hexValue (unit : UInt16) : Option ℕ :=
  if 0x30 ≤ unit ∧ unit ≤ 0x39 then some (unit.toNat - 0x30)
  else if 0x41 ≤ unit ∧ unit ≤ 0x46 then some (unit.toNat - 0x37)
  else if 0x61 ≤ unit ∧ unit ≤ 0x66 then some (unit.toNat - 0x57)
  else none

/-- An octet `%XX` and what follows it. -/
def percentOctet : JsString → Option (ℕ × JsString)
  | 0x25 :: high :: low :: rest => do
    let high ← hexValue high
    let low ← hexValue low
    return (high * 0x10 + low, rest)
  | _ => none

/-- The low six bits of the next continuation octets. -/
def continuationOctets : ℕ → JsString → Option (ℕ × JsString)
  | 0, text => some (0, text)
  | count + 1, text => do
    let (octet, rest) ← percentOctet text
    if octet / 0x40 ≠ 2 then none
    let (low, rest) ← continuationOctets count rest
    return (octet % 0x40 * 0x40 ^ count + low, rest)

/-- How many octets follow a leading octet, its own bits, and the least value they may spell. -/
def leadingOctet (octet : ℕ) : Option (ℕ × ℕ × ℕ) :=
  if octet / 0x20 = 6 then some (1, octet % 0x20, 0x80)
  else if octet / 0x10 = 0xe then some (2, octet % 0x10, 0x800)
  else if octet / 8 = 0x1e then some (3, octet % 8, 0x10000)
  else none

def scalarUnits (scalar : ℕ) : JsString :=
  if scalar < 0x10000 then [scalar.toUInt16]
  else [(0xd800 + (scalar - 0x10000) / 0x400).toUInt16,
    (0xdc00 + (scalar - 0x10000) % 0x400).toUInt16]

/-- One escaped character and what follows it. -/
def percentScalar (text : JsString) : Option (JsString × JsString) := do
  let (octet, rest) ← percentOctet text
  if octet < 0x80 then return ([octet.toUInt16], rest)
  let (count, bits, least) ← leadingOctet octet
  let (low, rest) ← continuationOctets count rest
  let scalar := bits * 0x40 ^ count + low
  if scalar < least ∨ 0x10ffff < scalar ∨ (0xd800 ≤ scalar ∧ scalar ≤ 0xdfff) then none
  return (scalarUnits scalar, rest)

def decodeUnits : ℕ → JsString → Option JsString
  | _, [] => some []
  | 0, _ :: _ => none
  | fuel + 1, unit :: rest =>
    if unit = 0x25 then do
      let (units, rest) ← percentScalar (unit :: rest)
      return units ++ (← decodeUnits fuel rest)
    else do return unit :: (← decodeUnits fuel rest)

/-- Each step takes a unit or more, so the length is fuel enough; `none` is a `URIError`. -/
def decodeURIComponent (text : JsString) : Option JsString := decodeUnits text.length text

/-- The parts of a header that `parseCookie` takes for the cookie. -/
def cookieValues (header name : JsString) : List JsString :=
  ((header.split 0x3b).map trim).filter fun part => part.startsWith (name ++ [0x3d])

def parseCookie (header : Option JsString) (name : JsString) : Option JsString :=
  match header with
  | none => none
  | some header =>
    match cookieValues header name with
    | [value] => decodeURIComponent (value.drop (name.length + 1))
    | _ => none

theorem parseCookie_eq_none {header name : JsString} (h : cookieValues header name = []) :
    parseCookie (some header) name = none := by
  rw [parseCookie, h]

theorem reserved_trim {name : JsString} (h : name ∈ RESERVED_GATEWAY_COOKIES) :
    name.trim = name ∧ (0x3d : UInt16) ∉ name := by
  simp only [RESERVED_GATEWAY_COOKIES, List.mem_cons, List.not_mem_nil, or_false] at h
  rcases h with rfl | rfl | rfl | rfl <;> decide

/-- A part that starts like a reserved cookie has its name for the filter. -/
theorem cookiePartName_of_start {name part : JsString} (h : name ∈ RESERVED_GATEWAY_COOKIES)
    (hpart : name ++ [0x3d] <+: part) : cookiePartName part = name := by
  obtain ⟨htrim, hsep⟩ := reserved_trim h
  rw [cookiePartName, before_of_prefix hsep hpart]
  exact htrim

end Lotur.Gateway
