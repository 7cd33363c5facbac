import Lotur.Library.Numerals
import Lotur.Library.Separated
import Lotur.Protocol.Envelope
import Lotur.Protocol.JavaScript

/-! `client-address.ts`: the text forms of IP addresses, the networks of trusted proxies, and the
address that a request is attributed to. -/
namespace Lotur.Gateway.ClientAddress
open JsString

section Syntax

/-- Decimal digits without a leading zero, up to 255. -/
def isOctet (text : JsString) : Bool :=
  text ≠ [] && text.all (fun unit => 0x30 ≤ unit && unit ≤ 0x39) &&
    (text.length = 1 || text.head? ≠ some 0x30) && Numerals.read 10 text ≤ 255

def isIPv4 (text : JsString) : Bool :=
  let parts := text.split 0x2e
  parts.length = 4 && parts.all isOctet

/-- One to four hexadecimal digits. -/
def isSegment (text : JsString) : Bool :=
  text ≠ [] && text.length ≤ 4 && text.all fun unit =>
    (0x30 ≤ unit && unit ≤ 0x39) || (0x41 ≤ unit && unit ≤ 0x46) || (0x61 ≤ unit && unit ≤ 0x66)

/-- How many groups a side of `::` spells. Only at the end a dotted address may stand for two. -/
def segmentCount (dotted : Bool) (text : JsString) : Option ℕ :=
  if text = [] then some 0
  else
    let parts := text.split 0x3a
    if parts.all isSegment then some parts.length
    else if dotted && parts.dropLast.all isSegment && isIPv4 (parts.getLast?.getD []) then
      some (parts.length + 1)
    else none

/-- The address without its zone, which `parseIpv6Groups` refuses. -/
def isIPv6 (text : JsString) : Bool :=
  match Separated.split 0x3a 0x3a text with
  | [whole] => segmentCount true whole = some 8
  | [left, right] =>
    match segmentCount false left, segmentCount true right with
    | some left, some right => left + right ≤ 7
    | _, _ => false
  | _ => false

/-- `isIP` of `node:net`. -/
def isIP (text : JsString) : ℕ := if isIPv4 text then 4 else if isIPv6 text then 6 else 0

end Syntax

inductive Family where
  | ipv4
  | ipv6
  deriving DecidableEq, Repr

def Family.bits : Family → ℕ
  | .ipv4 => 32
  | .ipv6 => 128

structure ParsedAddress where
  family : Family
  value : ℕ
  canonical : JsString
  deriving DecidableEq, Repr

structure ParsedCidr where
  family : Family
  network : ℕ
  prefixLength : ℕ
  deriving DecidableEq, Repr

def isMappedIpv4 (value : ℕ) : Bool := value >>> 32 = 0xffff

def formatIpv4 (value : ℕ) : JsString :=
  join [0x2e] ([24, 16, 8, 0].map fun shift => Numerals.print 10 ((value >>> shift) &&& 0xff))

/-- The loop of `formatIpv6` over the groups from `start` on; each turn takes one group or more. -/
def longestRun : ℕ → ℕ → Option (ℕ × ℕ) → List ℕ → Option (ℕ × ℕ)
  | 0, _, best, _ => best
  | _ + 1, _, best, [] => best
  | rounds + 1, start, best, group :: rest =>
    if group ≠ 0 then longestRun rounds (start + 1) best rest
    else
      let length := ((group :: rest).takeWhile (· = 0)).length
      let best := if length > (best.map Prod.snd).getD 0 ∧ length ≥ 2 then some (start, length)
        else best
      longestRun rounds (start + length) best ((group :: rest).drop length)

def hexGroups (groups : List ℕ) : JsString := join [0x3a] (groups.map (Numerals.print 16))

def formatIpv6 (groups : List ℕ) : JsString :=
  match longestRun groups.length 0 none groups with
  | none => hexGroups groups
  | some (bestStart, bestLength) =>
    let left := hexGroups (groups.take bestStart)
    let right := hexGroups (groups.drop (bestStart + bestLength))
    if left = [] ∧ right = [] then [0x3a, 0x3a]
    else if left = [] then [0x3a, 0x3a] ++ right
    else if right = [] then left ++ [0x3a, 0x3a]
    else left ++ [0x3a, 0x3a] ++ right

/-- `parseAddress` for a dotted address. -/
def parseIpv4 (text : JsString) : Option ParsedAddress :=
  if isIP text ≠ 4 then none
  else
    let octets := (text.split 0x2e).map (Numerals.read 10)
    if octets.length ≠ 4 then none
    else some {
      family := .ipv4
      value := Numerals.pack 8 octets
      canonical := join [0x2e] (octets.map (Numerals.print 10)) }

/-- `slice(0, finalColon)` and `slice(finalColon + 1)`; the index is `-1` without a colon. -/
def atFinalColon (text : JsString) : JsString × JsString :=
  if 0x3a ∈ text then
    let tail := (text.reverse.takeWhile (· ≠ 0x3a)).reverse
    (text.take (text.length - tail.length - 1), tail)
  else (text.dropLast, text)

/-- The last two groups of a text that ends in a dotted address, which holds no colon. -/
def withoutDots (text : JsString) : Option JsString :=
  let (head, tail) := atFinalColon text
  if 0x2e ∈ tail then
    (parseIpv4 tail).map fun ipv4 =>
      head ++ 0x3a :: Numerals.print 16 (ipv4.value >>> 16) ++
        0x3a :: Numerals.print 16 (ipv4.value &&& 0xffff)
  else some text

def groupTexts (half : JsString) : List JsString := if half = [] then [] else half.split 0x3a

/-- The pattern `/^[0-9a-f]{1,4}$/`. -/
def isGroup (text : JsString) : Bool :=
  text ≠ [] && text.length ≤ 4 && text.all fun unit =>
    (0x30 ≤ unit && unit ≤ 0x39) || (0x61 ≤ unit && unit ≤ 0x66)

def expandGroups (normalized : JsString) : Option (List ℕ) :=
  let halves := Separated.split 0x3a 0x3a normalized
  if halves.length > 2 then none
  else
    let left := groupTexts (halves[0]?.getD [])
    let right := groupTexts (halves[1]?.getD [])
    let explicit := left ++ right
    if explicit.any (fun group => !isGroup group) then none
    else if (halves.length = 1 ∧ explicit.length ≠ 8) ∨
        (halves.length = 2 ∧ 8 < explicit.length + 1) then none
    else some (left.map (Numerals.read 16) ++ List.replicate (8 - explicit.length) 0 ++
      right.map (Numerals.read 16))

def parseIpv6Groups (text : JsString) : Option (List ℕ) :=
  (withoutDots text.toLowerCase).bind expandGroups

def parseAddress (text : JsString) (normalizeMapped : Bool) : Option ParsedAddress :=
  match isIP text with
  | 4 => parseIpv4 text
  | 6 => do
    let groups ← parseIpv6Groups text
    let value := Numerals.pack 16 groups
    if normalizeMapped && isMappedIpv4 value then
      let ipv4 := value &&& 0xffffffff
      return { family := .ipv4, value := ipv4, canonical := formatIpv4 ipv4 }
    else return { family := .ipv6, value, canonical := formatIpv6 groups }
  | _ => none

section Networks

/-- A `TypeError` of `parseCidr`. -/
inductive CidrError where
  | notExplicit (text : JsString)
  | invalidAddress (text : JsString)
  | invalidPrefix (text : JsString)
  | mappedPrefix (text : JsString)
  | exceedsWidth (family : Family) (text : JsString)
  deriving DecidableEq, Repr

def CidrError.message : CidrError → JsString
  | .notExplicit text => ofAscii "trusted proxy value must be an explicit CIDR: " ++ text
  | .invalidAddress text => ofAscii "invalid trusted proxy CIDR address: " ++ text
  | .invalidPrefix text => ofAscii "invalid trusted proxy CIDR prefix: " ++ text
  | .mappedPrefix text =>
    ofAscii "IPv4-mapped trusted proxy CIDR prefix must be between 96 and 128: " ++ text
  | .exceedsWidth .ipv4 text =>
    ofAscii "trusted proxy CIDR prefix exceeds IPv4 width: " ++ text
  | .exceedsWidth .ipv6 text =>
    ofAscii "trusted proxy CIDR prefix exceeds IPv6 width: " ++ text

def prefixMask (bits prefixLength : ℕ) : ℕ :=
  if prefixLength = 0 then 0 else (1 <<< prefixLength - 1) <<< (bits - prefixLength)

/-- The pattern `/^(0|[1-9][0-9]{0,2})$/`. -/
def isPrefixText (text : JsString) : Bool :=
  text ≠ [] && text.length ≤ 3 && text.all (fun unit => 0x30 ≤ unit && unit ≤ 0x39) &&
    (text.length = 1 || text.head? ≠ some 0x30)

/-- The network of an address that was read without `normalizeMapped`. -/
def networkOf (text : JsString) (source : ParsedAddress) (prefixLength : ℕ) :
    Except CidrError ParsedCidr :=
  let narrow (family : Family) (value prefixLength : ℕ) : Except CidrError ParsedCidr :=
    if prefixLength > family.bits then .error (.exceedsWidth family text)
    else .ok { family, network := value &&& prefixMask family.bits prefixLength, prefixLength }
  if source.family = .ipv6 && isMappedIpv4 source.value then
    if prefixLength < 96 ∨ prefixLength > 128 then .error (.mappedPrefix text)
    else narrow .ipv4 (source.value &&& 0xffffffff) (prefixLength - 96)
  else narrow source.family source.value prefixLength

def parseCidr (text : JsString) : Except CidrError ParsedCidr :=
  match text.split 0x2f with
  | [addressText, prefixText] =>
    if addressText = [] ∨ prefixText = [] then .error (.notExplicit text)
    else
      match parseAddress addressText false with
      | none => .error (.invalidAddress text)
      | some source =>
        if !isPrefixText prefixText then .error (.invalidPrefix text)
        else networkOf text source (Numerals.read 10 prefixText)
  | _ => .error (.notExplicit text)

def isTrusted (address : ParsedAddress) (networks : List ParsedCidr) : Bool :=
  networks.any fun network =>
    if network.family ≠ address.family then false
    else address.value &&& prefixMask address.family.bits network.prefixLength = network.network

end Networks

section Resolver

def DEFAULT_MAX_FORWARDED_FOR_ENTRIES : ℕ := 16

def MAX_FORWARDED_FOR_BYTES : ℕ := 2048

def MAX_TRUSTED_PROXY_CIDRS : ℕ := 32

inductive ResolverError where
  | tooManyCidrs
  | maxForwardedForEntries
  | cidr (error : CidrError)
  deriving DecidableEq, Repr

def ResolverError.message : ResolverError → JsString
  | .tooManyCidrs => ofAscii "trustedProxyCidrs must contain at most 32 CIDRs"
  | .maxForwardedForEntries => ofAscii "maxForwardedForEntries must be a positive safe integer"
  | .cidr error => error.message

structure ClientAddressResolverOptions where
  trustedProxyCidrs : List JsString
  maxForwardedForEntries : Option JsNumber

structure ClientAddressResolver where
  maxEntries : ℕ
  trustedNetworks : List ParsedCidr

def positiveSafeInteger : JsNumber → Option ℕ
  | .finite value =>
    if value.den = 1 ∧ 0 < value.num ∧ value.num ≤ 9007199254740991 then some value.num.toNat
    else none
  | _ => none

def createClientAddressResolver (options : ClientAddressResolverOptions) :
    Except ResolverError ClientAddressResolver :=
  if options.trustedProxyCidrs.length > MAX_TRUSTED_PROXY_CIDRS then .error .tooManyCidrs
  else
    match positiveSafeInteger
        (options.maxForwardedForEntries.getD (.ofNat DEFAULT_MAX_FORWARDED_FOR_ENTRIES)) with
    | none => .error .maxForwardedForEntries
    | some maxEntries =>
      match options.trustedProxyCidrs.mapM parseCidr with
      | .error error => .error (.cidr error)
      | .ok trustedNetworks => .ok { maxEntries, trustedNetworks }

/-- A header as Node hands it on: its value, or the values of a repeated one. -/
inductive ForwardedFor where
  | text (value : JsString)
  | list (values : List JsString)
  deriving DecidableEq, Repr

/-- `Buffer.byteLength(text, "utf8")`; a surrogate without its partner becomes U+FFFD. -/
def byteLength : JsString → ℕ
  | [] => 0
  | [unit] => if unit < 0x80 then 1 else if unit < 0x800 then 2 else 3
  | unit :: next :: rest =>
    if unit < 0x80 then 1 + byteLength (next :: rest)
    else if unit < 0x800 then 2 + byteLength (next :: rest)
    else if 0xd800 ≤ unit ∧ unit ≤ 0xdbff ∧ 0xdc00 ≤ next ∧ next ≤ 0xdfff then
      4 + byteLength rest
    else 3 + byteLength (next :: rest)

def parseEntry (entry : JsString) : Option ParsedAddress :=
  if entry.trim = [] then none else parseAddress entry.trim true

namespace ClientAddressResolver

/-- The nearest address of the chain that is no trusted proxy, or else the farthest one. -/
def originOf (resolver : ClientAddressResolver) (chain : List ParsedAddress) :
    Option ParsedAddress :=
  (chain.reverse.find? fun address => !isTrusted address resolver.trustedNetworks).or chain.head?

def resolve (resolver : ClientAddressResolver) (peerAddress : Option JsString)
    (forwardedFor : Option ForwardedFor) : JsString :=
  match peerAddress.bind fun text => parseAddress text true with
  | none => ofAscii "unknown"
  | some peer =>
    if resolver.trustedNetworks.length = 0 ∨ !isTrusted peer resolver.trustedNetworks then
      peer.canonical
    else
      match forwardedFor with
      | some (.text value) =>
        if byteLength value > MAX_FORWARDED_FOR_BYTES then peer.canonical
        else
          let entries := value.split 0x2c
          if entries.length = 0 ∨ entries.length > resolver.maxEntries then peer.canonical
          else
            match entries.mapM parseEntry with
            | none => peer.canonical
            | some chain =>
              ((resolver.originOf chain).map ParsedAddress.canonical).getD peer.canonical
      | _ => peer.canonical

end ClientAddressResolver

/-- How many of the names, which stand before the values, are `x-forwarded-for`. -/
def forwardedHeaderCount : List JsString → ℕ
  | name :: _ :: rest =>
    (if name.toLowerCase = ofAscii "x-forwarded-for" then 1 else 0) + forwardedHeaderCount rest
  | [name] => if name.toLowerCase = ofAscii "x-forwarded-for" then 1 else 0
  | [] => 0

/-- `clientAddress` of `web-auth.ts`; a repeated header is not looked at. -/
def clientAddress (resolver : ClientAddressResolver) (rawHeaders : List JsString)
    (remoteAddress : Option JsString) (forwardedFor : Option ForwardedFor) : JsString :=
  resolver.resolve remoteAddress
    (if forwardedHeaderCount rawHeaders > 1 then some (.list []) else forwardedFor)

end Resolver

end Lotur.Gateway.ClientAddress
