import Lotur.Gateway.AddressForms
import Lotur.Protocol.JsText

/-! Which addresses a trusted network takes in, and whose address a request is attributed to. -/
namespace Lotur.Gateway.ClientAddress
open JsString

section Networks

theorem testBit_prefixMask {bits prefixLength : ℕ} (h : prefixLength ≤ bits) (i : ℕ) :
    (prefixMask bits prefixLength).testBit i = decide (bits - prefixLength ≤ i ∧ i < bits) := by
  unfold prefixMask
  split_ifs with hzero
  · rw [Nat.zero_testBit, eq_comm, decide_eq_false_iff_not]
    omega
  · have hones : 1 <<< prefixLength - 1 = 2 ^ prefixLength - 1 := by
      rw [Nat.shiftLeft_eq, Nat.one_mul]
    rw [hones, Nat.testBit_shiftLeft, Nat.testBit_two_pow_sub_one]
    by_cases hlow : bits - prefixLength ≤ i
    · simp only [hlow, decide_true, Bool.true_and, true_and, decide_eq_decide]
      omega
    · simp [hlow]

/-- Masked numbers are equal exactly if their leading bits are. -/
theorem and_prefixMask_eq_iff {bits prefixLength : ℕ} (h : prefixLength ≤ bits) (value other : ℕ) :
    value &&& prefixMask bits prefixLength = other &&& prefixMask bits prefixLength ↔
      ∀ i < prefixLength, value.testBit (bits - 1 - i) = other.testBit (bits - 1 - i) := by
  constructor
  · intro hmasked i hi
    have hbit := congrArg (fun n => n.testBit (bits - 1 - i)) hmasked
    simp only [Nat.testBit_and, testBit_prefixMask h] at hbit
    have hin : bits - prefixLength ≤ bits - 1 - i ∧ bits - 1 - i < bits := by omega
    simpa [hin] using hbit
  · intro hbits
    apply Nat.eq_of_testBit_eq
    intro i
    rw [Nat.testBit_and, Nat.testBit_and, testBit_prefixMask h]
    by_cases hin : bits - prefixLength ≤ i ∧ i < bits
    · have hsame := hbits (bits - 1 - i) (by omega)
      have hindex : bits - 1 - (bits - 1 - i) = i := by omega
      rw [hindex] at hsame
      rw [hsame]
    · rw [decide_eq_false hin]
      simp

/-- The address that `normalizeMapped` makes of one that was read without it. -/
theorem parseAddress_normalized {text : JsString} {raw : ParsedAddress}
    (h : parseAddress text false = some raw) :
    ∃ source, parseAddress text true = some source ∧
      if raw.family = .ipv6 ∧ isMappedIpv4 raw.value = true then
        source.family = .ipv4 ∧ source.value = raw.value &&& 0xffffffff
      else source.family = raw.family ∧ source.value = raw.value := by
  unfold parseAddress at h ⊢
  split at h
  · refine ⟨raw, h, ?_⟩
    obtain ⟨octets, -, -, rfl⟩ := parseIpv4_eq_some h
    simp
  · obtain ⟨groups, hgroups, h⟩ := Option.bind_eq_some_iff.1 h
    cases h
    rw [hgroups]
    dsimp only [Option.bind_eq_bind, Option.bind_some]
    by_cases hmapped : isMappedIpv4 (Numerals.pack 16 groups) = true
    · simp [hmapped]
    · simp [hmapped]
  · cases h

/-- An address is in a network if it agrees with the address of the network in its prefix. -/
theorem isTrusted_iff {source : ParsedAddress} {network : ParsedCidr}
    (hfamily : network.family = source.family) (hle : network.prefixLength ≤ source.family.bits)
    (hnetwork : network.network =
      source.value &&& prefixMask source.family.bits network.prefixLength)
    (address : ParsedAddress) : isTrusted address [network] = true ↔
      address.family = source.family ∧ ∀ i < network.prefixLength,
        address.value.testBit (source.family.bits - 1 - i) =
          source.value.testBit (source.family.bits - 1 - i) := by
  simp only [isTrusted, List.any_cons, List.any_nil, Bool.or_false]
  by_cases hsame : address.family = source.family
  · rw [← and_prefixMask_eq_iff hle]
    simp [hfamily, hsame, hnetwork]
  · have hother : source.family ≠ address.family := fun heq => hsame heq.symm
    simp [hfamily, hsame, hother]

theorem networkOf_eq_ok {text : JsString} {raw source : ParsedAddress} {prefixLength : ℕ}
    {network : ParsedCidr} (h : networkOf text raw prefixLength = .ok network)
    (hnormal : if raw.family = .ipv6 ∧ isMappedIpv4 raw.value = true then
        source.family = .ipv4 ∧ source.value = raw.value &&& 0xffffffff
      else source.family = raw.family ∧ source.value = raw.value) :
    network.prefixLength + (raw.family.bits - source.family.bits) = prefixLength ∧
      network.family = source.family ∧ network.prefixLength ≤ source.family.bits ∧
      network.network = source.value &&& prefixMask source.family.bits network.prefixLength := by
  unfold networkOf at h
  dsimp only at h
  by_cases hmapped : raw.family = .ipv6 ∧ isMappedIpv4 raw.value = true
  · rw [if_pos hmapped] at hnormal
    simp only [hmapped, decide_true, Bool.true_and, if_true] at h
    split_ifs at h with hrange hwide
    cases h
    rw [hmapped.1, hnormal.1, hnormal.2]
    dsimp only [Family.bits] at hwide ⊢
    exact ⟨by omega, rfl, by omega, rfl⟩
  · rw [if_neg hmapped] at hnormal
    have hplain : (decide (raw.family = .ipv6) && isMappedIpv4 raw.value) = false := by
      simpa using hmapped
    rw [hplain] at h
    simp only [Bool.false_eq_true, if_false] at h
    split_ifs at h with hwide
    cases h
    rw [hnormal.1, hnormal.2]
    exact ⟨by simp, rfl, by dsimp only; omega, rfl⟩

/-- A network that `parseCidr` returns trusts an address exactly if it agrees with the address of
its text, as that would be read by itself, in as many leading bits as the prefix says. -/
theorem parseCidr_trusts {text : JsString} {network : ParsedCidr}
    (h : parseCidr text = .ok network) :
    ∃ addressText prefixText raw source, text.split 0x2f = [addressText, prefixText] ∧
      parseAddress addressText false = some raw ∧ parseAddress addressText true = some source ∧
      network.prefixLength + (raw.family.bits - source.family.bits) =
        Numerals.read 10 prefixText ∧
      network.prefixLength ≤ source.family.bits ∧
      ∀ address : ParsedAddress, isTrusted address [network] = true ↔
        address.family = source.family ∧ ∀ i < network.prefixLength,
          address.value.testBit (source.family.bits - 1 - i) =
            source.value.testBit (source.family.bits - 1 - i) := by
  unfold parseCidr at h
  split at h
  · rename_i addressText prefixText hsplit
    cases hraw : parseAddress addressText false with
    | none =>
      rw [hraw] at h
      split_ifs at h
    | some raw =>
      rw [hraw] at h
      dsimp only at h
      split_ifs at h
      obtain ⟨source, hsource, hnormal⟩ := parseAddress_normalized hraw
      obtain ⟨hwidth, hfamily, hle, hnetwork⟩ := networkOf_eq_ok h hnormal
      exact ⟨addressText, prefixText, raw, source, hsplit, hraw, hsource, hwidth, hle,
        isTrusted_iff hfamily hle hnetwork⟩
  · cases h

theorem parseCidr_trusts_mapped :
    ∃ network address, parseCidr (ofAscii "::ffff:10.0.0.0/104") = .ok network ∧
      parseAddress (ofAscii "10.2.3.4") true = some address ∧
      isTrusted address [network] = true := by
  have hparts : (ofAscii "::ffff:10.0.0.0/104").split 0x2f =
      [ofAscii "::ffff:10.0.0.0", ofAscii "104"] := by
    decide +kernel
  have hobserved : (parseCidr (ofAscii "::ffff:10.0.0.0/104")).toOption.bind (fun network =>
      (parseAddress (ofAscii "::ffff:10.0.0.0") true).bind fun source =>
        (parseAddress (ofAscii "10.2.3.4") true).map fun address =>
          decide (network.prefixLength = 8 ∧ (source.family, source.value) = (.ipv4, 0x0a000000) ∧
            (address.family, address.value) = (.ipv4, 0x0a020304))) = some true := by
    decide +kernel
  cases hnetwork : parseCidr (ofAscii "::ffff:10.0.0.0/104") with
  | error error =>
    rw [hnetwork] at hobserved
    cases hobserved
  | ok network =>
    rw [hnetwork] at hobserved
    dsimp only [Except.toOption, Option.bind_some] at hobserved
    obtain ⟨source, hsource, hobserved⟩ := Option.bind_eq_some_iff.mp hobserved
    obtain ⟨address, haddress, hobserved⟩ := Option.map_eq_some_iff.mp hobserved
    simp only [decide_eq_true_eq, Prod.mk.injEq] at hobserved
    obtain ⟨hwidth, ⟨hfamily, hvalue⟩, hfamily', hvalue'⟩ := hobserved
    refine ⟨network, address, rfl, haddress, ?_⟩
    obtain ⟨addressText, prefixText, raw, other, hsplit, -, hother, -, -, htrusts⟩ :=
      parseCidr_trusts hnetwork
    rw [hparts] at hsplit
    cases hsplit
    rw [hsource] at hother
    cases hother
    rw [htrusts, hwidth, hfamily, hvalue, hfamily', hvalue']
    exact ⟨rfl, by decide⟩

end Networks

section Resolver

variable {resolver : ClientAddressResolver}

theorem byteLength_cons_ascii {unit : UInt16} (h : unit < 0x80) (right : JsString) :
    byteLength (unit :: right) = 1 + byteLength right := by
  cases right with
  | nil => simp [byteLength, h]
  | cons next rest => rw [byteLength, if_pos h]

/-- An ASCII unit is no part of a surrogate pair. -/
theorem byteLength_append_ascii {unit : UInt16} (h : unit < 0x80) (left right : JsString) :
    byteLength (left ++ unit :: right) = byteLength left + 1 + byteLength right := by
  have hlow : ¬(0xdc00 : UInt16) ≤ unit := by
    rw [UInt16.le_iff_toNat_le, Nat.not_le]
    have hlt : unit.toNat < 0x80 := h
    exact hlt.trans (by decide)
  induction left using byteLength.induct with
  | case1 => simp [byteLength, byteLength_cons_ascii h]
  | case2 first hfirst =>
    rw [List.singleton_append, byteLength, byteLength, if_pos hfirst, if_pos hfirst,
      byteLength_cons_ascii h]
    omega
  | case3 first hfirst hsecond =>
    rw [List.singleton_append, byteLength, byteLength, if_neg hfirst, if_neg hfirst,
      if_pos hsecond, if_pos hsecond, byteLength_cons_ascii h]
    omega
  | case4 first hfirst hsecond =>
    rw [List.singleton_append, byteLength, byteLength, if_neg hfirst, if_neg hfirst,
      if_neg hsecond, if_neg hsecond, if_neg fun hpair => hlow hpair.2.2.1,
      byteLength_cons_ascii h]
    omega
  | case5 first next rest hfirst ih =>
    rw [List.cons_append] at ih
    rw [List.cons_append, List.cons_append, byteLength, byteLength, if_pos hfirst, if_pos hfirst,
      ih]
    omega
  | case6 first next rest hfirst hsecond ih =>
    rw [List.cons_append] at ih
    rw [List.cons_append, List.cons_append, byteLength, byteLength, if_neg hfirst, if_neg hfirst,
      if_pos hsecond, if_pos hsecond, ih]
    omega
  | case7 first next rest hfirst hsecond hpair ih =>
    rw [List.cons_append, List.cons_append, byteLength, byteLength, if_neg hfirst, if_neg hfirst,
      if_neg hsecond, if_neg hsecond, if_pos hpair, if_pos hpair, ih]
    omega
  | case8 first next rest hfirst hsecond hpair ih =>
    rw [List.cons_append] at ih
    rw [List.cons_append, List.cons_append, byteLength, byteLength, if_neg hfirst, if_neg hfirst,
      if_neg hsecond, if_neg hsecond, if_neg hpair, if_neg hpair, ih]
    omega

section Entries

variable {α β : Type*} {f : α → Option β}

theorem mapM_cons_eq_some {x : α} {xs : List α} {ys : List β} (h : (x :: xs).mapM f = some ys) :
    ∃ y rest, f x = some y ∧ xs.mapM f = some rest ∧ ys = y :: rest := by
  rw [List.mapM_cons] at h
  obtain ⟨y, hy, h⟩ := Option.bind_eq_some_iff.1 h
  obtain ⟨rest, hrest, h⟩ := Option.bind_eq_some_iff.1 h
  cases h
  exact ⟨y, rest, hy, hrest, rfl⟩

theorem mem_of_mapM {xs : List α} {ys : List β} (h : xs.mapM f = some ys) :
    ∀ x ∈ xs, ∃ y ∈ ys, f x = some y := by
  induction xs generalizing ys with
  | nil => simp
  | cons x xs ih =>
    obtain ⟨y, rest, hy, hrest, rfl⟩ := mapM_cons_eq_some h
    rw [List.forall_mem_cons]
    refine ⟨⟨y, List.mem_cons_self, hy⟩, fun other hother => ?_⟩
    obtain ⟨value, hvalue, heq⟩ := ih hrest other hother
    exact ⟨value, List.mem_cons_of_mem y hvalue, heq⟩

/-- The entry that a value of the chain was read from. -/
theorem mapM_split {xs : List α} {left right : List β} {y : β}
    (h : xs.mapM f = some (left ++ y :: right)) :
    ∃ before x after, xs = before ++ x :: after ∧ before.mapM f = some left ∧ f x = some y ∧
      after.mapM f = some right := by
  induction left generalizing xs with
  | nil =>
    cases xs with
    | nil => cases h
    | cons x xs =>
      obtain ⟨value, rest, hvalue, hrest, heq⟩ := mapM_cons_eq_some h
      simp only [List.nil_append, List.cons.injEq] at heq
      exact ⟨[], x, xs, rfl, rfl, by rw [heq.1, hvalue], by rw [heq.2, hrest]⟩
  | cons first left ih =>
    cases xs with
    | nil => cases h
    | cons x xs =>
      obtain ⟨value, rest, hvalue, hrest, heq⟩ := mapM_cons_eq_some h
      simp only [List.cons_append, List.cons.injEq] at heq
      rw [← heq.2] at hrest
      obtain ⟨before, entry, after, hxs, hbefore, hentry, hafter⟩ := ih hrest
      refine ⟨x :: before, entry, after, by rw [hxs]; rfl, ?_, hentry, hafter⟩
      rw [List.mapM_cons, hvalue, hbefore, heq.1]
      rfl

end Entries

/-- The address of the chain that counts: everything nearer is a trusted proxy. -/
theorem originOf_eq_some {chain : List ParsedAddress} {address : ParsedAddress}
    (h : resolver.originOf chain = some address) :
    ∃ left right, chain = left ++ address :: right ∧
      (∀ proxy ∈ right, isTrusted proxy resolver.trustedNetworks = true) ∧
      (isTrusted address resolver.trustedNetworks = false ∨ left = []) := by
  unfold ClientAddressResolver.originOf at h
  rcases Option.or_eq_some_iff.1 h with hnearest | ⟨hnone, hfirst⟩
  · obtain ⟨huntrusted, right, left, hchain, hright⟩ := List.find?_eq_some_iff_append.1 hnearest
    refine ⟨left.reverse, right.reverse, ?_, fun proxy hproxy => ?_,
    Or.inl (by simpa using huntrusted)⟩
    · have hreverse := congrArg List.reverse hchain
      simpa using hreverse
    · simpa using hright proxy (List.mem_reverse.1 hproxy)
  · cases chain with
    | nil => cases hfirst
    | cons first rest =>
      cases hfirst
      refine ⟨[], rest, rfl, fun proxy hproxy => ?_, Or.inr rfl⟩
      simp only [List.find?_eq_none, List.mem_reverse, List.mem_cons] at hnone
      simpa using hnone proxy (Or.inr hproxy)

/-- The nearest address that is no trusted proxy does not depend on what stands before it. -/
theorem originOf_append {left chain : List ParsedAddress}
    (h : ∃ address ∈ chain, isTrusted address resolver.trustedNetworks = false) :
    resolver.originOf (left ++ chain) = resolver.originOf chain := by
  obtain ⟨address, hmem, huntrusted⟩ := h
  have hfound : (chain.reverse.find? fun address =>
      !isTrusted address resolver.trustedNetworks).isSome = true := by
    rw [List.find?_isSome]
    exact ⟨address, List.mem_reverse.2 hmem, by simp [huntrusted]⟩
  unfold ClientAddressResolver.originOf
  rw [List.reverse_append, List.find?_append, Option.or_of_isSome hfound,
    Option.or_of_isSome hfound, Option.or_of_isSome hfound]

/-- The chain that `resolve` walks over; `none` where it keeps to the peer. -/
def chainOf (resolver : ClientAddressResolver) (value : JsString) : Option (List ParsedAddress) :=
  if byteLength value > MAX_FORWARDED_FOR_BYTES ∨
      (value.split 0x2c).length > resolver.maxEntries then none
  else (value.split 0x2c).mapM parseEntry

theorem resolve_text {peerAddress : Option JsString} {peer : ParsedAddress} {value : JsString}
    (hpeer : peerAddress.bind (fun text => parseAddress text true) = some peer)
    (htrusted : isTrusted peer resolver.trustedNetworks = true) :
    resolver.resolve peerAddress (some (.text value)) =
      (((chainOf resolver value).bind resolver.originOf).map ParsedAddress.canonical).getD
        peer.canonical := by
  have hnetworks : ¬resolver.trustedNetworks.length = 0 := by
    intro hnone
    rw [List.length_eq_zero_iff] at hnone
    rw [hnone] at htrusted
    cases htrusted
  have hentries : ¬(value.split 0x2c).length = 0 := by
    simp [JsString.split, List.splitOn_ne_nil]
  unfold ClientAddressResolver.resolve chainOf
  rw [hpeer]
  simp only [hnetworks, htrusted, hentries, false_or, Bool.not_true, Bool.false_eq_true, if_false]
  by_cases hbytes : byteLength value > MAX_FORWARDED_FOR_BYTES
  · simp [hbytes]
  · by_cases hcount : (value.split 0x2c).length > resolver.maxEntries
    · simp [hbytes, hcount]
    · simp only [hbytes, hcount, or_self, if_false]
      cases (value.split 0x2c).mapM parseEntry with
      | none => rfl
      | some chain => rfl

theorem resolve_untrusted {peerAddress : Option JsString} {peer : ParsedAddress}
    (hpeer : peerAddress.bind (fun text => parseAddress text true) = some peer)
    (htrusted : isTrusted peer resolver.trustedNetworks = false)
    (forwardedFor : Option ForwardedFor) :
    resolver.resolve peerAddress forwardedFor = peer.canonical := by
  unfold ClientAddressResolver.resolve
  rw [hpeer]
  simp [htrusted]

theorem resolve_not_text {peerAddress : Option JsString} {peer : ParsedAddress}
    (hpeer : peerAddress.bind (fun text => parseAddress text true) = some peer)
    {forwardedFor : Option ForwardedFor} (htext : ∀ value, forwardedFor ≠ some (.text value)) :
    resolver.resolve peerAddress forwardedFor = peer.canonical := by
  unfold ClientAddressResolver.resolve
  rw [hpeer]
  dsimp only
  split_ifs
  · rfl
  · split
    · exact absurd rfl (htext _)
    · rfl

/-- A request is attributed to the peer, or to an entry of a single header from a trusted proxy of
which everything to the right is a trusted proxy too. It is the nearest one that is not trusted,
or the first of all. -/
theorem clientAddress_origin (resolver : ClientAddressResolver) (rawHeaders : List JsString)
    (remoteAddress : Option JsString) (forwardedFor : Option ForwardedFor) :
    (remoteAddress.bind (fun text => parseAddress text true) = none ∧
      clientAddress resolver rawHeaders remoteAddress forwardedFor = ofAscii "unknown") ∨
    ∃ peer, remoteAddress.bind (fun text => parseAddress text true) = some peer ∧
      (clientAddress resolver rawHeaders remoteAddress forwardedFor = peer.canonical ∨
        isTrusted peer resolver.trustedNetworks = true ∧ forwardedHeaderCount rawHeaders ≤ 1 ∧
        ∃ value left entry right address, forwardedFor = some (.text value) ∧
          value.split 0x2c = left ++ entry :: right ∧ parseEntry entry = some address ∧
          clientAddress resolver rawHeaders remoteAddress forwardedFor = address.canonical ∧
          (∀ other ∈ right, ∃ proxy, parseEntry other = some proxy ∧
            isTrusted proxy resolver.trustedNetworks = true) ∧
          (isTrusted address resolver.trustedNetworks = false ∨ left = [])) := by
  unfold clientAddress
  cases hpeer : remoteAddress.bind fun text => parseAddress text true with
  | none =>
    refine Or.inl ⟨rfl, ?_⟩
    unfold ClientAddressResolver.resolve
    rw [hpeer]
  | some peer =>
    refine Or.inr ⟨peer, rfl, ?_⟩
    by_cases htrusted : isTrusted peer resolver.trustedNetworks = true
    · by_cases hrepeated : forwardedHeaderCount rawHeaders > 1
      · rw [if_pos hrepeated]
        exact Or.inl (resolve_not_text hpeer (by simp))
      · rw [if_neg hrepeated]
        by_cases htext : ∃ value, forwardedFor = some (.text value)
        · obtain ⟨value, rfl⟩ := htext
          rw [resolve_text hpeer htrusted]
          cases horigin : (chainOf resolver value).bind resolver.originOf with
          | none => exact Or.inl rfl
          | some address =>
            obtain ⟨chain, hchain, haddress⟩ := Option.bind_eq_some_iff.1 horigin
            unfold chainOf at hchain
            split_ifs at hchain
            obtain ⟨left, right, rfl, hright, hnearest⟩ := originOf_eq_some haddress
            obtain ⟨before, entry, after, hsplit, hbefore, hentry, hafter⟩ := mapM_split hchain
            refine Or.inr ⟨htrusted, by omega, value, before, entry, after, address, rfl, hsplit,
              hentry, rfl, fun other hother => ?_, hnearest.imp id fun hleft => ?_⟩
            · obtain ⟨proxy, hproxy, hparse⟩ := mem_of_mapM hafter other hother
              exact ⟨proxy, hparse, hright proxy hproxy⟩
            · rw [hleft] at hbefore
              cases before with
              | nil => rfl
              | cons x xs =>
                obtain ⟨y, rest, -, -, hnil⟩ := mapM_cons_eq_some hbefore
                cases hnil
        · exact Or.inl (resolve_not_text hpeer (not_exists.1 htext))
    · exact Or.inl (resolve_untrusted hpeer (by simpa using htrusted) _)

/-- Where the part of a header that the trusted proxies wrote names an address that is not one of
them, whatever a client put before it changes nothing, except that the request may be attributed
to the peer. -/
theorem resolve_forged {resolver : ClientAddressResolver} {peerAddress : Option JsString}
    {peer : ParsedAddress} {written : JsString} {chain : List ParsedAddress}
    (hpeer : peerAddress.bind (fun text => parseAddress text true) = some peer)
    (hchain : (written.split 0x2c).mapM parseEntry = some chain)
    (huntrusted : ∃ address ∈ chain, isTrusted address resolver.trustedNetworks = false)
    (forged : JsString) :
    resolver.resolve peerAddress (some (.text (forged ++ 0x2c :: written))) = peer.canonical ∨
      resolver.resolve peerAddress (some (.text (forged ++ 0x2c :: written))) =
        resolver.resolve peerAddress (some (.text written)) := by
  by_cases htrusted : isTrusted peer resolver.trustedNetworks = true
  · rw [resolve_text hpeer htrusted, resolve_text hpeer htrusted]
    have hsplit : (forged ++ 0x2c :: written).split 0x2c =
        forged.split 0x2c ++ written.split 0x2c := List.splitOn_append_cons_self _ _
    have hbytes : byteLength (forged ++ 0x2c :: written) =
        byteLength forged + 1 + byteLength written := byteLength_append_ascii (by decide) _ _
    cases hall : chainOf resolver (forged ++ 0x2c :: written) with
    | none => exact Or.inl rfl
    | some all =>
      right
      unfold chainOf at hall
      rw [hsplit, hbytes, List.length_append] at hall
      split_ifs at hall with hlimits
      have hown : chainOf resolver written = some chain := by
        unfold chainOf
        rw [if_neg (by omega), hchain]
      rw [List.mapM_append, hchain] at hall
      obtain ⟨left, -, hall⟩ := Option.bind_eq_some_iff.1 hall
      cases hall
      rw [hown]
      dsimp only [Option.bind_some]
      rw [originOf_append huntrusted]
  · exact Or.inl (resolve_untrusted hpeer (by simpa using htrusted) _)

def closedNetwork : ClientAddressResolver where
  maxEntries := 16
  trustedNetworks := [⟨.ipv4, 0x0a000000, 8⟩]

theorem resolve_forged_chain :
    closedNetwork.resolve (some (ofAscii "10.0.0.8"))
        (some (.text (ofAscii "10.9.9.9" ++ 0x2c :: ofAscii "203.0.113.9, 10.2.3.4"))) =
          ofAscii "10.0.0.8" ∨
      closedNetwork.resolve (some (ofAscii "10.0.0.8"))
        (some (.text (ofAscii "10.9.9.9" ++ 0x2c :: ofAscii "203.0.113.9, 10.2.3.4"))) =
          ofAscii "203.0.113.9" := by
  have hobserved : (parseAddress (ofAscii "10.0.0.8") true).bind (fun peer =>
      (((ofAscii "203.0.113.9, 10.2.3.4").split 0x2c).mapM parseEntry).map fun chain =>
        (peer.canonical,
          chain.any fun address => !isTrusted address closedNetwork.trustedNetworks)) =
          some (ofAscii "10.0.0.8", true) := by
    decide +kernel
  have hwritten : closedNetwork.resolve (some (ofAscii "10.0.0.8"))
      (some (.text (ofAscii "203.0.113.9, 10.2.3.4"))) = ofAscii "203.0.113.9" := by
    decide +kernel
  obtain ⟨peer, hpeer, hobserved⟩ := Option.bind_eq_some_iff.mp hobserved
  obtain ⟨chain, hchain, hobserved⟩ := Option.map_eq_some_iff.mp hobserved
  simp only [Prod.mk.injEq, List.any_eq_true, Bool.not_eq_true'] at hobserved
  have hforged := @resolve_forged closedNetwork (some (ofAscii "10.0.0.8")) peer _ chain hpeer
    hchain hobserved.2 (ofAscii "10.9.9.9")
  rwa [hobserved.1, hwritten] at hforged

end Resolver

end Lotur.Gateway.ClientAddress
