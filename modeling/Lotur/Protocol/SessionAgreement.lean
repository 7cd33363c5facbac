import Lotur.Protocol.SessionConfig

/-! Both ends of a carrier agree on the session configuration. -/
namespace Lotur.SessionConfig
open JsString MetadataCodec

variable {platform : Platform} {s t : SessionConfigSnapshot}

theorem digestPattern_iff {text : JsString} : digestPattern text = true ↔
    text.length = 43 ∧ ∀ unit ∈ text, Base64Url.isDigit unit = true := by
  simp only [digestPattern, Bool.and_eq_true, decide_eq_true_eq, List.all_eq_true]

/-- A digest has no comma in it, so of an array only one item can have been its text. -/
theorem digestPattern_join {first second : JsString} {rest : List JsString} :
    digestPattern (join [0x2c] (first :: second :: rest)) = false := by
  rw [Bool.eq_false_iff]
  intro h
  have hcomma : (0x2c : UInt16) ∈ join [0x2c] (first :: second :: rest) := by
    simp [join, List.intercalate, List.intersperse]
  exact absurd ((digestPattern_iff.1 h).2 _ hcomma) (by decide)

/-- What passes for a digest is the same in JSON. -/
theorem finite_of_digest : ∀ value : JsonValue,
    digestPattern (coerceText platform value) = true → value.finite = value
  | .null, _ => rfl
  | .bool _, _ => rfl
  | .number _, _ => rfl
  | .string _, _ => rfl
  | .infinity negative, h => by
    cases negative with
    | false => cases h
    | true => cases h
  | .object _, h => by cases h
  | .array [], h => by cases h
  | .array (first :: second :: rest), h => by
    have hitems : ∃ a b texts, coerceItems platform (first :: second :: rest) = a :: b :: texts := by
      cases first <;> cases second <;> exact ⟨_, _, _, rfl⟩
    obtain ⟨a, b, texts, hitems⟩ := hitems
    rw [coerceText, hitems, digestPattern_join] at h
    cases h
  | .array [item], h => by
    have hitem : item = .null ∨ coerceText platform (.array [item]) = coerceText platform item := by
      cases item with
      | null => exact .inl rfl
      | _ => exact .inr (List.append_nil _)
    rcases hitem with rfl | heq
    · cases h
    · rw [heq] at h
      rw [JsonValue.finite, finiteItems, finite_of_digest item h]
      rfl

/-- A field that has passed its check: it is defined and JSON keeps it. -/
def Kept (value : Option JsonValue) : Prop := ∃ v, value = some v ∧ v.finite = v

theorem kept_of_positive {value : Option JsonValue} {name : String} {maximum n : ℕ}
    (h : assertBoundedPositiveInteger value name maximum = .ok n) : Kept value := by
  unfold assertBoundedPositiveInteger at h
  split at h
  · next m hm =>
    obtain ⟨rfl, -⟩ := integerBetween_eq hm
    exact ⟨_, rfl, rfl⟩
  · cases h

theorem kept_of_isText {text : JsString} {value : Option JsonValue} (h : isText text value = true) :
    Kept value := by
  unfold isText at h
  split at h
  · exact ⟨_, rfl, rfl⟩
  · cases h

theorem kept_of_profile {value : Option JsonValue} (h : assertProfile value = .ok ()) :
    Kept value := by
  unfold assertProfile at h
  split_ifs at h with htext
  exact kept_of_isText htext

theorem kept_of_originProjection {value : Option JsonValue}
    (h : assertOriginProjection value = .ok ()) : Kept value := by
  unfold assertOriginProjection at h
  split_ifs at h with htext
  rcases Bool.or_eq_true_iff.1 htext with htext | htext
  · exact kept_of_isText htext
  · exact kept_of_isText htext

theorem kept_of_digest {value : Option JsonValue} {name : String}
    (h : assertDigest platform value name = .ok ()) : Kept value := by
  unfold assertDigest at h
  split_ifs at h with hpattern
  cases value with
  | none => cases hpattern
  | some value => exact ⟨value, rfl, finite_of_digest value hpattern⟩

theorem kept_of_origin {value : Option JsonValue} {name : String}
    (h : assertOrigin platform value name = .ok ()) : Kept value := by
  obtain ⟨url, hurl, -⟩ := of_bind_eq_ok h
  unfold assertHttpUrl at hurl
  split at hurl
  · exact ⟨_, rfl, rfl⟩
  · cases hurl

/-- Every field of an accepted snapshot has passed its check. -/
theorem kept_of_accepted (h : assertSessionConfigSnapshot platform s = .ok ()) :
    ∀ entry ∈ s.entries, Kept entry.2 := by
  obtain ⟨_, hprofile, h⟩ := of_bind_eq_ok h
  obtain ⟨_, hgeneration, h⟩ := of_bind_eq_ok h
  obtain ⟨_, hfingerprint, h⟩ := of_bind_eq_ok h
  obtain ⟨_, hprojection, h⟩ := of_bind_eq_ok h
  obtain ⟨_, horigin, h⟩ := of_bind_eq_ok h
  obtain ⟨_, hconnection, h⟩ := of_bind_eq_ok h
  obtain ⟨_, hstream, h⟩ := of_bind_eq_ok h
  obtain ⟨_, httl, h⟩ := of_bind_eq_ok h
  obtain ⟨_, hidle, h⟩ := of_bind_eq_ok h
  obtain ⟨_, hgrace, h⟩ := of_bind_eq_ok h
  obtain ⟨_, hrequest, h⟩ := of_bind_eq_ok h
  obtain ⟨_, hresponse, h⟩ := of_bind_eq_ok h
  obtain ⟨_, hconcurrent, h⟩ := of_bind_eq_ok h
  obtain ⟨_, hnew, h⟩ := of_bind_eq_ok h
  obtain ⟨_, hheader, h⟩ := of_bind_eq_ok h
  obtain ⟨_, hinactivity, h⟩ := of_bind_eq_ok h
  obtain ⟨_, hduration, -⟩ := of_bind_eq_ok h
  simp only [SessionConfigSnapshot.entries, List.forall_mem_cons, List.not_mem_nil,
    IsEmpty.forall_iff, implies_true, and_true]
  exact ⟨kept_of_positive hgeneration, kept_of_positive hidle, kept_of_positive hconnection,
    kept_of_positive hstream, kept_of_digest hfingerprint, kept_of_positive hconcurrent,
    kept_of_positive hresponse, kept_of_positive hnew, kept_of_positive hrequest,
    kept_of_positive hduration, kept_of_positive httl, kept_of_originProjection hprojection,
    kept_of_profile hprofile, kept_of_origin horigin, kept_of_positive hgrace,
    kept_of_positive hheader, kept_of_positive hinactivity⟩

theorem eq_of_entries (h : s.entries = t.entries) : s = t := by
  cases s
  cases t
  simp only [SessionConfigSnapshot.entries, List.cons.injEq, Prod.mk.injEq, true_and,
    and_true] at h
  simp only [SessionConfigSnapshot.mk.injEq]
  obtain ⟨h1, h2, h3, h4, h5, h6, h7, h8, h9, h10, h11, h12, h13, h14, h15, h16, h17⟩ := h
  exact ⟨h13, h1, h5, h12, h14, h3, h4, h11, h2, h15, h9, h7, h6, h8, h16, h17, h10⟩

/-- Where every field is defined, the canonical object has them all. -/
theorem map_filterMap_defined {entries : List (String × Option JsonValue)}
    (h : ∀ entry ∈ entries, Kept entry.2) :
    (entries.filterMap fun entry => entry.2.map fun value => (entry.1, value)).map
      (fun field => (field.1, some field.2)) = entries := by
  induction entries with
  | nil => rfl
  | cons entry entries ih =>
    obtain ⟨name, value⟩ := entry
    obtain ⟨hhead, htail⟩ := List.forall_mem_cons.1 h
    obtain ⟨v, hv, -⟩ := hhead
    dsimp only at hv
    subst hv
    simp only [List.filterMap_cons, Option.map_some, List.map_cons, ih htail]

theorem finiteFields_filterMap {entries : List (String × Option JsonValue)}
    (h : ∀ entry ∈ entries, Kept entry.2) :
    finiteFields (entries.filterMap fun entry => entry.2.map fun value => (entry.1, value)) =
      entries.filterMap fun entry => entry.2.map fun value => (entry.1, value) := by
  induction entries with
  | nil => rfl
  | cons entry entries ih =>
    obtain ⟨name, value⟩ := entry
    obtain ⟨hhead, htail⟩ := List.forall_mem_cons.1 h
    obtain ⟨v, hv, hfinite⟩ := hhead
    dsimp only at hv
    subst hv
    simp only [List.filterMap_cons, Option.map_some, finiteFields, ih htail, hfinite]

/-- The canonical bytes of a snapshot. -/
def canonicalBytes (platform : Platform) (snapshot : SessionConfigSnapshot) : List UInt8 :=
  encodeMetadata platform.render (.object (canonicalFields snapshot))

theorem digestSessionConfig_eq (h : assertSessionConfigSnapshot platform s = .ok ()) :
    digestSessionConfig platform s =
      .ok (Base64Url.encode (platform.sha256 (canonicalBytes platform s))) := by
  unfold digestSessionConfig encodeCanonicalSessionConfig
  rw [h]
  rfl

/-- Canonical bytes belong to one snapshot. -/
theorem eq_of_canonicalBytes (hs : assertSessionConfigSnapshot platform s = .ok ())
    (ht : assertSessionConfigSnapshot platform t = .ok ())
    (hsread : Inverts platform.render platform.parse (.object (canonicalFields s)))
    (htread : Inverts platform.render platform.parse (.object (canonicalFields t)))
    (h : canonicalBytes platform s = canonicalBytes platform t) : s = t := by
  have hkept := kept_of_accepted hs
  have hkept' := kept_of_accepted ht
  have hfinite : JsonValue.finite (.object (canonicalFields s)) =
      JsonValue.finite (.object (canonicalFields t)) := by
    have hread : platform.parse (canonicalBytes platform s) = _ := hsread
    rw [h, show platform.parse (canonicalBytes platform t) = _ from htread] at hread
    exact (Except.ok.inj hread).symm
  have hfields : canonicalFields s = canonicalFields t := by
    simp only [JsonValue.finite, JsonValue.object.injEq] at hfinite
    rw [canonicalFields, canonicalFields, ← finiteFields_filterMap hkept,
      ← finiteFields_filterMap hkept']
    exact hfinite
  apply eq_of_entries
  rw [← map_filterMap_defined hkept, ← map_filterMap_defined hkept']
  exact congrArg (List.map fun field => (field.1, some field.2)) hfields

/-- What is transmitted: the fields in any order, and perhaps others. -/
def metadataJson (revision : ℕ) (digest : JsString) (record : List (String × JsonValue)) :
    JsonValue :=
  .object [("revision", .number revision), ("digest", .string digest), ("snapshot", .object record)]

/-- An accepted record is read the same after JSON. -/
theorem snapshotOf_finiteFields {record : List (String × JsonValue)}
    (h : ∀ entry ∈ (snapshotOf record).entries, Kept entry.2) :
    snapshotOf (finiteFields record) = snapshotOf record := by
  apply eq_of_entries
  have hmap : (snapshotOf (finiteFields record)).entries =
      (snapshotOf record).entries.map fun entry => (entry.1, entry.2.map JsonValue.finite) := by
    simp only [SessionConfigSnapshot.entries, snapshotOf, field_finiteFields, List.map_cons,
      List.map_nil]
  have hid : ∀ entry ∈ (snapshotOf record).entries,
      (entry.1, entry.2.map JsonValue.finite) = id entry := by
    intro entry hentry
    obtain ⟨v, hv, hfinite⟩ := h entry hentry
    rw [hv, Option.map_some, hfinite, ← hv]
    rfl
  rw [hmap, List.map_congr_left hid, List.map_id]

theorem assertPositiveUint32_natCast {n : ℕ} (hpos : 0 < n) (hle : n ≤ 0xffffffff)
    (name : String) : assertPositiveUint32 (some (.number n)) name = .ok n := by
  unfold assertPositiveUint32 assertBoundedPositiveInteger
  rw [OpenHttp.integerBetween_natCast ⟨hpos, by omega⟩]
  exact if_neg (by omega)

theorem digestPattern_encode {bytes : List UInt8} (h : bytes.length = 32) :
    digestPattern (Base64Url.encode bytes) = true :=
  digestPattern_iff.2 ⟨by rw [Base64Url.length_encode, h], Base64Url.isDigit_of_mem_encode bytes⟩

theorem assertSessionConfigMetadata_iff {metadata : SessionConfigMetadata} :
    assertSessionConfigMetadata platform metadata = .ok () ↔
      (∃ n, assertPositiveUint32 (some metadata.revision) "revision" = .ok n) ∧
      digestPattern metadata.digest = true ∧
      assertSessionConfigSnapshot platform metadata.snapshot = .ok () ∧
      Base64Url.encode (platform.sha256 (canonicalBytes platform metadata.snapshot)) =
        metadata.digest := by
  constructor
  · intro h
    obtain ⟨n, hrevision, h⟩ := of_bind_eq_ok h
    obtain ⟨_, hdigest, h⟩ := of_bind_eq_ok h
    obtain ⟨_, hsnapshot, h⟩ := of_bind_eq_ok h
    rw [digestSessionConfig_eq hsnapshot] at h
    obtain ⟨_, ⟨⟩, h⟩ := of_bind_eq_ok h
    split_ifs at h with hsame
    unfold assertDigest at hdigest
    split_ifs at hdigest with hpattern
    exact ⟨⟨n, hrevision⟩, hpattern, hsnapshot, not_not.1 hsame⟩
  · rintro ⟨⟨n, hrevision⟩, hpattern, hsnapshot, hsame⟩
    have hdigest : assertDigest platform (some (.string metadata.digest)) "digest" = .ok () :=
      if_pos hpattern
    unfold assertSessionConfigMetadata
    rw [hrevision, hdigest, hsnapshot, digestSessionConfig_eq hsnapshot]
    exact if_neg (not_not.2 hsame)

/-- Metadata made for an accepted snapshot come back as they were. -/
theorem decodeSessionConfigMetadata_encode {revision : ℕ} (hpos : 0 < revision)
    (hle : revision ≤ 0xffffffff) {record : List (String × JsonValue)}
    (hrecord : snapshotOf record = s) (hs : assertSessionConfigSnapshot platform s = .ok ())
    {digest : JsString} (hdigest : digestSessionConfig platform s = .ok digest)
    (hread : Inverts platform.render platform.parse (metadataJson revision digest record)) :
    decodeSessionConfigMetadata platform
      (encodeMetadata platform.render (metadataJson revision digest record)) =
        .ok ⟨.number revision, digest, s⟩ := by
  have hrecord' : snapshotOf (finiteFields record) = s := by
    rw [snapshotOf_finiteFields (by rw [hrecord]; exact kept_of_accepted hs), hrecord]
  have hsnapshot : parseSessionConfigSnapshot platform (some (.object (finiteFields record))) =
      .ok s := by
    simp only [parseSessionConfigSnapshot, hrecord', hs]
    rfl
  rw [digestSessionConfig_eq hs] at hdigest
  obtain rfl := Except.ok.inj hdigest
  have hmetadata : assertSessionConfigMetadata platform ⟨.number revision,
      Base64Url.encode (platform.sha256 (canonicalBytes platform s)), s⟩ = .ok () :=
    assertSessionConfigMetadata_iff.2 ⟨⟨_, assertPositiveUint32_natCast hpos hle _⟩,
      digestPattern_encode (platform.sha256_length _), hs, rfl⟩
  unfold decodeSessionConfigMetadata
  rw [parseObject_encode hread]
  change (parseSessionConfigSnapshot platform (some (.object (finiteFields record))) >>= fun _ => _)
    = _
  rw [hsnapshot]
  change (assertSessionConfigMetadata platform ⟨.number revision, _, s⟩ >>= fun _ => _) = _
  rw [hmetadata]
  rfl

/-- A digest in accepted metadata is the digest of the snapshot beside it. -/
theorem decodeSessionConfigMetadata_eq_ok {payload : List UInt8} {metadata : SessionConfigMetadata}
    (h : decodeSessionConfigMetadata platform payload = .ok metadata) :
    assertSessionConfigMetadata platform metadata = .ok () := by
  obtain ⟨value, -, h⟩ := of_bind_eq_ok h
  split at h
  · cases h
  · split at h
    · obtain ⟨snapshot, -, h⟩ := of_bind_eq_ok h
      obtain ⟨_, hmetadata, h⟩ := of_bind_eq_ok h
      cases h
      exact hmetadata
    · cases h

/-- The two ends of a carrier hold the same configuration: what is sent arrives, the canonical
encoding tells snapshots apart, and a digest is taken for no other snapshot than its own. -/
theorem session_config_agreement (platform : Platform) (s : SessionConfigSnapshot)
    (hs : assertSessionConfigSnapshot platform s = .ok ()) :
    (∀ revision record digest, 0 < revision → revision ≤ 0xffffffff → snapshotOf record = s →
      digestSessionConfig platform s = .ok digest →
      Inverts platform.render platform.parse (metadataJson revision digest record) →
      decodeSessionConfigMetadata platform
        (encodeMetadata platform.render (metadataJson revision digest record)) =
          .ok ⟨.number revision, digest, s⟩) ∧
    (∃ digest, digestSessionConfig platform s = .ok digest) ∧
    ∀ t, Inverts platform.render platform.parse (.object (canonicalFields s)) →
      Inverts platform.render platform.parse (.object (canonicalFields t)) →
      (∀ bytes, encodeCanonicalSessionConfig platform s = .ok bytes →
        encodeCanonicalSessionConfig platform t = .ok bytes → s = t) ∧
      ((platform.sha256 (canonicalBytes platform s) = platform.sha256 (canonicalBytes platform t) →
          canonicalBytes platform s = canonicalBytes platform t) →
        ∀ payload metadata, digestSessionConfig platform s = .ok metadata.digest →
          metadata.snapshot = t → s ≠ t →
          decodeSessionConfigMetadata platform payload ≠ .ok metadata) := by
  refine ⟨fun revision record digest hpos hle hrecord hdigest hread =>
    decodeSessionConfigMetadata_encode hpos hle hrecord hs hdigest hread,
    ⟨_, digestSessionConfig_eq hs⟩, fun t hsread htread => ⟨fun bytes hsbytes htbytes => ?_,
    fun hinjective payload metadata hdigest hsnapshot hne h => ?_⟩⟩
  · obtain ⟨_, -, hsbytes⟩ := of_bind_eq_ok hsbytes
    obtain ⟨_, ht, htbytes⟩ := of_bind_eq_ok htbytes
    have hbytes : canonicalBytes platform s = canonicalBytes platform t :=
      (Except.ok.inj hsbytes).trans (Except.ok.inj htbytes).symm
    exact eq_of_canonicalBytes hs ht hsread htread hbytes
  · obtain ⟨-, -, ht, hsame⟩ := assertSessionConfigMetadata_iff.1
      (decodeSessionConfigMetadata_eq_ok h)
    rw [hsnapshot] at ht hsame
    rw [digestSessionConfig_eq hs, ← hsame] at hdigest
    have hhash := congrArg Base64Url.decode (Except.ok.inj hdigest)
    rw [Base64Url.decode_encode, Base64Url.decode_encode] at hhash
    exact hne (eq_of_canonicalBytes hs ht hsread htread (hinjective hhash))

section Sample

def sampleInput (generation : ℚ) : SnapshotInput where
  generation := generation
  localOriginFingerprint := List.replicate 43 0x41
  originProjection := .localView
  publicOrigin := ofAscii "https://demo.test"
  initialConnectionWindowBytes := 4194304
  initialStreamWindowBytes := 262144
  policy := none
  limits := none

def sampleCanonical (generation : ℚ) : JsonValue :=
  .object (canonicalFields (sampleInput generation).snapshot)

/-- SHA-256 of the canonical encodings of the first two generations. -/
def sampleHash (bytes : List UInt8) : List UInt8 :=
  if bytes = encodeMetadata (fun _ => []) (sampleCanonical 1) then
    [134, 180, 223, 216, 218, 46, 152, 180, 57, 141, 145, 174, 21, 165, 31, 223, 100, 36, 109, 61,
      122, 55, 171, 172, 83, 50, 155, 33, 74, 241, 61, 223]
  else if bytes = encodeMetadata (fun _ => []) (sampleCanonical 2) then
    [122, 171, 148, 13, 133, 216, 224, 166, 124, 29, 247, 20, 243, 166, 203, 111, 224, 83, 191, 111,
      25, 55, 180, 209, 54, 26, 251, 150, 27, 241, 59, 193]
  else List.replicate 32 0

def sampleMessage : JsonValue :=
  metadataJson 7 (ofAscii "hrTf2NoumLQ5jZGuFaUf32QkbT16N6usUzKbIUrxPd8")
    (canonicalFields (sampleInput 1).snapshot).reverse

def samplePlatform : Platform where
  render _ := []
  parse payload :=
    if payload = encodeMetadata (fun _ => []) sampleMessage then .ok sampleMessage.finite
    else if payload = encodeMetadata (fun _ => []) (sampleCanonical 1) then
      .ok (sampleCanonical 1).finite
    else if payload = encodeMetadata (fun _ => []) (sampleCanonical 2) then
      .ok (sampleCanonical 2).finite
    else .error (.error "SyntaxError")
  url text := if text = ofAscii "https://demo.test" then
      some ⟨ofAscii "https:", [], [], [], text, ofAscii "/", []⟩
    else none
  sha256 := sampleHash
  sha256_length bytes := by
    unfold sampleHash
    split_ifs <;> rfl

theorem samplePlatform_parse (payload : List UInt8) : samplePlatform.parse payload =
    if payload = encodeMetadata (fun _ => []) sampleMessage then .ok sampleMessage.finite
    else if payload = encodeMetadata (fun _ => []) (sampleCanonical 1) then
      .ok (sampleCanonical 1).finite
    else if payload = encodeMetadata (fun _ => []) (sampleCanonical 2) then
      .ok (sampleCanonical 2).finite
    else .error (.error "SyntaxError") := rfl

theorem session_config_agreement_sample :
    decodeSessionConfigMetadata samplePlatform (encodeMetadata (fun _ => []) sampleMessage) =
      .ok ⟨.number 7, ofAscii "hrTf2NoumLQ5jZGuFaUf32QkbT16N6usUzKbIUrxPd8",
        (sampleInput 1).snapshot⟩ ∧
    decodeSessionConfigMetadata samplePlatform (encodeMetadata (fun _ => []) sampleMessage) ≠
      .ok ⟨.number 7, ofAscii "hrTf2NoumLQ5jZGuFaUf32QkbT16N6usUzKbIUrxPd8",
        (sampleInput 2).snapshot⟩ := by
  have haccepted : assertSessionConfigSnapshot samplePlatform (sampleInput 1).snapshot = .ok () := by
    decide +kernel
  have hdigest : digestSessionConfig samplePlatform (sampleInput 1).snapshot =
      .ok (ofAscii "hrTf2NoumLQ5jZGuFaUf32QkbT16N6usUzKbIUrxPd8") := by
    rw [digestSessionConfig_eq haccepted]
    exact congrArg Except.ok (by decide +kernel)
  obtain ⟨hdecode, -, hdiffer⟩ := session_config_agreement samplePlatform _ haccepted
  refine ⟨hdecode 7 _ _ (by decide) (by decide) rfl hdigest (if_pos rfl), ?_⟩
  have hmessage : encodeMetadata (fun _ => []) (sampleCanonical 1) ≠
      encodeMetadata (fun _ => []) sampleMessage := by decide +kernel
  have hother : encodeMetadata (fun _ => []) (sampleCanonical 2) ≠
      encodeMetadata (fun _ => []) sampleMessage := by decide +kernel
  have hdistinct : encodeMetadata (fun _ => []) (sampleCanonical 2) ≠
      encodeMetadata (fun _ => []) (sampleCanonical 1) := by decide +kernel
  have hfirst : Inverts samplePlatform.render samplePlatform.parse (sampleCanonical 1) := by
    change samplePlatform.parse (encodeMetadata (fun _ => []) (sampleCanonical 1)) = _
    rw [samplePlatform_parse, if_neg hmessage, if_pos rfl]
  have hsecond : Inverts samplePlatform.render samplePlatform.parse (sampleCanonical 2) := by
    change samplePlatform.parse (encodeMetadata (fun _ => []) (sampleCanonical 2)) = _
    rw [samplePlatform_parse, if_neg hother, if_neg hdistinct, if_pos rfl]
  refine (hdiffer _ hfirst hsecond).2 (fun hhash => absurd hhash ?_) _ _ hdigest rfl ?_
  · have hbytes : ∀ generation, canonicalBytes samplePlatform (sampleInput generation).snapshot =
        encodeMetadata (fun _ => []) (sampleCanonical generation) := fun _ => rfl
    have hhash : samplePlatform.sha256 = sampleHash := rfl
    rw [hbytes, hbytes, hhash]
    decide +kernel
  · intro h
    have hgeneration := congrArg SessionConfigSnapshot.generation h
    simp [SnapshotInput.snapshot, sampleInput] at hgeneration

end Sample

end Lotur.SessionConfig
