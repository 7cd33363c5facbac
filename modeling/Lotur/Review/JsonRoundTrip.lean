import Lotur.Review.JsonText

/-! What `JSON.parse` reads of the texts that `JSON.stringify` writes. -/
namespace Lotur.Json
open JsString OpenHttp Review

section Strings

theorem hexValue_hexDigit {n : ℕ} (h : n < 16) : hexValue (hexDigit n) = some n := by
  interval_cases n <;> decide

theorem hexUnit_hexDigits (unit : UInt16) :
    hexUnit [hexDigit (unit.toNat / 0x1000), hexDigit (unit.toNat / 0x100 % 0x10),
      hexDigit (unit.toNat / 0x10 % 0x10), hexDigit (unit.toNat % 0x10)] = some unit := by
  have hlt := unit.toNat_lt
  have hvalue : (16 * (16 * (16 * (16 * 0 + unit.toNat / 0x1000) + unit.toNat / 0x100 % 0x10) +
      unit.toNat / 0x10 % 0x10) + unit.toNat % 0x10) = unit.toNat := by omega
  unfold hexUnit
  rw [List.mapM_cons, hexValue_hexDigit (by omega), List.mapM_cons, hexValue_hexDigit (by omega),
    List.mapM_cons, hexValue_hexDigit (by omega), List.mapM_cons, hexValue_hexDigit (by omega)]
  simp only [List.mapM_nil, Option.pure_def, Option.bind_eq_bind, Option.bind_some, Option.map_some,
    List.foldl_cons, List.foldl_nil, hvalue]
  rw [Nat.toUInt16_eq, UInt16.ofNat_toNat]

theorem readString_escape {escape unit : UInt16} (h : escaped escape = some unit)
    (rest : JsString) : readString (0x5c :: escape :: rest) =
      (readString rest).map fun (text, rest) => (unit :: text, rest) := by
  have hescape : escape ≠ 0x75 := by
    rintro rfl
    have hnone : escaped 0x75 = none := by decide
    rw [hnone] at h
    cases h
  rw [readString, h]
  · cases readString rest <;> rfl
  · intro a b c d rest heq
    exact absurd heq hescape

theorem readString_plainUnit {unit : UInt16} (hlow : ¬ unit < 0x20) (hquote : unit ≠ 0x22)
    (hescape : unit ≠ 0x5c) (rest : JsString) : readString (unit :: rest) =
      (readString rest).map fun (text, rest) => (unit :: text, rest) := by
  rw [readString]
  · rw [if_neg (not_or.2 ⟨hlow, hescape⟩)]
    cases readString rest <;> rfl
  · exact hquote
  · intro a b c d rest heq
    exact absurd heq hescape
  · intro escape rest heq
    exact absurd heq hescape

theorem readString_quoteUnit (unit : UInt16) (rest : JsString) :
    readString (quoteUnit unit ++ rest) =
      (readString rest).map fun (text, rest) => (unit :: text, rest) := by
  unfold quoteUnit
  split_ifs with h1 h2 h3 h4 h5 h6 h7 h8
  · exact readString_escape (h1 ▸ rfl) rest
  · exact readString_escape (h2 ▸ rfl) rest
  · exact readString_escape (h3 ▸ rfl) rest
  · exact readString_escape (h4 ▸ rfl) rest
  · exact readString_escape (h5 ▸ rfl) rest
  · exact readString_escape (h6 ▸ rfl) rest
  · exact readString_escape (h7 ▸ rfl) rest
  · have hread := hexUnit_hexDigits unit
    change readString (0x5c :: 0x75 :: hexDigit _ :: hexDigit _ :: hexDigit _ :: hexDigit _ :: rest)
      = _
    rw [readString, hread]
    cases readString rest <;> rfl
  · rw [Bool.or_eq_true, Bool.or_eq_true, decide_eq_true_eq, not_or, not_or] at h8
    exact readString_plainUnit h8.1.1 h6 h7 rest

theorem plain_of_surrogate {unit : UInt16}
    (h : isLeadingSurrogate unit = true ∨ isTrailingSurrogate unit = true) :
    ¬ unit < 0x20 ∧ unit ≠ 0x22 ∧ unit ≠ 0x5c := by
  unfold isLeadingSurrogate isTrailingSurrogate at h
  simp only [Bool.and_eq_true, decide_eq_true_eq, UInt16.le_iff_toNat_le, UInt16.lt_iff_toNat_lt,
    ne_eq, ← UInt16.toNat_inj, UInt16.reduceToNat] at h ⊢
  omega

/-- A quoted text is read back. -/
theorem readString_quoteUnits (text rest : JsString) :
    readString (quoteUnits text ++ 0x22 :: rest) = some (text, rest) := by
  induction text using quoteUnits.induct with
  | case1 => rfl
  | case2 unit =>
    rw [quoteUnits, readString_quoteUnit]
    rfl
  | case3 high low text hpair ih =>
    rw [quoteUnits, if_pos hpair]
    rw [Bool.and_eq_true] at hpair
    obtain ⟨hlow, hquote, hescape⟩ := plain_of_surrogate (.inl hpair.1)
    obtain ⟨hlow', hquote', hescape'⟩ := plain_of_surrogate (.inr hpair.2)
    rw [List.cons_append, List.cons_append, readString_plainUnit hlow hquote hescape,
      readString_plainUnit hlow' hquote' hescape', ih]
    rfl
  | case4 high low text hpair ih =>
    rw [quoteUnits, if_neg hpair, List.append_assoc, readString_quoteUnit, ih]
    rfl

end Strings

section Scalars
variable (format : NumberFormat)

/-- The text goes on with no unit of a number. -/
def NumberEnds (rest : JsString) : Prop := ∀ unit ∈ rest.head?, isNumberUnit unit = false

theorem takeWhile_number {literal rest : JsString} (h : literal.all isNumberUnit = true)
    (hrest : NumberEnds rest) : (literal ++ rest).takeWhile isNumberUnit = literal ∧
      (literal ++ rest).dropWhile isNumberUnit = rest := by
  rw [List.all_eq_true] at h
  rw [List.takeWhile_append_of_pos h, List.dropWhile_append_of_pos h]
  cases rest with
  | nil => exact ⟨List.append_nil literal, rfl⟩
  | cons unit rest =>
    have hunit : ¬ isNumberUnit unit = true := by rw [hrest unit rfl]; exact Bool.false_ne_true
    rw [List.takeWhile_cons_of_neg hunit, List.dropWhile_cons_of_neg hunit]
    exact ⟨List.append_nil literal, rfl⟩

theorem number_toNat {unit : UInt16} (h : isNumberUnit unit = true) :
    0x2b ≤ unit.toNat ∧ unit.toNat ≤ 0x65 ∧ unit.toNat ≠ 0x5b := by
  unfold isNumberUnit isDecimal at h
  simp only [Bool.or_eq_true, Bool.and_eq_true, decide_eq_true_eq, UInt16.le_iff_toNat_le,
    ← UInt16.toNat_inj, UInt16.reduceToNat] at h
  omega

theorem number_ne {unit other : UInt16} (h : isNumberUnit unit = true)
    (hother : other.toNat < 0x2b ∨ 0x65 < other.toNat ∨ other.toNat = 0x5b) : unit ≠ other := by
  rintro rfl
  have hunit := number_toNat h
  omega

theorem readUnit_of_ne {unit other : UInt16} (h : unit ≠ other) (rest : JsString) :
    readUnit other (unit :: rest) = none := if_neg h

theorem skipSpace_cons {unit : UInt16}
    (h : (unit = 0x20 || unit = 0x09 || unit = 0x0a || unit = 0x0d) = false) (rest : JsString) :
    skipSpace (unit :: rest) = unit :: rest := by
  unfold skipSpace
  rw [List.dropWhile_cons_of_neg]
  rw [h]
  exact Bool.false_ne_true

theorem skipSpace_number {unit : UInt16} (h : isNumberUnit unit = true) (rest : JsString) :
    skipSpace (unit :: rest) = unit :: rest := by
  refine skipSpace_cons ?_ rest
  rw [decide_eq_false (number_ne h (by decide)), decide_eq_false (number_ne h (by decide)),
    decide_eq_false (number_ne h (by decide)), decide_eq_false (number_ne h (by decide))]
  rfl

/-- A literal is not empty and has the units of a number. -/
theorem literal_units {literal : JsString} (h : isNumberLiteral literal = true) :
    ∃ unit units, literal = unit :: units ∧ isNumberUnit unit = true ∧
      literal.all isNumberUnit = true := by
  have hall : literal.all isNumberUnit = true := (Bool.and_eq_true_iff.1 h).1
  cases literal with
  | nil => exact absurd h (by decide)
  | cons unit units =>
    have hunit := hall
    rw [List.all_cons, Bool.and_eq_true] at hunit
    exact ⟨unit, units, rfl, hunit.1, hall⟩

theorem startsWith_of_ne {unit first : UInt16} (h : unit ≠ first) (rest start : JsString) :
    startsWith (unit :: rest) (first :: start) = false := by
  unfold startsWith
  rw [List.isPrefixOf_cons_cons, beq_false_of_ne h.symm, Bool.false_and]

theorem parseWord_number {unit : UInt16} (h : isNumberUnit unit = true) (rest : JsString) :
    parseWord (unit :: rest) = none := by
  have hword : ∀ first start, 0x65 < UInt16.toNat first →
      ¬ startsWith (unit :: rest) (first :: start) = true := by
    intro first start hfirst
    rw [startsWith_of_ne (number_ne h (.inr (.inl hfirst)))]
    exact Bool.false_ne_true
  have hnull : ¬ startsWith (unit :: rest) (ofAscii "null") = true :=
    hword 0x6e (ofAscii "ull") (by decide)
  have htrue : ¬ startsWith (unit :: rest) (ofAscii "true") = true :=
    hword 0x74 (ofAscii "rue") (by decide)
  have hfalse : ¬ startsWith (unit :: rest) (ofAscii "false") = true :=
    hword 0x66 (ofAscii "alse") (by decide)
  unfold parseWord
  rw [if_neg hnull, if_neg htrue, if_neg hfalse]

theorem parseValue_number {literal : JsString} (h : isNumberLiteral literal = true) {rest : JsString}
    (hrest : NumberEnds rest) (fuel : ℕ) :
    parseValue format (fuel + 1) (literal ++ rest) =
      some (.number (format.read literal), rest) := by
  obtain ⟨unit, units, rfl, hunit, hall⟩ := literal_units h
  obtain ⟨htake, hdrop⟩ := takeWhile_number hall hrest
  rw [List.cons_append] at htake hdrop ⊢
  rw [parseValue, skipSpace_number hunit]
  dsimp only
  rw [readUnit_of_ne (number_ne hunit (by decide)), readUnit_of_ne (number_ne hunit (by decide)),
    readUnit_of_ne (number_ne hunit (by decide)), parseWord_number hunit]
  dsimp only [Option.orElse]
  rw [parseNumber, htake, hdrop, if_pos h]

end Scalars

section RoundTrip
variable (format : NumberFormat)

theorem parseValue_word (first : UInt16) (word : JsString) {value : Json}
    (hspace : (first = 0x20 || first = 0x09 || first = 0x0a || first = 0x0d) = false)
    (hquote : first ≠ 0x22) (harray : first ≠ 0x5b) (hobject : first ≠ 0x7b) {rest : JsString}
    (hword : parseWord (first :: word ++ rest) = some (value, rest)) (fuel : ℕ) :
    parseValue format (fuel + 1) (first :: word ++ rest) = some (value, rest) := by
  rw [List.cons_append] at hword ⊢
  rw [parseValue, skipSpace_cons hspace]
  dsimp only
  rw [readUnit_of_ne hquote, readUnit_of_ne harray, readUnit_of_ne hobject, hword]
  rfl

theorem parseValue_quote (text rest : JsString) (fuel : ℕ) :
    parseValue format (fuel + 1) (quoteJsonString text ++ rest) = some (.string text, rest) := by
  have hquote : quoteJsonString text ++ rest = 0x22 :: (quoteUnits text ++ 0x22 :: rest) := by
    unfold quoteJsonString
    rw [List.append_assoc]
    rfl
  have hread : ∀ inside, readUnit 0x22 (skipSpace (0x22 :: inside)) = some inside := fun _ => rfl
  rw [hquote, parseValue]
  dsimp only
  rw [hread]
  dsimp only
  rw [readString_quoteUnits]
  rfl

theorem parseName_quote (name rest : JsString) :
    parseName (quoteJsonString name ++ 0x3a :: rest) = some (name, rest) := by
  have hquote : quoteJsonString name ++ 0x3a :: rest =
      0x22 :: (quoteUnits name ++ 0x22 :: 0x3a :: rest) := by
    unfold quoteJsonString
    rw [List.append_assoc]
    rfl
  have hread : readItem (0x22 :: (quoteUnits name ++ 0x22 :: 0x3a :: rest)) =
      some (name, 0x3a :: rest) := readString_quoteUnits name (0x3a :: rest)
  rw [hquote, parseName, hread]
  rfl

theorem parseValue_array {items : List Json} {inside rest : JsString} {fuel : ℕ}
    (hinside : readUnit 0x5d (skipSpace inside) = none)
    (h : parseItems format fuel inside = some (items, rest)) :
    parseValue format (fuel + 1) (0x5b :: inside) = some (.array items, rest) := by
  have hquote : readUnit 0x22 (skipSpace (0x5b :: inside)) = none := rfl
  have hread : readUnit 0x5b (skipSpace (0x5b :: inside)) = some inside := rfl
  rw [parseValue]
  dsimp only
  rw [hquote, hread]
  dsimp only
  rw [hinside, h]
  rfl

theorem parseValue_object {fields : List (JsString × Json)} {inside rest : JsString} {fuel : ℕ}
    (hinside : readUnit 0x7d (skipSpace inside) = none)
    (h : parseFields format fuel inside = some (fields, rest)) :
    parseValue format (fuel + 1) (0x7b :: inside) = some (.object (ofFields fields), rest) := by
  have hquote : readUnit 0x22 (skipSpace (0x7b :: inside)) = none := rfl
  have harray : readUnit 0x5b (skipSpace (0x7b :: inside)) = none := rfl
  have hread : readUnit 0x7b (skipSpace (0x7b :: inside)) = some inside := rfl
  rw [parseValue]
  dsimp only
  rw [hquote, harray, hread]
  dsimp only
  rw [hinside, h]
  rfl

theorem stringifyFields_join (name : JsString) (value : Json) (fields : List (JsString × Json)) :
    ∃ inside, join [0x2c] (stringifyFields format ((name, value) :: fields)) = 0x22 :: inside := by
  unfold join
  cases fields with
  | nil => exact ⟨_, rfl⟩
  | cons second fields => exact ⟨_, rfl⟩

/-- No value starts with a closing bracket. -/
theorem stringify_head (value : Json) (rest : JsString) :
    readUnit 0x5d (skipSpace (value.stringify format ++ rest)) = none := by
  cases value with
  | null => rfl
  | bool value => cases value <;> rfl
  | number value =>
    cases value with
    | finite value =>
      obtain ⟨unit, units, hprint, hunit, -⟩ :=
        literal_units (format.isNumberLiteral_print value)
      have hne : unit ≠ 0x5d := by
        rintro rfl
        revert hunit
        decide
      rw [stringify, hprint, List.cons_append, skipSpace_number hunit, readUnit_of_ne hne]
    | infinity negative => rfl
    | nan => rfl
  | string text => rfl
  | array items => rfl
  | object fields => rfl

theorem stringifyItems_head (item : Json) (items : List Json) (rest : JsString) :
    readUnit 0x5d (skipSpace (join [0x2c] (stringifyItems format (item :: items)) ++ rest)) =
      none := by
  unfold join
  cases items with
  | nil =>
    rw [stringifyItems, stringifyItems, List.intercalate_singleton]
    exact stringify_head format item rest
  | cons second items =>
    rw [stringifyItems, stringifyItems, List.intercalate_cons_cons, List.append_assoc,
      List.append_assoc]
    exact stringify_head format item _

theorem numberEnds_cons {unit : UInt16} (h : isNumberUnit unit = false) (rest : JsString) :
    NumberEnds (unit :: rest) := by
  rintro _ ⟨⟩
  exact h

/-- What is read of the items when the first of them and the text behind it are known. -/
theorem parseItems_last {item : Json} {text rest : JsString} {fuel : ℕ}
    (h : parseValue format fuel text = some (item, 0x5d :: rest)) :
    parseItems format (fuel + 1) text = some ([item], rest) := by
  rw [parseItems, h]
  rfl

theorem parseItems_more {item : Json} {items : List Json} {text behind rest : JsString} {fuel : ℕ}
    (h : parseValue format fuel text = some (item, 0x2c :: behind))
    (hitems : parseItems format fuel behind = some (items, rest)) :
    parseItems format (fuel + 1) text = some (item :: items, rest) := by
  have hcomma : readUnit 0x2c (skipSpace (0x2c :: behind)) = some behind := rfl
  rw [parseItems, h, Option.bind_eq_bind, Option.bind_some]
  dsimp only
  rw [hcomma]
  dsimp only
  rw [hitems]
  rfl

theorem parseFields_last {name : JsString} {value : Json} {text rest : JsString} {fuel : ℕ}
    (h : parseValue format fuel text = some (value, 0x7d :: rest)) :
    parseFields format (fuel + 1) (quoteJsonString name ++ 0x3a :: text) =
      some ([(name, value)], rest) := by
  rw [parseFields, parseName_quote, Option.bind_eq_bind, Option.bind_some]
  dsimp only
  rw [h]
  rfl

theorem parseFields_more {name : JsString} {value : Json} {fields : List (JsString × Json)}
    {text behind rest : JsString} {fuel : ℕ}
    (h : parseValue format fuel text = some (value, 0x2c :: behind))
    (hfields : parseFields format fuel behind = some (fields, rest)) :
    parseFields format (fuel + 1) (quoteJsonString name ++ 0x3a :: text) =
      some ((name, value) :: fields, rest) := by
  have hcomma : readUnit 0x2c (skipSpace (0x2c :: behind)) = some behind := rfl
  rw [parseFields, parseName_quote, Option.bind_eq_bind, Option.bind_some]
  dsimp only
  rw [h, Option.bind_eq_bind, Option.bind_some]
  dsimp only
  rw [hcomma]
  dsimp only
  rw [hfields]
  rfl

mutual

/-- Every text of a value is read back. -/
theorem parseValue_stringify : ∀ (value : Json) (rest : JsString) (fuel : ℕ),
    (value.stringify format).length ≤ fuel → NumberEnds rest →
      parseValue format (fuel + 1) (value.stringify format ++ rest) =
        some (value.normal format, rest)
  | .null, _, fuel, _, _ =>
    parseValue_word format 0x6e (ofAscii "ull") rfl (by decide) (by decide) (by decide) rfl fuel
  | .bool true, _, fuel, _, _ =>
    parseValue_word format 0x74 (ofAscii "rue") rfl (by decide) (by decide) (by decide) rfl fuel
  | .bool false, _, fuel, _, _ =>
    parseValue_word format 0x66 (ofAscii "alse") rfl (by decide) (by decide) (by decide) rfl fuel
  | .number (.finite value), _, fuel, _, hrest =>
    parseValue_number format (format.isNumberLiteral_print value) hrest fuel
  | .number (.infinity _), _, fuel, _, _ =>
    parseValue_word format 0x6e (ofAscii "ull") rfl (by decide) (by decide) (by decide) rfl fuel
  | .number .nan, _, fuel, _, _ =>
    parseValue_word format 0x6e (ofAscii "ull") rfl (by decide) (by decide) (by decide) rfl fuel
  | .string text, rest, fuel, _, _ => parseValue_quote format text rest fuel
  | .array [], _, _, _, _ => rfl
  | .array (item :: items), rest, fuel, hfuel, _ => by
    rw [stringify, List.length_append, List.length_cons, List.length_singleton] at hfuel
    have hitems := parseItems_stringify (item :: items) (List.cons_ne_nil item items) rest fuel
      (by omega)
    have hhead := stringifyItems_head format item items (0x5d :: rest)
    have harray := parseValue_array format hhead hitems
    rw [stringify, List.cons_append, List.cons_append, List.append_assoc]
    exact harray
  | .object [], _, _, _, _ => rfl
  | .object ((name, value) :: fields), rest, fuel, hfuel, _ => by
    rw [stringify, List.length_append, List.length_cons, List.length_singleton] at hfuel
    have hfields := parseFields_stringify ((name, value) :: fields) (List.cons_ne_nil _ fields)
      rest fuel (by omega)
    obtain ⟨inside, hinside⟩ := stringifyFields_join format name value fields
    have hhead : readUnit 0x7d (skipSpace (join [0x2c] (stringifyFields format
        ((name, value) :: fields)) ++ 0x7d :: rest)) = none := by
      rw [hinside]
      rfl
    have hobject := parseValue_object format hhead hfields
    rw [stringify, List.cons_append, List.cons_append, List.append_assoc]
    exact hobject

theorem parseItems_stringify : ∀ (items : List Json), items ≠ [] → ∀ (rest : JsString) (fuel : ℕ),
    (join [0x2c] (stringifyItems format items)).length + 2 ≤ fuel →
      parseItems format fuel (join [0x2c] (stringifyItems format items) ++ 0x5d :: rest) =
        some (normalItems format items, rest)
  | [], h, _, _, _ => absurd rfl h
  | [item], _, rest, fuel + 2, hfuel => by
    have htext : join [0x2c] (stringifyItems format [item]) = item.stringify format :=
      List.intercalate_singleton
    rw [htext] at hfuel ⊢
    exact parseItems_last format (parseValue_stringify item (0x5d :: rest) fuel (by omega)
      (numberEnds_cons rfl rest))
  | item :: second :: items, _, rest, fuel + 2, hfuel => by
    have htext : join [0x2c] (stringifyItems format (item :: second :: items)) =
        item.stringify format ++ 0x2c :: join [0x2c] (stringifyItems format (second :: items)) := by
      unfold join
      rw [stringifyItems, stringifyItems, List.intercalate_cons_cons, List.append_assoc]
      rfl
    rw [htext, List.length_append, List.length_cons] at hfuel
    rw [htext, List.append_assoc]
    exact parseItems_more format (parseValue_stringify item _ fuel (by omega)
      (numberEnds_cons rfl _)) (parseItems_stringify (second :: items)
        (List.cons_ne_nil second items) rest (fuel + 1) (by omega))
  | _ :: _, _, _, 0, hfuel => absurd hfuel (by omega)
  | _ :: _, _, _, 1, hfuel => absurd hfuel (by omega)

theorem parseFields_stringify : ∀ (fields : List (JsString × Json)), fields ≠ [] →
    ∀ (rest : JsString) (fuel : ℕ),
      (join [0x2c] (stringifyFields format fields)).length + 2 ≤ fuel →
        parseFields format fuel (join [0x2c] (stringifyFields format fields) ++ 0x7d :: rest) =
          some (normalFields format fields, rest)
  | [], h, _, _, _ => absurd rfl h
  | [(name, value)], _, rest, fuel + 2, hfuel => by
    have htext : join [0x2c] (stringifyFields format [(name, value)]) =
        quoteJsonString name ++ 0x3a :: value.stringify format := List.intercalate_singleton
    rw [htext, List.length_append, List.length_cons] at hfuel
    rw [htext, List.append_assoc]
    exact parseFields_last format (parseValue_stringify value (0x7d :: rest) fuel (by omega)
      (numberEnds_cons rfl rest))
  | (name, value) :: second :: fields, _, rest, fuel + 2, hfuel => by
    have htext : join [0x2c] (stringifyFields format ((name, value) :: second :: fields)) =
        quoteJsonString name ++ 0x3a :: (value.stringify format ++
          0x2c :: join [0x2c] (stringifyFields format (second :: fields))) := by
      unfold join
      rw [stringifyFields, stringifyFields, List.intercalate_cons_cons, List.append_assoc,
        List.append_assoc]
      rfl
    rw [htext, List.length_append, List.length_cons, List.length_append, List.length_cons] at hfuel
    rw [htext, List.append_assoc, List.cons_append, List.append_assoc]
    exact parseFields_more format (parseValue_stringify value _ fuel (by omega)
      (numberEnds_cons rfl _)) (parseFields_stringify (second :: fields)
        (List.cons_ne_nil second fields) rest (fuel + 1) (by omega))
  | _ :: _, _, _, 0, hfuel => absurd hfuel (by omega)
  | _ :: _, _, _, 1, hfuel => absurd hfuel (by omega)

end

/-- What is read of the text of a value. -/
theorem parse_stringify (value : Json) :
    parse format (value.stringify format) = some (value.normal format) := by
  have hread := parseValue_stringify format value [] (value.stringify format).length le_rfl
    (by rintro _ ⟨⟩)
  rw [List.append_nil] at hread
  rw [parse, hread]
  rfl

end RoundTrip
end Lotur.Json
