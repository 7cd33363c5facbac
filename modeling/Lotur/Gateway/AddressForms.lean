import Lotur.Gateway.ClientAddress
import Mathlib.Data.List.TakeWhile

/-! The canonical text of an address is read back as the same address, in each of the forms that
`parseAddress` accepts. -/
namespace Lotur.Gateway.ClientAddress
open JsString

section Units

def hexDigits : JsString := (List.range 16).map Numerals.digit

theorem mem_hexDigits {base n : ℕ} (hbase : 1 < base) (hle : base ≤ 16) {unit : UInt16}
    (h : unit ∈ Numerals.print base n) : unit ∈ hexDigits := by
  obtain ⟨d, hd, rfl⟩ := Numerals.mem_print hbase h
  exact List.mem_map_of_mem (List.mem_range.2 (hd.trans_le hle))

/-- A numeral holds neither a dot nor a colon. -/
theorem separator_not_mem_print {base n : ℕ} (hbase : 1 < base) (hle : base ≤ 16)
    {separator : UInt16} (h : separator = 0x2e ∨ separator = 0x3a) :
    separator ∉ Numerals.print base n := by
  intro hmem
  have hdigit := mem_hexDigits hbase hle hmem
  rcases h with rfl | rfl
  · revert hdigit
    decide
  · revert hdigit
    decide

theorem isDecimal_digit {d : ℕ} (h : d < 10) :
    (0x30 ≤ Numerals.digit d && Numerals.digit d ≤ 0x39) = true := by
  revert h
  revert d
  decide

theorem split_join {separator : UInt16} {parts : List JsString} (hne : parts ≠ [])
    (h : ∀ part ∈ parts, separator ∉ part) : (join [separator] parts).split separator = parts :=
  List.splitOn_intercalate separator h hne

end Units

section Dotted

variable {octets : List ℕ}

theorem isOctet_print {octet : ℕ} (h : octet < 256) : isOctet (Numerals.print 10 octet) = true := by
  have hdecimal :
      (Numerals.print 10 octet).all (fun unit => 0x30 ≤ unit && unit ≤ 0x39) = true := by
    rw [List.all_eq_true]
    intro unit hunit
    obtain ⟨d, hd, rfl⟩ := Numerals.mem_print (by norm_num) hunit
    exact isDecimal_digit hd
  have hhead := @Numerals.print_head 10 (by norm_num) (by norm_num) octet
  unfold isOctet
  rw [hdecimal, Numerals.read_print (by norm_num) (by norm_num)]
  simp [Numerals.print_ne_nil, hhead]
  omega

theorem read_of_isOctet {text : JsString} (h : isOctet text = true) :
    Numerals.read 10 text < 256 := by
  simp only [isOctet, Bool.and_eq_true, decide_eq_true_eq] at h
  omega

/-- The text of four octets. -/
def dotted (octets : List ℕ) : JsString := join [0x2e] (octets.map (Numerals.print 10))

theorem split_dotted (hlength : octets.length = 4) :
    (dotted octets).split 0x2e = octets.map (Numerals.print 10) := by
  apply split_join
  · intro hnil
    rw [List.map_eq_nil_iff] at hnil
    simp [hnil] at hlength
  · intro part hpart
    obtain ⟨octet, -, rfl⟩ := List.mem_map.1 hpart
    exact separator_not_mem_print (by norm_num) (by norm_num) (Or.inl rfl)

theorem isIPv4_dotted (hlength : octets.length = 4) (h : ∀ octet ∈ octets, octet < 256) :
    isIPv4 (dotted octets) = true := by
  unfold isIPv4
  rw [split_dotted hlength]
  simp only [List.length_map, hlength, decide_true, Bool.true_and, List.all_map, List.all_eq_true]
  exact fun octet hoctet => isOctet_print (h octet hoctet)

theorem parseIpv4_dotted (hlength : octets.length = 4) (h : ∀ octet ∈ octets, octet < 256) :
    parseIpv4 (dotted octets) = some ⟨.ipv4, Numerals.pack 8 octets, dotted octets⟩ := by
  have hread : (octets.map (Numerals.print 10)).map (Numerals.read 10) = octets := by
    rw [List.map_map]
    apply List.map_id''
    intro octet
    exact Numerals.read_print (by norm_num) (by norm_num)
  unfold parseIpv4 isIP
  rw [if_pos (isIPv4_dotted hlength h), split_dotted hlength]
  dsimp only
  rw [hread]
  simp [hlength, dotted]

/-- What the dotted branch accepts is the text of its octets. -/
theorem parseIpv4_eq_some {text : JsString} {address : ParsedAddress}
    (h : parseIpv4 text = some address) :
    ∃ octets : List ℕ, octets.length = 4 ∧ (∀ octet ∈ octets, octet < 256) ∧
      address = ⟨.ipv4, Numerals.pack 8 octets, dotted octets⟩ := by
  unfold parseIpv4 at h
  dsimp only at h
  split_ifs at h with hip hlength
  cases h
  refine ⟨(text.split 0x2e).map (Numerals.read 10), by simpa using hlength, ?_, rfl⟩
  have hv4 : isIPv4 text = true := by
    unfold isIP at hip
    split_ifs at hip with hfour
    · exact hfour
    · simp at hip
    · simp at hip
  simp only [isIPv4, Bool.and_eq_true, List.all_eq_true] at hv4
  intro octet hoctet
  obtain ⟨part, hpart, rfl⟩ := List.mem_map.1 hoctet
  exact read_of_isOctet (hv4.2 part hpart)

/-- The octets of a number below `2 ^ 32`. -/
def octetsOf (value : ℕ) : List ℕ := [24, 16, 8, 0].map fun shift => (value >>> shift) &&& 0xff

theorem octetsOf_lt (value : ℕ) : ∀ octet ∈ octetsOf value, octet < 256 := by
  intro octet hoctet
  obtain ⟨shift, -, rfl⟩ := List.mem_map.1 hoctet
  exact Nat.and_lt_two_pow (n := 8) _ (by norm_num)

theorem pack_octetsOf {value : ℕ} (h : value < 2 ^ 32) :
    Numerals.pack 8 (octetsOf value) = value := by
  have hmask (n : ℕ) : n &&& 0xff = n % 256 := Nat.and_two_pow_sub_one_eq_mod n 8
  have hor (a b : ℕ) (hb : b < 256) : a <<< 8 ||| b = a * 256 + b := by
    rw [← Nat.shiftLeft_add_eq_or_of_lt hb, Nat.shiftLeft_eq]
  simp only [Numerals.pack, octetsOf, List.map_cons, List.map_nil, List.foldl_cons, List.foldl_nil,
    hmask, Nat.shiftRight_eq_div_pow]
  rw [hor _ _ (by omega), hor _ _ (by omega), hor _ _ (by omega), hor _ _ (by omega)]
  omega

theorem formatIpv4_eq (value : ℕ) : formatIpv4 value = dotted (octetsOf value) := by
  simp [formatIpv4, dotted, octetsOf]

/-- Without a colon only the dotted branch can accept a text. -/
theorem parseAddress_of_no_colon {text : JsString} (h : (0x3a : UInt16) ∉ text)
    (normalizeMapped : Bool) : parseAddress text normalizeMapped = parseIpv4 text := by
  have hsix : isIPv6 text = false := by
    unfold isIPv6
    rw [Separated.split_of_not_occurs text (Separated.not_occurs_of_not_mem text h)]
    dsimp only
    unfold segmentCount JsString.split
    rw [List.splitOn_eq_singleton h]
    dsimp only
    split_ifs
    · rfl
    · rfl
    · rfl
    · rfl
  unfold parseAddress parseIpv4 isIP
  rw [hsix]
  by_cases hfour : isIPv4 text = true
  · simp [hfour]
  · simp [hfour]

end Dotted

section Groups

variable {groups : List ℕ}

theorem isGroup_print {group : ℕ} (h : group < 65536) :
    isGroup (Numerals.print 16 group) = true := by
  have hlength := @Numerals.length_print_le 16 group 4 (by norm_num) (by norm_num) (by omega)
  have hall : (Numerals.print 16 group).all (fun unit =>
      (0x30 ≤ unit && unit ≤ 0x39) || (0x61 ≤ unit && unit ≤ 0x66)) = true := by
    have hdigits : hexDigits.all (fun unit =>
        (0x30 ≤ unit && unit ≤ 0x39) || (0x61 ≤ unit && unit ≤ 0x66)) = true := by
      decide
    rw [List.all_eq_true] at hdigits ⊢
    exact fun unit hunit => hdigits unit (mem_hexDigits (by norm_num) (by norm_num) hunit)
  unfold isGroup
  rw [hall]
  simp [Numerals.print_ne_nil, hlength]

theorem isSegment_of_isGroup {text : JsString} (h : isGroup text = true) :
    isSegment text = true := by
  simp only [isGroup, isSegment, Bool.and_eq_true, List.all_eq_true, Bool.or_eq_true] at h ⊢
  refine ⟨h.1, fun unit hunit => ?_⟩
  rcases h.2 unit hunit with hdecimal | hletter
  · exact Or.inl (Or.inl hdecimal)
  · exact Or.inr hletter

theorem read_of_isGroup {text : JsString} (h : isGroup text = true) :
    Numerals.read 16 text < 65536 := by
  simp only [isGroup, Bool.and_eq_true, List.all_eq_true, Bool.or_eq_true, decide_eq_true_eq] at h
  have hvalue : ∀ unit ∈ text, Numerals.digitValue unit < 16 := by
    intro unit hunit
    have hunit := h.2 unit hunit
    simp only [UInt16.le_iff_toNat_le] at hunit
    unfold Numerals.digitValue
    simp only [UInt16.le_iff_toNat_le]
    rcases hunit with ⟨hlow, hhigh⟩ | ⟨hlow, hhigh⟩
    · rw [if_pos hhigh]
      have hbound : (0x39 : UInt16).toNat = 0x39 := rfl
      omega
    · have hbound : (0x39 : UInt16).toNat = 0x39 := rfl
      have hbound' : (0x66 : UInt16).toNat = 0x66 := rfl
      have hbound'' : (0x61 : UInt16).toNat = 0x61 := rfl
      rw [if_neg (by omega)]
      omega
  calc Numerals.read 16 text < 16 ^ text.length := Numerals.read_lt hvalue
    _ ≤ 16 ^ 4 := Nat.pow_le_pow_right (by norm_num) h.1.2

theorem split_hexGroups (hne : groups ≠ []) :
    (hexGroups groups).split 0x3a = groups.map (Numerals.print 16) := by
  apply split_join
  · simpa using hne
  · intro part hpart
    obtain ⟨group, -, rfl⟩ := List.mem_map.1 hpart
    exact separator_not_mem_print (by norm_num) (by norm_num) (Or.inr rfl)

theorem hexGroups_cons_cons (group next : ℕ) (rest : List ℕ) :
    hexGroups (group :: next :: rest) =
      Numerals.print 16 group ++ 0x3a :: hexGroups (next :: rest) := by
  simp [hexGroups, join, List.intercalate]

/-- Groups are written between their first and their last numeral. -/
theorem hexGroups_ends (hne : groups ≠ []) :
    (∃ group rest, hexGroups groups = Numerals.print 16 group ++ rest) ∧
      ∃ init group, hexGroups groups = init ++ Numerals.print 16 group := by
  induction groups with
  | nil => exact absurd rfl hne
  | cons group rest ih =>
    cases rest with
    | nil => exact ⟨⟨group, [], by simp [hexGroups, join]⟩, [], group, by simp [hexGroups, join]⟩
    | cons next rest =>
      obtain ⟨-, init, last, hlast⟩ := ih (List.cons_ne_nil next rest)
      rw [hexGroups_cons_cons]
      refine ⟨⟨group, _, rfl⟩, Numerals.print 16 group ++ 0x3a :: init, last, ?_⟩
      rw [hlast, List.append_assoc, List.cons_append]

theorem hexGroups_ne_nil (hne : groups ≠ []) : hexGroups groups ≠ [] := by
  obtain ⟨⟨group, rest, heq⟩, -⟩ := hexGroups_ends hne
  rw [heq]
  exact List.append_ne_nil_of_left_ne_nil (Numerals.print_ne_nil 16 group) rest

theorem hexGroups_eq_nil : hexGroups groups = [] ↔ groups = [] := by
  constructor
  · intro hnil
    by_contra hne
    exact hexGroups_ne_nil hne hnil
  · rintro rfl
    rfl

theorem colon_not_mem_print (group : ℕ) : (0x3a : UInt16) ∉ Numerals.print 16 group :=
  separator_not_mem_print (by norm_num) (by norm_num) (Or.inr rfl)

theorem hexGroups_head : (hexGroups groups).head? ≠ some 0x3a := by
  by_cases hne : groups = []
  · simp [hne, hexGroups, join]
  · obtain ⟨⟨group, rest, heq⟩, -⟩ := hexGroups_ends hne
    rw [heq, List.head?_append_of_ne_nil _ (Numerals.print_ne_nil 16 group)]
    exact fun hhead => colon_not_mem_print group (List.mem_of_mem_head? hhead)

theorem hexGroups_getLast : (hexGroups groups).getLast? ≠ some 0x3a := by
  by_cases hne : groups = []
  · simp [hne, hexGroups, join]
  · obtain ⟨-, init, group, heq⟩ := hexGroups_ends hne
    rw [heq, List.getLast?_append_of_ne_nil _ (Numerals.print_ne_nil 16 group)]
    exact fun hlast => colon_not_mem_print group (List.mem_of_getLast? hlast)

theorem mem_hexGroups {unit : UInt16} (h : unit ∈ hexGroups groups) :
    unit = 0x3a ∨ unit ∈ hexDigits := by
  induction groups with
  | nil => simp [hexGroups, join] at h
  | cons group rest ih =>
    have hfirst {unit : UInt16} (hunit : unit ∈ Numerals.print 16 group) : unit ∈ hexDigits :=
      mem_hexDigits (by norm_num) (by norm_num) hunit
    cases rest with
    | nil => exact Or.inr (hfirst (by simpa [hexGroups, join] using h))
    | cons next rest =>
      rw [hexGroups_cons_cons, List.mem_append, List.mem_cons] at h
      rcases h with hunit | hcolon | hrest
      · exact Or.inr (hfirst hunit)
      · exact Or.inl hcolon
      · exact ih hrest

/-- Groups are written without a double colon. -/
theorem hexGroups_not_occurs (groups : List ℕ) :
    ¬Separated.Occurs 0x3a 0x3a (hexGroups groups) := by
  induction groups with
  | nil => exact id
  | cons group rest ih =>
    cases rest with
    | nil =>
      apply Separated.not_occurs_of_not_mem
      simpa [hexGroups, join] using colon_not_mem_print group
    | cons next rest =>
      rw [hexGroups_cons_cons, Separated.occurs_append_left_iff _ _ (colon_not_mem_print group)]
      have hhead := @hexGroups_head (next :: rest)
      cases hrest : hexGroups (next :: rest) with
      | nil => exact id
      | cons unit units =>
        rw [hrest] at ih hhead
        rintro (⟨-, hunit⟩ | hoccurs)
        · exact hhead (by rw [hunit]; rfl)
        · exact ih hoccurs

end Groups

section DoubleColon

variable {groups : List ℕ}

/-- A double colon between words without one, of which the first does not end in a colon. -/
theorem split_double {a : UInt16} (left right : List UInt16)
    (hleft : ¬Separated.Occurs a a left) (hlast : left.getLast? ≠ some a) :
    Separated.split a a (left ++ a :: a :: right) = left :: Separated.split a a right := by
  induction left using Separated.split.induct a a with
  | case1 => simp [Separated.split]
  | case2 x =>
    have hne : x ≠ a := by simpa using hlast
    simp [Separated.split, hne, Separated.pushFirst]
  | case3 x y rest hxy => exact absurd (Or.inl hxy) hleft
  | case4 x y rest hxy ih =>
    have hcons : x :: y :: rest ++ a :: a :: right = x :: y :: (rest ++ a :: a :: right) := rfl
    rw [List.cons_append] at ih
    rw [hcons, Separated.split, if_neg hxy, ih (fun hoccurs => hleft (Or.inr hoccurs))
      (by simpa using hlast)]
    rfl

/-- The two ways in which `formatIpv6` writes its groups. -/
inductive Written : List ℕ → JsString → Prop
  | whole (groups : List ℕ) : Written groups (hexGroups groups)
  | shortened (left right : List ℕ) (count : ℕ) (hcount : 2 ≤ count) :
    Written (left ++ List.replicate count 0 ++ right)
      (hexGroups left ++ 0x3a :: 0x3a :: hexGroups right)

/-- A run of zeros that the loop may report. -/
def IsRun (groups : List ℕ) (run : ℕ × ℕ) : Prop :=
  2 ≤ run.2 ∧ ∃ left right, left.length = run.1 ∧
    groups = left ++ List.replicate run.2 0 ++ right

/-- The zeros in front of a word, and what follows them. -/
theorem zeros_split (word : List ℕ) :
    word = List.replicate (word.takeWhile (· = 0)).length 0 ++
        word.drop (word.takeWhile (· = 0)).length ∧
      (word.drop (word.takeWhile (· = 0)).length).head? ≠ some 0 := by
  have hzeros : word.takeWhile (· = 0) = List.replicate (word.takeWhile (· = 0)).length 0 := by
    rw [List.eq_replicate_iff]
    exact ⟨rfl, fun group hgroup => by simpa using List.mem_takeWhile_imp hgroup⟩
  have hdrop : word.drop (word.takeWhile (· = 0)).length = word.dropWhile (· = 0) := by
    conv_lhs => rw [← List.takeWhile_append_dropWhile (p := (· = 0)) (l := word)]
    exact List.drop_left' (by simp)
  rw [hdrop, ← hzeros, List.takeWhile_append_dropWhile]
  refine ⟨rfl, fun hhead => ?_⟩
  have hfirst := List.head?_dropWhile_not (· = 0) word
  rw [hhead] at hfirst
  simp at hfirst

theorem longestRun_isRun {rounds start : ℕ} {best : Option (ℕ × ℕ)} {all before rest : List ℕ}
    (hall : all = before ++ rest) (hstart : before.length = start)
    (hbest : ∀ run ∈ best, IsRun all run) : ∀ run ∈ longestRun rounds start best rest,
      IsRun all run := by
  induction rounds generalizing start best before rest with
  | zero => exact hbest
  | succ rounds ih =>
    cases rest with
    | nil => exact hbest
    | cons group rest =>
      rw [longestRun]
      split_ifs with hgroup
      · have hnext : all = (before ++ [group]) ++ rest := by simp [hall]
        apply ih hnext
        · simp [hstart]
        · exact hbest
      · obtain ⟨hsplit, -⟩ := zeros_split (group :: rest)
        dsimp only
        generalize ((group :: rest).takeWhile (· = 0)).length = length at *
        rw [hsplit, ← List.append_assoc] at hall
        apply ih hall
        · rw [List.length_append, List.length_replicate, hstart]
        · intro run hbetter
          split_ifs at hbetter with hlonger
          · cases hbetter
            exact ⟨hlonger.2, before, _, hstart, hall⟩
          · exact hbest run hbetter

/-- The four cases of the end of `formatIpv6` write the same. -/
theorem formatIpv6_of_run {start count : ℕ}
    (h : longestRun groups.length 0 none groups = some (start, count)) :
    formatIpv6 groups = hexGroups (groups.take start) ++ 0x3a :: 0x3a ::
      hexGroups (groups.drop (start + count)) := by
  unfold formatIpv6
  rw [h]
  dsimp only
  split_ifs with hboth hnone hnothing
  · rw [hboth.1, hboth.2]
    rfl
  · rw [hnone]
    rfl
  · rw [hnothing]
  · rw [List.append_assoc]
    rfl

/-- Both forms of the text spell the groups. -/
theorem formatIpv6_written (groups : List ℕ) : Written groups (formatIpv6 groups) := by
  have hrun := @longestRun_isRun groups.length 0 none groups [] groups rfl rfl (by simp)
  cases hbest : longestRun groups.length 0 none groups with
  | none =>
    unfold formatIpv6
    rw [hbest]
    exact .whole groups
  | some run =>
    obtain ⟨bestStart, bestLength⟩ := run
    obtain ⟨hcount, left, right, hleft, hgroups⟩ := hrun _ hbest
    dsimp only at hcount hleft hgroups
    have htake : groups.take bestStart = left := by
      rw [hgroups, List.append_assoc, ← hleft, List.take_left]
    have hdrop : groups.drop (bestStart + bestLength) = right := by
      rw [hgroups]
      apply List.drop_left'
      rw [List.length_append, List.length_replicate, hleft]
    rw [formatIpv6_of_run hbest, htake, hdrop]
    have hwritten := Written.shortened left right bestLength hcount
    rwa [← hgroups] at hwritten

/-- `count` groups from `start` on are zero. -/
def ZeroRun (groups : List ℕ) (start count : ℕ) : Prop := ∀ i < count, groups[start + i]? = some 0

/-- The loop has seen every run that begins before `start`, and none of them goes on there. -/
structure Seen (groups : List ℕ) (start : ℕ) (best : Option (ℕ × ℕ)) : Prop where
  ended : ∀ first count, first < start → ZeroRun groups first count → first + count ≤ start
  longest : ∀ first count, first < start → 2 ≤ count → ZeroRun groups first count →
    ∃ run ∈ best, count ≤ run.2 ∧ (count = run.2 → run.1 ≤ first)
  before : ∀ run ∈ best, run.1 ≤ start

theorem Seen.nonzero {start : ℕ} {best : Option (ℕ × ℕ)} (h : Seen groups start best)
    (hgroup : groups[start]? ≠ some 0) : Seen groups (start + 1) best where
  ended first count hfirst hrun := by
    by_cases hbefore : first < start
    · have hend := h.ended first count hbefore hrun
      omega
    · have hsame : first = start := by omega
      subst hsame
      cases count with
      | zero => omega
      | succ count => exact absurd (hrun 0 (Nat.succ_pos count)) hgroup
  longest first count hfirst hcount hrun := by
    by_cases hbefore : first < start
    · exact h.longest first count hbefore hcount hrun
    · have hsame : first = start := by omega
      subst hsame
      exact absurd (hrun 0 (by omega)) hgroup
  before run hrun := (h.before run hrun).trans (Nat.le_succ start)

/-- A run that ends before `start + length` is no longer than the one from `start` on. -/
theorem Seen.zeros {start length : ℕ} {best : Option (ℕ × ℕ)} (h : Seen groups start best)
    (hstop : groups[start + length]? ≠ some 0) :
    Seen groups (start + length)
      (if length > (best.map Prod.snd).getD 0 ∧ length ≥ 2 then some (start, length)
        else best) := by
  have hended : ∀ first count, first < start + length → ZeroRun groups first count →
      first + count ≤ start + length := by
    intro first count hfirst hrun
    by_contra hlonger
    have hthere := hrun (start + length - first) (by omega)
    rw [Nat.add_sub_cancel' hfirst.le] at hthere
    exact hstop hthere
  refine ⟨hended, fun first count hfirst hcount hrun => ?_, fun run hrun => ?_⟩
  swap
  · split_ifs at hrun
    · cases hrun
      exact Nat.le_add_right start length
    · exact (h.before run hrun).trans (Nat.le_add_right start length)
  have hend := hended first count hfirst hrun
  by_cases hbefore : first < start
  · obtain ⟨run, hrunbest, hle, hfirstbest⟩ := h.longest first count hbefore hcount hrun
    cases hrunbest
    split_ifs with hlonger
    · refine ⟨(start, length), rfl, ?_, ?_⟩
      · exact hle.trans hlonger.1.le
      · intro hsame
        have hless : run.2 < length := hlonger.1
        dsimp only at hsame
        omega
    · exact ⟨run, rfl, hle, hfirstbest⟩
  · split_ifs with hlonger
    · refine ⟨(start, length), rfl, ?_, ?_⟩
      · dsimp only
        omega
      · dsimp only
        omega
    · cases best with
      | none =>
        simp only [Option.map_none, Option.getD_none] at hlonger
        omega
      | some run =>
        simp only [Option.map_some, Option.getD_some] at hlonger
        have hbest := h.before run rfl
        exact ⟨run, rfl, by omega, fun _ => by omega⟩

theorem longestRun_seen {rounds start : ℕ} {best : Option (ℕ × ℕ)} {before rest : List ℕ}
    (hgroups : groups = before ++ rest) (hstart : before.length = start)
    (hrounds : rest.length ≤ rounds) (h : Seen groups start best) :
    Seen groups groups.length (longestRun rounds start best rest) := by
  induction rounds generalizing start best before rest with
  | zero =>
    have hrest : rest = [] := by simpa using hrounds
    rw [hrest, List.append_nil] at hgroups
    rw [← hgroups] at hstart
    rw [hstart]
    exact h
  | succ rounds ih =>
    cases rest with
    | nil =>
      rw [List.append_nil] at hgroups
      rw [← hgroups] at hstart
      rw [hstart]
      exact h
    | cons group rest =>
      have hhere : groups[start]? = some group := by
        rw [hgroups, ← hstart, List.getElem?_append_right le_rfl, Nat.sub_self]
        rfl
      rw [longestRun]
      by_cases hgroup : group ≠ 0
      · rw [if_pos hgroup]
        have hnext : groups = (before ++ [group]) ++ rest := by simp [hgroups]
        apply ih hnext
        · simp [hstart]
        · simpa using hrounds
        · apply h.nonzero
          rw [hhere]
          simpa using hgroup
      · have hzero : group = 0 := by simpa using hgroup
        have hsome : 1 ≤ ((group :: rest).takeWhile (· = 0)).length := by
          simp [hzero]
        obtain ⟨hsplit, hstop⟩ := zeros_split (group :: rest)
        rw [if_neg hgroup]
        dsimp only
        generalize ((group :: rest).takeWhile (· = 0)).length = length at *
        rw [hsplit, ← List.append_assoc] at hgroups
        have hlength : (before ++ List.replicate length 0).length = start + length := by
          rw [List.length_append, List.length_replicate, hstart]
        apply ih hgroups hlength
        · rw [List.length_drop]
          rw [List.length_cons] at hrounds ⊢
          omega
        · apply h.zeros
          rw [hgroups, ← hlength, List.getElem?_append_right le_rfl, Nat.sub_self,
            ← List.head?_eq_getElem?]
          exact hstop

/-- `formatIpv6` writes the first of the longest runs of zeros as a double colon, if there are two
zeros in a row anywhere. -/
theorem formatIpv6_first_longest (groups : List ℕ) :
    (∀ start, ¬ZeroRun groups start 2) ∧ formatIpv6 groups = hexGroups groups ∨
      ∃ start count, 2 ≤ count ∧ ZeroRun groups start count ∧
        (∀ other length, ZeroRun groups other length →
          length ≤ count ∧ (length = count → start ≤ other)) ∧
        formatIpv6 groups = hexGroups (groups.take start) ++ 0x3a :: 0x3a ::
          hexGroups (groups.drop (start + count)) := by
  have hrun := @longestRun_isRun groups.length 0 none groups [] groups rfl rfl (by simp)
  have hseen := @longestRun_seen groups groups.length 0 none [] groups rfl rfl le_rfl
    ⟨by omega, by omega, by simp⟩
  have hinside {first length : ℕ} (hlength : 2 ≤ length) (hzeros : ZeroRun groups first length) :
      first < groups.length := by
    have hfirst := hzeros 0 (by omega)
    rw [Nat.add_zero, List.getElem?_eq_some_iff] at hfirst
    exact hfirst.1
  cases hbest : longestRun groups.length 0 none groups with
  | none =>
    refine Or.inl ⟨fun start hzeros => ?_, ?_⟩
    · obtain ⟨run, hnone, -⟩ := hseen.longest start 2 (hinside le_rfl hzeros) le_rfl hzeros
      rw [hbest] at hnone
      cases hnone
    · unfold formatIpv6
      rw [hbest]
  | some run =>
    obtain ⟨start, count⟩ := run
    obtain ⟨hcount, left, right, hleft, hgroups⟩ := hrun _ hbest
    refine Or.inr ⟨start, count, hcount, fun i hi => ?_, fun other length hzeros => ?_,
      formatIpv6_of_run hbest⟩
    · rw [hgroups, List.append_assoc, List.getElem?_append_right (by omega), hleft,
        List.getElem?_append_left (by simp; omega), List.getElem?_replicate, if_pos (by omega)]
    · by_cases hshort : length < 2
      · dsimp only at hcount
        omega
      · obtain ⟨run, hsome, hle, hfirst⟩ :=
          hseen.longest other length (hinside (by omega) hzeros) (by omega) hzeros
        rw [hbest] at hsome
        cases hsome
        exact ⟨hle, hfirst⟩

end DoubleColon

section RoundTrip

variable {groups : List ℕ} {text : JsString}

theorem written_units (h : Written groups text) {unit : UInt16} (hunit : unit ∈ text) :
    unit = 0x3a ∨ unit ∈ hexDigits := by
  cases h with
  | whole => exact mem_hexGroups hunit
  | shortened left right count hcount =>
    simp only [List.mem_append, List.mem_cons] at hunit
    rcases hunit with hleft | hcolon | hcolon | hright
    · exact mem_hexGroups hleft
    · exact Or.inl hcolon
    · exact Or.inl hcolon
    · exact mem_hexGroups hright

theorem written_no_dot (h : Written groups text) : (0x2e : UInt16) ∉ text := by
  intro hdot
  rcases written_units h hdot with hcolon | hdigit
  · revert hcolon
    decide
  · revert hdigit
    decide

theorem mem_of_mem_tail {unit : UInt16} (h : unit ∈ (atFinalColon text).2) : unit ∈ text := by
  unfold atFinalColon at h
  split_ifs at h
  · exact List.mem_reverse.1 ((List.takeWhile_prefix _).subset (List.mem_reverse.1 h))
  · exact h

theorem written_lower (h : Written groups text) : text.toLowerCase = text := by
  have hdigits : hexDigits.all (fun unit => lowerUnit unit = unit) = true := by decide
  simp only [List.all_eq_true, decide_eq_true_eq] at hdigits
  have hunits : ∀ unit ∈ text, lowerUnit unit = unit := by
    intro unit hunit
    rcases written_units h hunit with rfl | hdigit
    · decide
    · exact hdigits unit hdigit
  calc text.toLowerCase = text.map id := List.map_congr_left hunits
    _ = text := List.map_id text

theorem groupTexts_hexGroups (groups : List ℕ) :
    groupTexts (hexGroups groups) = groups.map (Numerals.print 16) := by
  unfold groupTexts
  split_ifs with hnil
  · rw [hexGroups_eq_nil.1 hnil]
    rfl
  · exact split_hexGroups fun hgroups => hnil (hexGroups_eq_nil.2 hgroups)

theorem segmentCount_hexGroups (dotted : Bool) (h : ∀ group ∈ groups, group < 65536) :
    segmentCount dotted (hexGroups groups) = some groups.length := by
  unfold segmentCount
  split_ifs with hnil
  · rw [hexGroups_eq_nil.1 hnil]
    rfl
  · have hall : (groups.map (Numerals.print 16)).all isSegment = true := by
      rw [List.all_map, List.all_eq_true]
      exact fun group hgroup => isSegment_of_isGroup (isGroup_print (h group hgroup))
    rw [split_hexGroups fun hgroups => hnil (hexGroups_eq_nil.2 hgroups)]
    dsimp only
    rw [if_pos hall, List.length_map]

theorem split_whole (groups : List ℕ) :
    Separated.split 0x3a 0x3a (hexGroups groups) = [hexGroups groups] :=
  Separated.split_of_not_occurs _ (hexGroups_not_occurs groups)

theorem split_shortened (left right : List ℕ) :
    Separated.split 0x3a 0x3a (hexGroups left ++ 0x3a :: 0x3a :: hexGroups right) =
      [hexGroups left, hexGroups right] := by
  rw [split_double _ _ (hexGroups_not_occurs left) hexGroups_getLast, split_whole]

theorem isIPv6_written (h : Written groups text) (hlength : groups.length = 8)
    (hgroups : ∀ group ∈ groups, group < 65536) : isIPv6 text = true := by
  unfold isIPv6
  cases h with
  | whole =>
    rw [split_whole]
    dsimp only
    rw [segmentCount_hexGroups true hgroups, hlength]
    rfl
  | shortened left right count hcount =>
    simp only [List.forall_mem_append] at hgroups
    simp only [List.length_append, List.length_replicate] at hlength
    rw [split_shortened]
    dsimp only
    rw [segmentCount_hexGroups false hgroups.1.1, segmentCount_hexGroups true hgroups.2]
    simp
    omega

theorem explicit_isGroup (h : ∀ group ∈ groups, group < 65536) :
    (groups.map (Numerals.print 16)).any (fun group => !isGroup group) = false := by
  rw [List.any_map, List.any_eq_false]
  intro group hgroup
  simp [isGroup_print (h group hgroup)]

theorem read_groups (groups : List ℕ) :
    (groups.map (Numerals.print 16)).map (Numerals.read 16) = groups := by
  rw [List.map_map]
  apply List.map_id''
  intro group
  exact Numerals.read_print (by norm_num) (by norm_num)

theorem expandGroups_written (h : Written groups text) (hlength : groups.length = 8)
    (hgroups : ∀ group ∈ groups, group < 65536) : expandGroups text = some groups := by
  unfold expandGroups
  cases h with
  | whole =>
    rw [split_whole]
    have hright : groupTexts [] = [] := rfl
    simp only [List.getElem?_cons_zero, Option.getD_some, groupTexts_hexGroups, hright,
      List.append_nil, explicit_isGroup hgroups, List.length_map, read_groups,
      List.getElem?_cons_succ, List.getElem?_nil, Option.getD_none]
    simp [hlength]
  | shortened left right count hcount =>
    simp only [List.forall_mem_append] at hgroups
    simp only [List.length_append, List.length_replicate] at hlength
    rw [split_shortened]
    have hexplicit : ∀ group ∈ left ++ right, group < 65536 := by
      simp only [List.forall_mem_append]
      exact ⟨hgroups.1.1, hgroups.2⟩
    simp only [List.getElem?_cons_zero, List.getElem?_cons_succ, Option.getD_some,
      groupTexts_hexGroups, ← List.map_append, explicit_isGroup hexplicit, List.length_map,
      List.length_append, read_groups]
    have hmissing : 8 - (left.length + right.length) = count := by omega
    rw [hmissing]
    simp
    omega

/-- The text that `formatIpv6` writes is read as the same groups. -/
theorem parseIpv6Groups_format (hlength : groups.length = 8)
    (hgroups : ∀ group ∈ groups, group < 65536) :
    isIP (formatIpv6 groups) = 6 ∧ parseIpv6Groups (formatIpv6 groups) = some groups := by
  have hwritten := formatIpv6_written groups
  constructor
  · have hfour : isIPv4 (formatIpv6 groups) = false := by
      unfold isIPv4 JsString.split
      rw [List.splitOn_eq_singleton (written_no_dot hwritten)]
      rfl
    unfold isIP
    rw [hfour, isIPv6_written hwritten hlength hgroups]
    rfl
  · have hdots : withoutDots (formatIpv6 groups) = some (formatIpv6 groups) := by
      unfold withoutDots
      dsimp only
      rw [if_neg fun hdot => written_no_dot hwritten (mem_of_mem_tail hdot)]
    unfold parseIpv6Groups
    rw [written_lower hwritten, hdots]
    exact expandGroups_written hwritten hlength hgroups

theorem expandGroups_eq_some (h : expandGroups text = some groups) :
    groups.length = 8 ∧ ∀ group ∈ groups, group < 65536 := by
  unfold expandGroups at h
  dsimp only at h
  have hone := Separated.one_le_split_length 0x3a 0x3a text
  generalize groupTexts ((Separated.split 0x3a 0x3a text)[0]?.getD []) = left at h
  generalize groupTexts ((Separated.split 0x3a 0x3a text)[1]?.getD []) = right at h
  split_ifs at h with htwo hgroups hcount
  cases h
  simp only [List.any_append, Bool.not_eq_true, Bool.or_eq_false_iff, List.any_eq_false,
    Bool.not_eq_true', Bool.not_eq_false] at hgroups
  have hread {texts : List JsString} (htexts : ∀ group ∈ texts, isGroup group = true) :
      ∀ group ∈ texts.map (Numerals.read 16), group < 65536 := by
    intro group hgroup
    obtain ⟨part, hpart, rfl⟩ := List.mem_map.1 hgroup
    exact read_of_isGroup (htexts part hpart)
  constructor
  · simp only [List.length_append, List.length_map, List.length_replicate] at hcount ⊢
    omega
  · simp only [List.forall_mem_append]
    refine ⟨⟨hread hgroups.1, fun group hgroup => ?_⟩, hread hgroups.2⟩
    rw [List.eq_of_mem_replicate hgroup]
    norm_num

/-- What `parseAddress` returns. -/
inductive Form (normalizeMapped : Bool) : ParsedAddress → Prop
  | ipv4 (octets : List ℕ) (hlength : octets.length = 4) (hoctets : ∀ octet ∈ octets, octet < 256) :
    Form normalizeMapped ⟨.ipv4, Numerals.pack 8 octets, dotted octets⟩
  | ipv6 (groups : List ℕ) (hlength : groups.length = 8)
    (hgroups : ∀ group ∈ groups, group < 65536)
    (hmapped : (normalizeMapped && isMappedIpv4 (Numerals.pack 16 groups)) = false) :
    Form normalizeMapped ⟨.ipv6, Numerals.pack 16 groups, formatIpv6 groups⟩

theorem parseAddress_form {normalizeMapped : Bool} {address : ParsedAddress}
    (h : parseAddress text normalizeMapped = some address) : Form normalizeMapped address := by
  unfold parseAddress at h
  split at h
  · obtain ⟨octets, hlength, hoctets, rfl⟩ := parseIpv4_eq_some h
    exact .ipv4 octets hlength hoctets
  · obtain ⟨groups, hgroups, h⟩ := Option.bind_eq_some_iff.1 h
    obtain ⟨normalized, -, hexpand⟩ := Option.bind_eq_some_iff.1 hgroups
    obtain ⟨hlength, hlt⟩ := expandGroups_eq_some hexpand
    dsimp only at h
    split_ifs at h with hmapped
    · cases h
      have hvalue : Numerals.pack 16 groups &&& 0xffffffff < 2 ^ 32 :=
        Nat.and_lt_two_pow _ (by norm_num)
      rw [formatIpv4_eq]
      have hform := @Form.ipv4 normalizeMapped (octetsOf (Numerals.pack 16 groups &&& 0xffffffff))
        rfl (octetsOf_lt _)
      rwa [pack_octetsOf hvalue] at hform
    · cases h
      exact .ipv6 groups hlength hlt (by simpa using hmapped)
  · cases h

theorem Form.parse {normalizeMapped : Bool} {address : ParsedAddress}
    (h : Form normalizeMapped address) :
    parseAddress address.canonical normalizeMapped = some address := by
  unfold parseAddress
  cases h with
  | ipv4 octets hlength hoctets =>
    have hip : isIP (dotted octets) = 4 := by
      unfold isIP
      rw [isIPv4_dotted hlength hoctets]
      rfl
    dsimp only
    rw [hip]
    exact parseIpv4_dotted hlength hoctets
  | ipv6 groups hlength hgroups hmapped =>
    obtain ⟨hip, hparse⟩ := parseIpv6Groups_format hlength hgroups
    dsimp only
    rw [hip, hparse]
    dsimp only [Option.bind_eq_bind, Option.bind_some]
    rw [hmapped]
    rfl

/-- The canonical text of an address is read as that address again. -/
theorem parseAddress_canonical {normalizeMapped : Bool} {address : ParsedAddress}
    (h : parseAddress text normalizeMapped = some address) :
    parseAddress address.canonical normalizeMapped = some address :=
  (parseAddress_form h).parse

theorem parseAddress_canonical_shortened :
    ∃ address, parseAddress (ofAscii "2001:DB8:0:0:1:0:0:1") true = some address ∧
      address.canonical = ofAscii "2001:db8::1:0:0:1" ∧
      parseAddress (ofAscii "2001:db8::1:0:0:1") true = some address := by
  have hobserved : (parseAddress (ofAscii "2001:DB8:0:0:1:0:0:1") true).map
      ParsedAddress.canonical = some (ofAscii "2001:db8::1:0:0:1") := by
    decide +kernel
  obtain ⟨address, hparse, hcanonical⟩ := Option.map_eq_some_iff.mp hobserved
  have hagain := parseAddress_canonical hparse
  rw [hcanonical] at hagain
  exact ⟨address, hparse, hcanonical, hagain⟩

/-- Two texts have the same canonical text exactly if they name the same address. -/
theorem canonical_eq_iff {other : JsString} {normalizeMapped : Bool}
    {address address' : ParsedAddress} (h : parseAddress text normalizeMapped = some address)
    (h' : parseAddress other normalizeMapped = some address') :
    address.canonical = address'.canonical ↔
      address.family = address'.family ∧ address.value = address'.value := by
  constructor
  · intro hcanonical
    have hparse := (parseAddress_form h).parse
    rw [hcanonical, (parseAddress_form h').parse] at hparse
    cases hparse
    exact ⟨rfl, rfl⟩
  · rintro ⟨hfamily, hvalue⟩
    cases parseAddress_form h with
    | ipv4 octets hlength hoctets =>
      cases parseAddress_form h' with
      | ipv4 octets' hlength' hoctets' =>
        rw [Numerals.pack_inj (hlength.trans hlength'.symm) hoctets hoctets' hvalue]
      | ipv6 => cases hfamily
    | ipv6 groups hlength hgroups hmapped =>
      cases parseAddress_form h' with
      | ipv4 => cases hfamily
      | ipv6 groups' hlength' hgroups' hmapped' =>
        rw [Numerals.pack_inj (hlength.trans hlength'.symm) hgroups hgroups' hvalue]

theorem canonical_eq_iff_mapped :
    ∃ address address', parseAddress (ofAscii "::FFFF:10.0.0.1") true = some address ∧
      parseAddress (ofAscii "10.0.0.1") true = some address' ∧
      address.canonical = address'.canonical := by
  have hobserved : (parseAddress (ofAscii "::FFFF:10.0.0.1") true).bind (fun address =>
      (parseAddress (ofAscii "10.0.0.1") true).map fun address' =>
        decide (address.family = address'.family ∧ address.value = address'.value)) =
      some true := by
    decide +kernel
  obtain ⟨address, hparse, hobserved⟩ := Option.bind_eq_some_iff.mp hobserved
  obtain ⟨address', hparse', hsame⟩ := Option.map_eq_some_iff.mp hobserved
  exact ⟨address, address', hparse, hparse',
    (canonical_eq_iff hparse hparse').2 (of_decide_eq_true hsame)⟩

end RoundTrip

end Lotur.Gateway.ClientAddress
