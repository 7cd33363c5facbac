import Mathlib.Data.List.Sort
import Mathlib.Data.List.Nodup
import Mathlib.Tactic

/-! Pages of a growing collection, newest first, each page read on from the key of the oldest value
of the page before. -/
namespace KeysetPages

variable {α κ : Type*}

/-- The sign of the comparison is a strict total order on the keys. -/
structure TotalOn (compare : κ → κ → ℤ) (keys : κ → Prop) : Prop where
  refl : ∀ a, keys a → compare a a = 0
  eq_of : ∀ a b, keys a → keys b → compare a b = 0 → a = b
  swap : ∀ a b, keys a → keys b → (compare a b < 0 ↔ 0 < compare b a)
  trans : ∀ a b c, keys a → keys b → keys c → compare a b < 0 → compare b c < 0 → compare a c < 0

section Order
variable {compare : κ → κ → ℤ} {keys : κ → Prop} (h : TotalOn compare keys)
include h

theorem TotalOn.mono {fewer : κ → Prop} (hfewer : ∀ a, fewer a → keys a) : TotalOn compare fewer where
  refl a ha := h.refl a (hfewer a ha)
  eq_of a b ha hb := h.eq_of a b (hfewer a ha) (hfewer b hb)
  swap a b ha hb := h.swap a b (hfewer a ha) (hfewer b hb)
  trans a b c ha hb hc := h.trans a b c (hfewer a ha) (hfewer b hb) (hfewer c hc)

theorem TotalOn.irrefl {a : κ} (ha : keys a) : ¬ compare a a < 0 := by
  rw [h.refl a ha]
  exact lt_irrefl 0

theorem TotalOn.trichotomy {a b : κ} (ha : keys a) (hb : keys b) :
    compare a b < 0 ∨ a = b ∨ compare b a < 0 := by
  rcases lt_trichotomy (compare a b) 0 with hlt | heq | hgt
  · exact .inl hlt
  · exact .inr (.inl (h.eq_of a b ha hb heq))
  · exact .inr (.inr ((h.swap b a hb ha).2 hgt))

theorem TotalOn.le_iff {a b : κ} (ha : keys a) (hb : keys b) :
    compare a b ≤ 0 ↔ compare a b < 0 ∨ a = b := by
  constructor
  · intro hle
    rcases hle.lt_or_eq with hlt | heq
    · exact .inl hlt
    · exact .inr (h.eq_of a b ha hb heq)
  · rintro (hlt | rfl)
    · exact hlt.le
    · exact (h.refl a ha).le

theorem TotalOn.reverse : TotalOn (fun a b => compare b a) keys where
  refl := h.refl
  eq_of a b ha hb heq := (h.eq_of b a hb ha heq).symm
  swap a b ha hb := h.swap b a hb ha
  trans a b c ha hb hc hab hbc := h.trans c b a hc hb ha hbc hab

end Order

/-- The comparison of keys that are told apart by where they lie in a linear order. -/
def compareBy {ι : Type*} [LinearOrder ι] (place : κ → ι) (a b : κ) : ℤ :=
  if place a < place b then -1 else if place b < place a then 1 else 0

theorem compareBy_neg {ι : Type*} [LinearOrder ι] {place : κ → ι} {a b : κ} :
    compareBy place a b < 0 ↔ place a < place b := by
  unfold compareBy
  split_ifs with hlt hgt <;> simp [hlt]

theorem totalOn_compareBy {ι : Type*} [LinearOrder ι] {place : κ → ι}
    (hplace : Function.Injective place) (keys : κ → Prop) : TotalOn (compareBy place) keys where
  refl a _ := by
    unfold compareBy
    rw [if_neg (lt_irrefl (place a)), if_neg (lt_irrefl (place a))]
  eq_of a b _ _ heq := by
    unfold compareBy at heq
    split_ifs at heq with hlt hgt
    · exact absurd heq (by decide)
    · exact hplace (le_antisymm (not_lt.1 hgt) (not_lt.1 hlt))
  swap a b _ _ := by
    rw [compareBy_neg]
    unfold compareBy
    split_ifs with hgt hlt
    · simp [hgt.not_gt]
    · simp [hlt]
    · simp [hlt]
  trans a b c _ _ _ hab hbc := by
    rw [compareBy_neg] at *
    exact hab.trans hbc

section Pages
variable (compare : κ → κ → ℤ) (key : α → κ)

/-- The values in the order of a comparison of their keys. -/
def sorted (compare : κ → κ → ℤ) (values : List α) : List α :=
  values.mergeSort fun left right => decide (compare (key left) (key right) ≤ 0)

def isBefore (before : Option κ) (value : α) : Bool :=
  before.all fun bound => decide (compare (key value) bound < 0)

/-- What is still to be read, newest first. -/
def remaining (values : List α) (before : Option κ) : List α :=
  sorted key (fun left right => compare right left) (values.filter (isBefore compare key before))

structure Page (α κ : Type*) where
  items : List α
  next : Option κ

def page (values : List α) (before : Option κ) (limit : ℕ) : Page α κ :=
  let descending := remaining compare key values before
  let selected := descending.take limit
  { items := selected.reverse
    next := if limit < descending.length then selected.getLast?.map key else none }

/-- Page after page, each read from the collection as it is then; `none` when the reads end before
the last page. -/
def walk (limit : ℕ) : List (List α) → Option κ → Option (List (List α))
  | [], _ => none
  | values :: later, before =>
    let read := page compare key values before limit
    match read.next with
    | none => some [read.items]
    | some next => (walk limit later (some next)).map (read.items :: ·)

end Pages

section Sorted
variable {compare : κ → κ → ℤ} {key : α → κ} {values : List α}

theorem sorted_perm (values : List α) : (sorted key compare values).Perm values :=
  List.mergeSort_perm values _

theorem mem_sorted {value : α} : value ∈ sorted key compare values ↔ value ∈ values :=
  (sorted_perm values).mem_iff

/-- Values with keys of their own are sorted strictly. -/
theorem pairwise_sorted (h : TotalOn compare fun k => ∃ value ∈ values, key value = k)
    (hnodup : (values.map key).Nodup) :
    (sorted key compare values).Pairwise fun left right => compare (key left) (key right) < 0 := by
  have hkey : ∀ value : {value // value ∈ values}, ∃ other ∈ values, key other = key value.1 :=
    fun value => ⟨value.1, value.2, rfl⟩
  have hsort : sorted key compare values = (values.attach.mergeSort fun left right =>
      decide (compare (key left.1) (key right.1) ≤ 0)).map Subtype.val := by
    rw [List.map_mergeSort (s := fun left right => decide (compare (key left) (key right) ≤ 0)),
      List.attach_map_subtype_val]
    · rfl
    · exact fun _ _ _ _ => rfl
  have htrans : ∀ a b c : {value // value ∈ values}, decide (compare (key a.1) (key b.1) ≤ 0) →
      decide (compare (key b.1) (key c.1) ≤ 0) → decide (compare (key a.1) (key c.1) ≤ 0) := by
    intro a b c hab hbc
    rw [decide_eq_true_eq, h.le_iff (hkey _) (hkey _)] at *
    rcases hab with hab | hab
    · rcases hbc with hbc | hbc
      · exact .inl (h.trans _ _ _ (hkey a) (hkey b) (hkey c) hab hbc)
      · exact .inl (hbc ▸ hab)
    · rw [hab]
      exact hbc
  have htotal : ∀ a b : {value // value ∈ values}, (decide (compare (key a.1) (key b.1) ≤ 0) ||
      decide (compare (key b.1) (key a.1) ≤ 0)) = true := by
    intro a b
    rw [Bool.or_eq_true, decide_eq_true_eq, decide_eq_true_eq, h.le_iff (hkey a) (hkey b),
      h.le_iff (hkey b) (hkey a)]
    rcases h.trichotomy (hkey a) (hkey b) with hlt | heq | hgt
    · exact .inl (.inl hlt)
    · exact .inl (.inr heq)
    · exact .inr (.inl hgt)
  have hle : (sorted key compare values).Pairwise fun left right =>
      compare (key left) (key right) ≤ 0 := by
    rw [hsort, List.pairwise_map]
    refine (List.pairwise_mergeSort htrans htotal values.attach).imp ?_
    intro a b hab
    exact of_decide_eq_true hab
  have hne : (sorted key compare values).Pairwise fun left right => key left ≠ key right :=
    List.pairwise_map.1 (((sorted_perm values).map key).nodup_iff.2 hnodup)
  refine (hle.and hne).imp_of_mem ?_
  rintro a b ha hb ⟨hab, hdistinct⟩
  exact ((h.le_iff ⟨a, mem_sorted.1 ha, rfl⟩ ⟨b, mem_sorted.1 hb, rfl⟩).1 hab).resolve_right hdistinct

end Sorted

section Reading
variable {compare : κ → κ → ℤ} {key : α → κ} {keys : κ → Prop} {values : List α}
  {before : Option κ} {limit : ℕ}

theorem mem_remaining {value : α} : value ∈ remaining compare key values before ↔
    value ∈ values ∧ isBefore compare key before value = true := by
  unfold remaining
  rw [mem_sorted, List.mem_filter]

theorem pairwise_remaining (h : TotalOn compare keys) (hkeys : ∀ value ∈ values, keys (key value))
    (hnodup : (values.map key).Nodup) : (remaining compare key values before).Pairwise
      fun newer older => compare (key older) (key newer) < 0 := by
  refine pairwise_sorted (h.reverse.mono fun k => ?_) (hnodup.sublist (List.filter_sublist.map key))
  rintro ⟨value, hvalue, rfl⟩
  exact hkeys value (List.mem_of_mem_filter hvalue)

/-- A strictly ordered list is known by its members. -/
theorem eq_of_ordered (h : TotalOn compare keys) {left right : List α}
    (hkeys : ∀ value ∈ left, keys (key value))
    (hleft : left.Pairwise fun a b => compare (key a) (key b) < 0)
    (hright : right.Pairwise fun a b => compare (key a) (key b) < 0)
    (hmem : ∀ value, value ∈ left ↔ value ∈ right) : left = right := by
  have hne : ∀ {a b}, a ∈ left → compare (key a) (key b) < 0 → a ≠ b := by
    rintro a b ha hab rfl
    exact h.irrefl (hkeys a ha) hab
  have hnodup : left.Nodup := hleft.imp_of_mem fun ha _ => hne ha
  have hnodup' : right.Nodup := hright.imp_of_mem fun ha _ => hne ((hmem _).2 ha)
  have hperm : left.Perm right := (List.perm_ext_iff_of_nodup hnodup hnodup').2 hmem
  refine hperm.eq_of_pairwise (fun a b ha hb hab hba => ?_) hleft hright
  have ha' := hkeys a ha
  exact absurd (h.trans _ _ _ ha' (hkeys b ((hmem b).2 hb)) ha' hab hba) (h.irrefl ha')

/-- All there is to read, oldest first. -/
theorem remaining_none (h : TotalOn compare keys) (hkeys : ∀ value ∈ values, keys (key value))
    (hnodup : (values.map key).Nodup) :
    (remaining compare key values none).reverse = sorted key compare values := by
  refine @eq_of_ordered _ _ _ key _ h _ _ ?_
    (List.pairwise_reverse.2 (pairwise_remaining h hkeys hnodup)) ?_ ?_
  · intro value hvalue
    exact hkeys value (mem_remaining.1 (List.mem_reverse.1 hvalue)).1
  · refine pairwise_sorted (h.mono fun k => ?_) hnodup
    rintro ⟨value, hvalue, rfl⟩
    exact hkeys value hvalue
  · intro value
    rw [List.mem_reverse, mem_remaining, mem_sorted]
    exact and_iff_left rfl

theorem page_items_length : (page compare key values before limit).items.length ≤ limit := by
  unfold page
  rw [List.length_reverse, List.length_take]
  exact min_le_left _ _

/-- The last page is all there is left. -/
theorem page_last (h : (remaining compare key values before).length ≤ limit) :
    page compare key values before limit =
      ⟨(remaining compare key values before).reverse, none⟩ := by
  unfold page
  dsimp only
  rw [if_neg h.not_gt, List.take_of_length_le h]

/-- A page before the last is full, and ends with the key to read on from. -/
theorem page_full (hpos : 0 < limit) (h : limit < (remaining compare key values before).length) :
    ∃ newer oldest older, remaining compare key values before = newer ++ oldest :: older ∧
      newer.length + 1 = limit ∧ page compare key values before limit =
        ⟨(newer ++ [oldest]).reverse, some (key oldest)⟩ := by
  obtain ⟨last, rfl⟩ := Nat.exists_eq_succ_of_ne_zero hpos.ne'
  have hlast : last < (remaining compare key values before).length := by omega
  have htake : (remaining compare key values before).take (last + 1) =
      (remaining compare key values before).take last ++
        [(remaining compare key values before)[last]] := by
    rw [List.take_concat_get' _ _ hlast]
  refine ⟨(remaining compare key values before).take last,
    (remaining compare key values before)[last],
    (remaining compare key values before).drop (last + 1), ?_, ?_, ?_⟩
  · rw [← List.drop_eq_getElem_cons hlast, List.take_append_drop]
  · rw [List.length_take, min_eq_left hlast.le]
  · unfold page
    dsimp only
    rw [if_pos h, htake, List.getLast?_append]
    rfl

theorem isBefore_trans (h : TotalOn compare keys) {value : α} {bound : κ}
    (hvalue : keys (key value)) (hbound : keys bound) (hbefore : ∀ b, before = some b → keys b)
    (hlt : compare (key value) bound < 0) (hearlier : ∀ b, before = some b → compare bound b < 0) :
    isBefore compare key before value = true := by
  cases before with
  | none => rfl
  | some b =>
    exact decide_eq_true (h.trans _ _ _ hvalue hbound (hbefore b rfl) hlt (hearlier b rfl))

theorem isBefore_iff {value : α} : isBefore compare key before value = true ↔
    ∀ b, before = some b → compare (key value) b < 0 := by
  cases before with
  | none => exact ⟨fun _ _ hb => (by cases hb), fun _ => rfl⟩
  | some b => exact ⟨fun hlt _ hb => Option.some.inj hb ▸ of_decide_eq_true hlt,
      fun hlt => decide_eq_true (hlt b rfl)⟩

/-- What is left after a full page. -/
theorem remaining_next (h : TotalOn compare keys) (hkeys : ∀ value ∈ values, keys (key value))
    (hnodup : (values.map key).Nodup) (hbefore : ∀ b, before = some b → keys b)
    {newer older : List α} {oldest : α}
    (hread : remaining compare key values before = newer ++ oldest :: older) :
    remaining compare key values (some (key oldest)) = older := by
  have hmem : ∀ {value}, value ∈ newer ++ oldest :: older ↔
      value ∈ values ∧ isBefore compare key before value = true := by
    intro value
    rw [← hread]
    exact mem_remaining
  have hordered := @pairwise_remaining _ _ _ _ _ _ before h hkeys hnodup
  rw [hread, List.pairwise_append, List.pairwise_cons] at hordered
  obtain ⟨-, ⟨holder, hpairwise⟩, hnewer⟩ := hordered
  have holdest := hmem.1 (List.mem_append_right newer List.mem_cons_self)
  refine eq_of_ordered h.reverse (fun value hvalue => hkeys value (mem_remaining.1 hvalue).1)
    (pairwise_remaining h hkeys hnodup) hpairwise fun value => ?_
  rw [mem_remaining, isBefore_iff]
  constructor
  · rintro ⟨hvalue, hlt⟩
    have hbefore' := isBefore_trans h (hkeys value hvalue) (hkeys oldest holdest.1) hbefore
      (hlt _ rfl) (isBefore_iff.1 holdest.2)
    rcases List.mem_append.1 (hmem.2 ⟨hvalue, hbefore'⟩) with hnew | hold
    · have hgt := hnewer value hnew oldest List.mem_cons_self
      exact absurd (h.trans _ _ _ (hkeys value hvalue) (hkeys oldest holdest.1)
        (hkeys value hvalue) (hlt _ rfl) hgt) (h.irrefl (hkeys value hvalue))
    · rcases List.mem_cons.1 hold with rfl | hold
      · exact absurd (hlt _ rfl) (h.irrefl (hkeys value hvalue))
      · exact hold
  · intro hold
    refine ⟨(hmem.1 (List.mem_append_right newer (List.mem_cons_of_mem oldest hold))).1, ?_⟩
    rintro b ⟨⟩
    exact holder value hold

theorem sorted_map {β : Type*} (compare : κ → κ → ℤ) (f : α → β) (key : β → κ)
    (values : List α) :
    sorted key compare (values.map f) = (sorted (key ∘ f) compare values).map f := by
  refine (List.map_mergeSort (f := f) (r := fun left right =>
    decide (compare (key (f left)) (key (f right)) ≤ 0)) ?_).symm
  exact fun _ _ _ _ => rfl

theorem remaining_map {β : Type*} (f : α → β) (key : β → κ) :
    remaining compare key (values.map f) before =
      (remaining compare (key ∘ f) values before).map f := by
  unfold remaining
  rw [List.filter_map, sorted_map]
  rfl

/-- What the values are shown as makes no difference to the pages. -/
theorem page_map {β : Type*} (compare : κ → κ → ℤ) (f : α → β) (key : β → κ) (values : List α)
    (before : Option κ) (limit : ℕ) :
    page compare key (values.map f) before limit =
      ⟨(page compare (key ∘ f) values before limit).items.map f,
        (page compare (key ∘ f) values before limit).next⟩ := by
  unfold page
  dsimp only
  rw [remaining_map, List.length_map, ← List.map_take, List.map_reverse, List.getLast?_map,
    Option.map_map]

end Reading

section Walks
variable {compare : κ → κ → ℤ} {key : α → κ} {keys : κ → Prop} {limit : ℕ}

theorem walk_last {values : List α} {later : List (List α)} {before : Option κ}
    (h : (remaining compare key values before).length ≤ limit) :
    walk compare key limit (values :: later) before =
      some [(remaining compare key values before).reverse] := by
  rw [walk, page_last h]

theorem walk_more {values newer : List α} {oldest : α} {later : List (List α)} {before : Option κ}
    (h : page compare key values before limit = ⟨(newer ++ [oldest]).reverse, some (key oldest)⟩) :
    walk compare key limit (values :: later) before =
      (walk compare key limit later (some (key oldest))).map ((newer ++ [oldest]).reverse :: ·) := by
  rw [walk, h]

/-- The walk has read what was left in full pages but the last. -/
structure ReadsAll (compare : κ → κ → ℤ) (key : α → κ) (limit : ℕ) (values : List α)
    (before : Option κ) (pages : List (List α)) : Prop where
  concatenation : pages.reverse.flatten = (remaining compare key values before).reverse
  count : pages.length =
    max 1 (((remaining compare key values before).length + limit - 1) / limit)
  bounded : ∀ items ∈ pages, items.length ≤ limit

theorem readsAll_last {values : List α} {before : Option κ} (hpos : 0 < limit)
    (h : (remaining compare key values before).length ≤ limit) :
    ReadsAll compare key limit values before [(remaining compare key values before).reverse] where
  concatenation := List.flatten_singleton
  count := by
    have hone : ((remaining compare key values before).length + limit - 1) / limit < 2 := by
      rw [Nat.div_lt_iff_lt_mul hpos]
      omega
    rw [List.length_singleton, max_eq_left (Nat.le_of_lt_succ hone)]
  bounded items hitems := by
    rw [List.mem_singleton.1 hitems, List.length_reverse]
    exact h

/-- A collection that does not change is read to its end. -/
theorem walk_replicate (h : TotalOn compare keys) {values : List α}
    (hkeys : ∀ value ∈ values, keys (key value)) (hnodup : (values.map key).Nodup)
    (hpos : 0 < limit) (reads : ℕ) (before : Option κ) (hbefore : ∀ b, before = some b → keys b)
    (hreads : (remaining compare key values before).length ≤ limit * (reads + 1)) :
    ∃ pages, walk compare key limit (List.replicate (reads + 1) values) before = some pages ∧
      ReadsAll compare key limit values before pages := by
  induction reads generalizing before with
  | zero =>
    rw [zero_add, mul_one] at hreads
    exact ⟨_, walk_last hreads, readsAll_last hpos hreads⟩
  | succ reads ih =>
    by_cases hlast : (remaining compare key values before).length ≤ limit
    · exact ⟨_, walk_last hlast, readsAll_last hpos hlast⟩
    obtain ⟨newer, oldest, older, hread, hnewer, hpage⟩ := page_full hpos (not_le.1 hlast)
    have hnext := remaining_next h hkeys hnodup hbefore hread
    have hlength : (remaining compare key values before).length = older.length + limit := by
      rw [hread, List.length_append, List.length_cons]
      omega
    have holdest : oldest ∈ remaining compare key values before := by
      rw [hread]
      exact List.mem_append_right newer List.mem_cons_self
    have holder : (remaining compare key values (some (key oldest))).length ≤
        limit * (reads + 1) := by
      rw [hnext]
      rw [hlength, mul_add limit (reads + 1) 1, mul_one] at hreads
      exact Nat.le_of_add_le_add_right hreads
    obtain ⟨pages, hwalk, hpages⟩ := ih (some (key oldest))
      (fun b hb => Option.some.inj hb ▸ hkeys oldest (mem_remaining.1 holdest).1) holder
    obtain ⟨hflatten, hcount, hlimit⟩ := hpages
    rw [hnext] at hflatten hcount
    refine ⟨(newer ++ [oldest]).reverse :: pages, ?_, ?_, ?_, ?_⟩
    · rw [List.replicate_succ, walk_more hpage, hwalk]
      rfl
    · rw [List.reverse_cons, List.flatten_append, hflatten, List.flatten_singleton, hread,
        ← List.reverse_append, ← List.append_cons]
    · have hdiv : (older.length + limit + limit - 1) / limit =
          (older.length + limit - 1) / limit + 1 := by
        rw [Nat.sub_add_comm (by omega), Nat.add_div_right _ hpos]
      have hsome : 1 ≤ (older.length + limit - 1) / limit := by
        rw [Nat.le_div_iff_mul_le hpos]
        omega
      rw [List.length_cons, hcount, hlength, hdiv, max_eq_right hsome, max_eq_right (by omega)]
    · intro items hitems
      rcases List.mem_cons.1 hitems with rfl | hitems
      · rw [List.length_reverse, List.length_append, List.length_singleton]
        exact hnewer.le
      · exact hlimit items hitems

/-- What a walk shows of a collection that changes. -/
structure Shows (compare : κ → κ → ℤ) (key : α → κ) (limit : ℕ) (snapshots : List (List α))
    (before : Option κ) (pages : List (List α)) : Prop where
  bounded : ∀ items ∈ pages, items.length ≤ limit
  stored : ∀ items ∈ pages, ∀ value ∈ items, ∃ values ∈ snapshots, value ∈ values
  earlier : ∀ items ∈ pages, ∀ value ∈ items, isBefore compare key before value = true
  ascending : pages.reverse.flatten.Pairwise fun older newer => compare (key older) (key newer) < 0
  complete : ∀ k, (∀ b, before = some b → compare k b < 0) →
    (∀ values ∈ snapshots, ∃ value ∈ values, key value = k) →
    ∃ value ∈ pages.reverse.flatten, key value = k

theorem shows_last (h : TotalOn compare keys) (hpos : 0 < limit) {values : List α}
    {later : List (List α)} {before : Option κ} (hkeys : ∀ value ∈ values, keys (key value))
    (hnodup : (values.map key).Nodup)
    (hlast : (remaining compare key values before).length ≤ limit) :
    Shows compare key limit (values :: later) before
      [(remaining compare key values before).reverse] := by
  have hmem : ∀ {value}, value ∈ (remaining compare key values before).reverse ↔
      value ∈ values ∧ isBefore compare key before value = true :=
    List.mem_reverse.trans mem_remaining
  constructor
  · exact (readsAll_last hpos hlast).bounded
  · intro items hitems value hvalue
    rw [List.mem_singleton.1 hitems, hmem] at hvalue
    exact ⟨values, List.mem_cons_self, hvalue.1⟩
  · intro items hitems value hvalue
    rw [List.mem_singleton.1 hitems, hmem] at hvalue
    exact hvalue.2
  · rw [List.reverse_singleton, List.flatten_singleton, List.pairwise_reverse]
    exact pairwise_remaining h hkeys hnodup
  · intro k hk hstays
    obtain ⟨value, hvalue, rfl⟩ := hstays values List.mem_cons_self
    refine ⟨value, ?_, rfl⟩
    rw [List.reverse_singleton, List.flatten_singleton, hmem, isBefore_iff]
    exact ⟨hvalue, hk⟩

/-- A full page, and a walk that reads on from its oldest value. -/
theorem shows_more (h : TotalOn compare keys) {values newer older : List α} {oldest : α}
    {later : List (List α)} {before : Option κ} {rest : List (List α)}
    (hkeys : ∀ others ∈ values :: later, ∀ value ∈ others, keys (key value))
    (hnodup : (values.map key).Nodup) (hbefore : ∀ b, before = some b → keys b)
    (hread : remaining compare key values before = newer ++ oldest :: older)
    (hnewer : newer.length + 1 = limit)
    (hshown : Shows compare key limit later (some (key oldest)) rest) :
    Shows compare key limit (values :: later) before ((newer ++ [oldest]).reverse :: rest) := by
  have hmem : ∀ {value}, value ∈ newer ++ oldest :: older ↔
      value ∈ values ∧ isBefore compare key before value = true := by
    intro value
    rw [← hread]
    exact mem_remaining
  have hitem : ∀ {value}, value ∈ (newer ++ [oldest]).reverse →
      value ∈ values ∧ isBefore compare key before value = true := by
    intro value hvalue
    refine hmem.1 ?_
    rw [List.append_cons]
    exact List.mem_append_left older (List.mem_reverse.1 hvalue)
  have hvalues : ∀ value ∈ values, keys (key value) := hkeys values List.mem_cons_self
  have holdest := hmem.1 (List.mem_append_right newer List.mem_cons_self)
  have holdestKey := hvalues oldest holdest.1
  have hordered := @pairwise_remaining _ _ _ _ _ _ before h hvalues hnodup
  rw [hread, List.append_cons, List.pairwise_append] at hordered
  obtain ⟨hfirst, -, holder⟩ := hordered
  -- Every value of a later page is older than all of this one.
  have hlater : ∀ items ∈ rest, ∀ value ∈ items, keys (key value) ∧
      compare (key value) (key oldest) < 0 := by
    intro items hitems value hvalue
    obtain ⟨others, hothers, hother⟩ := hshown.stored items hitems value hvalue
    exact ⟨hkeys others (List.mem_cons_of_mem values hothers) value hother,
      isBefore_iff.1 (hshown.earlier items hitems value hvalue) _ rfl⟩
  have hflatten : ((newer ++ [oldest]).reverse :: rest).reverse.flatten =
      rest.reverse.flatten ++ (newer ++ [oldest]).reverse := by
    rw [List.reverse_cons, List.flatten_append, List.flatten_singleton]
  constructor
  · rw [List.forall_mem_cons]
    refine ⟨?_, hshown.bounded⟩
    rw [List.length_reverse, List.length_append, List.length_singleton]
    exact hnewer.le
  · rw [List.forall_mem_cons]
    refine ⟨fun value hvalue => ⟨values, List.mem_cons_self, (hitem hvalue).1⟩, ?_⟩
    intro items hitems value hvalue
    obtain ⟨others, hothers, hother⟩ := hshown.stored items hitems value hvalue
    exact ⟨others, List.mem_cons_of_mem values hothers, hother⟩
  · rw [List.forall_mem_cons]
    refine ⟨fun value hvalue => (hitem hvalue).2, fun items hitems value hvalue => ?_⟩
    obtain ⟨hkey, hlt⟩ := hlater items hitems value hvalue
    exact isBefore_trans h hkey holdestKey hbefore hlt (isBefore_iff.1 holdest.2)
  · rw [hflatten, List.pairwise_append]
    refine ⟨hshown.ascending, List.pairwise_reverse.2 hfirst, fun value hvalue item hitem' => ?_⟩
    obtain ⟨items, hitems, hvalue⟩ := List.mem_flatten.1 hvalue
    obtain ⟨hkey, hlt⟩ := hlater items (List.mem_reverse.1 hitems) value hvalue
    rcases List.mem_append.1 (List.mem_reverse.1 hitem') with hnew | hself
    · rw [List.pairwise_append] at hfirst
      exact h.trans _ _ _ hkey holdestKey (hvalues item (hitem hitem').1) hlt
        (hfirst.2.2 item hnew oldest List.mem_cons_self)
    · rw [List.mem_singleton.1 hself]
      exact hlt
  · intro k hk hstays
    rw [List.forall_mem_cons] at hstays
    obtain ⟨⟨value, hvalue, rfl⟩, hstays⟩ := hstays
    rw [hflatten]
    rcases h.trichotomy (hvalues value hvalue) holdestKey with hlt | heq | hgt
    · obtain ⟨shown, hshown', hkey⟩ := hshown.complete (key value)
        (fun b hb => Option.some.inj hb ▸ hlt) hstays
      exact ⟨shown, List.mem_append_left _ hshown', hkey⟩
    · refine ⟨oldest, List.mem_append_right _ (List.mem_reverse.2 ?_), heq.symm⟩
      exact List.mem_append_right newer (List.mem_singleton_self oldest)
    · -- It is newer than the oldest of the page, so it is on the page.
      have hnew := hmem.2 ⟨hvalue, isBefore_iff.2 hk⟩
      rw [List.append_cons] at hnew
      refine ⟨value, List.mem_append_right _ (List.mem_reverse.2 ?_), rfl⟩
      refine (List.mem_append.1 hnew).resolve_right fun hold => ?_
      have hlt := holder oldest (List.mem_append_right newer (List.mem_singleton_self oldest))
        value hold
      have hvalueKey := hvalues value hvalue
      exact h.irrefl hvalueKey (h.trans _ _ _ hvalueKey holdestKey hvalueKey hlt hgt)

/-- Whatever comes and goes, nothing is shown twice, and what stays is shown. -/
theorem walk_shows (h : TotalOn compare keys) (hpos : 0 < limit) {snapshots : List (List α)}
    (hkeys : ∀ values ∈ snapshots, ∀ value ∈ values, keys (key value))
    (hnodup : ∀ values ∈ snapshots, (values.map key).Nodup) {before : Option κ}
    (hbefore : ∀ b, before = some b → keys b) {pages : List (List α)}
    (hwalk : walk compare key limit snapshots before = some pages) :
    Shows compare key limit snapshots before pages := by
  induction snapshots generalizing before pages with
  | nil => cases hwalk
  | cons values later ih =>
    have hvalues : ∀ value ∈ values, keys (key value) := hkeys values List.mem_cons_self
    have hvaluesNodup : (values.map key).Nodup := hnodup values List.mem_cons_self
    by_cases hlast : (remaining compare key values before).length ≤ limit
    · rw [walk_last hlast] at hwalk
      obtain rfl := Option.some.inj hwalk
      exact shows_last h hpos hvalues hvaluesNodup hlast
    obtain ⟨newer, oldest, older, hread, hnewer, hpage⟩ := page_full hpos (not_le.1 hlast)
    rw [walk_more hpage] at hwalk
    obtain ⟨rest, hrest, rfl⟩ := Option.map_eq_some_iff.1 hwalk
    have holdest : oldest ∈ remaining compare key values before := by
      rw [hread]
      exact List.mem_append_right newer List.mem_cons_self
    refine shows_more h hkeys hvaluesNodup hbefore hread hnewer (ih ?_ ?_ ?_ hrest)
    · exact fun others hothers => hkeys others (List.mem_cons_of_mem values hothers)
    · exact fun others hothers => hnodup others (List.mem_cons_of_mem values hothers)
    · rintro b ⟨⟩
      exact hvalues oldest (mem_remaining.1 holdest).1

end Walks

end KeysetPages
