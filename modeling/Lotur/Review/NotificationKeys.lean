import Lotur.Review.Repository
import Mathlib.Data.Nat.Digits.Defs

/-! The source keys of notifications: what a key says can be read back from it. -/
namespace Lotur.Review
open JsString

/-- The digits of a rendered number, lowest first. -/
def decimalDigits (n : ℕ) : List ℕ := if n = 0 then [0] else Nat.digits 10 n

theorem ofDigits_decimalDigits (n : ℕ) : Nat.ofDigits 10 (decimalDigits n) = n := by
  unfold decimalDigits
  split_ifs with h
  · rw [h]
    rfl
  · exact Nat.ofDigits_digits 10 n

theorem decimalDigits_lt {n d : ℕ} (h : d ∈ decimalDigits n) : d < 10 := by
  unfold decimalDigits at h
  split_ifs at h
  · rw [List.mem_singleton.1 h]
    exact Nat.succ_pos 9
  · exact Nat.digits_lt_base (by omega) h

theorem ofNat_eq (n : ℕ) :
    ofNat n = (decimalDigits n).reverse.map fun d => (0x30 : UInt16) + d.toUInt16 := by
  unfold ofNat decimalDigits
  split_ifs
  · rfl
  · rfl

/-- The digit of a unit. -/
def digitOf (unit : UInt16) : ℕ := (unit - 0x30).toNat

theorem digitOf_unit {d : ℕ} (h : d < 10) : digitOf (0x30 + d.toUInt16) = d := by
  interval_cases d <;> rfl

theorem digitOf_ofNat (n : ℕ) : (ofNat n).map digitOf = (decimalDigits n).reverse := by
  rw [ofNat_eq, List.map_map]
  calc (decimalDigits n).reverse.map (digitOf ∘ fun d => 0x30 + d.toUInt16)
      = (decimalDigits n).reverse.map id :=
        List.map_congr_left fun d hd => digitOf_unit (decimalDigits_lt (List.mem_reverse.1 hd))
    _ = (decimalDigits n).reverse := List.map_id _

theorem ofNat_injective : Function.Injective ofNat := by
  intro n m h
  have hdigits : (decimalDigits n).reverse = (decimalDigits m).reverse := by
    rw [← digitOf_ofNat, ← digitOf_ofNat, h]
  have hvalue := congrArg (Nat.ofDigits 10) (List.reverse_injective hdigits)
  rwa [ofDigits_decimalDigits, ofDigits_decimalDigits] at hvalue

/-- A text ends at its last separator in one way. -/
theorem append_separator_inj {separator : UInt16} {left left' right right' : JsString}
    (hright : separator ∉ right) (hright' : separator ∉ right')
    (h : left ++ separator :: right = left' ++ separator :: right') :
    left = left' ∧ right = right' := by
  rcases List.append_eq_append_iff.1 h with ⟨middle, hleft, hrest⟩ | ⟨middle, hleft, hrest⟩
  · cases middle with
    | nil =>
      rw [List.append_nil] at hleft
      exact ⟨hleft.symm, List.tail_eq_of_cons_eq hrest⟩
    | cons unit middle =>
      refine absurd ?_ hright
      rw [List.tail_eq_of_cons_eq hrest]
      exact List.mem_append_right _ List.mem_cons_self
  · cases middle with
    | nil =>
      rw [List.append_nil] at hleft
      exact ⟨hleft, (List.tail_eq_of_cons_eq hrest).symm⟩
    | cons unit middle =>
      refine absurd ?_ hright'
      rw [List.tail_eq_of_cons_eq hrest]
      exact List.mem_append_right _ List.mem_cons_self

theorem colon_notMem_ofNat (n : ℕ) : (0x3a : UInt16) ∉ ofNat n := by
  intro hmem
  exact absurd (ofNat_units n _ hmem).2 (by decide)

/-- An id and a version, as the last parts of a key. -/
theorem versioned_inj {left left' : JsString} {version version' : ℕ}
    (h : left ++ ofAscii ":" ++ ofNat version = left' ++ ofAscii ":" ++ ofNat version') :
    left = left' ∧ version = version' := by
  have hcolon : ofAscii ":" = [0x3a] := rfl
  rw [hcolon, List.append_assoc, List.append_assoc] at h
  have hparts := append_separator_inj (colon_notMem_ofNat version) (colon_notMem_ofNat version') h
  exact ⟨hparts.1, ofNat_injective hparts.2⟩

def mentionKey (contentType : ReviewMentionContentType) (contentId : JsString) (version : ℕ) :
    JsString :=
  ofAscii "mention:" ++ ReviewRepository.contentTypeText contentType ++ ofAscii ":" ++ contentId ++
    ofAscii ":" ++ ofNat version

def replyKey (replyId : JsString) : JsString := ofAscii "reply:" ++ replyId

def workflowKey (threadId : JsString) (version : ℕ) : JsString :=
  ofAscii "workflow:" ++ threadId ++ ofAscii ":" ++ ofNat version

theorem mentionKey_inj {contentType contentType' : ReviewMentionContentType}
    {contentId contentId' : JsString} {version version' : ℕ}
    (h : mentionKey contentType contentId version = mentionKey contentType' contentId' version') :
    contentType = contentType' ∧ contentId = contentId' ∧ version = version' := by
  obtain ⟨hitem, hversion⟩ := versioned_inj h
  rw [List.append_assoc, List.append_assoc, List.append_assoc, List.append_assoc,
    List.append_cancel_left_eq] at hitem
  cases contentType <;> cases contentType' <;>
    first
      | exact ⟨rfl, List.append_cancel_left (List.append_cancel_left hitem), hversion⟩
      | exact absurd (List.head_eq_of_cons_eq hitem) (by decide)

theorem replyKey_inj {replyId replyId' : JsString} (h : replyKey replyId = replyKey replyId') :
    replyId = replyId' := List.append_cancel_left h

theorem workflowKey_inj {threadId threadId' : JsString} {version version' : ℕ}
    (h : workflowKey threadId version = workflowKey threadId' version') :
    threadId = threadId' ∧ version = version' := by
  obtain ⟨hthread, hversion⟩ := versioned_inj h
  exact ⟨List.append_cancel_left hthread, hversion⟩

/-- Keys of different kinds start with different letters. -/
theorem mentionKey_ne_replyKey (contentType : ReviewMentionContentType) (contentId replyId : JsString)
    (version : ℕ) : mentionKey contentType contentId version ≠ replyKey replyId :=
  fun h => absurd (List.head_eq_of_cons_eq h) (by decide)

theorem mentionKey_ne_workflowKey (contentType : ReviewMentionContentType)
    (contentId threadId : JsString) (version version' : ℕ) :
    mentionKey contentType contentId version ≠ workflowKey threadId version' :=
  fun h => absurd (List.head_eq_of_cons_eq h) (by decide)

theorem replyKey_ne_workflowKey (replyId threadId : JsString) (version : ℕ) :
    replyKey replyId ≠ workflowKey threadId version :=
  fun h => absurd (List.head_eq_of_cons_eq h) (by decide)

end Lotur.Review
