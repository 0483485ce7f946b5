import Cantilune.Runtime.RaftDurable

/-!
# The keys of the coordinator

No two keys have one text, and the prefix of the change keys is that of no other key.
-/

namespace Cantilune

theorem toList_toString (n : Nat) : (toString n).toList = Nat.toDigits 10 n := by
  rw [Nat.toString_eq_ofList_toDigits, String.toList_ofList]

theorem RaftDurableCoordinator.decimalValue_toString (n : Nat) : decimalValue (toString n) = some n := by
  have hdigits : (toString n).toList.all Char.isDigit = true := by
    rw [List.all_eq_true]
    intro c hc
    rw [toList_toString] at hc
    exact Nat.isDigit_of_mem_toDigits (by omega) (by omega) hc
  rw [decimalValue, if_pos hdigits, toList_toString, Nat.ofDigitChars_ten_toDigits]

theorem paddedSeq_injective : Function.Injective paddedSeq := by
  intro m n h
  have hread : ∀ n : Nat, Nat.ofDigitChars 10 (paddedSeq n).toList 0 = n := fun n => by
    rw [paddedSeq, String.toList_append, String.toList_ofList, toList_toString, Nat.ofDigitChars_append,
      Nat.ofDigitChars_replicate_zero, Nat.mul_zero, Nat.ofDigitChars_ten_toDigits]
  rw [← hread m, h, hread n]

namespace RaftKey

/-- What the keys of one kind start with. -/
def tag : RaftKey → String
  | .head => "/meta/head"
  | .binding => "/meta/binding"
  | .lease => "/meta/lease"
  | .seq => "/meta/changeSeq"
  | .fencingLease => "/meta/fencingLeaseId"
  | .snapshot _ => "/snapshots/"
  | .change _ => "/changes/"
  | .changeId _ => "/changeIds/"
  | .recipe _ => "/recipes/"

/-- What follows the tag. -/
def payload : RaftKey → String
  | .snapshot ref => ref
  | .change n => paddedSeq n
  | .changeId id => id
  | .recipe id => id
  | _ => ""

theorem path_eq (k : RaftKey) : k.path = k.tag ++ k.payload := by
  cases k <;> simp [path, tag, payload]

theorem tag_eq_of_starts {k l : RaftKey} (h : k.tag.toList <+: l.tag.toList) : k.tag = l.tag := by
  cases k <;> cases l <;> first | rfl | (simp only [tag] at h; exact absurd h (by decide))

theorem eq_of_tag_payload {k l : RaftKey} (htag : k.tag = l.tag) (hpayload : k.payload = l.payload) : k = l := by
  cases k <;> cases l <;> first | rfl | (simp only [tag] at htag; exact absurd htag (by decide)) | skip
  case snapshot.snapshot => exact congrArg _ hpayload
  case change.change => exact congrArg _ (paddedSeq_injective hpayload)
  case changeId.changeId => exact congrArg _ hpayload
  case recipe.recipe => exact congrArg _ hpayload

theorem tag_eq_of_append {k l : RaftKey} {p q : List Char} (h : k.tag.toList ++ p = l.tag.toList ++ q) :
    k.tag = l.tag := by
  rcases List.prefix_or_prefix_of_prefix (List.prefix_append k.tag.toList p)
    (h ▸ List.prefix_append l.tag.toList q) with hkl | hlk
  · exact tag_eq_of_starts hkl
  · exact (tag_eq_of_starts hlk).symm

theorem text_injective («namespace» : String) : Function.Injective (text «namespace») := by
  intro k l h
  simp only [text, path_eq, String.append_right_inj] at h
  have hlist := congrArg String.toList h
  simp only [String.toList_append] at hlist
  have htag := tag_eq_of_append hlist
  rw [htag, String.append_right_inj] at h
  exact eq_of_tag_payload htag h

@[simp] theorem text_inj {«namespace» : String} {k l : RaftKey} :
    k.text «namespace» = l.text «namespace» ↔ k = l :=
  (text_injective «namespace»).eq_iff

theorem root_prefix_text («namespace» : String) (k : RaftKey) :
    (durableRoot «namespace»).toList <+: (k.text «namespace»).toList := by
  rw [text, String.toList_append]
  exact List.prefix_append _ _

theorem changePrefix_prefix_text {«namespace» : String} {k : RaftKey} :
    (changePrefix «namespace»).toList <+: (k.text «namespace»).toList ↔ ∃ n, k = .change n := by
  rw [text, changePrefix, String.toList_append, String.toList_append, List.prefix_append_right_inj]
  constructor
  · rintro ⟨rest, h⟩
    rw [path_eq, String.toList_append] at h
    have htag : (RaftKey.change 0).tag = k.tag := tag_eq_of_append h
    cases k with
    | change n => exact ⟨n, rfl⟩
    | _ =>
        simp only [tag] at htag
        exact absurd htag (by decide)
  · rintro ⟨n, rfl⟩
    rw [path, String.toList_append]
    exact List.prefix_append _ _

end RaftKey

end Cantilune
