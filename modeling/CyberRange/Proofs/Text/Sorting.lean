import CyberRange.Text.Blank

namespace CyberRange.Text

/-! Sorting by a name is a matter of what there is under each name: it puts the names in
order and leaves items of one name as they come. -/

variable {α : Type u} {β : Type v} {name : α → String} {items one two : List α}

def SortedBy (name : α → String) (items : List α) : Prop :=
  items.Pairwise fun item other => name item ≤ name other

theorem name_le_trans (name : α → String) (a b c : α)
    (first : decide (name a ≤ name b) = true) (second : decide (name b ≤ name c) = true) :
    decide (name a ≤ name c) = true :=
  decide_eq_true (String.le_trans (of_decide_eq_true first) (of_decide_eq_true second))

theorem name_le_total (name : α → String) (a b : α) :
    (decide (name a ≤ name b) || decide (name b ≤ name a)) = true := by
  simp [String.le_total]

theorem sortBy_perm (name : α → String) (items : List α) : (sortBy name items).Perm items :=
  List.mergeSort_perm ..

theorem sortedBy_sortBy (name : α → String) (items : List α) :
    SortedBy name (sortBy name items) :=
  (List.pairwise_mergeSort (name_le_trans name) (name_le_total name) items).imp of_decide_eq_true

theorem SortedBy.strict (sorted : SortedBy name items) (distinct : (items.map name).Nodup) :
    (items.map name).Pairwise (· < ·) := by
  rw [List.Nodup, List.pairwise_map] at distinct
  rw [List.pairwise_map]
  refine List.Pairwise.imp₂ (fun item other inOrder different => ?_) sorted distinct
  exact String.not_le.mp fun back => different (String.le_antisymm inOrder back)

/-- Items of one name keep their order. -/
theorem filter_sortBy (name : α → String) (items : List α) (key : String) :
    (sortBy name items).filter (name · = key) = items.filter (name · = key) := by
  -- They are in order as they come, so sorting keeps them as a sublist.
  have sorted : (items.filter (name · = key)).Pairwise fun item other =>
      decide (name item ≤ name other) = true := by
    refine List.pairwise_of_forall_mem_list fun item there other here => ?_
    simp only [List.mem_filter, decide_eq_true_eq] at there here
    simp [there.2, here.2]
  have kept : (items.filter (name · = key)).Sublist (sortBy name items) :=
    List.sublist_mergeSort (name_le_trans name) (name_le_total name) sorted List.filter_sublist
  have filtered := kept.filter (name · = key)
  simp only [List.filter_filter, Bool.and_self] at filtered
  exact (filtered.eq_of_length ((sortBy_perm name items).filter _).length_eq.symm).symm

/-- In order, the items are given by those of each name. -/
theorem SortedBy.eq_of_filter (sorted : SortedBy name one) (too : SortedBy name two)
    (same : ∀ key, one.filter (name · = key) = two.filter (name · = key)) : one = two := by
  induction one generalizing two with
  | nil =>
      cases two with
      | nil => rfl
      | cons other others => simpa using same (name other)
  | cons first rest induction =>
      cases two with
      | nil => simpa using same (name first)
      | cons other others =>
          have mem_iff (item : α) : item ∈ first :: rest ↔ item ∈ other :: others := by
            have inside := congrArg (item ∈ ·) (same (name item))
            simpa only [List.mem_filter, decide_true, and_true, eq_iff_iff] using inside
          have least {first : α} {rest : List α} (sorted : SortedBy name (first :: rest)) :
              ∀ item ∈ first :: rest, name first ≤ name item :=
            List.forall_mem_cons.mpr ⟨String.le_refl _, (List.pairwise_cons.mp sorted).1⟩
          -- Each first name is the least of both lists, so the first items have one name.
          have named : name first = name other :=
            String.le_antisymm (least sorted other ((mem_iff other).mpr List.mem_cons_self))
              (least too first ((mem_iff first).mp List.mem_cons_self))
          have heads := same (name first)
          simp only [List.filter_cons, named, decide_true, if_true] at heads
          obtain ⟨rfl, -⟩ := List.cons.inj heads
          refine congrArg (first :: ·) (induction (List.pairwise_cons.mp sorted).2
            (List.pairwise_cons.mp too).2 fun key => ?_)
          have tails := same key
          by_cases here : name first = key
          · simpa [List.filter_cons, here] using tails
          · simpa [List.filter_cons, here] using tails

theorem sortBy_eq_of_filter
    (same : ∀ key, one.filter (name · = key) = two.filter (name · = key)) :
    sortBy name one = sortBy name two := by
  refine (sortedBy_sortBy name one).eq_of_filter (sortedBy_sortBy name two) fun key => ?_
  rw [filter_sortBy, filter_sortBy, same]

/-- Items may be changed before or after sorting, if they keep their names. -/
theorem map_sortBy {change : α → β} {other : β → String}
    (named : ∀ item ∈ items, other (change item) = name item) :
    (sortBy name items).map change = sortBy other (items.map change) :=
  List.map_mergeSort fun item there another here => by
    rw [named item there, named another here]

end CyberRange.Text
