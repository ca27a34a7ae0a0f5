namespace CyberRange

/-! Values under keys, in the order in which the keys were first inserted.

Overwriting a key keeps its place.  The semantic view is `get?`: `put` changes
it at one key only, and the keys stay distinct.
-/

abbrev Entries (α : Type u) := List (String × α)

namespace Entries

def get? (key : String) : Entries α → Option α
  | [] => none
  | (name, value) :: rest => if name = key then some value else get? key rest

def has (key : String) (entries : Entries α) : Bool :=
  (get? key entries).isSome

def put (key : String) (value : α) : Entries α → Entries α
  | [] => [(key, value)]
  | (name, stored) :: rest =>
      if name = key then (name, value) :: rest else (name, stored) :: put key value rest

def erase (key : String) (entries : Entries α) : Entries α :=
  entries.filter fun entry => entry.1 ≠ key

def keys (entries : Entries α) : List String :=
  entries.map Prod.fst

/-- Inserts the pairs one after the other; of a repeated key the last value stays. -/
def ofPairs (pairs : List (String × α)) : Entries α :=
  pairs.foldl (fun entries pair => put pair.1 pair.2 entries) []

/-- Applies `change` to the value under `key`, if there is one. -/
def adjust (key : String) (change : α → α) : Entries α → Entries α
  | [] => []
  | (name, value) :: rest =>
      if name = key then (name, change value) :: rest else (name, value) :: adjust key change rest

@[simp] theorem get?_put_self (key : String) (value : α) (entries : Entries α) :
    get? key (put key value entries) = some value := by
  induction entries with
  | nil => simp [put, get?]
  | cons entry rest induction =>
      obtain ⟨name, stored⟩ := entry
      by_cases same : name = key <;> simp [put, get?, same, induction]

theorem get?_put_of_ne {key other : String} (different : other ≠ key) (value : α)
    (entries : Entries α) : get? other (put key value entries) = get? other entries := by
  induction entries with
  | nil => simp [put, get?, different.symm]
  | cons entry rest induction =>
      obtain ⟨name, stored⟩ := entry
      by_cases same : name = key
      · subst same
        simp [put, get?, different.symm]
      · simp [put, get?, same, induction]

@[simp] theorem keys_nil : keys ([] : Entries α) = [] := rfl

@[simp] theorem keys_cons (name : String) (value : α) (rest : List (String × α)) :
    keys ((name, value) :: rest) = name :: keys rest := rfl

/-- Writing under a present key moves nothing; a new key comes last. -/
theorem keys_put (key : String) (value : α) (entries : Entries α) :
    keys (put key value entries) =
      if key ∈ keys entries then keys entries else keys entries ++ [key] := by
  induction entries with
  | nil => simp [put]
  | cons entry rest induction =>
      obtain ⟨name, stored⟩ := entry
      by_cases same : name = key
      · simp [put, same]
      · have different : ¬ key = name := fun equal => same equal.symm
        by_cases present : key ∈ keys rest <;>
          simp [put, same, different, induction, present]

theorem nodup_keys_put {entries : Entries α} (keyed : (keys entries).Nodup) (key : String)
    (value : α) : (keys (put key value entries)).Nodup := by
  rw [keys_put]
  split
  · exact keyed
  · rename_i absent
    refine List.nodup_append.mpr ⟨keyed, List.pairwise_singleton _ key, fun other there _ last => ?_⟩
    rw [List.mem_singleton.mp last]
    rintro rfl
    exact absent there

/-- Where every value is put under its key, no key stands twice. -/
theorem nodup_keys_ofPairs (pairs : List (String × α)) : (keys (ofPairs pairs)).Nodup := by
  have kept (entries : Entries α) (keyed : (keys entries).Nodup) :
      (keys (pairs.foldl (fun entries pair => put pair.1 pair.2 entries) entries)).Nodup := by
    induction pairs generalizing entries with
    | nil => exact keyed
    | cons pair rest induction => exact induction _ (nodup_keys_put keyed pair.1 pair.2)
  exact kept [] List.nodup_nil

theorem get?_eq_none_iff {key : String} {entries : Entries α} :
    get? key entries = none ↔ key ∉ keys entries := by
  induction entries with
  | nil => simp [get?]
  | cons entry rest induction =>
      obtain ⟨name, stored⟩ := entry
      by_cases same : name = key
      · simp [get?, same]
      · have different : ¬ key = name := fun equal => same equal.symm
        simp [get?, same, different, induction]

theorem mem_of_get? {key : String} {value : α} {entries : Entries α}
    (found : get? key entries = some value) : (key, value) ∈ entries := by
  induction entries with
  | nil => simp [get?] at found
  | cons entry rest induction =>
      obtain ⟨name, stored⟩ := entry
      by_cases same : name = key
      · simp only [get?, if_pos same, Option.some.injEq] at found
        simp [same, found]
      · simp only [get?, if_neg same] at found
        exact List.mem_cons_of_mem _ (induction found)

theorem mem_of_mem_put {key : String} {value : α} {entries : Entries α} {entry : String × α}
    (member : entry ∈ put key value entries) : entry = (key, value) ∨ entry ∈ entries := by
  induction entries with
  | nil => simpa [put] using member
  | cons first rest induction =>
      obtain ⟨name, stored⟩ := first
      by_cases same : name = key
      · subst same
        rw [put, if_pos rfl, List.mem_cons] at member
        exact member.imp_right (List.mem_cons_of_mem _)
      · rw [put, if_neg same, List.mem_cons] at member
        rcases member with rfl | member
        · exact .inr List.mem_cons_self
        · exact (induction member).imp_right (List.mem_cons_of_mem _)

theorem mem_of_mem_foldl_put {pairs : List (String × α)} {entries : Entries α}
    {entry : String × α}
    (member : entry ∈ pairs.foldl (fun entries pair => put pair.1 pair.2 entries) entries) :
    entry ∈ entries ∨ entry ∈ pairs := by
  induction pairs generalizing entries with
  | nil => exact .inl member
  | cons pair rest induction =>
      rcases induction member with old | new
      · rcases mem_of_mem_put old with rfl | old
        · exact .inr List.mem_cons_self
        · exact .inl old
      · exact .inr (List.mem_cons_of_mem _ new)

theorem mem_of_mem_ofPairs {pairs : List (String × α)} {entry : String × α}
    (member : entry ∈ ofPairs pairs) : entry ∈ pairs :=
  (mem_of_mem_foldl_put member).resolve_left List.not_mem_nil

theorem mem_of_mem_adjust {key : String} {change : α → α} {entries : Entries α}
    {entry : String × α} (member : entry ∈ adjust key change entries) :
    entry ∈ entries ∨ ∃ value, (key, value) ∈ entries ∧ entry = (key, change value) := by
  induction entries with
  | nil => exact absurd member List.not_mem_nil
  | cons first rest induction =>
      obtain ⟨name, value⟩ := first
      rw [adjust] at member
      split at member
      · rename_i same
        subst same
        rcases List.mem_cons.mp member with rfl | member
        · exact .inr ⟨value, List.mem_cons_self, rfl⟩
        · exact .inl (List.mem_cons_of_mem _ member)
      · rcases List.mem_cons.mp member with rfl | member
        · exact .inl List.mem_cons_self
        · rcases induction member with there | ⟨found, there, changed⟩
          · exact .inl (List.mem_cons_of_mem _ there)
          · exact .inr ⟨found, List.mem_cons_of_mem _ there, changed⟩

/-- Nothing is left under an erased key, and what stays keeps its order. -/
@[simp] theorem keys_erase (key : String) (entries : Entries α) :
    keys (erase key entries) = (keys entries).filter (· ≠ key) := by
  simp [keys, erase, List.filter_map, Function.comp_def]

@[simp] theorem get?_erase_self (key : String) (entries : Entries α) :
    get? key (erase key entries) = none := by
  simp [get?_eq_none_iff]

theorem get?_erase_of_ne {key other : String} (different : other ≠ key) (entries : Entries α) :
    get? other (erase key entries) = get? other entries := by
  induction entries with
  | nil => rfl
  | cons entry rest induction =>
      obtain ⟨name, stored⟩ := entry
      have erased : get? other (rest.filter fun entry => entry.1 ≠ key) = get? other rest := induction
      by_cases same : name = key
      · have skipped : ¬ name = other := fun equal => different (equal.symm.trans same)
        rw [erase, List.filter_cons_of_neg (by simpa using same), erased, get?, if_neg skipped]
      · rw [erase, List.filter_cons_of_pos (by simpa using same), get?, get?, erased]

@[simp] theorem keys_adjust (key : String) (change : α → α) (entries : Entries α) :
    keys (adjust key change entries) = keys entries := by
  induction entries with
  | nil => rfl
  | cons entry rest induction =>
      obtain ⟨name, stored⟩ := entry
      by_cases same : name = key <;> simp [adjust, same, induction]

@[simp] theorem get?_adjust_self (key : String) (change : α → α) (entries : Entries α) :
    get? key (adjust key change entries) = (get? key entries).map change := by
  induction entries with
  | nil => rfl
  | cons entry rest induction =>
      obtain ⟨name, stored⟩ := entry
      by_cases same : name = key <;> simp [adjust, get?, same, induction]

theorem get?_adjust_of_ne {key other : String} (different : other ≠ key) (change : α → α)
    (entries : Entries α) : get? other (adjust key change entries) = get? other entries := by
  induction entries with
  | nil => rfl
  | cons entry rest induction =>
      obtain ⟨name, stored⟩ := entry
      by_cases same : name = key
      · have skipped : ¬ name = other := fun equal => different (equal.symm.trans same)
        rw [adjust, if_pos same, get?, get?, if_neg skipped, if_neg skipped]
      · rw [adjust, if_neg same, get?, get?, induction]

theorem mem_keys_of_get? {key : String} {value : α} {entries : Entries α}
    (found : get? key entries = some value) : key ∈ keys entries :=
  List.mem_map_of_mem (mem_of_get? found)

/-- Where no key stands twice, each value is found under its key. -/
theorem get?_eq_some_iff {key : String} {value : α} {entries : Entries α}
    (keyed : (keys entries).Nodup) : get? key entries = some value ↔ (key, value) ∈ entries := by
  refine ⟨mem_of_get?, fun member => ?_⟩
  induction entries with
  | nil => exact absurd member List.not_mem_nil
  | cons entry rest induction =>
      obtain ⟨name, stored⟩ := entry
      rw [keys_cons, List.nodup_cons] at keyed
      rcases List.mem_cons.mp member with same | there
      · obtain ⟨rfl, rfl⟩ := Prod.mk.inj same
        rw [get?, if_pos rfl]
      · have different : name ≠ key := by
          rintro rfl
          exact keyed.1 (List.mem_map_of_mem there)
        rw [get?, if_neg different, induction keyed.2 there]

/-- Where no key stands twice, the order of the entries does not matter for what is found. -/
theorem get?_of_perm {entries others : Entries α} (keyed : (keys others).Nodup)
    (reordered : entries.Perm others) (key : String) : get? key entries = get? key others := by
  have keyed_too : (keys entries).Nodup := (reordered.map Prod.fst).nodup_iff.mpr keyed
  refine Option.ext fun value => ?_
  rw [get?_eq_some_iff keyed_too, get?_eq_some_iff keyed, reordered.mem_iff]

/-- Changes that do the same to the value under the key have the same effect. -/
theorem adjust_congr {key : String} {one two : α → α} {entries : Entries α}
    (same : ∀ value, get? key entries = some value → one value = two value) :
    adjust key one entries = adjust key two entries := by
  induction entries with
  | nil => rfl
  | cons entry rest induction =>
      obtain ⟨name, value⟩ := entry
      by_cases own : name = key
      · rw [adjust, adjust, if_pos own, if_pos own, same value (by rw [get?, if_pos own])]
      · rw [adjust, adjust, if_neg own, if_neg own,
          induction fun value found => same value (by rw [get?, if_neg own, found])]

theorem adjust_adjust (key : String) (one two : α → α) (entries : Entries α) :
    adjust key two (adjust key one entries) = adjust key (fun value => two (one value)) entries := by
  induction entries with
  | nil => rfl
  | cons entry rest induction =>
      obtain ⟨name, value⟩ := entry
      by_cases own : name = key <;> simp [adjust, own, induction]

theorem adjust_id (key : String) (entries : Entries α) :
    adjust key (fun value => value) entries = entries := by
  induction entries with
  | nil => rfl
  | cons entry rest induction =>
      obtain ⟨name, value⟩ := entry
      by_cases own : name = key <;> simp [adjust, own, induction]

end Entries

end CyberRange
