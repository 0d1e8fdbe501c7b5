import ScriptCheck.NameTable.Basic

/-! Tables seen through `get?`: what each operation does to a lookup, and that lookups determine the
table. -/

namespace ScriptCheck.NameTable

variable {α : Type} {table : NameTable α} {name other : String} {value : α}

@[simp] theorem get?_empty : (∅ : NameTable α).get? name = none := rfl

theorem find_place (entries : List (String × α)) :
    find other (place name value entries) =
      if other = name then some value else find other entries := by
  induction entries with
  | nil => rfl
  | cons entry rest ih =>
    obtain ⟨first, held⟩ := entry
    unfold place
    split
    · rfl
    · split
      · next same =>
        subst same
        by_cases h : other = name <;> simp [find, h]
      · next apart =>
        by_cases h : other = first
        · have : ¬ first = name := fun e => apart e.symm
          simp [find, h, this]
        · simp [find, h, ih]

theorem get?_insert :
    (table.insert name value).get? other = if other = name then some value else table.get? other :=
  find_place table.entries

theorem get?_insert_of_ne (apart : other ≠ name) :
    (table.insert name value).get? other = table.get? other := by
  simp [get?_insert, apart]

theorem get?_eq_some_iff : table.get? name = some value ↔ (name, value) ∈ table.entries := by
  obtain ⟨entries, ascending⟩ := table
  simp only [get?]
  induction entries with
  | nil => simp [find]
  | cons entry rest ih =>
    obtain ⟨first, held⟩ := entry
    obtain ⟨below, tail⟩ := List.pairwise_cons.mp ascending
    by_cases h : name = first
    · subst h
      have absent : (name, value) ∉ rest := fun member =>
        String.lt_irrefl name (below name (List.mem_map.mpr ⟨_, member, rfl⟩))
      simp [find, absent, eq_comm]
    · simp [find, h, ih tail]

theorem get?_eq_none_iff : table.get? name = none ↔ name ∉ table.entries.map Prod.fst := by
  simp only [Option.eq_none_iff_forall_ne_some, ne_eq, get?_eq_some_iff, List.mem_map]
  constructor
  · rintro absent ⟨⟨_, held⟩, member, rfl⟩
    exact absent held member
  · intro absent held member
    exact absent ⟨_, member, rfl⟩

theorem entries_eq_of_mem_iff : ∀ {left right : List (String × α)},
    (left.map Prod.fst).Pairwise (· < ·) → (right.map Prod.fst).Pairwise (· < ·) →
    (∀ entry, entry ∈ left ↔ entry ∈ right) → left = right
  | [], [], _, _, _ => rfl
  | [], entry :: _, _, _, same => absurd ((same entry).mpr (.head _)) (by simp)
  | entry :: _, [], _, _, same => absurd ((same entry).mp (.head _)) (by simp)
  | a :: left, b :: right, ascL, ascR, same => by
    obtain ⟨belowL, tailL⟩ := List.pairwise_cons.mp ascL
    obtain ⟨belowR, tailR⟩ := List.pairwise_cons.mp ascR
    -- a head that stands later on the other side would be below itself
    have heads : a = b := by
      rcases List.mem_cons.mp ((same a).mp (.head _)) with h | later
      · exact h
      · rcases List.mem_cons.mp ((same b).mpr (.head _)) with h | later'
        · exact h.symm
        · exact absurd (belowL _ (List.mem_map.mpr ⟨_, later', rfl⟩))
            (String.lt_asymm (belowR _ (List.mem_map.mpr ⟨_, later, rfl⟩)))
    subst heads
    have absentL : a ∉ left := fun h =>
      String.lt_irrefl _ (belowL _ (List.mem_map.mpr ⟨_, h, rfl⟩))
    have absentR : a ∉ right := fun h =>
      String.lt_irrefl _ (belowR _ (List.mem_map.mpr ⟨_, h, rfl⟩))
    have tails : ∀ entry, entry ∈ left ↔ entry ∈ right := by
      intro entry
      have both := same entry
      simp only [List.mem_cons] at both
      constructor
      · intro h
        rcases both.mp (.inr h) with rfl | h'
        · exact absurd h absentL
        · exact h'
      · intro h
        rcases both.mpr (.inr h) with rfl | h'
        · exact absurd h absentR
        · exact h'
    rw [entries_eq_of_mem_iff tailL tailR tails]

theorem ext_get? {left right : NameTable α} (same : ∀ name, left.get? name = right.get? name) :
    left = right := by
  obtain ⟨entriesL, ascL⟩ := left
  obtain ⟨entriesR, ascR⟩ := right
  have entries : entriesL = entriesR := by
    apply entries_eq_of_mem_iff ascL ascR
    rintro ⟨name, value⟩
    have lookups := same name
    constructor
    · exact fun member => get?_eq_some_iff.mp (lookups ▸ get?_eq_some_iff.mpr member)
    · exact fun member => get?_eq_some_iff.mp (lookups.symm ▸ get?_eq_some_iff.mpr member)
  subst entries
  rfl

theorem not_mem_of_lt {names : List String} {first : String}
    (ascending : (first :: names).Pairwise (· < ·)) (before : name < first) :
    name ∉ first :: names := by
  intro member
  rcases List.mem_cons.mp member with rfl | later
  · exact String.lt_irrefl _ before
  · exact String.lt_asymm before ((List.pairwise_cons.mp ascending).1 _ later)

theorem swap_fst {entries : List (String × α)}
    (ascending : (entries.map Prod.fst).Pairwise (· < ·)) :
    (swap name value entries).1 = find name entries := by
  induction entries with
  | nil => rfl
  | cons entry rest ih =>
    obtain ⟨first, held⟩ := entry
    obtain ⟨-, tail⟩ := List.pairwise_cons.mp ascending
    unfold swap
    split
    · next before =>
      -- the search stops here, since no name further on can be the one in question
      have absent : name ∉ ((first, held) :: rest).map Prod.fst := not_mem_of_lt ascending before
      have missing : (⟨_, ascending⟩ : NameTable α).get? name = none := get?_eq_none_iff.mpr absent
      exact missing.symm
    · split
      · next same => simp [find, same]
      · next apart =>
        rw [find, if_neg apart]
        exact ih tail

theorem exchange_eq : table.exchange name value = (table.get? name, table.insert name value) := by
  have replaced : (table.exchange name value).1 = table.get? name := swap_fst table.ascending
  have added : (table.exchange name value).2 = table.insert name value := by
    simp [exchange, insert, swap_snd]
  rw [← replaced, ← added]

end ScriptCheck.NameTable
