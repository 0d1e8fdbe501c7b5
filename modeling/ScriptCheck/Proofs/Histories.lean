import Mathlib.Data.List.Dedup
import ScriptCheck.Proofs.Hoisting

/-! Tables and the additions they come from. However a table came about, it answers with the last
value that a name was given and counts the names that were given one; nothing else of its history can
be seen in it. -/

namespace ScriptCheck

namespace NameTable

variable {α : Type} {entries : List (String × α)} {name : String} {value : α}

def LastGiven (entries : List (String × α)) (name : String) (value : α) : Prop :=
  ∃ before later, entries = before ++ (name, value) :: later ∧ name ∉ later.map Prod.fst

theorem lookup_eq_none_iff : entries.lookup name = none ↔ name ∉ entries.map Prod.fst := by
  rw [List.lookup_eq_none_iff]
  constructor
  · intro apart member
    obtain ⟨entry, inside, same⟩ := List.mem_map.mp member
    have differs := apart entry inside
    rw [same] at differs
    simp at differs
  · intro absent entry inside
    apply bne_iff_ne.mpr
    intro same
    exact absent (List.mem_map.mpr ⟨entry, inside, same.symm⟩)

theorem lookup_reverse_eq_none_iff :
    entries.reverse.lookup name = none ↔ name ∉ entries.map Prod.fst := by
  rw [lookup_eq_none_iff, List.map_reverse, List.mem_reverse]

theorem lookup_reverse_eq_some_iff :
    entries.reverse.lookup name = some value ↔ LastGiven entries name value := by
  rw [List.lookup_eq_some_iff]
  constructor
  · intro found
    -- what the lookup passes over, from the end on, stands later
    obtain ⟨later, before, split, apart⟩ := found
    have absent : name ∉ later.map Prod.fst := by
      rw [← lookup_eq_none_iff, List.lookup_eq_none_iff]
      exact apart
    refine ⟨before.reverse, later.reverse, ?_, ?_⟩
    · rw [← List.reverse_reverse entries, split]
      simp
    · rwa [List.map_reverse, List.mem_reverse]
  · intro last
    obtain ⟨before, later, rfl, absent⟩ := last
    refine ⟨later.reverse, before.reverse, by simp, ?_⟩
    rw [← List.lookup_eq_none_iff, lookup_reverse_eq_none_iff]
    exact absent

/-- The table is what the entries give: to each name its last value, and nothing to other names. -/
structure Records (table : NameTable α) (entries : List (String × α)) : Prop where
  value_iff : ∀ name value, table.get? name = some value ↔ LastGiven entries name value
  absent_iff : ∀ name, table.get? name = none ↔ name ∉ entries.map Prod.fst
  size_eq : table.size = (entries.map Prod.fst).dedup.length

theorem records_insertAll (entries : List (String × α)) :
    ((∅ : NameTable α).insertAll entries).Records entries := by
  have lookups : ∀ name, ((∅ : NameTable α).insertAll entries).get? name =
      entries.reverse.lookup name := by
    intro name
    rw [get?_insertAll, get?_empty, Option.or_none]
  refine ⟨?_, ?_, ?_⟩
  · intro name value
    rw [lookups, lookup_reverse_eq_some_iff]
  · intro name
    rw [lookups, lookup_reverse_eq_none_iff]
  · apply size_eq_length (List.nodup_dedup _)
    intro name
    rw [List.mem_dedup, lookups, ne_eq, lookup_reverse_eq_none_iff, not_not]

theorem eq_iff_get? {left right : NameTable α} :
    left = right ↔ ∀ name, left.get? name = right.get? name := by
  constructor
  · intro same name
    rw [same]
  · exact ext_get?

theorem Records.eq_iff {left right : NameTable α} {given given' : List (String × α)}
    (records : left.Records given) (records' : right.Records given') :
    left = right ↔ ∀ name value, LastGiven given name value ↔ LastGiven given' name value := by
  rw [eq_iff_get?]
  constructor
  · intro same name value
    rw [← records.value_iff, ← records'.value_iff, same]
  · intro same name
    apply Option.ext
    intro value
    rw [records.value_iff, records'.value_iff, same]

end NameTable

namespace Scope

inductive Change where
  | add (name : String) (ty : Ty)
  | enter (params : List Param)
  deriving DecidableEq, Repr

def Change.apply (scope : Scope) : Change → Scope
  | add name ty => scope.insert name ty
  | enter params => scope.withParams params

def Change.entries : Change → List (String × Ty)
  | add name ty => [(name, ty)]
  | enter params => params.map fun p => (p.name, p.ty)

def ofHistory (history : List Change) : Scope :=
  history.foldl Change.apply ∅

def given (history : List Change) : List (String × Ty) :=
  history.flatMap Change.entries

theorem Change.apply_eq (scope : Scope) (change : Change) :
    change.apply scope = scope.insertAll change.entries := by
  cases change with
  | add name ty => rfl
  | enter params => rfl

theorem foldl_apply (history : List Change) (scope : Scope) :
    history.foldl Change.apply scope = scope.insertAll (given history) := by
  induction history generalizing scope with
  | nil => rfl
  | cons change history ih =>
    rw [List.foldl_cons, ih, Change.apply_eq, given, given, List.flatMap_cons, NameTable.insertAll,
      NameTable.insertAll, NameTable.insertAll, List.foldl_append]

theorem records_ofHistory (history : List Change) : (ofHistory history).Records (given history) := by
  rw [ofHistory, foldl_apply]
  exact NameTable.records_insertAll (given history)

end Scope

namespace Functions

def ofHistory (history : List (String × Signature)) : Functions :=
  history.foldl (fun functions entry => (functions.exchange entry.1 entry.2).2) ∅

theorem records_ofHistory (history : List (String × Signature)) :
    (ofHistory history).Records history := by
  have inserts : ofHistory history = (∅ : Functions).insertAll history := by
    simp only [ofHistory, NameTable.exchange_eq, NameTable.insertAll]
  rw [inserts]
  exact NameTable.records_insertAll history

end Functions

/-- Scopes and tables of functions are finite maps, whatever happened to them: lookups find the last
type or signature that a name was given, the size is the number of names, scopes are compared by
their lookups, and adding a function tells the signature that was found under its name before. -/
theorem tables_record_history :
    (∀ history : List Scope.Change, (Scope.ofHistory history).Records (Scope.given history)) ∧
    (∀ history other : List Scope.Change,
      (Scope.ofHistory history = Scope.ofHistory other ↔
        ∀ name, (Scope.ofHistory history).get? name = (Scope.ofHistory other).get? name) ∧
      (Scope.ofHistory history = Scope.ofHistory other ↔
        ∀ name ty, NameTable.LastGiven (Scope.given history) name ty ↔
          NameTable.LastGiven (Scope.given other) name ty)) ∧
    ∀ history : List (String × Signature),
      (Functions.ofHistory history).Records history ∧
      ∀ name sig, ((Functions.ofHistory history).exchange name sig).1 =
        (Functions.ofHistory history).get? name := by
  refine ⟨Scope.records_ofHistory, ?_, ?_⟩
  · intro history other
    have records := Scope.records_ofHistory history
    exact ⟨NameTable.eq_iff_get?, records.eq_iff (Scope.records_ofHistory other)⟩
  · intro history
    refine ⟨Functions.records_ofHistory history, ?_⟩
    intro name sig
    rw [NameTable.exchange_eq]

end ScriptCheck
