import Mathlib.Data.List.Nodup
import ScriptCheck.Proofs.Results

/-! The table of a program's functions, against what the headers of the program say. -/

namespace ScriptCheck

namespace NameTable

variable {α : Type}

theorem get?_insertAll (entries : List (String × α)) (table : NameTable α) (name : String) :
    (table.insertAll entries).get? name = (entries.reverse.lookup name).or (table.get? name) := by
  induction entries generalizing table with
  | nil => simp [insertAll]
  | cons entry rest ih =>
    obtain ⟨key, held⟩ := entry
    have step : table.insertAll ((key, held) :: rest) = (table.insert key held).insertAll rest := rfl
    rw [step, ih, get?_insert, List.reverse_cons, List.lookup_append, Option.or_assoc]
    congr 1
    by_cases same : name = key
    · simp [same]
    · have other : (name == key) = false := by simpa using same
      simp [List.lookup_cons, other, same]

theorem lookup_eq_some_iff_mem {entries : List (String × α)}
    (distinct : (entries.map Prod.fst).Nodup) {name : String} {value : α} :
    entries.lookup name = some value ↔ (name, value) ∈ entries := by
  induction entries with
  | nil => simp
  | cons entry rest ih =>
    obtain ⟨key, held⟩ := entry
    obtain ⟨absent, tail⟩ := List.nodup_cons.mp distinct
    by_cases same : name = key
    · subst same
      have apart : (name, value) ∉ rest := fun member =>
        absent (List.mem_map.mpr ⟨_, member, rfl⟩)
      simp [apart, eq_comm]
    · have other : (name == key) = false := by simpa using same
      simp [List.lookup_cons, other, ih tail, same]

theorem size_eq_length {table : NameTable α} {names : List String} (distinct : names.Nodup)
    (same : ∀ name, name ∈ names ↔ table.get? name ≠ none) : table.size = names.length := by
  have keys : (table.entries.map Prod.fst).Nodup := by
    apply table.ascending.imp
    intro name other below equal
    rw [equal] at below
    exact String.lt_irrefl other below
  have members : ∀ name, name ∈ table.entries.map Prod.fst ↔ name ∈ names := by
    intro name
    rw [same, ne_eq, get?_eq_none_iff, not_not]
  have perm := (List.perm_ext_iff_of_nodup keys distinct).mpr members
  rw [← perm.length_eq, List.length_map, size]

end NameTable

def Header.entry (head : Header) : String × Signature := (head.name, head.signature)

/-- The headers of a program give every function one signature, and `functions` is what they give. -/
structure Program.Declares (program : Program Unit) (functions : String → Option Signature) :
    Prop where
  distinct : (program.headers.map Header.name).Nodup
  unreserved : printName ∉ program.headers.map Header.name
  signature_iff : ∀ name sig, functions name = some sig ↔
    ∃ head ∈ program.headers, head.name = name ∧ head.signature = sig

theorem Header.filter_eq_singleton {heads : List Header} (distinct : (heads.map Header.name).Nodup)
    {head : Header} (member : head ∈ heads) : heads.filter (·.name = head.name) = [head] := by
  induction heads with
  | nil => cases member
  | cons first rest ih =>
    obtain ⟨absent, tail⟩ := List.nodup_cons.mp distinct
    rcases List.mem_cons.mp member with rfl | later
    · have others : rest.filter (·.name = head.name) = [] := by
        apply List.filter_eq_nil_iff.mpr
        intro other inside same
        exact absent (List.mem_map.mpr ⟨other, inside, of_decide_eq_true same⟩)
      simp [others]
    · have apart : first.name ≠ head.name := fun same =>
        absent (List.mem_map.mpr ⟨head, later, same.symm⟩)
      simp [apart, ih tail later]

theorem Program.Declares.filter_headers {program : Program Unit}
    {functions : String → Option Signature} (declares : program.Declares functions) {name : String}
    {sig : Signature} (known : functions name = some sig) :
    ∃ head, program.headers.filter (·.name = name) = [head] ∧ head.signature = sig := by
  obtain ⟨head, member, rfl, same⟩ := (declares.signature_iff name sig).mp known
  exact ⟨head, Header.filter_eq_singleton declares.distinct member, same⟩

def Header.Compatible (heads : List Header) : Prop :=
  (heads.map Header.name).Nodup ∧ printName ∉ heads.map Header.name

/-- The header is the first one that does not fit to those before it. -/
def Header.FirstRefused (heads : List Header) (head : Header) : Prop :=
  ∃ before later, heads = before ++ head :: later ∧ Header.Compatible before ∧
    (head.name = printName ∨ head.name ∈ before.map Header.name)

namespace Functions

variable {functions table : Functions}

theorem declare_eq (functions : Functions) (head : Header) :
    functions.declare head = do
      Outcome.write (.hoist head.name head.signature)
      Outcome.require (head.name ≠ printName ∧ functions.get? head.name = none)
        (.duplicateFunction head.name)
      return functions.insert head.name head.signature := by
  rw [declare, NameTable.exchange_eq]

theorem result_declare (functions : Functions) (head : Header) :
    (functions.declare head).result =
      if head.name ≠ printName ∧ functions.get? head.name = none then
        .ok (functions.insert head.name head.signature)
      else .error (.duplicateFunction head.name) := by
  rw [declare_eq]
  simp only [Outcome.result_bind, Outcome.result_write, Except.ok_bind, Outcome.result_require]
  split <;> rfl

theorem declare_eq_ok_iff {head : Header} :
    (functions.declare head).result = .ok table ↔
      (head.name ≠ printName ∧ functions.get? head.name = none) ∧
        table = functions.insert head.name head.signature := by
  rw [result_declare]
  split
  · next free => simp [free, eq_comm]
  · next taken => simp [taken]

theorem foldlM_declare_eq_ok_iff (heads : List Header) :
    (heads.foldlM declare functions).result = .ok table ↔
      (∀ head ∈ heads, head.name ≠ printName ∧ functions.get? head.name = none) ∧
        (heads.map Header.name).Nodup ∧ table = functions.insertAll (heads.map Header.entry) := by
  induction heads generalizing functions with
  | nil => simp [NameTable.insertAll, eq_comm]
  | cons head rest ih =>
    -- the induction is over any table, as each header narrows what is free for the rest
    have free : ∀ other : Header,
        (functions.insert head.name head.signature).get? other.name = none ↔
          other.name ≠ head.name ∧ functions.get? other.name = none := by
      intro other
      rw [NameTable.get?_insert]
      by_cases same : other.name = head.name <;> simp [same]
    have step : functions.insertAll ((head :: rest).map Header.entry) =
        (functions.insert head.name head.signature).insertAll (rest.map Header.entry) := rfl
    rw [List.foldlM_cons, Outcome.result_bind, Except.bind_eq_ok_iff, step, List.forall_mem_cons,
      List.map_cons, List.nodup_cons]
    constructor
    · intro added
      obtain ⟨_, first, others⟩ := added
      obtain ⟨unused, rfl⟩ := declare_eq_ok_iff.mp first
      obtain ⟨allowed, distinct, built⟩ := ih.mp others
      refine ⟨⟨unused, ?_⟩, ⟨?_, distinct⟩, built⟩
      · intro other member
        exact ⟨(allowed other member).1, ((free other).mp (allowed other member).2).2⟩
      · intro member
        obtain ⟨other, inside, same⟩ := List.mem_map.mp member
        exact ((free other).mp (allowed other inside).2).1 same
    · intro allowed
      obtain ⟨⟨unused, others⟩, ⟨apart, distinct⟩, built⟩ := allowed
      refine ⟨_, declare_eq_ok_iff.mpr ⟨unused, rfl⟩, ih.mpr ⟨?_, distinct, built⟩⟩
      intro other member
      refine ⟨(others other member).1, (free other).mpr ⟨?_, (others other member).2⟩⟩
      intro same
      exact apart (List.mem_map.mpr ⟨other, member, same⟩)

theorem foldlM_declare_eq_error_split (heads : List Header) {v : Violation}
    (stopped : (heads.foldlM declare functions).result = .error v) :
    ∃ before head later table, heads = before ++ head :: later ∧
      (before.foldlM declare functions).result = .ok table ∧
      (head.name = printName ∨ table.get? head.name ≠ none) ∧ v = .duplicateFunction head.name := by
  induction heads generalizing functions with
  | nil => cases stopped
  | cons head rest ih =>
    rw [List.foldlM_cons, Outcome.result_bind, result_declare] at stopped
    split at stopped
    · next free =>
      obtain ⟨before, other, later, table, rfl, declared, taken⟩ := ih stopped
      refine ⟨head :: before, other, later, table, rfl, ?_, taken⟩
      rw [List.foldlM_cons, Outcome.result_bind, declare_eq_ok_iff.mpr ⟨free, rfl⟩]
      exact declared
    · next refused =>
      cases stopped
      refine ⟨[], head, rest, functions, rfl, rfl, ?_, rfl⟩
      by_cases reserved : head.name = printName
      · exact .inl reserved
      · exact .inr fun free => refused ⟨reserved, free⟩

theorem foldlM_declare_eq_error (heads : List Header) {v : Violation}
    (stopped : (heads.foldlM declare functions).result = .error v) :
    ∃ head ∈ heads, v = .duplicateFunction head.name := by
  obtain ⟨before, head, later, _, rfl, -, -, same⟩ := foldlM_declare_eq_error_split heads stopped
  exact ⟨head, List.mem_append_right _ List.mem_cons_self, same⟩

theorem ofHeaders_eq_ok_iff {heads : List Header} :
    (ofHeaders heads).result = .ok table ↔
      Header.Compatible heads ∧ table = NameTable.insertAll ∅ (heads.map Header.entry) := by
  unfold ofHeaders Header.Compatible
  rw [foldlM_declare_eq_ok_iff]
  simp only [NameTable.get?_empty, and_true, List.mem_map, not_exists, not_and, and_assoc]
  exact and_left_comm

end Functions

namespace Program

variable {program : Program Unit} {functions : Functions}

theorem functions_eq_ok_iff :
    program.functions.result = .ok functions ↔
      (program.headers.map Header.name).Nodup ∧ printName ∉ program.headers.map Header.name ∧
        functions = NameTable.insertAll ∅ (program.headers.map Header.entry) :=
  Functions.ofHeaders_eq_ok_iff.trans and_assoc

theorem get?_entries_eq_some_iff {heads : List Header} (distinct : (heads.map Header.name).Nodup)
    (name : String) (sig : Signature) :
    (NameTable.insertAll ∅ (heads.map Header.entry)).get? name = some sig ↔
      ∃ head ∈ heads, head.name = name ∧ head.signature = sig := by
  have keys : (heads.map Header.entry).map Prod.fst = heads.map Header.name := by
    rw [List.map_map]
    rfl
  have reversed : ((heads.map Header.entry).reverse.map Prod.fst).Nodup := by
    rw [List.map_reverse, keys]
    exact List.nodup_reverse.mpr distinct
  rw [NameTable.get?_insertAll, NameTable.get?_empty, Option.or_none,
    NameTable.lookup_eq_some_iff_mem reversed, List.mem_reverse, List.mem_map]
  simp only [Header.entry, Prod.mk.injEq]

theorem get?_entries_ne_none_iff {heads : List Header} (distinct : (heads.map Header.name).Nodup)
    (name : String) :
    (NameTable.insertAll ∅ (heads.map Header.entry)).get? name ≠ none ↔
      name ∈ heads.map Header.name := by
  simp only [Option.ne_none_iff_exists', get?_entries_eq_some_iff distinct, List.mem_map]
  constructor
  · intro known
    obtain ⟨sig, head, member, named, -⟩ := known
    exact ⟨head, member, named⟩
  · intro declared
    obtain ⟨head, member, named⟩ := declared
    exact ⟨head.signature, head, member, named, rfl⟩

theorem functions_eq_error_iff {v : Violation} :
    program.functions.result = .error v ↔
      ∃ head, Header.FirstRefused program.headers head ∧ v = .duplicateFunction head.name := by
  constructor
  · intro stopped
    obtain ⟨before, head, later, table, split, declared, taken, rfl⟩ :=
      Functions.foldlM_declare_eq_error_split program.headers stopped
    obtain ⟨fits, rfl⟩ := Functions.ofHeaders_eq_ok_iff.mp declared
    refine ⟨head, ⟨before, later, split, fits, ?_⟩, rfl⟩
    exact taken.imp_right (get?_entries_ne_none_iff fits.1 head.name).mp
  · intro refused
    obtain ⟨head, ⟨before, later, split, fits, taken⟩, rfl⟩ := refused
    have declared := Functions.ofHeaders_eq_ok_iff.mpr ⟨fits, rfl⟩
    have closed : ¬ (head.name ≠ printName ∧
        (NameTable.insertAll ∅ (before.map Header.entry)).get? head.name = none) := by
      intro free
      rcases taken with reserved | repeated
      · exact free.1 reserved
      · exact (get?_entries_ne_none_iff fits.1 head.name).mpr repeated free.2
    unfold Functions.ofHeaders at declared
    rw [Program.functions, Functions.ofHeaders, split, List.foldlM_append, Outcome.result_bind,
      declared, Except.ok_bind, List.foldlM_cons, Outcome.result_bind, Functions.result_declare,
      if_neg closed, Except.error_bind]

theorem functions_eq_ok_iff_declares :
    program.functions.result = .ok functions ↔ program.Declares functions.get? := by
  rw [functions_eq_ok_iff]
  constructor
  · intro collected
    obtain ⟨distinct, unreserved, rfl⟩ := collected
    exact ⟨distinct, unreserved, get?_entries_eq_some_iff distinct⟩
  · intro declares
    refine ⟨declares.distinct, declares.unreserved, NameTable.ext_get? ?_⟩
    intro name
    apply Option.ext
    intro sig
    rw [declares.signature_iff, get?_entries_eq_some_iff declares.distinct]

theorem functions_eq_ok_of_perm {other : Program Unit} (perm : program.headers.Perm other.headers)
    (collected : program.functions.result = .ok functions) :
    other.functions.result = .ok functions := by
  have declares := functions_eq_ok_iff_declares.mp collected
  have names := perm.map Header.name
  apply functions_eq_ok_iff_declares.mpr
  refine ⟨names.nodup_iff.mp declares.distinct, ?_, ?_⟩
  · rw [← names.mem_iff]
    exact declares.unreserved
  · intro name sig
    simp only [declares.signature_iff, perm.mem_iff]

end Program

end ScriptCheck
