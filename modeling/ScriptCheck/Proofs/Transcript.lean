import Mathlib.Data.List.Dedup
import ScriptCheck.Proofs.Duplicates
import ScriptCheck.Proofs.Scoping

/-! The log of an accepted program can be written down from its typed form alone. The types of the
arguments of a call are those of its function's parameters, whether a name was new is seen from the
assignments before, and the numbers at the end are counted in the program. -/

namespace ScriptCheck

abbrev Line := Level × String

def Record.shown (quote : String → String) (r : Record) : Line := (r.level, r.text quote)

def Expr.callLine (name : String) (args : List (Expr Ty)) (ty : Ty) : Line :=
  (.trace, "call " ++ name ++ "(" ++ ", ".intercalate (args.map fun arg => arg.ty.name) ++ ") -> " ++
    ty.name ++ " : " ++ ty.name)

mutual
/-- The lines of an expression: those of its parts, and one of its own. A call of the built-in
function has none. -/
def Expr.lines (quote : String → String) : Expr Ty → List Line
  | .lit value ty => [(.trace, Record.literalText value ++ " : " ++ ty.name)]
  | .var name ty => [(.trace, "Id(" ++ quote name ++ ") : " ++ ty.name)]
  | .binary op left right ty =>
    left.lines quote ++ (right.lines quote ++ [(.trace, "binop " ++ op ++ " : " ++ ty.name)])
  | .call name args ty =>
    Expr.linesAll quote args ++ if name = printName then [] else [Expr.callLine name args ty]

def Expr.linesAll (quote : String → String) : List (Expr Ty) → List Line
  | [] => []
  | e :: rest => e.lines quote ++ Expr.linesAll quote rest
end

mutual
/-- The lines of a statement. `known` are the names assigned to before it; in the body of a function
also its parameters, and what was assigned to before its definition. -/
def Stmt.lines (quote : String → String) (known : List String) : Stmt Ty → List Line
  | .assign name value _ =>
    value.lines quote ++ [if name ∈ known then (.trace, "reassign " ++ name ++ " : " ++ value.ty.name)
      else (.debug, "bind " ++ name ++ " : " ++ value.ty.name)]
  | .define head body _ =>
    (.debug, "checking body of " ++ head.name) ::
      Stmt.linesAll quote (head.params.map Param.name ++ known) body
  | .expr value _ | .ret value _ => value.lines quote
  | .pass _ => []

def Stmt.linesAll (quote : String → String) (known : List String) : List (Stmt Ty) → List Line
  | [] => []
  | s :: rest => s.lines quote known ++ Stmt.linesAll quote (known ++ s.target?.toList) rest
end

namespace Program

def hoistLine (head : Header) : Line :=
  (.debug, "hoist " ++ head.name ++ head.signature.render)

def transcript (quote : String → String) (typed : Program Ty) : List Line :=
  (.debug, "checking program of " ++ toString typed.length ++ " statement(s)") ::
    (typed.headers.map hoistLine ++ (Stmt.linesAll quote [] typed ++
      [(.debug, "program checked: " ++ toString typed.headers.length ++ " function(s), " ++
        toString (Stmt.targets typed).dedup.length ++ " global(s)")]))

end Program

/-- If the check passes, what it writes after the lines in `told` completes the lines of its value. -/
def Outcome.Writes {α : Type} (quote : String → String) (told : List Line) (lines : α → List Line)
    (check : Outcome α) : Prop :=
  ∀ a, check.result = .ok a → told ++ check.log.map (Record.shown quote) = lines a

variable {quote : String → String}

namespace Outcome.Writes

variable {α β : Type} {told : List Line} {lines : β → List Line} {met : α → List Line}

theorem bind {first : Outcome α} {next : α → Outcome β} (head : Writes quote [] met first)
    (tail : ∀ a, first.result = .ok a → Writes quote (told ++ met a) lines (next a)) :
    Writes quote told lines (first >>= next) := by
  intro b done
  rw [result_bind, Except.bind_eq_ok_iff] at done
  obtain ⟨a, passed, rest⟩ := done
  have first_lines : first.log.map (Record.shown quote) = met a := head a passed
  rw [bind_of_ok passed, List.map_append, ← List.append_assoc, first_lines]
  exact tail a passed b rest

theorem later {last : Outcome β} (writes : Writes quote [] lines last) (told : List Line) :
    Writes quote told (fun b => told ++ lines b) last := by
  intro b passed
  exact congrArg (told ++ ·) (writes b passed)

theorem value {b : β} (complete : told = lines b) : Writes quote told lines (pure b) := by
  intro _ passed
  cases passed
  rw [log_pure, List.map_nil, List.append_nil, complete]

theorem record (r : Record) : Writes quote [] (fun _ => [r.shown quote]) (write r) := by
  intro _ _
  rfl

theorem silent {check : Outcome α} (quiet : check.log = []) :
    Writes quote [] (fun _ => []) check := by
  intro _ _
  rw [quiet]
  rfl

theorem result (result : Except Violation α) : Writes quote [] (fun _ => []) (ofExcept result) :=
  silent rfl

theorem condition (holds : Prop) [Decidable holds] (v : Violation) :
    Writes quote [] (fun _ => []) (require holds v) := by
  apply silent
  unfold require
  split <;> rfl

end Outcome.Writes

open Outcome

namespace Context

variable {ctx : Context}

theorem requireOperands_writes (op : Operator) (left right : Ty) :
    Writes quote [] (fun _ => []) (ctx.requireOperands op left right) := by
  unfold requireOperands
  split
  · exact Writes.value rfl
  · apply Writes.bind (Writes.condition _ _)
    intro _ _
    exact Writes.condition _ _

theorem signatureOf_writes (name : String) :
    Writes quote [] (fun _ => []) (ctx.signatureOf name) := by
  apply Writes.silent
  unfold signatureOf
  split <;> rfl

theorem shown_call {name : String} {sig : Signature} {args : List (Expr Ty)}
    (types : args.map Expr.ty = sig.params) :
    (Record.call name sig).shown quote = Expr.callLine name args sig.ret := by
  have names : sig.params.map Ty.name = args.map fun arg => arg.ty.name := by
    rw [← types, List.map_map]
    rfl
  change (Level.trace, "call " ++ name ++ sig.render ++ " : " ++ sig.ret.name) = _
  simp only [Signature.render, Expr.callLine, names, String.append_assoc]

mutual
theorem annotateExpr_writes : ∀ e : Expr Unit,
    Writes quote [] (Expr.lines quote) (ctx.annotateExpr e)
  | .lit value u => by
    rw [annotateExpr]
    apply Writes.bind (Writes.record _)
    intro _ _
    exact Writes.value rfl
  | .var name u => by
    rw [annotateExpr]
    split
    · apply Writes.bind (Writes.record _)
      intro _ _
      exact Writes.value rfl
    · intro _ passed
      cases passed
  | .binary text left right u => by
    rw [annotateExpr]
    apply Writes.bind (Writes.result (Operator.read text))
    intro op read
    obtain rfl := Operator.read_eq_ok_iff.mp read
    apply Writes.bind (annotateExpr_writes left)
    intro l _
    apply Writes.bind (annotateExpr_writes right)
    intro r _
    apply Writes.bind (requireOperands_writes op l.ty r.ty)
    intro _ _
    apply Writes.bind (Writes.record _)
    intro _ _
    apply Writes.value
    simp only [Expr.lines, List.nil_append, List.append_nil, List.append_assoc]
    rfl
  | .call name args u => by
    rw [annotateExpr]
    by_cases builtin : name = printName
    · rw [if_pos builtin]
      apply Writes.bind (Writes.condition _ _)
      intro _ _
      apply Writes.bind (annotateAll_writes args)
      intro typed _
      apply Writes.value
      simp only [Expr.lines, if_pos builtin, List.nil_append, List.append_nil]
    · rw [if_neg builtin]
      apply Writes.bind (signatureOf_writes name)
      intro sig _
      apply Writes.bind (Writes.condition _ _)
      intro _ counted
      apply Writes.bind (annotateArgs_writes args name 1 sig.params)
      intro typed passed
      apply Writes.bind (Writes.record _)
      intro _ _
      apply Writes.value
      -- each argument has the type of its parameter, so the signature can be read off the call
      have types := map_ty_of_ok (Outcome.require_eq_ok_iff.mp counted) passed
      simp only [Expr.lines, if_neg builtin, shown_call types, List.nil_append]

theorem annotateAll_writes : ∀ args : List (Expr Unit),
    Writes quote [] (Expr.linesAll quote) (ctx.annotateAll args)
  | [] => Writes.value rfl
  | arg :: args => by
    rw [annotateAll]
    apply Writes.bind (annotateExpr_writes arg)
    intro a _
    apply Writes.bind (annotateAll_writes args)
    intro rest _
    apply Writes.value
    simp [Expr.linesAll]

theorem annotateArgs_writes : ∀ (args : List (Expr Unit)) (name : String) (position : Nat)
    (params : List Ty),
    Writes quote [] (Expr.linesAll quote) (ctx.annotateArgs name position args params)
  | [], name, position, params => Writes.value rfl
  | arg :: args, name, position, [] => Writes.value rfl
  | arg :: args, name, position, expected :: params => by
    rw [annotateArgs]
    apply Writes.bind (annotateExpr_writes arg)
    intro a _
    apply Writes.bind (Writes.condition _ _)
    intro _ _
    apply Writes.bind (annotateArgs_writes args name (position + 1) params)
    intro rest _
    apply Writes.value
    simp [Expr.linesAll]
end

variable {known : List String}

theorem has_after (has : ctx.scope.Has known) (t : Stmt Ty) :
    (ctx.after t).scope.Has (known ++ t.target?.toList) := by
  intro name
  rw [get?_after, List.mem_append, ← has name, Option.mem_toList, ← Stmt.assigns_ne_none_iff, ne_eq,
    Option.or_eq_none_iff, not_and_or]

theorem assign_writes (has : ctx.scope.Has known) (name : String) (ty : Ty) :
    Writes quote [] (fun _ => [if name ∈ known then (.trace, "reassign " ++ name ++ " : " ++ ty.name)
      else (.debug, "bind " ++ name ++ " : " ++ ty.name)]) (Check.assign name ty ctx).toOutcome := by
  unfold Check.assign
  cases held : ctx.scope.get? name with
  | none =>
    have new : name ∉ known := fun old => (has name).mpr old held
    rw [if_neg new]
    exact Writes.record _
  | some expected =>
    have old : name ∈ known := (has name).mp (Option.ne_none_iff_exists'.mpr ⟨expected, held⟩)
    rw [if_pos old]
    apply Writes.bind (Writes.condition _ _)
    intro _ _
    exact Writes.record _

end Context

mutual
theorem Stmt.annotate_writes : ∀ (s : Stmt Unit) {ctx : Context} {known : List String},
    ctx.scope.Has known → Writes quote [] (Stmt.lines quote known) (s.annotate ctx).toOutcome
  | .assign name value u, ctx, known, has => by
    rw [Stmt.outcome_assign]
    apply Writes.bind (Context.annotateExpr_writes value)
    intro v _
    apply Writes.bind (Context.assign_writes has name v.ty)
    intro _ _
    apply Writes.value
    simp [Stmt.lines]
  | .define head body u, ctx, known, has => by
    rw [Stmt.outcome_define]
    apply Writes.bind (Writes.condition _ _)
    intro _ _
    apply Writes.bind (Writes.record _)
    intro _ _
    apply Writes.bind (Stmt.annotateAll_writes body (Context.has_inBody has head))
    intro typedBody _
    exact Writes.value rfl
  | .expr value u, ctx, known, has => by
    rw [Stmt.outcome_expr]
    apply Writes.bind (Context.annotateExpr_writes value)
    intro v _
    exact Writes.value rfl
  | .ret value u, ctx, known, has => by
    rw [Stmt.outcome_ret]
    apply Writes.bind (Context.annotateExpr_writes value)
    intro v _
    apply Writes.bind (Writes.condition _ _)
    intro _ _
    apply Writes.value
    simp [Stmt.lines]
  | .pass u, ctx, known, has => by
    rw [Stmt.outcome_pass]
    exact Writes.value rfl

theorem Stmt.annotateAll_writes : ∀ (stmts : List (Stmt Unit)) {ctx : Context}
    {known : List String}, ctx.scope.Has known →
    Writes quote [] (Stmt.linesAll quote known) (Stmt.annotateAll stmts ctx).toOutcome
  | [], ctx, known, has => by
    rw [Stmt.outcome_annotateAll_nil]
    exact Writes.value rfl
  | s :: rest, ctx, known, has => by
    rw [Stmt.outcome_annotateAll_cons]
    apply Writes.bind (Stmt.annotate_writes s has)
    intro t _
    apply Writes.bind (Stmt.annotateAll_writes rest (Context.has_after has t))
    intro ts _
    apply Writes.value
    simp [Stmt.linesAll]
end

theorem Functions.foldlM_declare_writes (heads : List Header) (functions : Functions) :
    Writes quote [] (fun _ => heads.map Program.hoistLine)
      (heads.foldlM Functions.declare functions) := by
  induction heads generalizing functions with
  | nil => exact Writes.value rfl
  | cons head rest ih =>
    rw [List.foldlM_cons]
    have first : Writes quote [] (fun _ => [Program.hoistLine head]) (functions.declare head) := by
      rw [Functions.declare_eq]
      apply Writes.bind (Writes.record _)
      intro _ _
      apply Writes.bind (Writes.condition _ _)
      intro _ _
      exact Writes.value rfl
    apply Writes.bind first
    intro table _
    exact (ih table).later _

namespace Program

variable {program : Program Unit} {typed : Program Ty} {functions : Functions}
  {strictness : Strictness}

def closing (functions : Functions) (run : Step (Program Ty)) : Record :=
  match run.result with
  | .ok _ => .done functions.size run.context.scope.size
  | .error v => .failed v

/-- The log of a program whose functions could be collected: one record at the start, those of the
functions, those of the statements as far as they were checked, and one at the end. -/
theorem log_annotate (collected : program.functions.result = .ok functions) :
    (program.annotate strictness).log = .start program.length :: (program.functions.log ++
      ((Stmt.annotateAll program (.top functions ∅ strictness)).log ++
        [closing functions (Stmt.annotateAll program (.top functions ∅ strictness))])) := by
  unfold annotate closing
  rw [bind_of_ok rfl, bind_of_ok collected]
  dsimp only
  cases checked : (Stmt.annotateAll program (.top functions ∅ strictness)).result with
  | ok typed =>
    rw [onFailure_of_ok checked, bind_of_ok checked]
    rfl
  | error v =>
    rw [onFailure_of_error checked, bind_of_error rfl]
    rfl

theorem size_scope
    (checked : (Stmt.annotateAll program (.top functions ∅ strictness)).result = .ok typed) :
    (Stmt.annotateAll program (.top functions ∅ strictness)).context.scope.size =
      (Stmt.targets typed).dedup.length := by
  have has := Context.has_foldl_after Scope.has_empty checked
  have bare : Stmt.eraseAll typed = program := Stmt.eraseAll_of_ok program checked
  rw [← bare, Stmt.targets_eraseAll, List.nil_append] at has
  rw [Stmt.context_annotateAll_of_ok checked]
  apply NameTable.size_eq_length (List.nodup_dedup _)
  intro name
  rw [List.mem_dedup, has name]

theorem closing_of_ok
    (checked : (Stmt.annotateAll program (.top functions ∅ strictness)).result = .ok typed) :
    closing functions (Stmt.annotateAll program (.top functions ∅ strictness)) =
      .done functions.size (Stmt.targets typed).dedup.length := by
  rw [closing, checked, size_scope checked]

/-- The log of an accepted program is the transcript of its typed form, in whatever way names are
put between quotes. -/
theorem log_eq_transcript (quote : String → String) (strictness : Strictness)
    (program : Program Unit) (typed : Program Ty)
    (accepted : (program.annotate strictness).result = .ok typed) :
    (program.annotate strictness).log.map (Record.shown quote) = typed.transcript quote := by
  have heads : typed.headers = program.headers := by
    rw [← headers_erase, erase_of_ok accepted]
  rw [result_annotate, Except.bind_eq_ok_iff] at accepted
  obtain ⟨functions, collected, checked⟩ := accepted
  have hoisted : program.functions.log.map (Record.shown quote) = typed.headers.map hoistLine := by
    rw [heads]
    exact Functions.foldlM_declare_writes program.headers ∅ functions collected
  have written : (Stmt.annotateAll program (.top functions ∅ strictness)).log.map
      (Record.shown quote) = Stmt.linesAll quote [] typed :=
    Stmt.annotateAll_writes program Scope.has_empty typed checked
  rw [log_annotate collected, closing_of_ok checked, size_functions collected, ← heads,
    ← Stmt.length_of_ok checked, transcript]
  simp only [List.map_cons, List.map_append, List.map_nil, hoisted, written]
  rfl

def sampleLogged : Program Unit :=
  [.assign "x" (.lit (.number 1) ()) (),
    .define ⟨"f", [⟨"a", .int⟩, ⟨"x", .bool⟩], .int⟩
      [.assign "y" (.var "a" ()) (), .assign "x" (.lit (.bool true) ()) (), .ret (.var "y" ()) ()] (),
    .assign "x" (.call "f" [.binary "+" (.var "x" ()) (.lit (.number 2) ()) (),
      .lit (.bool true) ()] ()) (),
    .expr (.call printName [.var "x" ()] ()) ()]

def sampleLoggedTyped : Program Ty :=
  [.assign "x" (.lit (.number 1) .int) .none,
    .define ⟨"f", [⟨"a", .int⟩, ⟨"x", .bool⟩], .int⟩
      [.assign "y" (.var "a" .int) .none, .assign "x" (.lit (.bool true) .bool) .none,
        .ret (.var "y" .int) .int] .none,
    .assign "x" (.call "f" [.binary "+" (.var "x" .int) (.lit (.number 2) .int) .int,
      .lit (.bool true) .bool] .int) .none,
    .expr (.call printName [.var "x" .int] .none) .none]

/-- Enough for names of letters. -/
def sampleQuote (name : String) : String := "\"" ++ name ++ "\""

theorem log_eq_transcript_sample :
    (sampleLogged.annotate .strict).result = .ok sampleLoggedTyped ∧
    (sampleLogged.annotate .strict).log.map (Record.shown sampleQuote) =
      [(.debug, "checking program of 4 statement(s)"),
        (.debug, "hoist f(int, bool) -> int"),
        (.trace, "Number(1) : int"),
        (.debug, "bind x : int"),
        (.debug, "checking body of f"),
        (.trace, "Id(\"a\") : int"),
        (.debug, "bind y : int"),
        (.trace, "Bool(true) : bool"),
        (.trace, "reassign x : bool"),
        (.trace, "Id(\"y\") : int"),
        (.trace, "Id(\"x\") : int"),
        (.trace, "Number(2) : int"),
        (.trace, "binop + : int"),
        (.trace, "Bool(true) : bool"),
        (.trace, "call f(int, bool) -> int : int"),
        (.trace, "reassign x : int"),
        (.trace, "Id(\"x\") : int"),
        (.debug, "program checked: 1 function(s), 1 global(s)")] := by
  have accepted : (sampleLogged.annotate .strict).result = .ok sampleLoggedTyped := by rfl
  refine ⟨accepted, ?_⟩
  rw [log_eq_transcript sampleQuote .strict _ _ accepted]
  decide +kernel

end Program

end ScriptCheck
