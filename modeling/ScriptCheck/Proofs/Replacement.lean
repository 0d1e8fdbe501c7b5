import ScriptCheck.Proofs.Erasure

/-! A part of an expression can be replaced by another of the same type. The nodes around it take
nothing from its check but its type, so they stop at the same violation or get the same labels. -/

namespace ScriptCheck

variable {α : Type}

/-- A node of an expression with one of its parts left out. -/
inductive Frame (α : Type) where
  | left (op : String) (other : Expr α) (label : α)
  | right (op : String) (other : Expr α) (label : α)
  | argument (name : String) (before later : List (Expr α)) (label : α)

namespace Frame

def plug : Frame α → Expr α → Expr α
  | .left op other a, e => .binary op e other a
  | .right op other a, e => .binary op other e a
  | .argument name before later a, e => .call name (before ++ e :: later) a

def erase : Frame α → Frame Unit
  | .left op other _ => .left op other.erase ()
  | .right op other _ => .right op other.erase ()
  | .argument name before later _ => .argument name (Expr.eraseAll before) (Expr.eraseAll later) ()

/-- An expression with a place left out is given by the nodes on the way to that place, the outermost
first; this puts a part into the place. -/
def fill (frames : List (Frame α)) (e : Expr α) : Expr α :=
  frames.foldr plug e

def DifferAt (rel : Expr Ty → Expr Ty → Prop) (before later : List (Expr Unit))
    (ts us : List (Expr Ty)) : Prop :=
  ∃ typedBefore t u typedLater, Expr.eraseAll typedBefore = before ∧
    Expr.eraseAll typedLater = later ∧ rel t u ∧
    ts = typedBefore ++ t :: typedLater ∧ us = typedBefore ++ u :: typedLater

def DifferIn (rel : Expr Ty → Expr Ty → Prop) (frame : Frame Unit) (w₁ w₂ : Expr Ty) : Prop :=
  ∃ (typed : Frame Ty) (t u : Expr Ty), typed.erase = frame ∧ rel t u ∧
    w₁ = typed.plug t ∧ w₂ = typed.plug u

def DifferBy (t₁ t₂ : Expr Ty) (frames : List (Frame Unit)) (w₁ w₂ : Expr Ty) : Prop :=
  ∃ typed : List (Frame Ty), typed.map erase = frames ∧ w₁ = fill typed t₁ ∧ w₂ = fill typed t₂

theorem ty_fill (frames : List (Frame Ty)) {t u : Expr Ty} (same : t.ty = u.ty) :
    (fill frames t).ty = (fill frames u).ty := by
  cases frames with
  | nil => exact same
  | cons frame rest => cases frame <;> rfl

end Frame

namespace Context

variable {ctx : Context} {rel : Expr Ty → Expr Ty → Prop} {e₁ e₂ : Expr Unit}

theorem annotateArgs_alike (sameTy : ∀ t u, rel t u → t.ty = u.ty)
    (inner : Alike id rel (ctx.annotateExpr e₁).result (ctx.annotateExpr e₂).result)
    (later : List (Expr Unit)) (name : String) (before : List (Expr Unit)) (position : Nat)
    (params : List Ty) (count : (before ++ e₁ :: later).length = params.length) :
    Alike id (Frame.DifferAt rel before later)
      (ctx.annotateArgs name position (before ++ e₁ :: later) params).result
      (ctx.annotateArgs name position (before ++ e₂ :: later) params).result := by
  induction before generalizing position params with
  | nil =>
    cases params with
    | nil => cases count
    | cons expected params =>
      simp only [List.nil_append, annotateArgs, Outcome.result_bind]
      apply Alike.bind inner
      intro t u related
      rw [sameTy t u related]
      apply Alike.bind_same
      intro _ _
      apply Alike.bind_same
      intro typedLater passed
      have bare : Expr.eraseAll typedLater = later :=
        eraseAll_of_ok later (annotateArgs_forall₂ (Nat.succ.inj count) passed)
      exact .ok ⟨[], t, u, typedLater, rfl, bare, related, rfl, rfl⟩
  | cons arg before ih =>
    cases params with
    | nil => cases count
    | cons expected params =>
      simp only [List.cons_append, annotateArgs, Outcome.result_bind]
      apply Alike.bind_same
      intro a passed
      apply Alike.bind_same
      intro _ _
      apply Alike.bind (ih (position + 1) params (Nat.succ.inj count))
      rintro _ _ ⟨typedBefore, t, u, typedLater, bareBefore, bareLater, related, rfl, rfl⟩
      refine .ok ⟨a :: typedBefore, t, u, typedLater, ?_, bareLater, related, rfl, rfl⟩
      rw [Expr.eraseAll, erase_of_ok arg passed, bareBefore]

theorem print_alike (inner : Alike id rel (ctx.annotateExpr e₁).result (ctx.annotateExpr e₂).result)
    (before later : List (Expr Unit)) (u : Unit) :
    Alike id (Frame.DifferIn rel (.argument printName before later u))
      (ctx.annotateExpr (.call printName (before ++ e₁ :: later) u)).result
      (ctx.annotateExpr (.call printName (before ++ e₂ :: later) u)).result := by
  have lengths : (before ++ e₂ :: later).length = (before ++ e₁ :: later).length := by simp
  rw [annotateExpr, annotateExpr]
  simp only [if_true, Outcome.result_bind, lengths]
  apply Alike.bind_same
  intro _ counted
  -- one argument is all that this function takes, so nothing stands beside the place
  have alone : before = [] ∧ later = [] := by
    have count := Outcome.require_eq_ok_iff.mp counted
    rw [List.length_append, List.length_cons] at count
    constructor
    · exact List.length_eq_zero_iff.mp (by omega)
    · exact List.length_eq_zero_iff.mp (by omega)
  obtain ⟨rfl, rfl⟩ := alone
  simp only [List.nil_append, annotateAll, Outcome.result_bind, Outcome.result_pure, Except.ok_bind,
    bind_assoc]
  apply Alike.bind inner
  intro t w related
  exact .ok ⟨.argument printName [] [] .none, t, w, rfl, related, rfl, rfl⟩

theorem plug_alike (sameTy : ∀ t u, rel t u → t.ty = u.ty)
    (inner : Alike id rel (ctx.annotateExpr e₁).result (ctx.annotateExpr e₂).result)
    (frame : Frame Unit) :
    Alike id (Frame.DifferIn rel frame) (ctx.annotateExpr (frame.plug e₁)).result
      (ctx.annotateExpr (frame.plug e₂)).result := by
  cases frame with
  | left text right u =>
    simp only [Frame.plug, annotateExpr, Outcome.result_bind]
    apply Alike.bind_same
    intro op _
    apply Alike.bind inner
    intro t w related
    rw [sameTy t w related]
    apply Alike.bind_same
    intro r passed
    apply Alike.bind_same
    intro _ _
    refine .ok ⟨.left text r op.resultTy, t, w, ?_, related, rfl, rfl⟩
    rw [Frame.erase, erase_of_ok right passed]
  | right text left u =>
    simp only [Frame.plug, annotateExpr, Outcome.result_bind]
    apply Alike.bind_same
    intro op _
    apply Alike.bind_same
    intro l passed
    apply Alike.bind inner
    intro t w related
    rw [sameTy t w related]
    apply Alike.bind_same
    intro _ _
    refine .ok ⟨.right text l op.resultTy, t, w, ?_, related, rfl, rfl⟩
    rw [Frame.erase, erase_of_ok left passed]
  | argument name before later u =>
    by_cases builtin : name = printName
    · subst builtin
      exact print_alike inner before later u
    · have lengths : (before ++ e₂ :: later).length = (before ++ e₁ :: later).length := by simp
      simp only [Frame.plug, annotateExpr, if_neg builtin, Outcome.result_bind, lengths]
      apply Alike.bind_same
      intro sig _
      apply Alike.bind_same
      intro _ counted
      have count := Outcome.require_eq_ok_iff.mp counted
      apply Alike.bind (annotateArgs_alike sameTy inner later name before 1 sig.params count)
      rintro _ _ ⟨typedBefore, t, w, typedLater, bareBefore, bareLater, related, rfl, rfl⟩
      refine .ok ⟨.argument name typedBefore typedLater sig.ret, t, w, ?_, related, rfl, rfl⟩
      rw [Frame.erase, bareBefore, bareLater]

theorem fill_alike {t₁ t₂ : Expr Ty} (first : (ctx.annotateExpr e₁).result = .ok t₁)
    (second : (ctx.annotateExpr e₂).result = .ok t₂) (same : t₁.ty = t₂.ty)
    (frames : List (Frame Unit)) :
    Alike id (Frame.DifferBy t₁ t₂ frames) (ctx.annotateExpr (Frame.fill frames e₁)).result
      (ctx.annotateExpr (Frame.fill frames e₂)).result := by
  induction frames with
  | nil =>
    simp only [Frame.fill, List.foldr_nil, first, second]
    exact .ok ⟨[], rfl, rfl, rfl⟩
  | cons frame rest ih =>
    -- a node inside hides the types of the parts; with none inside they are the same
    have sameTy : ∀ t u, Frame.DifferBy t₁ t₂ rest t u → t.ty = u.ty := by
      rintro _ _ ⟨typed, -, rfl, rfl⟩
      exact Frame.ty_fill typed same
    apply (plug_alike sameTy ih frame).mono
    rintro _ _ ⟨node, _, _, bare, ⟨typed, bareRest, rfl, rfl⟩, rfl, rfl⟩
    refine ⟨node :: typed, ?_, rfl, rfl⟩
    rw [List.map_cons, bare, bareRest]

/-- Parts of one type can stand for each other anywhere in an expression. With either of them, its
check stops at the same violation, or labels what is around the part in the same way. -/
theorem replace_same_type (ctx : Context) (frames : List (Frame Unit)) (e₁ e₂ : Expr Unit)
    (t₁ t₂ : Expr Ty) (first : (ctx.annotateExpr e₁).result = .ok t₁)
    (second : (ctx.annotateExpr e₂).result = .ok t₂) (same : t₁.ty = t₂.ty) :
    (∃ v, (ctx.annotateExpr (Frame.fill frames e₁)).result = .error v ∧
      (ctx.annotateExpr (Frame.fill frames e₂)).result = .error v) ∨
    ∃ typed : List (Frame Ty), typed.map Frame.erase = frames ∧
      (ctx.annotateExpr (Frame.fill frames e₁)).result = .ok (Frame.fill typed t₁) ∧
      (ctx.annotateExpr (Frame.fill frames e₂)).result = .ok (Frame.fill typed t₂) := by
  rcases (fill_alike first second same frames).error_or_ok with
    failed | ⟨_, _, ⟨typed, bare, rfl, rfl⟩, passed⟩
  · exact .inl failed
  · exact .inr ⟨typed, bare, passed⟩

def sampleCaller : Context :=
  (Context.top (NameTable.insert ∅ "f" ⟨[.int, .bool], .int⟩) ∅ .strict).bind "x" .int

/-- `print(f(x + _, True))`, and the same with its types. -/
def sampleFrames : List (Frame Unit) :=
  [.argument printName [] [] (), .argument "f" [] [.lit (.bool true) ()] (),
    .right "+" (.var "x" ()) ()]

def sampleFramesTyped : List (Frame Ty) :=
  [.argument printName [] [] .none, .argument "f" [] [.lit (.bool true) .bool] .int,
    .right "+" (.var "x" .int) .int]

def sampleFailing : List (Frame Unit) :=
  [.argument "f" [] [.lit .none ()] (), .right ">" (.lit .none ()) ()]

def samplePart : Expr Unit := .binary "-" (.var "x" ()) (.lit (.number 1) ()) ()

def samplePartTyped : Expr Ty := .binary "-" (.var "x" .int) (.lit (.number 1) .int) .int

theorem replace_same_type_sample :
    (sampleCaller.annotateExpr (.var "x" ())).result = .ok (.var "x" .int) ∧
    (sampleCaller.annotateExpr samplePart).result = .ok samplePartTyped ∧
    (sampleCaller.annotateExpr (Frame.fill sampleFrames (.var "x" ()))).result =
      .ok (Frame.fill sampleFramesTyped (.var "x" .int)) ∧
    (∃ typed : List (Frame Ty), typed.map Frame.erase = sampleFrames ∧
      Frame.fill sampleFramesTyped (.var "x" .int) = Frame.fill typed (.var "x" .int) ∧
      (sampleCaller.annotateExpr (Frame.fill sampleFrames samplePart)).result =
        .ok (Frame.fill typed samplePartTyped)) ∧
    (sampleCaller.annotateExpr (Frame.fill sampleFailing samplePart)).result =
      .error (.wrongOperand ">" .int .none) := by
  have first : (sampleCaller.annotateExpr (.var "x" ())).result = .ok (.var "x" .int) := by rfl
  have second : (sampleCaller.annotateExpr samplePart).result = .ok samplePartTyped := by rfl
  have filled : (sampleCaller.annotateExpr (Frame.fill sampleFrames (.var "x" ()))).result =
      .ok (Frame.fill sampleFramesTyped (.var "x" .int)) := by rfl
  have failing : (sampleCaller.annotateExpr (Frame.fill sampleFailing (.var "x" ()))).result =
      .error (.wrongOperand ">" .int .none) := by rfl
  refine ⟨first, second, filled, ?_, ?_⟩
  · rcases replace_same_type sampleCaller sampleFrames _ _ _ _ first second rfl with
      ⟨v, failed, -⟩ | ⟨typed, bare, passed, replaced⟩
    · rw [filled] at failed
      cases failed
    · rw [filled] at passed
      exact ⟨typed, bare, Except.ok.inj passed, replaced⟩
  · rcases replace_same_type sampleCaller sampleFailing _ _ _ _ first second rfl with
      ⟨v, failed, replaced⟩ | ⟨typed, -, passed, -⟩
    · rw [failing] at failed
      rw [replaced, ← failed]
    · rw [failing] at passed
      cases passed

end Context

end ScriptCheck
