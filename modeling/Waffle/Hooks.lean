/-
The decorator's hooks in the body printer: what they add to its output, and
when they run. A hook writes into the same formatter as the printer; deleting
its pieces from a decorated run leaves the undecorated run, and with
`NOPPrintDecorator` the text is the undecorated text
(`FunctionBodyDisplay.fmt_eraseHooks`). The hooks run in the order of
`hooksCalled`: `before_function_body`, then per block `before_block`,
`after_inst` at each operator instruction and `after_block`, then
`after_function_body` (`FunctionBodyDisplay.fmt_hookTrace`). Each hook runs
from the state the hooks before it left (`FunctionBodyDisplay.fmt_drive`), and
what `after_inst` writes lands between its instruction's text and the line
break (`FunctionBodyDisplay.fmt_afterInst_placed`). The projection and alias
arms of the instruction loop write their line without calling `after_inst`.
The module printer prints each body through `FunctionBody::display`, with no
decorator, and each body's dump appears in the module's as
`FunctionBody::display` writes it, after its header line
(`ModuleDisplay.fmt_body_infix`).

A hook's `Err` is passed up by `?` at once: the printer runs the hooks of
`hooksCalled` until one returns `Err`, returns `fmt::Error` exactly when one did,
and writes nothing after that hook's text (`FunctionBodyDisplay.fmt_error`). With
hooks that return `Ok`, `driveUntilErr` is `drive`
(`PrintDecorator.driveUntilErr_of_allOk`), and this is `fmt_drive` again.
-/
import Waffle.WellFormed

namespace Waffle

variable {Ty Op Term σ : Type} [ToString Ty] [ToString Op] [ToString Term]

/-- A decorator that numbers the operator instructions: `after_inst` writes `; #n` and
counts. -/
def countDecorator : PrintDecorator Nat where
  afterInst _ n := ⟨n + 1, "; #" ++ toString n, true⟩

theorem countDecorator_allOk : countDecorator.AllOk := by
  intro h s; cases h <;> rfl

/-- A decorator whose `after_block` writes `!` and returns `Err`. -/
def errDecorator : PrintDecorator Unit where
  afterBlock _ s := ⟨s, "!", false⟩

namespace FunctionBodyDisplay

variable (self : FunctionBodyDisplay Ty Op Term σ)

/-! ## Deleting the hooks' text -/

/-- **The hooks only add text.** With a decorator whose hooks return `Ok`, the decorated
run ends as the undecorated one, and deleting the pieces the hooks wrote leaves the
undecorated output; with `NOPPrintDecorator` the text is the undecorated text. -/
theorem fmt_eraseHooks {d : PrintDecorator σ} (hd : d.AllOk) (s : σ) :
    let decorated := ({ self with decorator := some d } : FunctionBodyDisplay Ty Op Term σ).fmt.exec ⟨[], s⟩
    let nop := ({ self with decorator := some nopPrintDecorator } :
      FunctionBodyDisplay Ty Op Term σ).fmt.exec ⟨[], s⟩
    let plain := ({ self with decorator := .none } : FunctionBodyDisplay Ty Op Term σ).fmt.exec ⟨[], s⟩
    decorated.1 = plain.1 ∧ eraseHooks decorated.2.out = plain.2.out ∧
      nop.1 = plain.1 ∧ render nop.2.out = render plain.2.out := by
  simp only [fmt_eq, plan_decorator]
  exact ⟨(interp_erase hd _ _ _ rfl).1, (interp_erase hd _ _ _ rfl).2,
    (interp_nop_render _ _ _ rfl).1, (interp_nop_render _ _ _ rfl).2⟩

theorem fmt_eraseHooks_count : countDecorator.AllOk ∧
    let self : FunctionBodyDisplay String String String Nat :=
      ⟨sampleBody [⟨1⟩, ⟨2⟩, ⟨4⟩], "", true, .none, .none⟩
    let decorated := ({ self with decorator := some countDecorator } :
      FunctionBodyDisplay String String String Nat).fmt.exec ⟨[], 0⟩
    let nop := ({ self with decorator := some nopPrintDecorator } :
      FunctionBodyDisplay String String String Nat).fmt.exec ⟨[], 0⟩
    let plain := ({ self with decorator := .none } :
      FunctionBodyDisplay String String String Nat).fmt.exec ⟨[], 0⟩
    decorated.1 = plain.1 ∧ eraseHooks decorated.2.out = plain.2.out ∧
      nop.1 = plain.1 ∧ render nop.2.out = render plain.2.out :=
  ⟨countDecorator_allOk, fmt_eraseHooks _ countDecorator_allOk 0⟩

/-! ## The hooks that run -/

/-- Whether `inst` takes the operator arm of the instruction loop, the one arm that
calls `after_inst`. -/
def callsAfterInst (inst : Value) : Bool :=
  match self.body.values.get? inst with
  | some (.operator ..) => true
  | _ => false

/-- The hooks the body printer calls, in order. -/
def hooksCalled : List Hook :=
  .beforeFunctionBody :: (self.body.blocks.entries.flatMap (fun e =>
      .beforeBlock e.1 :: ((e.2.insts.filter self.callsAfterInst).map .afterInst ++
        [.afterBlock e.1])) ++
    [.afterFunctionBody])

@[simp] theorem hook?_line (s : String) : (line s).hook? = .none := rfl

theorem flatMap_ite_singleton {α β : Type} (p : α → Bool) (f : α → β) (xs : List α) :
    xs.flatMap (fun x => if p x then [f x] else []) = (xs.filter p).map f := by
  induction xs with
  | nil => rfl
  | cons x xs ih => cases h : p x <;> simp [List.filter_cons, h, ih]

theorem hooks_withSome {α : Type} (o : Option α) (k : α → List Act)
    (h : ∀ a, (k a).filterMap Act.hook? = []) : (withSome o k).filterMap Act.hook? = [] := by
  cases o <;> simp [withSome, h]

omit [ToString Term] in
theorem hooks_valuePlan (value : Value) (d : ValueDef Ty Op ListRef) :
    (self.valuePlan value d).filterMap Act.hook? = [] := by
  cases d <;> simp only [valuePlan] <;> (try split) <;>
    simp [hooks_withSome]

omit [ToString Ty] [ToString Op] [ToString Term] in
theorem hooks_localPlan (value : Value) : (self.localPlan value).filterMap Act.hook? = [] := by
  unfold localPlan
  cases self.body.valueLocals.get value <;> simp

omit [ToString Ty] [ToString Op] [ToString Term] in
theorem hooks_edgesPlan (label : String) (edges : List Block) :
    (self.edgesPlan label edges).filterMap Act.hook? = [] :=
  hooks_withSome _ _ fun _ => by simp

omit [ToString Term] in
theorem hooks_instPlan (hwf : self.body.WellFormed self.module) (inst : Value) :
    (self.instPlan inst).filterMap Act.hook? =
      if self.callsAfterInst inst then [.afterInst inst] else [] := by
  cases hd : self.body.values.get? inst with
  | none => simp [instPlan, callsAfterInst, hd, withSome, hooks_localPlan]
  | some d =>
    cases d
    case operator =>
      obtain ⟨_, h⟩ := self.instPlan_operator hwf hd
      simp [h, hooks_localPlan, callsAfterInst, hd]
    all_goals simp [instPlan, callsAfterInst, hd, withSome, hooks_localPlan]

theorem hooks_blockPlan (hwf : self.body.WellFormed self.module) (blockId : Block)
    (b : BlockDef Ty Term) :
    (self.blockPlan blockId b).filterMap Act.hook? =
      .beforeBlock blockId :: ((b.insts.filter self.callsAfterInst).map .afterInst ++
        [.afterBlock blockId]) := by
  simp only [blockPlan, List.filterMap_cons, List.filterMap_append, List.filterMap_flatMap,
    hooks_edgesPlan, hooks_localPlan, self.hooks_instPlan hwf, hook?_line, Act.hook?_hook]
  simp [flatMap_ite_singleton]

theorem hooks_plan (hwf : self.body.WellFormed self.module) :
    self.plan.filterMap Act.hook? = self.hooksCalled := by
  simp [plan, hooksCalled, List.filterMap_flatMap, hooks_valuePlan, self.hooks_blockPlan hwf]

/-- **The hooks that run.** On a well-formed body without `Trace` instructions, with a
decorator whose hooks return `Ok`, the printer succeeds and calls `hooksCalled`, in
order: `after_inst` runs at the operator instructions and nowhere else. -/
theorem fmt_hookTrace (hwf : self.body.WellFormed self.module) (htf : self.body.TraceFree)
    {d : PrintDecorator σ} (hd : d.AllOk) (s : σ) :
    let r := ({ self with decorator := some d } : FunctionBodyDisplay Ty Op Term σ).fmt.exec ⟨[], s⟩
    r.1 = .ok () ∧ hookTrace r.2.out = self.hooksCalled := by
  simp only [fmt_eq, plan_decorator]
  obtain ⟨h1, h2⟩ := interp_hookTrace hd _ ⟨[], s⟩ (self.panic_not_mem_plan hwf htf)
  exact ⟨h1, by rw [h2, hooks_plan _ hwf]; rfl⟩

theorem fmt_hookTrace_count :
    let self : FunctionBodyDisplay String String String Nat :=
      ⟨sampleBody [⟨1⟩, ⟨2⟩, ⟨4⟩], "", false, .none, .none⟩
    self.body.WellFormed self.module ∧ self.body.TraceFree ∧ countDecorator.AllOk ∧
      let r := ({ self with decorator := some countDecorator } :
        FunctionBodyDisplay String String String Nat).fmt.exec ⟨[], 0⟩
      r.1 = .ok () ∧ hookTrace r.2.out = self.hooksCalled :=
  ⟨by decide, by decide, countDecorator_allOk,
    fmt_hookTrace _ (by decide) (by decide) countDecorator_allOk 0⟩

/-- The sample body with the call `v1` and its projection `v2` in its block is
well-formed, and the printer calls `after_inst` after `v1` only. -/
theorem fmt_pickOutput_afterInst :
    (sampleBody [⟨1⟩, ⟨2⟩]).WellFormed .none ∧
      hookTrace ((⟨sampleBody [⟨1⟩, ⟨2⟩], "", false, .none, some countDecorator⟩ :
        FunctionBodyDisplay String String String Nat).fmt.exec ⟨[], 0⟩).2.out =
        [.beforeFunctionBody, .beforeBlock ⟨0⟩, .afterInst ⟨1⟩, .afterBlock ⟨0⟩, .afterFunctionBody] :=
  ⟨by decide, by decide⟩

/-! ## The decorator's state and where its text lands -/

/-- **The printer drives the decorator.** On a well-formed body without `Trace`
instructions, with a decorator whose hooks return `Ok`, the printer succeeds, and the
hooks' pieces of its output, each with its text, and the decorator's state after it are
the decorator driven through `hooksCalled`: each hook runs from the state the one before
it left, and the last state is the hooks' transitions folded over `hooksCalled`. -/
theorem fmt_drive (hwf : self.body.WellFormed self.module) (htf : self.body.TraceFree)
    {d : PrintDecorator σ} (hd : d.AllOk) (s : σ) :
    let r := ({ self with decorator := some d } : FunctionBodyDisplay Ty Op Term σ).fmt.exec ⟨[], s⟩
    r.1 = .ok () ∧ (r.2.out.filterMap Piece.hookEntry?, r.2.dec) = d.drive self.hooksCalled s := by
  simp only [fmt_eq, plan_decorator]
  rw [interp_some_exec hd _ _ (self.panic_not_mem_plan hwf htf), ← hooks_plan _ hwf]
  exact ⟨rfl, by simpa using run_drive d _ s (self.panic_not_mem_plan hwf htf)⟩

theorem fmt_drive_count :
    let self : FunctionBodyDisplay String String String Nat :=
      ⟨sampleBody [⟨1⟩, ⟨2⟩, ⟨4⟩], "", false, .none, .none⟩
    self.body.WellFormed self.module ∧ self.body.TraceFree ∧ countDecorator.AllOk ∧
      let r := ({ self with decorator := some countDecorator } :
        FunctionBodyDisplay String String String Nat).fmt.exec ⟨[], 0⟩
      r.1 = .ok () ∧ (r.2.out.filterMap Piece.hookEntry?, r.2.dec) =
        countDecorator.drive self.hooksCalled 0 :=
  ⟨by decide, by decide, countDecorator_allOk,
    fmt_drive _ (by decide) (by decide) countDecorator_allOk 0⟩

/-- An operator instruction's line, hook and line break stand together in the plan. -/
theorem afterInst_infix_plan (hwf : self.body.WellFormed self.module) {b : BlockDef Ty Term}
    (hb : b ∈ self.body.blocks.items) {v : Value} (hv : v ∈ b.insts) {op : Op}
    {args : ListRef Value} {tys : ListRef Ty}
    (hop : self.body.values.get? v = some (.operator op args tys)) :
    ∃ rhs, [.write (self.defLine v rhs), .hook (.afterInst v), line ""] <:+: self.plan := by
  obtain ⟨rhs, hI⟩ := self.instPlan_operator hwf hop
  obtain ⟨i, he⟩ := EntityVec.exists_mem_entries hb
  refine ⟨rhs, ?_⟩
  have hinst : [.write (self.defLine v rhs), .hook (.afterInst v), line ""] <:+: self.instPlan v :=
    hI ▸ List.suffix_append _ _ |>.isInfix
  have hblock : self.instPlan v <:+: self.blockPlan i b :=
    (List.infix_flatMap hv self.instPlan).trans (List.infix_cons (List.infix_cons (List.infix_append _ _ _)))
  exact hinst.trans (hblock.trans ((List.infix_flatMap he fun e => self.blockPlan e.1 e.2).trans
    (List.infix_cons (List.infix_cons (List.infix_append _ _ _)))))

/-- **`after_inst` writes at the end of its line.** On a well-formed body without `Trace`
instructions, with a decorator whose hooks return `Ok`: for every operator instruction
`v` of a block, the output holds `v`'s line, the piece `after_inst(v)` wrote, and the
line break, one after the other. -/
theorem fmt_afterInst_placed (hwf : self.body.WellFormed self.module) (htf : self.body.TraceFree)
    {d : PrintDecorator σ} (hd : d.AllOk) (s : σ) {b : BlockDef Ty Term}
    (hb : b ∈ self.body.blocks.items) {v : Value} (hv : v ∈ b.insts) {op : Op}
    {args : ListRef Value} {tys : ListRef Ty}
    (hop : self.body.values.get? v = some (.operator op args tys)) :
    ∃ rhs t, [.text (self.defLine v rhs), .hook (.afterInst v) t, .text "\n"] <:+:
      (({ self with decorator := some d } : FunctionBodyDisplay Ty Op Term σ).fmt.exec ⟨[], s⟩).2.out := by
  have hp := self.panic_not_mem_plan hwf htf
  obtain ⟨rhs, hinf⟩ := self.afterInst_infix_plan hwf hb hv hop
  obtain ⟨s', hs'⟩ := run_infix d hinf hp s
  simp only [fmt_eq, plan_decorator]
  rw [interp_some_exec hd _ _ hp]
  exact ⟨rhs, _, by simpa [PrintDecorator.run] using hs'⟩

theorem fmt_afterInst_placed_count :
    let self : FunctionBodyDisplay String String String Nat :=
      ⟨sampleBody [⟨1⟩, ⟨2⟩, ⟨4⟩], "", false, .none, .none⟩
    let b : BlockDef String String := ⟨[("i32", ⟨0⟩)], [⟨1⟩, ⟨2⟩, ⟨4⟩], "return v2", [], [], "entry"⟩
    self.body.WellFormed self.module ∧ self.body.TraceFree ∧ countDecorator.AllOk ∧
      b ∈ self.body.blocks.items ∧ (⟨1⟩ : Value) ∈ b.insts ∧
      self.body.values.get? ⟨1⟩ = some (.operator "call fn0" ⟨0⟩ ⟨0⟩) ∧
      ∃ rhs t, [.text (self.defLine ⟨1⟩ rhs), .hook (.afterInst ⟨1⟩) t, .text "\n"] <:+:
        (({ self with decorator := some countDecorator } :
          FunctionBodyDisplay String String String Nat).fmt.exec ⟨[], 0⟩).2.out :=
  ⟨by decide, by decide, countDecorator_allOk, .head _, by decide, rfl,
    fmt_afterInst_placed _ (by decide) (by decide) countDecorator_allOk 0 (.head _) (by decide) rfl⟩

/-! ## A hook's `Err` -/

/-- **A hook's `Err` ends the dump at once.** On a well-formed body without `Trace`
instructions, with any decorator: the printer runs the hooks of `hooksCalled` in order
until one returns `Err`. It returns `fmt::Error` exactly when one did; the hooks' pieces
of its output, each with its text, and the decorator's state after it are those of the
hooks that ran, up to and including the failed one; and after that hook nothing more is
written, so its piece ends the output. -/
theorem fmt_error (hwf : self.body.WellFormed self.module) (htf : self.body.TraceFree)
    (d : PrintDecorator σ) (s : σ) :
    let r := ({ self with decorator := some d } : FunctionBodyDisplay Ty Op Term σ).fmt.exec ⟨[], s⟩
    let q := d.driveUntilErr self.hooksCalled s
    r.1 = (if q.2.2 then .ok () else .error .error) ∧
      (r.2.out.filterMap Piece.hookEntry?, r.2.dec) = (q.1, q.2.1) ∧
      (q.2.2 = false → ∃ h t, r.2.out.getLast? = some (.hook h t) ∧ q.1.getLast? = some (h, t)) := by
  simp only [fmt_eq, plan_decorator, ← hooks_plan _ hwf]
  obtain ⟨ps, hout, h⟩ := interp_driveUntilErr d self.plan ⟨[], s⟩ (self.panic_not_mem_plan hwf htf)
  rw [hout]
  exact h

theorem fmt_error_errDecorator :
    let self : FunctionBodyDisplay String String String Unit :=
      ⟨sampleBody [⟨1⟩, ⟨2⟩, ⟨4⟩], "", false, .none, .none⟩
    self.body.WellFormed self.module ∧ self.body.TraceFree ∧
      let r := ({ self with decorator := some errDecorator } :
        FunctionBodyDisplay String String String Unit).fmt.exec ⟨[], ()⟩
      let q := errDecorator.driveUntilErr self.hooksCalled ()
      r.1 = (if q.2.2 then .ok () else .error .error) ∧
        (r.2.out.filterMap Piece.hookEntry?, r.2.dec) = (q.1, q.2.1) ∧
        (q.2.2 = false → ∃ h t, r.2.out.getLast? = some (.hook h t) ∧ q.1.getLast? = some (h, t)) :=
  ⟨by decide, by decide, fmt_error _ (by decide) (by decide) errDecorator ()⟩

/-- On the sample body, `errDecorator`'s first `after_block` returns `Err`, and no hook
runs after it: `after_function_body` never does. -/
example : errDecorator.driveUntilErr
    (⟨sampleBody [⟨1⟩, ⟨2⟩, ⟨4⟩], "", false, .none, .none⟩ :
      FunctionBodyDisplay String String String Unit).hooksCalled () =
    ([(.beforeFunctionBody, ""), (.beforeBlock ⟨0⟩, ""), (.afterInst ⟨1⟩, ""),
      (.afterBlock ⟨0⟩, "!")], (), false) := by decide

end FunctionBodyDisplay

namespace ModuleDisplay

variable (self : ModuleDisplay Ty Op Term σ)

/-- **The module printer prints each body as `FunctionBody::display` does.** On a module
whose functions' signatures are declared and whose bodies are well-formed and have no
`Trace` instruction, with at most `2^32` signatures: for every `Body` function, the
output holds its header line, naming its signature's own text, then exactly the output
of the body printed by `FunctionBody::display` with indent `"    "` and the module, then
a blank line. -/
theorem fmt_body_infix (hwf : self.module.WellFormed) (htf : self.module.TraceFree)
    (hlen : self.module.signatures.items.length ≤ UInt32.size) (st : PrintState σ) {func : Func}
    {sig : Signature} {name : String} {body : FunctionBody Ty Op Term}
    (hf : (func, .body sig name body) ∈ self.module.funcs.entries) :
    ∃ data, self.module.signatures.get? sig = some data ∧
      .text ("  " ++ toString func ++ " \"" ++ name ++ "\": " ++ toString sig ++ " = # " ++
          sigStr data ++ "\n") ::
        (((body.display "    " (some self.module) : FunctionBodyDisplay Ty Op Term σ).fmt.exec
          ⟨[], st.dec⟩).2.out ++ [.text "\n"]) <:+: (self.fmt.exec st).2.out := by
  have hd := EntityVec.mem_of_mem_entries hf
  have hsig := self.lookup_sigStrs hlen sig
  obtain ⟨data, hdata⟩ : ∃ data, self.module.signatures.get? sig = some data :=
    Option.isSome_iff_exists.mp (by simpa [hsig] using self.isSome_lookup_sigStrs (hwf.sigs _ hd sig rfl))
  have hbp := (body.display "    " (some self.module) : FunctionBodyDisplay Ty Op Term σ).panic_not_mem_plan
    (hwf.bodies _ hd body rfl) (htf _ hd body rfl)
  -- the function's actions stand in the module's plan, in the function loop
  have app : ∀ {x a b : List Act}, x <:+: a → x <:+: a ++ b :=
    fun h => h.trans (List.prefix_append _ _).isInfix
  have hfunc : self.funcPlan func (.body sig name body) <:+: self.plan :=
    List.infix_cons (app (app (app ((List.infix_flatMap hf fun e => self.funcPlan e.1 e.2).trans
      (List.suffix_append _ _).isInfix))))
  refine ⟨data, hdata, ?_⟩
  rw [self.fmt_ok hwf htf]
  refine List.IsInfix.trans ?_ ((List.IsInfix.filterMap Act.piece? hfunc).trans
    (List.suffix_append _ _).isInfix)
  have hdec : (body.display "    " (some self.module) : FunctionBodyDisplay Ty Op Term σ).decorator =
      .none := rfl
  rw [FunctionBodyDisplay.fmt_eq, hdec, interp_none_exec _ _ hbp]
  simp [funcPlan, funcHeaderPlan, hsig, hdata, withSome, String.append_assoc]

theorem fmt_body_infix_sampleModule :
    let self : ModuleDisplay String String String Unit :=
      ⟨sampleModule (sampleBody [⟨1⟩, ⟨2⟩, ⟨4⟩]), .none⟩
    self.module.WellFormed ∧ self.module.TraceFree ∧
      self.module.signatures.items.length ≤ UInt32.size ∧
      ((⟨0⟩ : Func), FuncDecl.body ⟨0⟩ "f" (sampleBody [⟨1⟩, ⟨2⟩, ⟨4⟩])) ∈ self.module.funcs.entries ∧
      ∃ data, self.module.signatures.get? ⟨0⟩ = some data ∧
        .text ("  " ++ toString (⟨0⟩ : Func) ++ " \"" ++ "f" ++ "\": " ++ toString (⟨0⟩ : Signature) ++
            " = # " ++ sigStr data ++ "\n") ::
          ((((sampleBody [⟨1⟩, ⟨2⟩, ⟨4⟩]).display "    " (some self.module) :
            FunctionBodyDisplay String String String Unit).fmt.exec ⟨[], ()⟩).2.out ++ [.text "\n"]) <:+:
          (self.fmt.exec ⟨[], ()⟩).2.out :=
  ⟨by decide, by decide, by decide, .head _,
    fmt_body_infix _ (by decide) (by decide) (by decide) _ (.head _)⟩

/-- The sample module given `countDecorator` for `fn0`: the module printer calls none of
its hooks, where the body printer given that decorator calls five. -/
theorem fmt_decorator_unused :
    hookTrace ((⟨sampleModule (sampleBody [⟨1⟩]), some [(⟨0⟩, countDecorator)]⟩ :
      ModuleDisplay String String String Nat).fmt.exec ⟨[], 0⟩).2.out = [] ∧
    hookTrace ((⟨sampleBody [⟨1⟩], "    ", false, some (sampleModule (sampleBody [⟨1⟩])),
      some countDecorator⟩ : FunctionBodyDisplay String String String Nat).fmt.exec ⟨[], 0⟩).2.out =
      [.beforeFunctionBody, .beforeBlock ⟨0⟩, .afterInst ⟨1⟩, .afterBlock ⟨0⟩, .afterFunctionBody] :=
  ⟨by decide, by decide⟩

end ModuleDisplay

end Waffle
