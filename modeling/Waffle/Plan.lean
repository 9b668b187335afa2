/-
What the printers do, as lists of actions. Each piece of `display.rs`'s
printers has its plan: the writes, hook calls and panics it performs, in
order, computed without running anything; a lookup that fails ends the plan
with a panic (`withSome`). The refinement lemmas say that running a piece is
running its plan (`fmt_eq`, `ModuleDisplay.fmt_eq`), and a plan does not depend
on the decorator: the decorator only decides what `.hook` does when run.
-/
import Waffle.Display

namespace Waffle

variable {Ty Op Term σ : Type} [ToString Ty] [ToString Op] [ToString Term]

/-- `writeln!` as an action. -/
def line (s : String) : Act := .write (s ++ "\n")

@[simp] theorem piece?_line (s : String) : (line s).piece? = some (.text (s ++ "\n")) := rfl

section RunLemmas

variable (dec : Option (PrintDecorator σ))

@[simp] theorem Act.run_line (s : String) : (line s).run dec = writeln s := rfl

@[simp] theorem Act.run_write (s : String) : (Act.write s).run dec = Waffle.write s := rfl

@[simp] theorem Act.run_hook (h : Hook) : (Act.hook h).run dec = callHook dec h := rfl

@[simp] theorem Act.run_panic : (Act.panic).run dec = throw .panic := rfl

theorem expect_bind {α β : Type} (o : Option α) (f : α → Option β) :
    (expect (o >>= f) : PrintM σ β) = expect o >>= fun a => expect (f a) := by
  cases o <;> rfl

@[simp] theorem expect_pure {α : Type} (a : α) : (expect (pure a) : PrintM σ α) = pure a := rfl

theorem expect_map {α β : Type} (o : Option α) (f : α → β) :
    (expect o >>= fun a => pure (f a) : PrintM σ β) = expect (o.map f) := by
  cases o <;> rfl

end RunLemmas

namespace FunctionBodyDisplay

variable (self : FunctionBodyDisplay Ty Op Term σ)

/-- The pre-pass's actions for one value. -/
def valuePlan (value : Value) : ValueDef Ty Op ListRef → List Act
  | .operator op args tys =>
    if self.verbose then
      withSome (self.body.argPool.get? args) fun args =>
        withSome (self.body.typePool.get? tys) fun tys =>
          [line (self.defLine value (toString op ++ " " ++ joinTexts args ++ " # " ++
            joinTexts tys ++ " "))]
    else []
  | .blockParam block idx ty =>
    if self.verbose then
      [line (self.defLine value
        ("blockparam " ++ toString block ++ ", " ++ toString idx ++ " # " ++ toString ty))]
    else []
  | .alias aliasTarget => if self.verbose then [line (self.defLine value (toString aliasTarget))] else []
  | .pickOutput val idx ty => [line (self.defLine value (pickOutputRhs val idx ty))]
  | .placeholder ty => [line (self.defLine value ("placeholder # " ++ toString ty))]
  | .none => [line (self.defLine value "none")]
  | .trace .. => []

def localPlan (value : Value) : List Act :=
  match self.body.valueLocals.get value with
  | some l => [line (self.indent ++ "    # " ++ toString value ++ ": " ++ toString l)]
  | .none => []

def edgesPlan (label : String) (edges : List Block) : List Act :=
  withSome (edges.mapM fun b => (self.body.blocks.get? b).map fun data =>
      toString b ++ " (" ++ data.desc ++ ")") fun texts =>
    [line (self.indent ++ "    # " ++ label ++ ": " ++ ", ".intercalate texts)]

/-- The location text `locText` computes, `none` where it panics. -/
def locString? (inst : Value) : Option String := do
  let loc := self.body.sourceLocs.get inst
  if loc != Handle.invalid && self.module.isSome then
    let module ← self.module
    let data ← module.debug.sourceLocs.get? loc
    let filename ← module.debug.sourceFiles.get? data.file
    pure ("@" ++ toString loc ++ " " ++ filename ++ ":" ++ toString data.line ++ ":" ++
      toString data.col)
  else pure ""

def instPlan (inst : Value) : List Act :=
  self.localPlan inst ++ withSome (self.body.values.get? inst) fun
    | .operator op args tys =>
      withSome (self.body.argPool.get? args) fun args =>
        withSome (self.body.typePool.get? tys) fun tys =>
          withSome (self.locString? inst) fun loc =>
            [.write (self.defLine inst
              (toString op ++ " " ++ joinTexts args ++ " # " ++ joinTexts tys ++ " " ++ loc ++ " ")),
              .hook (.afterInst inst), line ""]
    | .pickOutput val idx ty => [line (self.defLine inst (pickOutputRhs val idx ty))]
    | .alias val => [line (self.defLine inst (toString val))]
    | _ => [.panic]

def blockPlan (blockId : Block) (block : BlockDef Ty Term) : List Act :=
  line (self.indent ++ "  " ++ toString blockId ++ "(" ++
      ", ".intercalate (block.params.map fun p => toString p.2 ++ ": " ++ toString p.1) ++
      "): # " ++ block.desc) ::
    .hook (.beforeBlock blockId) ::
    (self.edgesPlan "preds" block.preds ++ self.edgesPlan "succs" block.succs ++
      block.params.flatMap (fun p => self.localPlan p.2) ++ block.insts.flatMap self.instPlan ++
      [.hook (.afterBlock blockId), line (self.indent ++ "    " ++ toString block.terminator)])

/-- The body printer's actions. -/
def plan : List Act :=
  line self.header :: .hook .beforeFunctionBody ::
    (self.body.values.entries.flatMap (fun e => self.valuePlan e.1 e.2) ++
      self.body.blocks.entries.flatMap (fun e => self.blockPlan e.1 e.2) ++
      [.hook .afterFunctionBody, line (self.indent ++ "\x7d")])

/-! ## Refinement -/

omit [ToString Term] in
theorem valueLine_eq (value : Value) (d : ValueDef Ty Op ListRef) :
    self.valueLine value d = interp self.decorator (self.valuePlan value d) := by
  cases d <;> simp only [valueLine, valuePlan] <;> (try split) <;> simp

omit [ToString Ty] [ToString Op] [ToString Term] in
theorem localLine_eq (value : Value) :
    self.localLine value = interp self.decorator (self.localPlan value) := by
  simp only [localLine, localPlan]
  cases self.body.valueLocals.get value <;> simp

omit [ToString Ty] [ToString Op] [ToString Term] in
theorem edgesLine_eq (label : String) (edges : List Block) :
    self.edgesLine label edges = interp self.decorator (self.edgesPlan label edges) := by
  simp only [edgesLine, edgesPlan, interp_withSome, expect_map, mapM_expect]
  simp

omit [ToString Ty] [ToString Op] [ToString Term] in
theorem locText_eq (inst : Value) : self.locText inst = expect (self.locString? inst) := by
  simp only [locText, locString?, expect_bind, expect_pure, apply_ite expect]

omit [ToString Term] in
theorem instLine_eq (inst : Value) :
    self.instLine inst = interp self.decorator (self.instPlan inst) := by
  simp only [instLine, instPlan, interp_append, localLine_eq, interp_withSome]
  refine congrArg (_ >>= ·) (funext fun _ => congrArg (_ >>= ·) (funext fun d => ?_))
  cases d <;> simp [locText_eq]

theorem blockLines_eq (blockId : Block) (block : BlockDef Ty Term) :
    self.blockLines blockId block = interp self.decorator (self.blockPlan blockId block) := by
  have hi : self.instLine = fun i => interp self.decorator (self.instPlan i) := funext self.instLine_eq
  simp [blockLines, blockPlan, edgesLine_eq, localLine_eq, hi]

/-- **The body printer runs its plan.** -/
theorem fmt_eq : self.fmt = interp self.decorator self.plan := by
  simp [fmt, plan, valueLine_eq, blockLines_eq]

@[simp] theorem plan_decorator (dec : Option (PrintDecorator σ)) :
    ({ self with decorator := dec } : FunctionBodyDisplay Ty Op Term σ).plan = self.plan := rfl

end FunctionBodyDisplay

namespace ModuleDisplay

variable (self : ModuleDisplay Ty Op Term σ)

def funcHeaderPlan (func : Func) (name : String) (sig : Signature) (sep : String) : List Act :=
  withSome (self.sigStrs.lookup sig) fun s =>
    [line ("  " ++ toString func ++ " \"" ++ name ++ "\": " ++ toString sig ++ sep ++ s)]

def tablePlan (table : Table) (data : TableData Ty) : List Act :=
  line ("  " ++ toString table ++ ": " ++ toString data.ty) ::
    match data.funcElements with
    | some funcs => funcs.enum.flatMap fun p =>
      [line ("    " ++ toString table ++ "[" ++ toString p.1 ++ "]: " ++ toString p.2)]
    | .none => []

def memoryPlan (memory : Memory) (data : MemoryData) : List Act :=
  line ("  " ++ toString memory ++ ": initial " ++ toString data.initialPages ++ " max " ++
      debugOption data.maximumPages) ::
    data.segments.flatMap fun seg => [line ("    " ++ toString memory ++ " offset " ++
      toString seg.offset ++ ": # " ++ toString seg.data.length ++ " bytes")]

def funcPlan (func : Func) : FuncDecl Ty Op Term → List Act
  | .body sig name body => self.funcHeaderPlan func name sig " = # " ++
    ((body.display "    " (some self.module) : FunctionBodyDisplay Ty Op Term σ).plan ++ [line ""])
  | .lazy sig name range => self.funcHeaderPlan func name sig " = # " ++
    [line ("  # raw bytes (length " ++ toString (range.2 - range.1) ++ ")")]
  | .compiled sig name => self.funcHeaderPlan func name sig " = # " ++ [line "  # already compiled"]
  | .import sig name => self.funcHeaderPlan func name sig " # "
  | .none => [line ("  " ++ toString func ++ ": none")]

/-- The module printer's actions. -/
def plan : List Act :=
  line "module \x7b" ::
    ((match self.module.startFunc with
      | some func => [line ("    start = " ++ toString func)]
      | .none => []) ++
    self.module.signatures.entries.flatMap (fun e => [line ("  " ++ toString e.1 ++ ": " ++ sigStr e.2)]) ++
    self.module.globals.entries.flatMap (fun e =>
      [line ("  " ++ toString e.1 ++ ": " ++ debugOption e.2.value ++ " # " ++ toString e.2.ty)]) ++
    self.module.tables.entries.flatMap (fun e => tablePlan e.1 e.2) ++
    self.module.memories.entries.flatMap (fun e => memoryPlan e.1 e.2) ++
    self.module.imports.flatMap (fun imp =>
      [line ("  import \"" ++ imp.module ++ "\".\"" ++ imp.name ++ "\": " ++ toString imp.kind)]) ++
    self.module.exports.flatMap (fun exp =>
      [line ("  export \"" ++ exp.name ++ "\": " ++ toString exp.kind)]) ++
    self.module.funcs.entries.flatMap (fun e => self.funcPlan e.1 e.2) ++
    self.module.debug.sourceLocs.entries.flatMap (fun e =>
      [line ("  " ++ toString e.1 ++ " = " ++ toString e.2.file ++ " line " ++ toString e.2.line ++
        " column " ++ toString e.2.col)]) ++
    self.module.debug.sourceFiles.entries.flatMap (fun e =>
      [line ("  " ++ toString e.1 ++ " = \"" ++ e.2 ++ "\"")]) ++
    [line "\x7d"])

theorem funcLines_eq (func : Func) (decl : FuncDecl Ty Op Term) :
    self.funcLines func decl = interp .none (self.funcPlan func decl) := by
  have hh : ∀ name sig sep, self.funcHeader func name sig sep =
      interp .none (self.funcHeaderPlan func name sig sep) := by
    intro name sig sep; simp [funcHeader, funcHeaderPlan]
  cases decl <;> simp [funcLines, funcPlan, hh, FunctionBodyDisplay.fmt_eq, FunctionBody.display]

/-- **The module printer runs its plan**, with no decorator. -/
theorem fmt_eq : self.fmt = interp .none self.plan := by
  have ht : ∀ (t : Table) (d : TableData Ty), tableLines t d = interp (σ := σ) .none (tablePlan t d) := by
    intro t d; cases h : d.funcElements <;> simp [tableLines, tablePlan, h]
  cases h : self.module.startFunc <;> simp [fmt, plan, h, ht, memoryLines, memoryPlan, funcLines_eq]

end ModuleDisplay

end Waffle
