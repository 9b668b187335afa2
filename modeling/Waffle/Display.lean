/-
`display.rs`: `FunctionBodyDisplay::fmt` and `ModuleDisplay::fmt` as they
compute, in `PrintM`. A Rust `for` is a `List.forM`, `?` a bind, an index or an
`unwrap` an `expect`, `unreachable!()` a panic, and `writeln!(f, "{}", x)` of
a `Display` value runs `x.fmt` on the same formatter and then writes the line
break. The body printer is cut at its loops: one line of the value pre-pass,
one block, one instruction; lines of one shape share their text function.
-/
import Waffle.Formatter

namespace Waffle

variable {Ty Op Term σ : Type} [ToString Ty] [ToString Op] [ToString Term]

/-- `xs.iter().map(|x| format!("{}", x)).collect::<Vec<_>>().join(", ")`. -/
def joinTexts {α : Type} [ToString α] (xs : List α) : String := ", ".intercalate (xs.map toString)

/-- `{:?}` of an `Option`. -/
def debugOption {α : Type} [ToString α] : Option α → String
  | some a => "Some(" ++ toString a ++ ")"
  | .none => "None"

/-- `FunctionBodyDisplay`. -/
structure FunctionBodyDisplay (Ty Op Term σ : Type) where
  body : FunctionBody Ty Op Term
  indent : String
  verbose : Bool
  module : Option (Module Ty Op Term)
  decorator : Option (PrintDecorator σ)

namespace FunctionBodyDisplay

variable (self : FunctionBodyDisplay Ty Op Term σ)

/-- `function(<argument types>) -> <result types> {`. -/
def header : String :=
  self.indent ++ "function(" ++ joinTexts (self.body.locals.items.take self.body.nParams) ++
    ") -> " ++ joinTexts self.body.rets ++ " \x7b"

/-- A line defining `value`: `<indent>    <value> = <rhs>`. -/
def defLine (value : Value) (rhs : String) : String :=
  self.indent ++ "    " ++ toString value ++ " = " ++ rhs

/-- The right-hand side of a `PickOutput` line, `<src>.<index> # <type>`. -/
def pickOutputRhs (src : Value) (index : Nat) (ty : Ty) : String :=
  toString src ++ "." ++ toString index ++ " # " ++ toString ty

/-- The value pre-pass, for one value. -/
def valueLine (value : Value) : ValueDef Ty Op ListRef → PrintM σ Unit
  | .operator op args tys =>
    if self.verbose then do
      let args ← expect (self.body.argPool.get? args)
      let tys ← expect (self.body.typePool.get? tys)
      writeln (self.defLine value (toString op ++ " " ++ joinTexts args ++ " # " ++ joinTexts tys ++ " "))
    else pure ()
  | .blockParam block idx ty =>
    if self.verbose then
      writeln (self.defLine value
        ("blockparam " ++ toString block ++ ", " ++ toString idx ++ " # " ++ toString ty))
    else pure ()
  | .alias aliasTarget =>
    if self.verbose then writeln (self.defLine value (toString aliasTarget)) else pure ()
  | .pickOutput val idx ty => writeln (self.defLine value (pickOutputRhs val idx ty))
  | .placeholder ty => writeln (self.defLine value ("placeholder # " ++ toString ty))
  | .none => writeln (self.defLine value "none")
  | .trace .. => pure ()

/-- `# <value>: <local>`, when the value has a local. -/
def localLine (value : Value) : PrintM σ Unit :=
  match self.body.valueLocals.get value with
  | some l => writeln (self.indent ++ "    # " ++ toString value ++ ": " ++ toString l)
  | .none => pure ()

/-- The `# preds:` and `# succs:` lines: each block with its description. -/
def edgesLine (label : String) (edges : List Block) : PrintM σ Unit := do
  let texts ← edges.mapM fun b => do
    let data ← expect (self.body.blocks.get? b)
    pure (toString b ++ " (" ++ data.desc ++ ")")
  writeln (self.indent ++ "    # " ++ label ++ ": " ++ ", ".intercalate texts)

/-- The `@<loc> <file>:<line>:<col>` of an operator's line: empty unless the location
is valid and a module is given. -/
def locText (inst : Value) : PrintM σ String := do
  let loc := self.body.sourceLocs.get inst
  if loc != Handle.invalid && self.module.isSome then
    let module ← expect self.module
    let data ← expect (module.debug.sourceLocs.get? loc)
    let filename ← expect (module.debug.sourceFiles.get? data.file)
    pure ("@" ++ toString loc ++ " " ++ filename ++ ":" ++ toString data.line ++ ":" ++
      toString data.col)
  else pure ""

/-- One instruction of a block. -/
def instLine (inst : Value) : PrintM σ Unit := do
  self.localLine inst
  match ← expect (self.body.values.get? inst) with
  | .operator op args tys =>
    let args ← expect (self.body.argPool.get? args)
    let tys ← expect (self.body.typePool.get? tys)
    let loc ← self.locText inst
    write (self.defLine inst
      (toString op ++ " " ++ joinTexts args ++ " # " ++ joinTexts tys ++ " " ++ loc ++ " "))
    callHook self.decorator (.afterInst inst)
    writeln ""
  | .pickOutput val idx ty => writeln (self.defLine inst (pickOutputRhs val idx ty))
  | .alias val => writeln (self.defLine inst (toString val))
  | _ => throw .panic

/-- One block: its line, edges, locals, instructions and terminator. -/
def blockLines (blockId : Block) (block : BlockDef Ty Term) : PrintM σ Unit := do
  writeln (self.indent ++ "  " ++ toString blockId ++ "(" ++
    ", ".intercalate (block.params.map fun p => toString p.2 ++ ": " ++ toString p.1) ++
    "): # " ++ block.desc)
  callHook self.decorator (.beforeBlock blockId)
  self.edgesLine "preds" block.preds
  self.edgesLine "succs" block.succs
  block.params.forM fun p => self.localLine p.2
  block.insts.forM self.instLine
  callHook self.decorator (.afterBlock blockId)
  writeln (self.indent ++ "    " ++ toString block.terminator)

/-- `FunctionBodyDisplay::fmt`. -/
def fmt : PrintM σ Unit := do
  writeln self.header
  callHook self.decorator .beforeFunctionBody
  self.body.values.entries.forM fun e => self.valueLine e.1 e.2
  self.body.blocks.entries.forM fun e => self.blockLines e.1 e.2
  callHook self.decorator .afterFunctionBody
  writeln (self.indent ++ "\x7d")

end FunctionBodyDisplay

/-- Modelled from the spec: `FunctionBody::display(indent, module)`, the body printed
without the pre-pass and with no decorator (§6.1). -/
def FunctionBody.display (body : FunctionBody Ty Op Term) (indent : String)
    (module : Option (Module Ty Op Term)) : FunctionBodyDisplay Ty Op Term σ :=
  ⟨body, indent, false, module, .none⟩

/-- Modelled from the spec: `FunctionBody::display_verbose(indent, module, decorator)`
(§6.1). -/
def FunctionBody.displayVerbose (body : FunctionBody Ty Op Term) (indent : String)
    (module : Option (Module Ty Op Term)) (decorator : PrintDecorator σ) :
    FunctionBodyDisplay Ty Op Term σ :=
  ⟨body, indent, true, module, some decorator⟩

/-- `HashMap::insert` on a map kept as its list of entries: the key's old entry, if any,
is replaced. `List.lookup` is `HashMap::get`. -/
def mapInsert {α β : Type} [DecidableEq α] (m : List (α × β)) (k : α) (v : β) : List (α × β) :=
  (k, v) :: m.filter fun e => e.1 ≠ k

theorem lookup_filter_ne {α β : Type} [DecidableEq α] {a k : α} (h : a ≠ k) :
    ∀ m : List (α × β), (m.filter fun e => e.1 ≠ k).lookup a = m.lookup a
  | [] => rfl
  | (b, w) :: m => by
    have ih := lookup_filter_ne h m
    by_cases hb : b = k
    · subst hb
      rw [List.filter_cons_of_neg (by simp), ih]
      simp [List.lookup_cons, beq_false_of_ne h]
    · rw [List.filter_cons_of_pos (by simpa using hb)]
      simp only [List.lookup_cons, ih]

@[simp] theorem lookup_mapInsert {α β : Type} [DecidableEq α] (m : List (α × β)) (k a : α) (v : β) :
    (mapInsert m k v).lookup a = if a = k then some v else m.lookup a := by
  by_cases h : a = k
  · simp [mapInsert, List.lookup_cons, h]
  · simp only [mapInsert, List.lookup_cons, beq_false_of_ne h, if_neg h, lookup_filter_ne h m]

/-- `ModuleDisplay`: a module, and a decorator per function. -/
structure ModuleDisplay (Ty Op Term σ : Type) where
  module : Module Ty Op Term
  decorators : Option (List (Func × PrintDecorator σ))

namespace ModuleDisplay

variable (self : ModuleDisplay Ty Op Term σ)

/-- A signature's text, `<params> -> <returns>`. -/
def sigStr (d : SignatureData Ty) : String := joinTexts d.params ++ " -> " ++ joinTexts d.returns

/-- `sig_strs`, the map the signature loop fills: each signature's text inserted under
its handle, one signature after another. -/
def sigStrs : List (Signature × String) :=
  self.module.signatures.entries.foldl (fun m e => mapInsert m e.1 (sigStr e.2)) []

/-- A table's line, and a line per element when it lists its functions. -/
def tableLines (table : Table) (data : TableData Ty) : PrintM σ Unit := do
  writeln ("  " ++ toString table ++ ": " ++ toString data.ty)
  match data.funcElements with
  | some funcs =>
    funcs.enum.forM fun p =>
      writeln ("    " ++ toString table ++ "[" ++ toString p.1 ++ "]: " ++ toString p.2)
  | .none => pure ()

/-- A memory's line, and a line per data segment. -/
def memoryLines (memory : Memory) (data : MemoryData) : PrintM σ Unit := do
  writeln ("  " ++ toString memory ++ ": initial " ++ toString data.initialPages ++ " max " ++
    debugOption data.maximumPages)
  data.segments.forM fun seg => writeln ("    " ++ toString memory ++ " offset " ++
    toString seg.offset ++ ": # " ++ toString seg.data.length ++ " bytes")

/-- A function's line, `  <func> "<name>": <sig><sep><sig text>`: `sep` is ` = # ` for a
function with a body, bytes or compiled code, ` # ` for an import. -/
def funcHeader (func : Func) (name : String) (sig : Signature) (sep : String) : PrintM σ Unit := do
  let s ← expect (self.sigStrs.lookup sig)
  writeln ("  " ++ toString func ++ " \"" ++ name ++ "\": " ++ toString sig ++ sep ++ s)

/-- The arm of the function loop for one function. -/
def funcLines (func : Func) : FuncDecl Ty Op Term → PrintM σ Unit
  | .body sig name body => do
    self.funcHeader func name sig " = # "
    (body.display "    " (some self.module) : FunctionBodyDisplay Ty Op Term σ).fmt
    writeln ""
  | .lazy sig name range => do
    self.funcHeader func name sig " = # "
    writeln ("  # raw bytes (length " ++ toString (range.2 - range.1) ++ ")")
  | .compiled sig name => do
    self.funcHeader func name sig " = # "
    writeln "  # already compiled"
  | .import sig name => self.funcHeader func name sig " # "
  | .none => writeln ("  " ++ toString func ++ ": none")

/-- `ModuleDisplay::fmt`. The loop over signatures also fills `sig_strs`; its inserts
cannot fail, and are gathered in `sigStrs`. -/
def fmt : PrintM σ Unit := do
  writeln "module \x7b"
  match self.module.startFunc with
  | some func => writeln ("    start = " ++ toString func)
  | .none => pure ()
  self.module.signatures.entries.forM fun e => writeln ("  " ++ toString e.1 ++ ": " ++ sigStr e.2)
  self.module.globals.entries.forM fun e =>
    writeln ("  " ++ toString e.1 ++ ": " ++ debugOption e.2.value ++ " # " ++ toString e.2.ty)
  self.module.tables.entries.forM fun e => tableLines e.1 e.2
  self.module.memories.entries.forM fun e => memoryLines e.1 e.2
  self.module.imports.forM fun imp =>
    writeln ("  import \"" ++ imp.module ++ "\".\"" ++ imp.name ++ "\": " ++ toString imp.kind)
  self.module.exports.forM fun exp =>
    writeln ("  export \"" ++ exp.name ++ "\": " ++ toString exp.kind)
  self.module.funcs.entries.forM fun e => self.funcLines e.1 e.2
  self.module.debug.sourceLocs.entries.forM fun e =>
    writeln ("  " ++ toString e.1 ++ " = " ++ toString e.2.file ++ " line " ++ toString e.2.line ++
      " column " ++ toString e.2.col)
  self.module.debug.sourceFiles.entries.forM fun e =>
    writeln ("  " ++ toString e.1 ++ " = \"" ++ e.2 ++ "\"")
  writeln "\x7d"

end ModuleDisplay

end Waffle
