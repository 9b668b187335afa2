/-
The IR the printer reads: blocks, function bodies and the module (§3.5–§3.7
of the spec; the `func` and `module` sources are not among the files, so these
are the fields `display.rs` reads, with the types the spec gives them). The
crate's `Type`, `Operator` and `Terminator` are the parameters `Ty`, `Op` and
`Term`, printed through their `Display` impls.
-/
import Waffle.Value

namespace Waffle

/-- Modelled from the spec: a block (§3.5). -/
structure BlockDef (Ty Term : Type) where
  params : List (Ty × Value)
  insts : List Value
  terminator : Term
  preds : List Block
  succs : List Block
  desc : String

/-- Modelled from the spec: a function body (§3.6). `valueLocals` and `sourceLocs` are
`PerEntity` maps: a value past their entries has no local and the invalid location. -/
structure FunctionBody (Ty Op Term : Type) where
  nParams : Nat
  locals : EntityVec "local" Ty
  rets : List Ty
  values : EntityVec "v" (ValueDef Ty Op ListRef)
  blocks : EntityVec "block" (BlockDef Ty Term)
  argPool : ListPool Value
  typePool : ListPool Ty
  valueLocals : PerEntity "v" (Option Local)
  sourceLocs : PerEntity "v" SourceLoc

structure SignatureData (Ty : Type) where
  params : List Ty
  returns : List Ty

structure GlobalData (Ty : Type) where
  value : Option UInt64
  ty : Ty

structure TableData (Ty : Type) where
  ty : Ty
  funcElements : Option (List Func)

structure MemorySegment where
  offset : Nat
  data : List UInt8

structure MemoryData where
  initialPages : Nat
  maximumPages : Option Nat
  segments : List MemorySegment

/-- Modelled from the spec: what an import or export names, printed as the named
entity's handle (§4.7). -/
inductive ExternKind where
  | table (t : Table)
  | func (f : Func)
  | global (g : Global)
  | memory (m : Memory)

instance : ToString ExternKind where
  toString
    | .table t => toString t
    | .func f => toString f
    | .global g => toString g
    | .memory m => toString m

structure Import where
  module : String
  name : String
  kind : ExternKind

structure Export where
  name : String
  kind : ExternKind

/-- Modelled from the spec: a function slot's state (§3.7). A lazy body is its byte
range; a compiled one is opaque. -/
inductive FuncDecl (Ty Op Term : Type) where
  | import (sig : Signature) (name : String)
  | lazy (sig : Signature) (name : String) (range : Nat × Nat)
  | body (sig : Signature) (name : String) (body : FunctionBody Ty Op Term)
  | compiled (sig : Signature) (name : String)
  | none

/-- Modelled from the spec: `FuncDecl::body()`, the body of a `Body` slot. -/
def FuncDecl.body? {Ty Op Term : Type} : FuncDecl Ty Op Term → Option (FunctionBody Ty Op Term)
  | .body _ _ b => some b
  | _ => .none

structure SourceLocData where
  file : SourceFile
  line : UInt32
  col : UInt32

structure DebugInfo where
  sourceLocs : EntityVec "loc" SourceLocData
  sourceFiles : EntityVec "file" String

/-- Modelled from the spec: a module (§3.3, §4.4). -/
structure Module (Ty Op Term : Type) where
  startFunc : Option Func
  signatures : EntityVec "sig" (SignatureData Ty)
  globals : EntityVec "global" (GlobalData Ty)
  tables : EntityVec "table" (TableData Ty)
  memories : EntityVec "memory" MemoryData
  imports : List Import
  exports : List Export
  funcs : EntityVec "fn" (FuncDecl Ty Op Term)
  debug : DebugInfo

/-! ## A sample -/

/-- A body of one block `block0(v0: i32)`: `v1` is a two-result call on `v0`, `v2` its
first result, `v3` a trace of `v2`, `v4` an alias of `v2`; `insts` is the block's
instruction list. -/
def sampleBody (insts : List Value) : FunctionBody String String String where
  nParams := 1
  locals := ⟨["i32"]⟩
  rets := ["i32"]
  values := ⟨[.blockParam ⟨0⟩ 0 "i32", .operator "call fn0" ⟨0⟩ ⟨0⟩, .pickOutput ⟨1⟩ 0 "i32",
    .trace 7 ⟨1⟩, .alias ⟨2⟩]⟩
  blocks := ⟨[⟨[("i32", ⟨0⟩)], insts, "return v2", [], [], "entry"⟩]⟩
  argPool := ⟨[[⟨0⟩], [⟨2⟩]]⟩
  typePool := ⟨[["i32", "i32"]]⟩
  valueLocals := ⟨List.replicate 5 .none⟩
  sourceLocs := ⟨List.replicate 5 Handle.invalid⟩

/-- A module whose one function `fn0`, of signature `sig0`, has the given body. -/
def sampleModule (body : FunctionBody String String String) : Module String String String where
  startFunc := .none
  signatures := ⟨[⟨["i32"], ["i32"]⟩]⟩
  globals := ⟨[]⟩
  tables := ⟨[]⟩
  memories := ⟨[]⟩
  imports := []
  exports := []
  funcs := ⟨[.body ⟨0⟩ "f" body]⟩
  debug := ⟨⟨[]⟩, ⟨[]⟩⟩

end Waffle
