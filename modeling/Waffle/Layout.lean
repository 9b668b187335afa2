/-
The layout of the dumps, stated per write. Whatever a run meets, a panic or a
hook's `Err`, each text the body printer itself writes starts with its indent,
or is the bare line break `writeln!(f, "")` that closes an instruction line
after `after_inst` (`FunctionBodyDisplay.fmt_indented`). The module printer
prints each body with indent `"    "`, so between `module \x7b` and its closing
brace each of its writes is a blank line or starts with two spaces
(`ModuleDisplay.fmt_nested`).

These are facts about writes, not about the lines of the rendered text: the
printers write names, block descriptions and hook texts as they are, so a
function name or a block's `desc` that holds a line break puts what follows it
at column 0.

Both rest on one fact about runs: every text a run appends is the text of one of
its write actions (`interp_texts`), so a property of the plan's writes is a
property of the output.

The module a body is printed with is read for one thing, an instruction's source
location: where every location of the body is `SourceLoc::invalid()`, the body
prints the same with any module or none (`fmt_module_unused`).
-/
import Waffle.Plan

namespace Waffle

variable {Ty Op Term σ : Type} [ToString Ty] [ToString Op] [ToString Term]

/-- **A run writes its actions' texts.** However it ends, a run appends to the output,
and each text it appends is the text of one of its write actions. -/
theorem interp_texts (dec : Option (PrintDecorator σ)) (acts : List Act) :
    ∀ st : PrintState σ, ∃ ps, ((interp dec acts).exec st).2.out = st.out ++ ps ∧
      ∀ s, Piece.text s ∈ ps → Act.write s ∈ acts := by
  induction acts with
  | nil => exact fun st => ⟨[], by simp [PrintM.exec], by simp⟩
  | cons a acts ih =>
    intro st
    rw [interp_cons, exec_bind]
    cases a with
    | write t =>
      obtain ⟨ps, hout, hps⟩ := ih { st with out := st.out ++ [.text t] }
      refine ⟨.text t :: ps, by simpa [Act.run] using hout, fun s hs => ?_⟩
      rcases List.mem_cons.mp hs with h | h
      · cases h; exact .head _
      · exact .tail _ (hps s h)
    | hook k =>
      cases dec with
      | none =>
        obtain ⟨ps, hout, hps⟩ := ih st
        exact ⟨ps, by simpa [Act.run] using hout, fun s hs => .tail _ (hps s hs)⟩
      | some d =>
        simp only [Act.run, exec_callHook_some]
        cases (d.call k st.dec).ok
        · exact ⟨[.hook k _], rfl, by simp⟩
        · obtain ⟨ps, hout, hps⟩ :=
            ih ⟨st.out ++ [.hook k (d.call k st.dec).text], (d.call k st.dec).state⟩
          exact ⟨.hook k _ :: ps, by simpa using hout, fun s hs => .tail _ (hps s (by simpa using hs))⟩
    | panic => exact ⟨[], by simp [Act.run], by simp⟩

/-- A write under `indent`: the bare line break, or a text that starts with the indent. -/
def Act.Indented (indent : String) : Act → Prop
  | .write s => s = "\n" ∨ indent.data <+: s.data
  | _ => True

@[simp] theorem Act.indented_line (indent s : String) :
    (line s).Indented indent ↔ s = "" ∨ indent.data <+: s.data ++ ['\n'] := by
  simp [line, Act.Indented, String.ext_iff]

theorem Act.indented_write_append (indent s : String) : (Act.write (indent ++ s)).Indented indent :=
  .inr ⟨s.data, (String.data_append _ _).symm⟩

theorem Act.indented_line_append (indent s : String) : (line (indent ++ s)).Indented indent := by
  rw [line, String.append_assoc]; exact Act.indented_write_append _ _

theorem Act.Indented.mono {i j : String} (hij : i.data <+: j.data) :
    ∀ {a : Act}, a.Indented j → a.Indented i
  | .write _, h => h.imp_right hij.trans
  | .hook _, _ | .panic, _ => trivial

theorem forall_mem_withSome {α : Type} {P : Act → Prop} {o : Option α} {k : α → List Act}
    (hp : P .panic) (hk : ∀ x, ∀ a ∈ k x, P a) : ∀ a ∈ withSome o k, P a := by
  cases o with
  | none => simpa [withSome] using hp
  | some x => exact hk x

namespace FunctionBodyDisplay

variable (self : FunctionBodyDisplay Ty Op Term σ)

omit [ToString Ty] [ToString Op] [ToString Term] in
theorem defLine_indented (value : Value) (rhs : String) :
    ∀ a ∈ [line (self.defLine value rhs)], a.Indented self.indent := by
  simp only [defLine, String.append_assoc, List.forall_mem_singleton]
  exact Act.indented_line_append _ _

omit [ToString Term] in
theorem indented_valuePlan (value : Value) (d : ValueDef Ty Op ListRef) :
    ∀ a ∈ self.valuePlan value d, a.Indented self.indent := by
  cases d <;> simp only [valuePlan] <;> (try split) <;>
    first
    | exact self.defLine_indented _ _
    | exact List.forall_mem_nil _
    | exact forall_mem_withSome trivial fun _ => forall_mem_withSome trivial fun _ =>
        self.defLine_indented _ _

omit [ToString Ty] [ToString Op] [ToString Term] in
theorem indented_localPlan (value : Value) : ∀ a ∈ self.localPlan value, a.Indented self.indent := by
  unfold localPlan
  cases self.body.valueLocals.get value
  · nofun
  · simp only [String.append_assoc, List.forall_mem_singleton]
    exact Act.indented_line_append _ _

omit [ToString Ty] [ToString Op] [ToString Term] in
theorem indented_edgesPlan (label : String) (edges : List Block) :
    ∀ a ∈ self.edgesPlan label edges, a.Indented self.indent := by
  refine forall_mem_withSome trivial fun _ => ?_
  simp only [String.append_assoc, List.forall_mem_singleton]
  exact Act.indented_line_append _ _

omit [ToString Term] in
theorem indented_instPlan (inst : Value) : ∀ a ∈ self.instPlan inst, a.Indented self.indent := by
  refine List.forall_mem_append.mpr ⟨self.indented_localPlan inst, forall_mem_withSome trivial ?_⟩
  intro d
  cases d
  case operator =>
    refine forall_mem_withSome trivial fun _ => forall_mem_withSome trivial fun _ =>
      forall_mem_withSome trivial fun _ => ?_
    simp only [List.forall_mem_cons, defLine, String.append_assoc]
    exact ⟨Act.indented_write_append _ _, trivial, .inl rfl, nofun⟩
  case pickOutput | «alias» => exact self.defLine_indented _ _
  all_goals exact List.forall_mem_singleton.mpr trivial

theorem indented_blockPlan (blockId : Block) (block : BlockDef Ty Term) :
    ∀ a ∈ self.blockPlan blockId block, a.Indented self.indent := by
  simp only [blockPlan, List.forall_mem_cons, List.forall_mem_append, List.forall_mem_flatMap,
    List.not_mem_nil, false_implies, implies_true, and_true, and_assoc, String.append_assoc]
  exact ⟨Act.indented_line_append _ _, trivial, self.indented_edgesPlan _ _,
    self.indented_edgesPlan _ _, fun p _ => self.indented_localPlan p.2,
    fun i _ => self.indented_instPlan i, trivial, Act.indented_line_append _ _⟩

theorem indented_plan : ∀ a ∈ self.plan, a.Indented self.indent := by
  simp only [plan, header, List.forall_mem_cons, List.forall_mem_append, List.forall_mem_flatMap,
    List.not_mem_nil, false_implies, implies_true, and_true, and_assoc, String.append_assoc]
  exact ⟨Act.indented_line_append _ _, trivial, fun e _ => self.indented_valuePlan e.1 e.2,
    fun e _ => self.indented_blockPlan e.1 e.2, trivial, Act.indented_line_append _ _⟩

/-- **The body printer's layout.** However a run ends, each text the printer itself
writes (the hooks' texts apart) starts with the indent, or is the bare line break that
ends an instruction line. -/
theorem fmt_indented (st : PrintState σ) :
    ∃ ps, (self.fmt.exec st).2.out = st.out ++ ps ∧
      ∀ s, .text s ∈ ps → s = "\n" ∨ self.indent.data <+: s.data := by
  obtain ⟨ps, hout, hps⟩ := interp_texts self.decorator self.plan st
  exact ⟨ps, by rw [fmt_eq, hout], fun s hs => self.indented_plan _ (hps s hs)⟩

/-! ## What the module is read for -/

omit [ToString Ty] [ToString Op] [ToString Term] in
theorem locString?_of_invalid (h : ∀ loc ∈ self.body.sourceLocs.items, loc = Handle.invalid)
    (inst : Value) : self.locString? inst = some "" := by
  have hv : self.body.sourceLocs.get inst = Handle.invalid :=
    (self.body.sourceLocs.get_mem_or_default inst).elim (h _) id
  simp [locString?, hv]

/-- **The module is read only at valid source locations.** When no value of the body
has a valid source location, the body prints the same with any module as with none. -/
theorem fmt_module_unused (h : ∀ loc ∈ self.body.sourceLocs.items, loc = Handle.invalid)
    (m : Option (Module Ty Op Term)) :
    ({ self with module := m } : FunctionBodyDisplay Ty Op Term σ).fmt = self.fmt := by
  have hi : ({ self with module := m } : FunctionBodyDisplay Ty Op Term σ).instPlan = self.instPlan := by
    funext inst
    simp only [instPlan, locString?_of_invalid { self with module := m } h, self.locString?_of_invalid h]
    rfl
  rw [fmt_eq, fmt_eq]
  simp only [plan, blockPlan, hi]
  rfl

theorem fmt_module_unused_sampleBody :
    let self : FunctionBodyDisplay String String String Unit :=
      ⟨sampleBody [⟨1⟩, ⟨2⟩, ⟨4⟩], "", true, .none, .none⟩
    (∀ loc ∈ self.body.sourceLocs.items, loc = Handle.invalid) ∧
      ({ self with module := some (sampleModule self.body) } :
        FunctionBodyDisplay String String String Unit).fmt = self.fmt :=
  ⟨by decide, fmt_module_unused _ (by decide) _⟩

end FunctionBodyDisplay

namespace ModuleDisplay

variable (self : ModuleDisplay Ty Op Term σ)

/-- A write of the module printer: `module \x7b`, the closing brace, or indented by two. -/
def Nested (a : Act) : Prop := a = line "module \x7b" ∨ a = line "\x7d" ∨ a.Indented "  "

/-- A line is nested when its text starts with a text that starts with two spaces. -/
theorem nested_line {p : String} (hp : "  ".data <+: p.data) (s : String) : Nested (line (p ++ s)) :=
  .inr (.inr ((Act.indented_line _ _).mpr (.inr (hp.trans (by simp)))))

theorem nested_tablePlan (table : Table) (data : TableData Ty) : ∀ a ∈ tablePlan table data, Nested a := by
  simp only [tablePlan, List.forall_mem_cons, String.append_assoc]
  refine ⟨nested_line (by decide) _, ?_⟩
  split
  · simp only [List.forall_mem_flatMap, List.forall_mem_singleton, String.append_assoc]
    exact fun _ _ => nested_line (by decide) _
  · nofun

theorem nested_memoryPlan (memory : Memory) (data : MemoryData) :
    ∀ a ∈ memoryPlan memory data, Nested a := by
  simp only [memoryPlan, List.forall_mem_cons, List.forall_mem_flatMap, String.append_assoc]
  exact ⟨nested_line (by decide) _, fun _ _ => ⟨nested_line (by decide) _, nofun⟩⟩

theorem nested_funcPlan (func : Func) (decl : FuncDecl Ty Op Term) :
    ∀ a ∈ self.funcPlan func decl, Nested a := by
  have hh : ∀ name sig sep, ∀ a ∈ self.funcHeaderPlan func name sig sep, Nested a :=
    fun _ _ _ => forall_mem_withSome (.inr (.inr trivial)) fun _ => by
      simpa [String.append_assoc] using nested_line (by decide) _
  cases decl
  case body sig name body =>
    refine List.forall_mem_append.mpr
      ⟨hh _ _ _, List.forall_mem_append.mpr ⟨fun a ha => ?_, by simp [Nested]⟩⟩
    have h4 : "  ".data <+: "    ".data := ⟨"  ".data, rfl⟩
    exact .inr (.inr ((FunctionBodyDisplay.indented_plan _ a ha).mono h4))
  case «import» => exact hh _ _ _
  case lazy =>
    simp only [funcPlan, List.forall_mem_append, List.forall_mem_singleton, String.append_assoc]
    exact ⟨hh _ _ _, nested_line (by decide) _⟩
  case compiled =>
    simp only [funcPlan, List.forall_mem_append, List.forall_mem_singleton]
    exact ⟨hh _ _ _, .inr (.inr ((Act.indented_line _ _).mpr (.inr (by decide))))⟩
  case none =>
    simp only [funcPlan, List.forall_mem_singleton, String.append_assoc]
    exact nested_line (by decide) _

theorem nested_plan : ∀ a ∈ self.plan, Nested a := by
  simp only [plan, List.forall_mem_cons, List.forall_mem_append, List.forall_mem_flatMap,
    List.not_mem_nil, false_implies, implies_true, and_true, and_assoc, String.append_assoc]
  refine ⟨.inl rfl, ?_, fun _ _ => nested_line (by decide) _, fun _ _ => nested_line (by decide) _,
    fun e _ => nested_tablePlan e.1 e.2, fun e _ => nested_memoryPlan e.1 e.2,
    fun _ _ => nested_line (by decide) _, fun _ _ => nested_line (by decide) _,
    fun e _ => self.nested_funcPlan e.1 e.2, fun _ _ => nested_line (by decide) _,
    fun _ _ => nested_line (by decide) _, .inr (.inl rfl)⟩
  split
  · simpa using nested_line (by decide) _
  · nofun

/-- **The module dump nests.** However a run ends, each text the module printer writes
is `module \x7b`, its closing brace, a bare line break, or a text that starts with two
spaces. A write that holds a line break of its own (a name or a description that has
one) may still end a line in its middle, so this is a fact about writes, not lines. -/
theorem fmt_nested (st : PrintState σ) :
    ∃ ps, (self.fmt.exec st).2.out = st.out ++ ps ∧
      ∀ s, .text s ∈ ps → s = "module \x7b\n" ∨ s = "\x7d\n" ∨ s = "\n" ∨ "  ".data <+: s.data := by
  obtain ⟨ps, hout, hps⟩ := interp_texts .none self.plan st
  refine ⟨ps, by rw [fmt_eq, hout], fun s hs => ?_⟩
  rcases self.nested_plan _ (hps s hs) with h | h | h
  · exact .inl (by simpa [line] using h)
  · exact .inr (.inl (by simpa [line] using h))
  · exact .inr (.inr h)

end ModuleDisplay

end Waffle
