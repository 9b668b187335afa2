/-
The printing commands of `waffle-util`, on the module they parsed: `print-ir`
prints `module.display(nop_decorators)` and `print-func` prints one function's
body through `display_verbose("", Some(&module), &NOPPrintDecorator)`, each
under `println!`. Parsing, the passes `apply_options` runs and the file I/O
belong to the rest of the crate and are not modelled here.

On a well-formed module, `print-func` panics when the function has no body or
its body has a `Trace` instruction, and otherwise prints the verbose dump with
no decorator's text, since `NOPPrintDecorator` writes nothing
(`printFunc_eq`). `print-ir` succeeds exactly when `print-func` succeeds on
every function with a body (`printIR_ok_iff`).
-/
import Waffle.WellFormed

namespace Waffle

variable {Ty Op Term : Type} [ToString Ty] [ToString Op] [ToString Term]

/-- `println!("{}", x)`: the text `x`'s `fmt` writes, then a line break. A `fmt` that
stops is a panic, since `println!` panics on a formatter error. -/
def println {σ : Type} (x : PrintM σ Unit) (s : σ) : Except Stop String :=
  match x.exec ⟨[], s⟩ with
  | (.ok (), st) => .ok (render st.out ++ "\n")
  | (.error _, _) => .error .panic

/-- The `PrintIR` arm of `main`: every function mapped to a `NOPPrintDecorator`, and the
module printed. -/
def printIR (module : Module Ty Op Term) : Except Stop String :=
  println ({ module, decorators := some (module.funcs.entries.map fun e => (e.1, nopPrintDecorator)) } :
    ModuleDisplay Ty Op Term Unit).fmt ()

/-- The `PrintFunc` arm of `main`: `module.funcs[func].body().unwrap()` printed verbose with
indent `""` and a `NOPPrintDecorator`; the index and the `unwrap` panic. -/
def printFunc (module : Module Ty Op Term) (func : Func) : Except Stop String :=
  match module.funcs.get? func >>= FuncDecl.body? with
  | some body => println (body.displayVerbose "" (some module) nopPrintDecorator).fmt ()
  | .none => .error .panic

theorem exists_println_ok {σ : Type} (x : PrintM σ Unit) (s : σ) :
    (∃ t, println x s = .ok t) ↔ (x.exec ⟨[], s⟩).1 = .ok () := by
  unfold println
  rcases x.exec ⟨[], s⟩ with ⟨_ | ⟨⟩, st⟩ <;> simp

section Body

variable {module : Module Ty Op Term} {body : FunctionBody Ty Op Term}

/-- Printed verbose with a `NOPPrintDecorator`, a well-formed body panics when it has a
`Trace` instruction, and otherwise prints the text of its verbose dump with no decorator. -/
theorem println_displayVerbose (indent : String) (hwf : body.WellFormed (some module)) :
    println (body.displayVerbose indent (some module) nopPrintDecorator).fmt () =
      if body.TraceFree then
        .ok (render ((⟨body, indent, true, some module, .none⟩ :
          FunctionBodyDisplay Ty Op Term Unit).fmt.exec ⟨[], ()⟩).2.out ++ "\n")
      else .error .panic := by
  let self : FunctionBodyDisplay Ty Op Term Unit := body.displayVerbose indent (some module) nopPrintDecorator
  obtain ⟨h1, h2⟩ := interp_nop_render self.plan ⟨[], ()⟩ ⟨[], ()⟩ rfl
  have hr := @interp_result Unit .none (fun d h => (Option.not_mem_none d h).elim) self.plan ⟨[], ()⟩
  have hfmt : (body.displayVerbose indent (some module) nopPrintDecorator).fmt =
      interp (some nopPrintDecorator) self.plan := FunctionBodyDisplay.fmt_eq _
  have hfmt₀ : (⟨body, indent, true, some module, .none⟩ : FunctionBodyDisplay Ty Op Term Unit).fmt =
      interp .none self.plan := FunctionBodyDisplay.fmt_eq _
  rw [println, hfmt, hfmt₀]
  generalize (interp (some nopPrintDecorator) self.plan).exec ⟨[], ()⟩ = r at h1 h2 ⊢
  obtain ⟨res, st⟩ := r
  by_cases ht : body.TraceFree
  · rw [if_neg (self.panic_not_mem_plan hwf ht)] at hr
    obtain rfl : res = .ok () := h1.trans hr
    rw [if_pos ht]
    exact congrArg (fun t => Except.ok (t ++ "\n")) h2
  · rw [if_pos (self.panic_mem_plan_of_not_traceFree ht)] at hr
    obtain rfl : res = .error .panic := h1.trans hr
    rw [if_neg ht]

theorem exists_printFunc_ok {func : Func} (hf : module.funcs.get? func >>= FuncDecl.body? = some body)
    (hwf : body.WellFormed (some module)) : (∃ s, printFunc module func = .ok s) ↔ body.TraceFree := by
  simp only [printFunc, hf, println_displayVerbose _ hwf]
  split_ifs with ht <;> simp [ht]

end Body

/-- **What `print-func` prints.** On a well-formed module: a panic when the function is
out of range or has no body, or when its body has a `Trace` instruction; otherwise the
text of the body's verbose dump with no decorator, and a line break. -/
theorem printFunc_eq {module : Module Ty Op Term} (hwf : module.WellFormed) (func : Func) :
    printFunc module func =
      match module.funcs.get? func >>= FuncDecl.body? with
      | some body =>
        if body.TraceFree then
          .ok (render ((⟨body, "", true, some module, .none⟩ :
            FunctionBodyDisplay Ty Op Term Unit).fmt.exec ⟨[], ()⟩).2.out ++ "\n")
        else .error .panic
      | .none => .error .panic := by
  cases hf : module.funcs.get? func >>= FuncDecl.body? with
  | none => simp only [printFunc, hf]
  | some body =>
    obtain ⟨d, hd, hb⟩ := Option.bind_eq_some.mp hf
    simp only [printFunc, hf]
    exact println_displayVerbose "" (hwf.bodies d (EntityVec.mem_of_get? hd) body hb)

theorem printFunc_eq_sampleModule :
    (sampleModule (sampleBody [⟨1⟩, ⟨2⟩, ⟨4⟩])).WellFormed ∧
      printFunc (sampleModule (sampleBody [⟨1⟩, ⟨2⟩, ⟨4⟩])) ⟨0⟩ =
        match (sampleModule (sampleBody [⟨1⟩, ⟨2⟩, ⟨4⟩])).funcs.get? ⟨0⟩ >>= FuncDecl.body? with
        | some body =>
          if body.TraceFree then
            .ok (render ((⟨body, "", true, some (sampleModule (sampleBody [⟨1⟩, ⟨2⟩, ⟨4⟩])), .none⟩ :
              FunctionBodyDisplay String String String Unit).fmt.exec ⟨[], ()⟩).2.out ++ "\n")
          else .error .panic
        | .none => .error .panic :=
  ⟨by decide, printFunc_eq (by decide) _⟩

theorem exists_printIR_ok {module : Module Ty Op Term} (hwf : module.WellFormed) :
    (∃ s, printIR module = .ok s) ↔ module.TraceFree := by
  let self : ModuleDisplay Ty Op Term Unit :=
    { module, decorators := some (module.funcs.entries.map fun e => (e.1, nopPrintDecorator)) }
  rw [printIR, exists_println_ok, ModuleDisplay.fmt_eq,
    interp_result (fun d h => (Option.not_mem_none d h).elim)]
  by_cases ht : module.TraceFree
  · simp [self.panic_not_mem_plan hwf ht, ht]
  · simp [self.panic_mem_plan_of_not_traceFree ht, ht]

/-- **`print-ir` and `print-func` agree.** On a well-formed module of at most `2^32`
functions, `print-ir` prints the module exactly when `print-func` prints every function
that has a body. -/
theorem printIR_ok_iff {module : Module Ty Op Term} (hwf : module.WellFormed)
    (hlen : module.funcs.items.length ≤ UInt32.size) :
    (∃ s, printIR module = .ok s) ↔
      ∀ func, (module.funcs.get? func >>= FuncDecl.body?).isSome → ∃ s, printFunc module func = .ok s := by
  rw [exists_printIR_ok hwf]
  constructor
  · intro ht func hb
    obtain ⟨body, hf⟩ := Option.isSome_iff_exists.mp hb
    obtain ⟨d, hd, hbd⟩ := Option.bind_eq_some.mp hf
    have hd' := EntityVec.mem_of_get? hd
    exact (exists_printFunc_ok hf (hwf.bodies d hd' body hbd)).mpr (ht d hd' body hbd)
  · intro h d hd body hbd
    obtain ⟨func, he⟩ := EntityVec.exists_mem_entries hd
    have hf : module.funcs.get? func >>= FuncDecl.body? = some body := by
      rw [EntityVec.get?_of_mem_entries hlen he]; exact hbd
    exact (exists_printFunc_ok hf (hwf.bodies d hd body hbd)).mp (h func (by rw [hf]; rfl))

theorem printIR_ok_iff_sampleModule :
    (sampleModule (sampleBody [⟨1⟩, ⟨2⟩, ⟨4⟩])).WellFormed ∧
      (sampleModule (sampleBody [⟨1⟩, ⟨2⟩, ⟨4⟩])).funcs.items.length ≤ UInt32.size ∧
      ((∃ s, printIR (sampleModule (sampleBody [⟨1⟩, ⟨2⟩, ⟨4⟩])) = .ok s) ↔
        ∀ func, ((sampleModule (sampleBody [⟨1⟩, ⟨2⟩, ⟨4⟩])).funcs.get? func >>= FuncDecl.body?).isSome →
          ∃ s, printFunc (sampleModule (sampleBody [⟨1⟩, ⟨2⟩, ⟨4⟩])) func = .ok s) :=
  ⟨by decide, by decide, printIR_ok_iff (by decide) (by decide)⟩

end Waffle
