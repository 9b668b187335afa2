/-
The formatter the printers write to, the decorator hooks, and the printer's
effects. `PrintM` is `fmt`'s monad: it appends to the formatter's output,
threads the decorator's state, and may stop, with a `fmt::Error` that `?`
passes up or with a panic. Writes never fail (the sink is a `String`); a hook
may return `Err`.

Each write is one `Piece` of the output, tagged with its writer (the printer,
or a hook), so that the text a decorator adds can be told apart from the
printer's own; `render` is the formatter's text.

Over the monad sits `interp`, the run of a list of actions (`Act`): a write,
a hook call, a panic. The printers of `Display` are refined to such lists in
`Plan`; this module says once what running a list does (`interp_erase`,
`interp_hookTrace`, `interp_ne_panic`, `interp_none_exec`), and that a hook's
`Err` stops a run at once (`interp_driveUntilErr`). With hooks that
return `Ok`, a run is a function of the actions and the decorator's state
(`PrintDecorator.run`), and the decorator is a state machine driven through the
actions' hooks (`PrintDecorator.drive`, `run_drive`).
-/
import Mathlib.Data.String.Basic
import Waffle.Ir

namespace Waffle

/-- How a `fmt` stops early: a `fmt::Error` passed up by `?`, or a panic. -/
inductive Stop where
  | error
  | panic
deriving DecidableEq, Repr

/-- The five anchors of `PrintDecorator`, with the argument each hook receives. -/
inductive Hook where
  | afterInst (value : Value)
  | beforeBlock (block : Block)
  | afterBlock (block : Block)
  | beforeFunctionBody
  | afterFunctionBody
deriving DecidableEq, Repr

/-- One write to the formatter: the printer's own text, or what a hook wrote. -/
inductive Piece where
  | text (s : String)
  | hook (h : Hook) (s : String)
deriving DecidableEq, Repr

namespace Piece

def str : Piece → String
  | .text s | .hook _ s => s

def isText : Piece → Bool
  | .text _ => true
  | .hook .. => false

def hook? : Piece → Option Hook
  | .text _ => .none
  | .hook h _ => some h

/-- A hook's piece: the hook, and the text it wrote. -/
def hookEntry? : Piece → Option (Hook × String)
  | .text _ => .none
  | .hook h s => some (h, s)

@[simp] theorem hookEntry?_text (s : String) : (text s).hookEntry? = .none := rfl

@[simp] theorem hookEntry?_hook (h : Hook) (s : String) : (hook h s).hookEntry? = some (h, s) := rfl

end Piece

/-- The formatter's text. -/
def render (out : List Piece) : String := String.join (out.map Piece.str)

/-- The output with every piece a hook wrote deleted. -/
def eraseHooks (out : List Piece) : List Piece := out.filter Piece.isText

/-- The hooks that ran, in order. -/
def hookTrace (out : List Piece) : List Hook := out.filterMap Piece.hook?

@[simp] theorem eraseHooks_append (a b : List Piece) :
    eraseHooks (a ++ b) = eraseHooks a ++ eraseHooks b := List.filter_append a b

@[simp] theorem hookTrace_append (a b : List Piece) :
    hookTrace (a ++ b) = hookTrace a ++ hookTrace b := List.filterMap_append _ _ _

@[simp] theorem eraseHooks_text (s : String) : eraseHooks [.text s] = [.text s] := rfl

@[simp] theorem eraseHooks_hook (h : Hook) (s : String) : eraseHooks [.hook h s] = [] := rfl

@[simp] theorem hookTrace_text (s : String) : hookTrace [.text s] = [] := rfl

@[simp] theorem hookTrace_hook (h : Hook) (s : String) : hookTrace [.hook h s] = [h] := rfl

/-! ## Decorators -/

/-- What a hook does: its decorator's state after it, the text it wrote, and whether it
returned `Ok`. -/
structure HookResult (σ : Type) where
  state : σ
  text : String
  ok : Bool

/-- A `PrintDecorator`: each hook from the decorator's state (a `&self` method may keep
state behind a `Cell`). The defaults are the trait's: write nothing, return `Ok`. -/
structure PrintDecorator (σ : Type) where
  afterInst : Value → σ → HookResult σ := fun _ s => ⟨s, "", true⟩
  beforeBlock : Block → σ → HookResult σ := fun _ s => ⟨s, "", true⟩
  afterBlock : Block → σ → HookResult σ := fun _ s => ⟨s, "", true⟩
  beforeFunctionBody : σ → HookResult σ := fun s => ⟨s, "", true⟩
  afterFunctionBody : σ → HookResult σ := fun s => ⟨s, "", true⟩

variable {σ α β : Type}

namespace PrintDecorator

/-- The hook at an anchor. -/
def call (d : PrintDecorator σ) : Hook → σ → HookResult σ
  | .afterInst v => d.afterInst v
  | .beforeBlock b => d.beforeBlock b
  | .afterBlock b => d.afterBlock b
  | .beforeFunctionBody => d.beforeFunctionBody
  | .afterFunctionBody => d.afterFunctionBody

/-- Every hook returns `Ok`, from every state. -/
def AllOk (d : PrintDecorator σ) : Prop := ∀ h s, (d.call h s).ok = true

/-- The decorator as a state machine driven through the hooks `hs` from `s`: each hook
with the text it writes from the state the hooks before it left, and the last state. -/
def drive (d : PrintDecorator σ) : List Hook → σ → List (Hook × String) × σ
  | [], s => ([], s)
  | h :: hs, s =>
    let r := d.drive hs (d.call h s).state
    ((h, (d.call h s).text) :: r.1, r.2)

/-- The state `drive` ends in is the hooks' transitions folded over `hs`. -/
theorem drive_state (d : PrintDecorator σ) :
    ∀ (hs : List Hook) (s : σ), (d.drive hs s).2 = hs.foldl (fun s h => (d.call h s).state) s
  | [], _ => rfl
  | _ :: hs, _ => drive_state d hs _

/-- The decorator driven through the hooks `hs` from `s` as `?` drives it: the hooks
that ran, each with its text, up to and including the first that returned `Err`; the
state after the last of them; and whether every hook of `hs` returned `Ok`. -/
def driveUntilErr (d : PrintDecorator σ) : List Hook → σ → List (Hook × String) × σ × Bool
  | [], s => ([], s, true)
  | h :: hs, s =>
    if (d.call h s).ok then
      let r := d.driveUntilErr hs (d.call h s).state
      ((h, (d.call h s).text) :: r.1, r.2)
    else ([(h, (d.call h s).text)], (d.call h s).state, false)

/-- With hooks that return `Ok`, `driveUntilErr` is `drive`. -/
theorem driveUntilErr_of_allOk {d : PrintDecorator σ} (hd : d.AllOk) :
    ∀ (hs : List Hook) (s : σ), d.driveUntilErr hs s = ((d.drive hs s).1, (d.drive hs s).2, true)
  | [], _ => rfl
  | h :: hs, s => by simp [driveUntilErr, drive, hd h s, driveUntilErr_of_allOk hd hs]

end PrintDecorator

/-- `NOPPrintDecorator`: every hook as the trait defaults it. -/
def nopPrintDecorator : PrintDecorator σ := {}

@[simp] theorem nopPrintDecorator_call (h : Hook) (s : σ) :
    (nopPrintDecorator : PrintDecorator σ).call h s = ⟨s, "", true⟩ := by
  cases h <;> rfl

theorem nopPrintDecorator_allOk : (nopPrintDecorator : PrintDecorator σ).AllOk := by
  intro h s; simp

/-! ## The printer's monad -/

/-- The formatter's output, and the decorator's state. -/
structure PrintState (σ : Type) where
  out : List Piece
  dec : σ

abbrev PrintM (σ : Type) := ExceptT Stop (StateM (PrintState σ))

/-- A run from a formatter state: how it ended, and the state after. -/
def PrintM.exec (x : PrintM σ α) (st : PrintState σ) : Except Stop α × PrintState σ :=
  x.run.run st

/-- `write!`. -/
def write (s : String) : PrintM σ Unit :=
  modify fun st => { st with out := st.out ++ [.text s] }

/-- `writeln!`. -/
def writeln (s : String) : PrintM σ Unit := write (s ++ "\n")

/-- An index or an `unwrap`: the value, or a panic. -/
def expect : Option α → PrintM σ α
  | some a => pure a
  | .none => throw .panic

/-- `if let Some(decorator) = self.decorator { decorator.hook(.., f)? }`: the hook writes
its text, and an `Err` it returns is passed up. -/
def callHook : Option (PrintDecorator σ) → Hook → PrintM σ Unit
  | .none, _ => pure ()
  | some d, h => ExceptT.mk fun st =>
    let r := d.call h st.dec
    (if r.ok then .ok () else .error .error, { out := st.out ++ [.hook h r.text], dec := r.state })

section Exec

variable (st : PrintState σ)

@[simp] theorem exec_pure (a : α) : (pure a : PrintM σ α).exec st = (.ok a, st) := rfl

theorem exec_bind (x : PrintM σ α) (f : α → PrintM σ β) :
    (x >>= f).exec st = match x.exec st with
      | (.ok a, st') => (f a).exec st'
      | (.error e, st') => (.error e, st') := by
  simp only [PrintM.exec, ExceptT.run_bind]
  show (x.run >>= _).run st = _
  simp only [StateT.run_bind]
  rcases x.run.run st with ⟨_ | a, st'⟩ <;> rfl

@[simp] theorem exec_write (s : String) :
    (write s : PrintM σ Unit).exec st = (.ok (), { st with out := st.out ++ [.text s] }) := rfl

@[simp] theorem exec_throw (e : Stop) : (throw e : PrintM σ α).exec st = (.error e, st) := rfl

@[simp] theorem exec_callHook_none (h : Hook) : (callHook .none h : PrintM σ Unit).exec st = (.ok (), st) :=
  rfl

@[simp] theorem exec_callHook_some (d : PrintDecorator σ) (h : Hook) :
    (callHook (some d) h).exec st =
      (if (d.call h st.dec).ok then .ok () else .error .error,
        { out := st.out ++ [.hook h (d.call h st.dec).text], dec := (d.call h st.dec).state }) :=
  rfl

end Exec

/-! ## Actions -/

/-- What the printer does, one step at a time. -/
inductive Act where
  | write (s : String)
  | hook (h : Hook)
  | panic
deriving DecidableEq, Repr

def Act.hook? : Act → Option Hook
  | .hook h => some h
  | _ => .none

@[simp] theorem Act.hook?_write (s : String) : (Act.write s).hook? = .none := rfl

@[simp] theorem Act.hook?_hook (h : Hook) : (Act.hook h).hook? = some h := rfl

@[simp] theorem Act.hook?_panic : Act.panic.hook? = .none := rfl

/-- The piece an undecorated run writes for an action. -/
def Act.piece? : Act → Option Piece
  | .write s => some (.text s)
  | _ => .none

@[simp] theorem Act.piece?_write (s : String) : (Act.write s).piece? = some (.text s) := rfl

@[simp] theorem Act.piece?_hook (h : Hook) : (Act.hook h).piece? = .none := rfl

@[simp] theorem Act.piece?_panic : Act.panic.piece? = .none := rfl

/-- One action, run with the given decorator. -/
def Act.run (dec : Option (PrintDecorator σ)) : Act → PrintM σ Unit
  | .write s => Waffle.write s
  | .hook h => callHook dec h
  | .panic => throw .panic

/-- A list of actions, run in order; it stops at the first panic or failed hook. -/
def interp (dec : Option (PrintDecorator σ)) (acts : List Act) : PrintM σ Unit :=
  acts.forM (Act.run dec)

/-- The actions after a lookup: `k a` when it finds `a`, a panic when it does not. -/
def withSome (o : Option α) (k : α → List Act) : List Act :=
  match o with
  | some a => k a
  | .none => [.panic]

variable (dec : Option (PrintDecorator σ))

@[simp] theorem interp_nil : interp dec [] = pure () := rfl

@[simp] theorem interp_cons (a : Act) (acts : List Act) :
    interp dec (a :: acts) = a.run dec >>= fun _ => interp dec acts := rfl

@[simp] theorem interp_append (xs ys : List Act) :
    interp dec (xs ++ ys) = interp dec xs >>= fun _ => interp dec ys :=
  List.forM_append xs ys _

@[simp] theorem interp_flatMap {γ : Type} (xs : List γ) (f : γ → List Act) :
    interp dec (xs.flatMap f) = xs.forM fun x => interp dec (f x) := by
  induction xs with
  | nil => rfl
  | cons x xs ih => rw [List.flatMap_cons, interp_append, ih]; rfl

@[simp] theorem interp_withSome (o : Option α) (k : α → List Act) :
    interp dec (withSome o k) = expect o >>= fun a => interp dec (k a) := by
  cases o <;> simp [withSome, expect, Act.run]

theorem mapM_expect (xs : List α) (f : α → Option β) :
    (xs.mapM fun x => (expect (f x) : PrintM σ β)) = expect (xs.mapM f) := by
  induction xs with
  | nil => rfl
  | cons x xs ih =>
    simp only [List.mapM_cons, ih]
    cases f x <;> cases xs.mapM f <;> rfl

/-! ## What a run of actions does -/

variable {dec}

/-- **Deleting what the hooks wrote.** With a decorator whose hooks all return `Ok`, a
run ends as the undecorated run does, and with its hooks' pieces deleted, its output is
the undecorated output. -/
theorem interp_erase {d : PrintDecorator σ} (hd : d.AllOk) (acts : List Act) :
    ∀ (st st' : PrintState σ), eraseHooks st.out = st'.out →
      ((interp (some d) acts).exec st).1 = ((interp .none acts).exec st').1 ∧
      eraseHooks ((interp (some d) acts).exec st).2.out = ((interp .none acts).exec st').2.out := by
  induction acts with
  | nil => exact fun _ _ h => ⟨rfl, h⟩
  | cons a acts ih =>
    intro st st' h
    rw [interp_cons, interp_cons, exec_bind, exec_bind]
    cases a with
    | write s => exact ih _ _ (by simp [h])
    | hook k =>
      simp only [Act.run, exec_callHook_some, hd k st.dec, if_true, exec_callHook_none]
      exact ih _ _ (by simpa using h)
    | panic => exact ⟨rfl, h⟩

@[simp] theorem render_append (a b : List Piece) : render (a ++ b) = render a ++ render b :=
  String.ext (by simp [render, String.data_join])

@[simp] theorem render_text (s : String) : render [.text s] = s := String.ext (by simp [render, Piece.str])

@[simp] theorem render_hook (h : Hook) (s : String) : render [.hook h s] = s :=
  String.ext (by simp [render, Piece.str])

/-- With `NOPPrintDecorator`, a run writes the undecorated run's text. -/
theorem interp_nop_render (acts : List Act) :
    ∀ (st st' : PrintState σ), render st.out = render st'.out →
      ((interp (some nopPrintDecorator) acts).exec st).1 = ((interp .none acts).exec st').1 ∧
      render ((interp (some nopPrintDecorator) acts).exec st).2.out =
        render ((interp .none acts).exec st').2.out := by
  induction acts with
  | nil => exact fun _ _ h => ⟨rfl, h⟩
  | cons a acts ih =>
    intro st st' h
    rw [interp_cons, interp_cons, exec_bind, exec_bind]
    cases a with
    | write s => exact ih _ _ (by simp [h])
    | hook k =>
      simp only [Act.run, exec_callHook_some, nopPrintDecorator_call, if_true, exec_callHook_none]
      exact ih _ _ (by simpa using h)
    | panic => exact ⟨rfl, h⟩

/-- With hooks that return `Ok` and no panic among the actions, a run succeeds, and the
hooks that ran are the actions' hooks, in order. -/
theorem interp_hookTrace {d : PrintDecorator σ} (hd : d.AllOk) (acts : List Act) :
    ∀ (st : PrintState σ), Act.panic ∉ acts →
      ((interp (some d) acts).exec st).1 = .ok () ∧
      hookTrace ((interp (some d) acts).exec st).2.out =
        hookTrace st.out ++ acts.filterMap Act.hook? := by
  induction acts with
  | nil => exact fun _ _ => ⟨rfl, by simp⟩
  | cons a acts ih =>
    intro st hp
    rw [interp_cons, exec_bind]
    obtain ⟨hp1, hp'⟩ := not_or.mp (mt List.mem_cons.mpr hp)
    cases a with
    | write s =>
      simp only [Act.run, exec_write]
      obtain ⟨h1, h2⟩ := ih _ hp'
      exact ⟨h1, by simp [h2]⟩
    | hook k =>
      simp only [Act.run, exec_callHook_some, hd k st.dec, if_true]
      obtain ⟨h1, h2⟩ := ih _ hp'
      exact ⟨h1, by simp [h2]⟩
    | panic => exact absurd rfl hp1

/-- With no panic among the actions, a run does not panic (a hook may still fail). -/
theorem interp_ne_panic (acts : List Act) :
    ∀ (st : PrintState σ), Act.panic ∉ acts → ((interp dec acts).exec st).1 ≠ .error .panic := by
  induction acts with
  | nil => simp [PrintM.exec]
  | cons a acts ih =>
    intro st hp
    obtain ⟨hp1, hp'⟩ := not_or.mp (mt List.mem_cons.mpr hp)
    rw [interp_cons, exec_bind]
    cases a with
    | write s => exact ih _ hp'
    | hook k =>
      cases dec with
      | none => exact ih _ hp'
      | some d =>
        simp only [Act.run, exec_callHook_some]
        cases (d.call k st.dec).ok
        · simp
        · exact ih _ hp'
    | panic => exact absurd rfl hp1

/-- **A hook's `Err` stops a run at once.** With no panic among the actions and any
decorator, a run drives the decorator through the actions' hooks until one returns
`Err`: it returns `fmt::Error` exactly when one did, the hook pieces it appends and the
decorator's state after it are `driveUntilErr`'s, and after a failed hook nothing more is
written, so its piece is the last one. -/
theorem interp_driveUntilErr (d : PrintDecorator σ) (acts : List Act) :
    ∀ st : PrintState σ, Act.panic ∉ acts →
      let r := (interp (some d) acts).exec st
      let q := d.driveUntilErr (acts.filterMap Act.hook?) st.dec
      ∃ ps, r.2.out = st.out ++ ps ∧ r.1 = (if q.2.2 then .ok () else .error .error) ∧
        (ps.filterMap Piece.hookEntry?, r.2.dec) = (q.1, q.2.1) ∧
        (q.2.2 = false → ∃ h t, ps.getLast? = some (.hook h t) ∧ q.1.getLast? = some (h, t)) := by
  induction acts with
  | nil => exact fun st _ => ⟨[], by simp [PrintM.exec, PrintDecorator.driveUntilErr]⟩
  | cons a acts ih =>
    intro st hp
    obtain ⟨hp1, hp'⟩ := not_or.mp (mt List.mem_cons.mpr hp)
    rw [interp_cons, exec_bind]
    cases a with
    | write t =>
      obtain ⟨ps, hout, h1, h2, h3⟩ := ih ⟨st.out ++ [.text t], st.dec⟩ hp'
      refine ⟨.text t :: ps, by simpa [Act.run] using hout, by simpa [Act.run] using h1,
        by simpa [Act.run] using h2, fun hq => ?_⟩
      obtain ⟨h, s, hl, hq'⟩ := h3 hq
      exact ⟨h, s, by simp [List.getLast?_cons, hl], hq'⟩
    | hook k =>
      simp only [Act.run, exec_callHook_some, List.filterMap_cons, Act.hook?_hook,
        PrintDecorator.driveUntilErr]
      cases hk : (d.call k st.dec).ok
      · exact ⟨[.hook k (d.call k st.dec).text], rfl, by simp, by simp, fun _ => ⟨_, _, rfl, rfl⟩⟩
      · obtain ⟨ps, hout, h1, h2, h3⟩ :=
          ih ⟨st.out ++ [.hook k (d.call k st.dec).text], (d.call k st.dec).state⟩ hp'
        refine ⟨.hook k _ :: ps, by simpa using hout, by simpa using h1, by simpa using h2,
          fun hq => ?_⟩
        obtain ⟨h, s, hl, hq'⟩ := h3 (by simpa using hq)
        exact ⟨h, s, by simp [List.getLast?_cons, hl], by simp [List.getLast?_cons, hq']⟩
    | panic => exact absurd rfl hp1

/-- **A run fails exactly at a panic.** With no decorator, or one whose hooks all return
`Ok`, a run panics when a panic is among the actions and succeeds otherwise. -/
theorem interp_result (hd : ∀ d ∈ dec, d.AllOk) (acts : List Act) : ∀ (st : PrintState σ),
    ((interp dec acts).exec st).1 = if Act.panic ∈ acts then .error .panic else .ok () := by
  induction acts with
  | nil => exact fun _ => rfl
  | cons a acts ih =>
    intro st
    rw [interp_cons, exec_bind]
    cases a with
    | write s => simpa [Act.run] using ih _
    | hook k =>
      cases dec with
      | none => simpa [Act.run] using ih _
      | some d => simpa [Act.run, hd d rfl k] using ih _
    | panic => simp [Act.run]

/-- An undecorated run with no panic among the actions succeeds and writes the actions'
texts, in order. -/
theorem interp_none_exec (acts : List Act) : ∀ (st : PrintState σ), Act.panic ∉ acts →
    (interp .none acts).exec st = (.ok (), { st with out := st.out ++ acts.filterMap Act.piece? }) := by
  induction acts with
  | nil => intro st _; simp [PrintM.exec]
  | cons a acts ih =>
    intro st hp
    obtain ⟨hp1, hp'⟩ := not_or.mp (mt List.mem_cons.mpr hp)
    rw [interp_cons, exec_bind]
    cases a with
    | write s => simp [Act.run, ih _ hp']
    | hook k => simp [Act.run, ih _ hp']
    | panic => exact absurd rfl hp1

/-! ## A decorated run as a function -/

/-- A run with decorator `d`, when its hooks return `Ok`: the pieces written (each
write's text, each hook's text from the state the hooks before it left) and the
decorator's state after. It stops at a panic. -/
def PrintDecorator.run (d : PrintDecorator σ) : List Act → σ → List Piece × σ
  | [], s => ([], s)
  | .write t :: acts, s =>
    let r := d.run acts s
    (.text t :: r.1, r.2)
  | .hook h :: acts, s =>
    let r := d.run acts (d.call h s).state
    (.hook h (d.call h s).text :: r.1, r.2)
  | .panic :: _, s => ([], s)

/-- **A decorated run is `PrintDecorator.run`.** With hooks that return `Ok` and no panic
among the actions, a run succeeds, appends `run`'s pieces and leaves `run`'s state. -/
theorem interp_some_exec {d : PrintDecorator σ} (hd : d.AllOk) (acts : List Act) :
    ∀ (st : PrintState σ), Act.panic ∉ acts →
      (interp (some d) acts).exec st =
        (.ok (), { out := st.out ++ (d.run acts st.dec).1, dec := (d.run acts st.dec).2 }) := by
  induction acts with
  | nil => intro st _; simp [PrintDecorator.run, PrintM.exec]
  | cons a acts ih =>
    intro st hp
    obtain ⟨hp1, hp'⟩ := not_or.mp (mt List.mem_cons.mpr hp)
    rw [interp_cons, exec_bind]
    cases a with
    | write s => simp [Act.run, ih _ hp', PrintDecorator.run]
    | hook k => simp [Act.run, hd k st.dec, ih _ hp', PrintDecorator.run]
    | panic => exact absurd rfl hp1

/-- The hook pieces of a run and its last state are the decorator driven through the
actions' hooks. -/
theorem run_drive (d : PrintDecorator σ) :
    ∀ (acts : List Act) (s : σ), Act.panic ∉ acts →
      ((d.run acts s).1.filterMap Piece.hookEntry?, (d.run acts s).2) =
        d.drive (acts.filterMap Act.hook?) s
  | [], _, _ => rfl
  | a :: acts, s, hp => by
    obtain ⟨hp1, hp'⟩ := not_or.mp (mt List.mem_cons.mpr hp)
    cases a with
    | write t => simpa [PrintDecorator.run] using run_drive d acts s hp'
    | hook k =>
      simpa [PrintDecorator.run, PrintDecorator.drive, Prod.ext_iff, List.filterMap_cons] using
        run_drive d acts (d.call k s).state hp'
    | panic => exact absurd rfl hp1

theorem run_append (d : PrintDecorator σ) (ys : List Act) :
    ∀ (xs : List Act) (s : σ), Act.panic ∉ xs →
      d.run (xs ++ ys) s = ((d.run xs s).1 ++ (d.run ys (d.run xs s).2).1, (d.run ys (d.run xs s).2).2)
  | [], _, _ => rfl
  | a :: xs, s, hp => by
    obtain ⟨hp1, hp'⟩ := not_or.mp (mt List.mem_cons.mpr hp)
    cases a with
    | write t => simp [PrintDecorator.run, run_append d ys xs s hp']
    | hook k => simp [PrintDecorator.run, run_append d ys xs _ hp']
    | panic => exact absurd rfl hp1

/-- What a run writes for a stretch of its actions appears in what it writes for all of
them, from the state the actions before the stretch left. -/
theorem run_infix (d : PrintDecorator σ) {xs acts : List Act} (h : xs <:+: acts)
    (hp : Act.panic ∉ acts) (s : σ) : ∃ s', (d.run xs s').1 <:+: (d.run acts s).1 := by
  obtain ⟨pre, post, rfl⟩ := h
  have hpre : Act.panic ∉ pre := fun h => hp (List.mem_append_left _ (List.mem_append_left _ h))
  have hxs : Act.panic ∉ xs := fun h => hp (List.mem_append_left _ (List.mem_append_right _ h))
  refine ⟨(d.run pre s).2, ?_⟩
  rw [run_append d post _ s (by simpa using ⟨hpre, hxs⟩), run_append d xs pre s hpre]
  exact List.infix_append _ _ _

theorem List.infix_flatMap {α β : Type} {x : α} {xs : List α} (h : x ∈ xs) (f : α → List β) :
    f x <:+: xs.flatMap f :=
  List.infix_of_mem_flatten (List.mem_map_of_mem f h)

theorem List.flatMap_sublist_flatMap {α β : Type} {f g : α → List β} :
    ∀ {xs : List α}, (∀ x ∈ xs, List.Sublist (f x) (g x)) → List.Sublist (xs.flatMap f) (xs.flatMap g)
  | [], _ => .slnil
  | x :: _, h => (h x (.head _)).append (flatMap_sublist_flatMap fun y hy => h y (.tail _ hy))

end Waffle
