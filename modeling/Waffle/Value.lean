/-
`ValueDef` and what `value.rs` defines on it: the result types (`ty`, `tys`)
and the two traversals of the operands (`visit_uses`, `update_uses`). An
operator's arguments and results are vectors in `value.rs` and interned
`ListRef`s in the bodies `display.rs` prints, so `ValueDef` takes the list
representation `L` as a parameter; the queries are on `ValueDef Ty Op List`.

A closure is its step on the state it captures: `visit_uses`'s `FnMut(Value)`
is `τ → Value → τ`, `update_uses`'s `FnMut(&mut Value)` is
`σ → Value → σ × Value` (the state after, and what it writes back). A panic is
`none`.

Over the code sits the operand view (`operands`, `withOperands`): both
traversals go over `operands` left to right, and `update_uses` puts what the
closure returns back at the same positions, every other field as it was.
Two `update_uses` passes are one pass whose closure runs both steps on each
operand (`updateUses_fuse`).
-/
import Waffle.Entity

namespace Waffle

/-- A value's definition (`ValueDef`). `Ty` and `Op` are the crate's `Type` and
`Operator`, `L α` how a list of `α` is stored. -/
inductive ValueDef (Ty Op : Type) (L : Type → Type) where
  | blockParam (block : Block) (index : Nat) (ty : Ty)
  | operator (op : Op) (args : L Value) (tys : L Ty)
  | pickOutput (src : Value) (index : Nat) (ty : Ty)
  | alias (value : Value)
  | placeholder (ty : Ty)
  | trace (id : Nat) (args : L Value)
  | none

/-- The loop `for arg in args { f(arg) }` over `&mut args`: the closure on each
argument, left to right, each replaced by what it writes back. -/
def updateArgs {σ : Type} (f : σ → Value → σ × Value) : σ → List Value → σ × List Value
  | s, [] => (s, [])
  | s, a :: as =>
    let (s, a) := f s a
    let (s, as) := updateArgs f s as
    (s, a :: as)

theorem updateArgs_length {σ : Type} (f : σ → Value → σ × Value) :
    ∀ (s : σ) (vs : List Value), (updateArgs f s vs).2.length = vs.length
  | _, [] => rfl
  | s, _ :: vs => congrArg Nat.succ (updateArgs_length f (f s _).1 vs)

theorem updateArgs_id {σ : Type} : ∀ (s : σ) (vs : List Value),
    updateArgs (fun s v => (s, v)) s vs = (s, vs)
  | _, [] => rfl
  | s, v :: vs => by simp only [updateArgs, updateArgs_id s vs]

/-- The state the loop ends in is the closure's state part folded over the arguments. -/
theorem updateArgs_fst {σ : Type} (f : σ → Value → σ × Value) :
    ∀ (s : σ) (vs : List Value), (updateArgs f s vs).1 = vs.foldl (fun s v => (f s v).1) s
  | _, [] => rfl
  | s, _ :: vs => updateArgs_fst f (f s _).1 vs

/-- The loop is a fold that records what the closure writes back, in order. -/
theorem foldl_record {σ : Type} (f : σ → Value → σ × Value) :
    ∀ (s : σ) (acc vs : List Value),
      vs.foldl (fun p v => ((f p.1 v).1, p.2 ++ [(f p.1 v).2])) (s, acc) =
        ((updateArgs f s vs).1, acc ++ (updateArgs f s vs).2)
  | _, _, [] => by simp [updateArgs]
  | s, acc, v :: vs => by simp [updateArgs, foldl_record f _ _ vs]

namespace ValueDef

variable {Ty Op : Type}

/-! ## The code -/

/-- `ty()`: the one result type, when there is exactly one. -/
def ty : ValueDef Ty Op List → Option Ty
  | .blockParam _ _ ty => some ty
  | .operator _ _ tys =>
    if tys.length = 0 then .none else if h : tys.length = 1 then some tys[0] else .none
  | .pickOutput _ _ ty => some ty
  | .placeholder ty => some ty
  | .trace _ _ => .none
  | _ => .none

/-- `tys()`: every result type. -/
def tys : ValueDef Ty Op List → List Ty
  | .operator _ _ tys => tys
  | .blockParam _ _ ty | .pickOutput _ _ ty | .placeholder ty => [ty]
  | _ => []

/-- `visit_uses`. -/
def visitUses {τ : Type} (f : τ → Value → τ) (t : τ) : ValueDef Ty Op List → Option τ
  | .blockParam .. => some t
  | .operator _ args _ => some (args.foldl f t)
  | .pickOutput src .. => some (f t src)
  | .alias value => some (f t value)
  | .placeholder _ => some t
  | .trace _ args => some (args.foldl f t)
  | .none => .none

/-- `update_uses`. -/
def updateUses {σ : Type} (f : σ → Value → σ × Value) (s : σ) :
    ValueDef Ty Op List → Option (σ × ValueDef Ty Op List)
  | .blockParam block index ty => some (s, .blockParam block index ty)
  | .operator op args tys => let (s, args) := updateArgs f s args; some (s, .operator op args tys)
  | .pickOutput src index ty => let (s, src) := f s src; some (s, .pickOutput src index ty)
  | .alias value => let (s, value) := f s value; some (s, .alias value)
  | .placeholder ty => some (s, .placeholder ty)
  | .trace id args => let (s, args) := updateArgs f s args; some (s, .trace id args)
  | .none => .none

/-! ## The operand view -/

/-- The operand positions, left to right. -/
def operands : ValueDef Ty Op List → List Value
  | .operator _ args _ | .trace _ args => args
  | .pickOutput src .. => [src]
  | .alias value => [value]
  | _ => []

/-- The definition with its operand positions filled from `vs`, left to right, and
every other field as it was. -/
def withOperands : ValueDef Ty Op List → List Value → ValueDef Ty Op List
  | .operator op _ tys, vs => .operator op vs tys
  | .trace id _, vs => .trace id vs
  | .pickOutput src index ty, vs => .pickOutput (vs.headD src) index ty
  | .alias value, vs => .alias (vs.headD value)
  | d, _ => d

variable {d : ValueDef Ty Op List}

theorem visitUses_eq {τ : Type} (hd : d ≠ .none) (f : τ → Value → τ) (t : τ) :
    d.visitUses f t = some (d.operands.foldl f t) := by
  cases d <;> first | rfl | exact absurd rfl hd

theorem updateUses_eq {σ : Type} (hd : d ≠ .none) (f : σ → Value → σ × Value) (s : σ) :
    d.updateUses f s =
      some ((updateArgs f s d.operands).1, d.withOperands (updateArgs f s d.operands).2) := by
  cases d <;> first | rfl | exact absurd rfl hd

theorem operands_withOperands {vs : List Value} (h : vs.length = d.operands.length) :
    (d.withOperands vs).operands = vs := by
  cases d <;> first
    | rfl
    | exact (List.length_eq_zero.mp h).symm
    | (obtain ⟨_, rfl⟩ := List.length_eq_one.mp h; rfl)

/-- Putting the old operands back gives `d`: `withOperands` touches nothing else. -/
theorem withOperands_restore (vs : List Value) : (d.withOperands vs).withOperands d.operands = d := by
  cases d <;> rfl

@[simp] theorem ty_withOperands (vs : List Value) : (d.withOperands vs).ty = d.ty := by
  cases d <;> rfl

@[simp] theorem tys_withOperands (vs : List Value) : (d.withOperands vs).tys = d.tys := by
  cases d <;> rfl

theorem withOperands_self : d.withOperands d.operands = d := by
  cases d <;> rfl

/-! ## `ty` and `tys` agree -/

theorem ty_eq_tys_match (d : ValueDef Ty Op List) :
    d.ty = match d.tys with | [t] => some t | _ => .none := by
  cases d with
  | operator _ _ tys => rcases tys with _ | ⟨_, _ | ⟨_, _⟩⟩ <;> rfl
  | _ => rfl

/-- **`ty` is `tys` when it has one element.** `ty()` is `Some t` exactly when `tys()` is
`[t]`, and `None` exactly when `tys()` has any other length; an operator's `tys()` is
its whole result vector. -/
theorem ty_iff_tys (d : ValueDef Ty Op List) :
    (∀ t, d.ty = some t ↔ d.tys = [t]) ∧ (d.ty = .none ↔ d.tys.length ≠ 1) ∧
      ∀ (op : Op) (args : List Value) (rs : List Ty), (operator op args rs).tys = rs := by
  refine ⟨fun t => ?_, ?_, fun _ _ _ => rfl⟩ <;> rw [ty_eq_tys_match] <;>
    rcases d.tys with _ | ⟨_, _ | ⟨_, _⟩⟩ <;> simp

/-! ## `update_uses` and `visit_uses` -/

/-- **`update_uses` follows `visit_uses`.** Both traversals call their closure on the
same operands in the same order, from the states the calls before left: `update_uses`
ends in the state `visit_uses` ends in with the closure's state part, and is
`visit_uses` with a closure that also records what it writes back, those values put
back into `d`'s operand positions. On `None` both panic. Otherwise `visit_uses` folds
its closure over `operands` left to right, and `update_uses` writes the `i`-th result
back at the `i`-th position: the new definition's operands are the results, putting
the old ones back restores `d` (nothing else changed), the result types are kept, and
the identity closure gives `d` back. -/
theorem updateUses_visitUses (d : ValueDef Ty Op List) :
    (∀ {σ : Type} (f : σ → Value → σ × Value) (s : σ),
      (d.updateUses f s).map Prod.fst = d.visitUses (fun s v => (f s v).1) s ∧
      d.updateUses f s = (d.visitUses (fun p v => ((f p.1 v).1, p.2 ++ [(f p.1 v).2])) (s, [])).map
        fun p => (p.1, d.withOperands p.2)) ∧
    (d = .none → (∀ {τ : Type} (g : τ → Value → τ) (t : τ), d.visitUses g t = .none) ∧
      ∀ {σ : Type} (f : σ → Value → σ × Value) (s : σ), d.updateUses f s = .none) ∧
    (d ≠ .none →
      (∀ {τ : Type} (g : τ → Value → τ) (t : τ), d.visitUses g t = some (d.operands.foldl g t)) ∧
      ∀ {σ : Type} (f : σ → Value → σ × Value) (s : σ),
        let r := updateArgs f s d.operands
        d.updateUses f s = some (r.1, d.withOperands r.2) ∧
        (d.withOperands r.2).operands = r.2 ∧
        (d.withOperands r.2).withOperands d.operands = d ∧
        (d.withOperands r.2).ty = d.ty ∧ (d.withOperands r.2).tys = d.tys ∧
        d.updateUses (fun s v => (s, v)) s = some (s, d)) := by
  refine ⟨fun f s => ?_, fun h => by subst h; exact ⟨fun _ _ => rfl, fun _ _ => rfl⟩,
    fun hd => ⟨visitUses_eq hd, ?_⟩⟩
  · by_cases hd : d = .none
    · subst hd; exact ⟨rfl, rfl⟩
    · simp [updateUses_eq hd, visitUses_eq hd, updateArgs_fst, foldl_record]
  intro σ f s
  refine ⟨updateUses_eq hd f s, operands_withOperands (updateArgs_length f s _),
    withOperands_restore _, ty_withOperands _, tys_withOperands _, ?_⟩
  rw [updateUses_eq hd, updateArgs_id, withOperands_self]

/-! ## Two `update_uses` passes -/

/-- The closure that runs `g` and then `f` on a value, the two closures' states side by
side. -/
def fuse {σ τ : Type} (g : σ → Value → σ × Value) (f : τ → Value → τ × Value) :
    σ × τ → Value → (σ × τ) × Value :=
  fun st v =>
    let (s, v) := g st.1 v
    let (t, v) := f st.2 v
    ((s, t), v)

theorem updateArgs_fuse {σ τ : Type} (g : σ → Value → σ × Value) (f : τ → Value → τ × Value) :
    ∀ (s : σ) (t : τ) (vs : List Value), updateArgs (fuse g f) (s, t) vs =
      (((updateArgs g s vs).1, (updateArgs f t (updateArgs g s vs).2).1),
        (updateArgs f t (updateArgs g s vs).2).2)
  | _, _, [] => rfl
  | s, t, v :: vs => by
    simp only [updateArgs, fuse, updateArgs_fuse g f _ _ vs]

/-- **Two `update_uses` passes are one.** Updating with `g` and then the result with `f`
gives the definition one `update_uses` gives with the closure that runs `g` then `f` on
each operand, and the two closures end in the same states. -/
theorem updateUses_fuse {σ τ : Type} (d : ValueDef Ty Op List) (g : σ → Value → σ × Value)
    (f : τ → Value → τ × Value) (s : σ) (t : τ) :
    ((d.updateUses g s).bind fun r => (r.2.updateUses f t).map fun r' => ((r.1, r'.1), r'.2)) =
      d.updateUses (fuse g f) (s, t) := by
  cases d <;> simp [updateUses, updateArgs_fuse, fuse]

end ValueDef

end Waffle
