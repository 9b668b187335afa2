/-
The value pre-pass of the body printer: the loop over the values pool that
runs before the blocks. Its `match` writes a line for a definition by the arm
it takes (`prePassShows`): operators, block parameters and aliases only in
verbose mode, projections, placeholders and `None` in both modes, traces in
neither (the catch-all arm). So a run writes the header line, then one line
per shown value in pool order, each `<indent>    <value> = ...`, then the
blocks (`FunctionBodyDisplay.fmt_prePass`). The non-verbose dump succeeds where
the verbose one does and differs from it only by dropping pre-pass lines
(`FunctionBodyDisplay.fmt_plain_verbose`).
-/
import Waffle.Hooks

namespace Waffle

variable {Ty Op Term σ : Type} [ToString Ty] [ToString Op] [ToString Term]

/-- Whether the pre-pass writes a line for a definition. -/
def prePassShows (verbose : Bool) : ValueDef Ty Op ListRef → Bool
  | .operator .. | .blockParam .. | .alias _ => verbose
  | .pickOutput .. | .placeholder _ | .none => true
  | .trace .. => false

omit [ToString Ty] [ToString Op] in
/-- In verbose mode the pre-pass skips exactly the traces. -/
theorem prePassShows_true (d : ValueDef Ty Op ListRef) : prePassShows true d = !d.isTrace := by
  cases d <;> rfl

namespace FunctionBodyDisplay

variable (self : FunctionBodyDisplay Ty Op Term σ)

/-- The values the pre-pass writes a line for, in pool order. -/
def prePassValues : List (Value × ValueDef Ty Op ListRef) :=
  self.body.values.entries.filter fun e => prePassShows self.verbose e.2

omit [ToString Term] in
theorem valuePlan_shape (value : Value) {d : ValueDef Ty Op ListRef} (hd : self.body.poolsHold d) :
    ∃ rhs, self.valuePlan value d =
      if prePassShows self.verbose d then [line (self.defLine value rhs)] else [] := by
  cases d
  case operator op args tys =>
    simp only [FunctionBody.poolsHold, Bool.and_eq_true, Option.isSome_iff_exists] at hd
    obtain ⟨⟨_, ha⟩, ⟨_, ht⟩⟩ := hd
    cases hv : self.verbose <;>
      simp only [valuePlan, prePassShows, hv, ha, ht, withSome, Bool.false_eq_true, reduceIte] <;>
      first | exact ⟨"", trivial⟩ | exact ⟨_, rfl⟩
  all_goals
    cases hv : self.verbose <;> simp only [valuePlan, prePassShows, hv, Bool.false_eq_true, reduceIte] <;>
      first | exact ⟨"", trivial⟩ | exact ⟨_, rfl⟩

omit [ToString Term] in
/-- The pre-pass's pieces over any run of pool entries: a line per shown entry, in
order, defining that entry's value. -/
theorem prePass_pieces :
    ∀ (es : List (Value × ValueDef Ty Op ListRef)), (∀ e ∈ es, self.body.poolsHold e.2) →
      ∃ rhs : List String, rhs.length = (es.filter fun e => prePassShows self.verbose e.2).length ∧
        (es.flatMap fun e => self.valuePlan e.1 e.2).filterMap Act.piece? =
          List.zipWith (fun e r => .text (self.defLine e.1 r ++ "\n"))
            (es.filter fun e => prePassShows self.verbose e.2) rhs
  | [], _ => ⟨[], rfl, rfl⟩
  | e :: es, h => by
    obtain ⟨r, hr⟩ := self.valuePlan_shape e.1 (h e (List.mem_cons_self _ _))
    obtain ⟨rs, hlen, hrs⟩ := prePass_pieces es fun e he => h e (List.mem_cons_of_mem _ he)
    rw [List.flatMap_cons, List.filterMap_append, hr, hrs]
    cases hs : prePassShows self.verbose e.2
    · exact ⟨rs, by simp [List.filter_cons, hs, hlen], by simp [List.filter_cons, hs]⟩
    · exact ⟨r :: rs, by simp [List.filter_cons, hs, hlen], by simp [List.filter_cons, hs]⟩

/-- **The pre-pass.** On a well-formed body without `Trace` instructions, printed with
no decorator, the output is the header line, then one line for each value the pre-pass
shows, in pool order, each defining that value, then the blocks and the closing brace. -/
theorem fmt_prePass (hwf : self.body.WellFormed self.module) (htf : self.body.TraceFree) (s : σ) :
    ∃ rhs : List String, rhs.length = self.prePassValues.length ∧
      (({ self with decorator := .none } : FunctionBodyDisplay Ty Op Term σ).fmt.exec ⟨[], s⟩).2.out =
        .text (self.header ++ "\n") ::
          (List.zipWith (fun e r => .text (self.defLine e.1 r ++ "\n")) self.prePassValues rhs ++
            (self.body.blocks.entries.flatMap fun e => self.blockPlan e.1 e.2).filterMap Act.piece? ++
            [.text (self.indent ++ "\x7d\n")]) := by
  obtain ⟨rhs, hlen, h⟩ :=
    self.prePass_pieces _ fun e he => hwf.pools e.2 (EntityVec.mem_of_mem_entries he)
  refine ⟨rhs, hlen, ?_⟩
  simp only [fmt_eq, plan_decorator]
  rw [interp_none_exec _ _ (self.panic_not_mem_plan hwf htf)]
  simp [plan, List.filterMap_append, h, prePassValues, String.append_assoc]

theorem fmt_prePass_sampleBody :
    let self : FunctionBodyDisplay String String String Unit :=
      ⟨sampleBody [⟨1⟩, ⟨2⟩, ⟨4⟩], "", true, .none, .none⟩
    self.body.WellFormed self.module ∧ self.body.TraceFree ∧
      ∃ rhs : List String, rhs.length = self.prePassValues.length ∧
        (({ self with decorator := .none } : FunctionBodyDisplay String String String Unit).fmt.exec
          ⟨[], ()⟩).2.out =
          .text (self.header ++ "\n") ::
            (List.zipWith (fun e r => .text (self.defLine e.1 r ++ "\n")) self.prePassValues rhs ++
              (self.body.blocks.entries.flatMap fun e => self.blockPlan e.1 e.2).filterMap Act.piece? ++
              [.text (self.indent ++ "\x7d\n")]) :=
  ⟨by decide, by decide, fmt_prePass _ (by decide) (by decide) ()⟩

/-- The sample body in verbose mode: lines for `v0`, `v1`, `v2` and `v4` between the
header and the block, none for the trace `v3`; in non-verbose mode, a line for the
projection `v2`. -/
theorem fmt_prePass_sample :
    ((⟨sampleBody [⟨1⟩, ⟨2⟩, ⟨4⟩], "", true, .none, .none⟩ :
      FunctionBodyDisplay String String String Unit).fmt.exec ⟨[], ()⟩).2.out.take 6 =
      [.text "function(i32) -> i32 \x7b\n", .text "    v0 = blockparam block0, 0 # i32\n",
        .text "    v1 = call fn0 v0 # i32, i32 \n", .text "    v2 = v1.0 # i32\n",
        .text "    v4 = v2\n", .text "  block0(v0: i32): # entry\n"] ∧
    ((⟨sampleBody [⟨1⟩, ⟨2⟩, ⟨4⟩], "", false, .none, .none⟩ :
      FunctionBodyDisplay String String String Unit).fmt.exec ⟨[], ()⟩).2.out.take 3 =
      [.text "function(i32) -> i32 \x7b\n", .text "    v2 = v1.0 # i32\n",
        .text "  block0(v0: i32): # entry\n"] :=
  ⟨by decide, by decide⟩

/-! ## Verbose and plain -/

/-- What the pre-pass writes. -/
def prePassPieces : List Piece :=
  (self.body.values.entries.flatMap fun e => self.valuePlan e.1 e.2).filterMap Act.piece?

/-- What the block loop and the closing brace write, when nothing panics. -/
def blockPieces : List Piece :=
  (self.body.blocks.entries.flatMap fun e => self.blockPlan e.1 e.2).filterMap Act.piece? ++
    [.text (self.indent ++ "\x7d\n")]

omit [ToString Term] in
theorem valuePlan_plain_sublist (value : Value) (d : ValueDef Ty Op ListRef) :
    List.Sublist (({ self with verbose := false } : FunctionBodyDisplay Ty Op Term σ).valuePlan value d)
      (({ self with verbose := true } : FunctionBodyDisplay Ty Op Term σ).valuePlan value d) := by
  cases d <;> simp [valuePlan, defLine]

theorem plan_plain_sublist :
    List.Sublist ({ self with verbose := false } : FunctionBodyDisplay Ty Op Term σ).plan
      ({ self with verbose := true } : FunctionBodyDisplay Ty Op Term σ).plan :=
  .cons₂ _ (.cons₂ _ (((List.flatMap_sublist_flatMap fun e _ =>
    self.valuePlan_plain_sublist e.1 e.2).append (.refl _)).append (.refl _)))

/-- **The plain dump is the verbose dump less pre-pass lines.** For every body, printed
with no decorator: when the verbose dump succeeds, so does the plain one; both are the
header line, their pre-pass, then the same blocks and closing brace; and the plain
pre-pass's lines are a sublist of the verbose one's. -/
theorem fmt_plain_verbose (st : PrintState σ)
    (hv : (({ self with verbose := true, decorator := .none } :
      FunctionBodyDisplay Ty Op Term σ).fmt.exec st).1 = .ok ()) :
    let verbose := ({ self with verbose := true, decorator := .none } : FunctionBodyDisplay Ty Op Term σ)
    let plain := ({ self with verbose := false, decorator := .none } : FunctionBodyDisplay Ty Op Term σ)
    (plain.fmt.exec st).1 = .ok () ∧
      (verbose.fmt.exec st).2.out =
        st.out ++ .text (self.header ++ "\n") :: (verbose.prePassPieces ++ self.blockPieces) ∧
      (plain.fmt.exec st).2.out =
        st.out ++ .text (self.header ++ "\n") :: (plain.prePassPieces ++ self.blockPieces) ∧
      List.Sublist plain.prePassPieces verbose.prePassPieces := by
  intro verbose plain
  have hsub : List.Sublist plain.plan verbose.plan := plan_plain_sublist { self with decorator := .none }
  have hpv : Act.panic ∉ verbose.plan := fun hp => by
    rw [fmt_eq, interp_result (fun d h => (Option.not_mem_none d h).elim), if_pos hp] at hv
    cases hv
  have hpp : Act.panic ∉ plain.plan := fun h => hpv (hsub.subset h)
  rw [fmt_eq, fmt_eq, interp_none_exec _ _ hpv, interp_none_exec _ _ hpp]
  refine ⟨rfl, ?_, ?_, ?_⟩
  · simp [verbose, plan, prePassPieces, blockPieces, List.filterMap_append, String.append_assoc]
    exact ⟨rfl, rfl⟩
  · simp [plain, plan, prePassPieces, blockPieces, List.filterMap_append, String.append_assoc]
    exact ⟨rfl, rfl⟩
  · exact (List.flatMap_sublist_flatMap fun e _ => self.valuePlan_plain_sublist e.1 e.2).filterMap _

theorem fmt_plain_verbose_sampleBody :
    let self : FunctionBodyDisplay String String String Unit :=
      ⟨sampleBody [⟨1⟩, ⟨2⟩, ⟨4⟩], "", false, .none, .none⟩
    (({ self with verbose := true, decorator := .none } :
      FunctionBodyDisplay String String String Unit).fmt.exec ⟨[], ()⟩).1 = .ok () ∧
    let verbose := ({ self with verbose := true, decorator := .none } :
      FunctionBodyDisplay String String String Unit)
    let plain := ({ self with verbose := false, decorator := .none } :
      FunctionBodyDisplay String String String Unit)
    (plain.fmt.exec ⟨[], ()⟩).1 = .ok () ∧
      (verbose.fmt.exec ⟨[], ()⟩).2.out =
        [] ++ .text (self.header ++ "\n") :: (verbose.prePassPieces ++ self.blockPieces) ∧
      (plain.fmt.exec ⟨[], ()⟩).2.out =
        [] ++ .text (self.header ++ "\n") :: (plain.prePassPieces ++ self.blockPieces) ∧
      List.Sublist plain.prePassPieces verbose.prePassPieces :=
  ⟨rfl, fmt_plain_verbose _ _ rfl⟩

end FunctionBodyDisplay

end Waffle
