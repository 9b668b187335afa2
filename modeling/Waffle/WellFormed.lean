/-
What the printers are promised, and what they return on it. A body is
well-formed (`FunctionBody.WellFormed`) when its blocks' instructions are
operators, projections, aliases or traces (so each is in the values pool),
every block an edge names is in the blocks pool, every operator's lists are
interned, and every valid location resolves in the module's debug tables.
`value_locals` and `source_locs` are total maps, so they ask for nothing.
Under that, a plan holds a panic exactly when a block instruction is a
`Trace`, which reaches `unreachable!()`: both printers return `Ok` on a
`TraceFree` input and panic otherwise (`FunctionBodyDisplay.fmt_result`,
`ModuleDisplay.fmt_result_of_wellFormed`), and `sig_strs` gives each function
its own signature's text (`ModuleDisplay.sigStrs_lookup`).
-/
import Waffle.Plan

namespace Waffle

variable {Ty Op Term σ : Type} [ToString Ty] [ToString Op] [ToString Term]

namespace ValueDef

variable {L : Type → Type}

/-- The definitions a block's instruction list may hold. -/
def isInst : ValueDef Ty Op L → Bool
  | .operator .. | .pickOutput .. | .alias _ | .trace .. => true
  | _ => false

def isTrace : ValueDef Ty Op L → Bool
  | .trace .. => true
  | _ => false

end ValueDef

/-- The function's signature, in every state but `None`. -/
def FuncDecl.sig? : FuncDecl Ty Op Term → Option Signature
  | .import sig _ | .lazy sig _ _ | .body sig _ _ | .compiled sig _ => some sig
  | .none => .none

omit [ToString Ty] [ToString Op] [ToString Term] in
theorem FuncDecl.eq_body_of_mem_body? {d : FuncDecl Ty Op Term} {body : FunctionBody Ty Op Term}
    (h : body ∈ d.body?) : ∃ sig name, d = .body sig name body := by
  cases d <;> simp [FuncDecl.body?] at h ⊢; exact h

namespace FunctionBody

/-- An operator's argument and type lists are in their pools. -/
def poolsHold (body : FunctionBody Ty Op Term) : ValueDef Ty Op ListRef → Bool
  | .operator _ args tys => (body.argPool.get? args).isSome && (body.typePool.get? tys).isSome
  | _ => true

/-- A location is in the module's table of locations, and its file in the table of files. -/
def locResolves (m : Module Ty Op Term) (loc : SourceLoc) : Bool :=
  ((m.debug.sourceLocs.get? loc).bind fun data => m.debug.sourceFiles.get? data.file).isSome

/-- A body as the printers are promised it, with the module it is printed against. -/
@[mk_iff] structure WellFormed (body : FunctionBody Ty Op Term) (module : Option (Module Ty Op Term)) :
    Prop where
  insts : ∀ b ∈ body.blocks.items, ∀ v ∈ b.insts, (body.values.get? v).any ValueDef.isInst
  edges : ∀ b ∈ body.blocks.items, ∀ e ∈ b.preds ++ b.succs, (body.blocks.get? e).isSome
  pools : ∀ d ∈ body.values.items, body.poolsHold d
  locs : ∀ m ∈ module, ∀ loc ∈ body.sourceLocs.items, loc ≠ Handle.invalid → locResolves m loc

instance (body : FunctionBody Ty Op Term) (module : Option (Module Ty Op Term)) :
    Decidable (body.WellFormed module) :=
  decidable_of_iff _ (wellFormed_iff body module).symm

/-- No instruction of a block is a `Trace`. -/
def TraceFree (body : FunctionBody Ty Op Term) : Prop :=
  ∀ b ∈ body.blocks.items, ∀ v ∈ b.insts, (body.values.get? v).all (!·.isTrace)

instance (body : FunctionBody Ty Op Term) : Decidable body.TraceFree :=
  inferInstanceAs (Decidable (∀ b ∈ _, _))

end FunctionBody

/-- A module as `ModuleDisplay` is promised it: every function's signature is one of the
module's, and every body is well-formed against the module. -/
@[mk_iff] structure Module.WellFormed (m : Module Ty Op Term) : Prop where
  sigs : ∀ d ∈ m.funcs.items, ∀ sig ∈ d.sig?, sig ∈ m.signatures.entries.map Prod.fst
  bodies : ∀ d ∈ m.funcs.items, ∀ body ∈ d.body?, body.WellFormed (some m)

instance (m : Module Ty Op Term) : Decidable m.WellFormed :=
  decidable_of_iff _ (Module.wellFormed_iff m).symm

/-- No body of the module has a `Trace` instruction. -/
def Module.TraceFree (m : Module Ty Op Term) : Prop :=
  ∀ d ∈ m.funcs.items, ∀ body ∈ d.body?, body.TraceFree

instance (m : Module Ty Op Term) : Decidable m.TraceFree :=
  inferInstanceAs (Decidable (∀ d ∈ m.funcs.items, ∀ body ∈ d.body?, body.TraceFree))

/-! ## No panic in a plan -/

theorem panic_not_mem_withSome {α : Type} {o : Option α} {k : α → List Act} (ho : o.isSome)
    (hk : ∀ a, o = some a → Act.panic ∉ k a) : Act.panic ∉ withSome o k := by
  cases o with
  | none => simp at ho
  | some a => exact hk a rfl

@[simp] theorem panic_ne_line (s : String) : Act.panic ≠ line s := by simp [line]

theorem isSome_mapM {α β : Type} {f : α → Option β} :
    ∀ {xs : List α}, (∀ x ∈ xs, (f x).isSome) → (xs.mapM f).isSome
  | [], _ => rfl
  | x :: xs, h => by
    obtain ⟨b, hb⟩ := Option.isSome_iff_exists.mp (h x (List.mem_cons_self _ _))
    obtain ⟨bs, hbs⟩ := Option.isSome_iff_exists.mp
      (isSome_mapM fun y hy => h y (List.mem_cons_of_mem _ hy))
    rw [List.mapM_cons, hb, hbs]; rfl

namespace FunctionBodyDisplay

variable (self : FunctionBodyDisplay Ty Op Term σ)

omit [ToString Term] in
theorem panic_not_mem_valuePlan (value : Value) {d : ValueDef Ty Op ListRef}
    (hd : self.body.poolsHold d) : Act.panic ∉ self.valuePlan value d := by
  cases d
  case operator op args tys =>
    simp only [FunctionBody.poolsHold, Bool.and_eq_true] at hd
    simp only [valuePlan]
    split
    · exact panic_not_mem_withSome hd.1 fun _ _ =>
        panic_not_mem_withSome hd.2 fun _ _ => by simp
    · simp
  all_goals simp only [valuePlan]; (try split) <;> simp

omit [ToString Ty] [ToString Op] [ToString Term] in
theorem panic_not_mem_localPlan (value : Value) : Act.panic ∉ self.localPlan value := by
  unfold localPlan
  cases self.body.valueLocals.get value <;> simp

omit [ToString Ty] [ToString Op] [ToString Term] in
theorem panic_not_mem_edgesPlan {label : String} {edges : List Block}
    (h : ∀ e ∈ edges, (self.body.blocks.get? e).isSome) : Act.panic ∉ self.edgesPlan label edges :=
  panic_not_mem_withSome (isSome_mapM fun e he => by simpa using h e he) fun _ _ => by simp

omit [ToString Ty] [ToString Op] [ToString Term] in
theorem isSome_locString? (inst : Value)
    (hl : ∀ m ∈ self.module, ∀ loc ∈ self.body.sourceLocs.items, loc ≠ Handle.invalid →
      FunctionBody.locResolves m loc) :
    (self.locString? inst).isSome := by
  cases hm : self.module with
  | none => simp [locString?, hm]
  | some m =>
    by_cases hv : self.body.sourceLocs.get inst = Handle.invalid
    · simp [locString?, hm, hv]
    · have hmem := (self.body.sourceLocs.get_mem_or_default inst).resolve_right hv
      have := hl m hm _ hmem hv
      simp only [FunctionBody.locResolves, Option.isSome_iff_exists, Option.bind_eq_some] at this
      obtain ⟨_, ⟨data, hd, hf⟩⟩ := this
      simp [locString?, hm, hv, hd, hf]

omit [ToString Term] in
/-- An operator instruction's line in a well-formed body: its lookups succeed, and
`after_inst` runs after the line's text and before its line break. -/
theorem instPlan_operator (hwf : self.body.WellFormed self.module) {inst : Value} {op : Op}
    {args : ListRef Value} {tys : ListRef Ty}
    (hd : self.body.values.get? inst = some (.operator op args tys)) :
    ∃ rhs, self.instPlan inst =
      self.localPlan inst ++ [.write (self.defLine inst rhs), .hook (.afterInst inst), line ""] := by
  have hp := hwf.pools _ (EntityVec.mem_of_get? hd)
  simp only [FunctionBody.poolsHold, Bool.and_eq_true, Option.isSome_iff_exists] at hp
  obtain ⟨⟨_, ha⟩, ⟨_, ht⟩⟩ := hp
  obtain ⟨_, hl⟩ := Option.isSome_iff_exists.mp (self.isSome_locString? inst hwf.locs)
  simp only [instPlan, hd, ha, ht, hl, withSome]
  exact ⟨_, rfl⟩

omit [ToString Term] in
theorem panic_not_mem_instPlan (hwf : self.body.WellFormed self.module) (htf : self.body.TraceFree)
    {b : BlockDef Ty Term} (hb : b ∈ self.body.blocks.items) {inst : Value} (hi : inst ∈ b.insts) :
    Act.panic ∉ self.instPlan inst := by
  have hinst := hwf.insts b hb inst hi
  have htr := htf b hb inst hi
  cases hd : self.body.values.get? inst with
  | none => simp [hd] at hinst
  | some d =>
    rw [hd] at hinst htr
    cases d
    case operator =>
      obtain ⟨_, h⟩ := self.instPlan_operator hwf hd
      simp [h, self.panic_not_mem_localPlan]
    all_goals simp_all [ValueDef.isInst, ValueDef.isTrace, instPlan, withSome,
      self.panic_not_mem_localPlan]

theorem panic_not_mem_blockPlan (hwf : self.body.WellFormed self.module) (htf : self.body.TraceFree)
    (blockId : Block) {b : BlockDef Ty Term} (hb : b ∈ self.body.blocks.items) :
    Act.panic ∉ self.blockPlan blockId b := by
  simp only [blockPlan, List.mem_cons, List.not_mem_nil, or_false, List.mem_append, or_assoc,
    List.mem_flatMap, not_or, not_exists, not_and]
  exact ⟨panic_ne_line _, nofun,
    self.panic_not_mem_edgesPlan fun e he => hwf.edges b hb e (List.mem_append_left _ he),
    self.panic_not_mem_edgesPlan fun e he => hwf.edges b hb e (List.mem_append_right _ he),
    fun p _ => self.panic_not_mem_localPlan p.2,
    fun _ hi => self.panic_not_mem_instPlan hwf htf hb hi, nofun, panic_ne_line _⟩

theorem panic_not_mem_plan (hwf : self.body.WellFormed self.module) (htf : self.body.TraceFree) :
    Act.panic ∉ self.plan := by
  simp only [plan, List.mem_cons, List.not_mem_nil, or_false, List.mem_append, or_assoc, List.mem_flatMap,
    not_or, not_exists, not_and]
  exact ⟨panic_ne_line _, nofun,
    fun e he => self.panic_not_mem_valuePlan e.1 (hwf.pools e.2 (EntityVec.mem_of_mem_entries he)),
    fun e he => self.panic_not_mem_blockPlan hwf htf e.1 (EntityVec.mem_of_mem_entries he),
    nofun, panic_ne_line _⟩

/-- **The body printer does not panic** on a well-formed body without `Trace`
instructions: verbose or not, with or without a module, whatever the decorator (whose
hooks may still return `Err`). -/
theorem fmt_ne_panic (hwf : self.body.WellFormed self.module) (htf : self.body.TraceFree)
    (st : PrintState σ) : (self.fmt.exec st).1 ≠ .error .panic := by
  rw [fmt_eq]; exact interp_ne_panic _ _ (self.panic_not_mem_plan hwf htf)

theorem fmt_ne_panic_sampleBody :
    let self : FunctionBodyDisplay String String String Unit :=
      ⟨sampleBody [⟨1⟩, ⟨2⟩, ⟨4⟩], "", true, .none, .none⟩
    self.body.WellFormed self.module ∧ self.body.TraceFree ∧
      (self.fmt.exec ⟨[], ()⟩).1 ≠ .error .panic :=
  ⟨by decide, by decide, fmt_ne_panic _ (by decide) (by decide) _⟩

/-! ## At a `Trace` instruction -/

omit [ToString Term] in
theorem panic_mem_instPlan_of_trace {inst : Value} {d : ValueDef Ty Op ListRef}
    (hv : self.body.values.get? inst = some d) (ht : d.isTrace) : Act.panic ∈ self.instPlan inst := by
  cases d <;> simp_all [ValueDef.isTrace, instPlan, withSome]

theorem panic_mem_plan_of_not_traceFree (h : ¬ self.body.TraceFree) : Act.panic ∈ self.plan := by
  simp only [FunctionBody.TraceFree, not_forall] at h
  obtain ⟨b, hb, inst, hi, hv⟩ := h
  cases hd : self.body.values.get? inst with
  | none => simp [hd] at hv
  | some d =>
    have hv : d.isTrace := by simpa [hd] using hv
    obtain ⟨i, he⟩ := EntityVec.exists_mem_entries hb
    -- the instruction's panic, inside its block's plan, inside the body's plan
    have hblock : Act.panic ∈ self.blockPlan i b :=
      .tail _ (.tail _ (List.mem_append_left _ (List.mem_append_right _
        (List.mem_flatMap.mpr ⟨inst, hi, self.panic_mem_instPlan_of_trace hd hv⟩))))
    exact .tail _ (.tail _ (List.mem_append_left _ (List.mem_append_right _
      (List.mem_flatMap.mpr ⟨(i, b), he, hblock⟩))))

/-- **What the body printer returns.** On a well-formed body, with no decorator or one
whose hooks all return `Ok`, verbose or not, with or without a module: `Ok` when no
block instruction is a `Trace`, and a panic (the `unreachable!()` arm) when one is. -/
theorem fmt_result (hwf : self.body.WellFormed self.module) (hdec : ∀ d ∈ self.decorator, d.AllOk)
    (st : PrintState σ) :
    (self.fmt.exec st).1 = if self.body.TraceFree then .ok () else .error .panic := by
  rw [fmt_eq, interp_result hdec]
  by_cases ht : self.body.TraceFree
  · rw [if_neg (self.panic_not_mem_plan hwf ht), if_pos ht]
  · rw [if_pos (self.panic_mem_plan_of_not_traceFree ht), if_neg ht]

theorem fmt_result_sampleBody :
    let self : FunctionBodyDisplay String String String Unit :=
      ⟨sampleBody [⟨1⟩, ⟨2⟩, ⟨3⟩], "", false, .none, .none⟩
    self.body.WellFormed self.module ∧ (∀ d ∈ self.decorator, d.AllOk) ∧
      (self.fmt.exec ⟨[], ()⟩).1 = if self.body.TraceFree then .ok () else .error .panic :=
  ⟨by decide, fun d h => (Option.not_mem_none d h).elim,
    fmt_result _ (by decide) (fun d h => (Option.not_mem_none d h).elim) _⟩

end FunctionBodyDisplay

namespace ModuleDisplay

variable (self : ModuleDisplay Ty Op Term σ)

theorem lookup_foldl_mapInsert {α β : Type} [DecidableEq α] (a : α) :
    ∀ (es m : List (α × β)), (es.map Prod.fst).Nodup →
      (es.foldl (fun m e => mapInsert m e.1 e.2) m).lookup a = (es.lookup a).or (m.lookup a)
  | [], _, _ => rfl
  | (k, v) :: es, m, hd => by
    rw [List.map_cons, List.nodup_cons] at hd
    rw [List.foldl_cons, lookup_foldl_mapInsert a es _ hd.2, lookup_mapInsert]
    by_cases h : a = k
    · subst h
      have hn : es.lookup a = .none := List.lookup_eq_none_iff.mpr fun p hp =>
        bne_iff_ne.mpr fun he => hd.1 (List.mem_map.mpr ⟨p, hp, he.symm⟩)
      simp [List.lookup_cons, hn]
    · simp [List.lookup_cons, h, beq_false_of_ne h]

theorem isSome_lookup_foldl_mapInsert {α β : Type} [DecidableEq α] (a : α) :
    ∀ (es m : List (α × β)), a ∈ es.map Prod.fst ∨ (m.lookup a).isSome →
      ((es.foldl (fun m e => mapInsert m e.1 e.2) m).lookup a).isSome
  | [], _, h => h.resolve_left (List.not_mem_nil _)
  | (k, v) :: es, m, h => by
    refine isSome_lookup_foldl_mapInsert a es _ ?_
    by_cases hk : a = k
    · simp [hk]
    · simpa [hk] using h

theorem lookup_map_snd {α β γ : Type} [BEq α] (f : β → γ) (k : α) :
    ∀ l : List (α × β), (l.map fun e => (e.1, f e.2)).lookup k = (l.lookup k).map f
  | [] => rfl
  | (a, b) :: l => by
    simp only [List.map_cons, List.lookup_cons]
    cases k == a <;> simp [lookup_map_snd f k l]

omit [ToString Op] [ToString Term] in
theorem sigStrs_eq : self.sigStrs = (self.module.signatures.entries.map fun e => (e.1, sigStr e.2)).foldl
    (fun m e => mapInsert m e.1 e.2) [] := by
  rw [sigStrs, List.foldl_map]

omit [ToString Op] [ToString Term] in
theorem isSome_lookup_sigStrs {sig : Signature}
    (h : sig ∈ self.module.signatures.entries.map Prod.fst) : (self.sigStrs.lookup sig).isSome := by
  rw [sigStrs_eq]
  exact isSome_lookup_foldl_mapInsert _ _ _ (.inl (by simpa [List.map_map, Function.comp_def] using h))

omit [ToString Op] [ToString Term] in
theorem lookup_sigStrs (h : self.module.signatures.items.length ≤ UInt32.size) (sig : Signature) :
    self.sigStrs.lookup sig = (self.module.signatures.get? sig).map sigStr := by
  have hd : ((self.module.signatures.entries.map fun e => (e.1, sigStr e.2)).map Prod.fst).Nodup := by
    simpa [List.map_map, Function.comp_def] using EntityVec.nodup_entries_fst h
  rw [sigStrs_eq, lookup_foldl_mapInsert _ _ _ hd, List.lookup_nil, Option.or_none, lookup_map_snd,
    EntityVec.lookup_entries h]

omit [ToString Op] [ToString Term] in
/-- **`sig_strs` maps each signature to its own text.** With at most `2^32` signatures the
handles of `entries()` are distinct, so the signature loop inserts each handle once and
the map's entry for it is that insert: a lookup gives the text of the signature at the
handle, and nothing for a handle outside the pool. -/
theorem sigStrs_lookup (h : self.module.signatures.items.length ≤ UInt32.size) :
    (self.module.signatures.entries.map Prod.fst).Nodup ∧
      ∀ sig, self.sigStrs.lookup sig = (self.module.signatures.get? sig).map sigStr :=
  ⟨EntityVec.nodup_entries_fst h, self.lookup_sigStrs h⟩

theorem sigStrs_lookup_sampleModule :
    let self : ModuleDisplay String String String Unit := ⟨sampleModule (sampleBody []), .none⟩
    self.module.signatures.items.length ≤ UInt32.size ∧
      (self.module.signatures.entries.map Prod.fst).Nodup ∧
      ∀ sig, self.sigStrs.lookup sig = (self.module.signatures.get? sig).map sigStr :=
  ⟨by decide, sigStrs_lookup _ (by decide)⟩

theorem panic_not_mem_tablePlan (table : Table) (data : TableData Ty) :
    Act.panic ∉ tablePlan table data := by
  simp only [tablePlan]; split <;> simp

theorem panic_not_mem_funcPlan (hwf : self.module.WellFormed) (htf : self.module.TraceFree)
    (func : Func) {d : FuncDecl Ty Op Term} (hd : d ∈ self.module.funcs.items) :
    Act.panic ∉ self.funcPlan func d := by
  have hh : ∀ {sig} name sep, d.sig? = some sig →
      Act.panic ∉ self.funcHeaderPlan func name sig sep := fun _ _ hs =>
    panic_not_mem_withSome (self.isSome_lookup_sigStrs (hwf.sigs d hd _ hs)) fun _ _ => by simp
  cases d
  case body sig name body =>
    simp only [funcPlan, List.mem_append, List.mem_singleton, not_or]
    exact ⟨hh name _ rfl, FunctionBodyDisplay.panic_not_mem_plan _ (hwf.bodies _ hd body rfl)
      (htf _ hd body rfl), panic_ne_line _⟩
  case none => simp [funcPlan]
  all_goals simp only [funcPlan, List.mem_append, List.mem_singleton, not_or]
  all_goals first | exact hh _ _ rfl | exact ⟨hh _ _ rfl, panic_ne_line _⟩

theorem panic_not_mem_plan (hwf : self.module.WellFormed) (htf : self.module.TraceFree) :
    Act.panic ∉ self.plan := by
  simp only [plan, List.mem_cons, List.not_mem_nil, or_false, List.mem_append, or_assoc,
    List.mem_flatMap, not_or, not_exists, not_and]
  refine ⟨panic_ne_line _, ?_, ?_, ?_, ?_, ?_, ?_, ?_,
    fun e he => self.panic_not_mem_funcPlan hwf htf e.1 (EntityVec.mem_of_mem_entries he), ?_, ?_,
    panic_ne_line _⟩
  all_goals (try split) <;> simp [panic_not_mem_tablePlan, memoryPlan]

/-- **The module printer returns `Ok`** on a well-formed module whose bodies have no
`Trace` instruction, and writes its plan's text. -/
theorem fmt_ok (hwf : self.module.WellFormed) (htf : self.module.TraceFree) (st : PrintState σ) :
    self.fmt.exec st = (.ok (), { st with out := st.out ++ self.plan.filterMap Act.piece? }) := by
  rw [fmt_eq, interp_none_exec _ _ (self.panic_not_mem_plan hwf htf)]

theorem panic_mem_plan_of_not_traceFree (h : ¬ self.module.TraceFree) : Act.panic ∈ self.plan := by
  simp only [Module.TraceFree, not_forall] at h
  obtain ⟨d, hd, body, hb, ht⟩ := h
  obtain ⟨sig, name, rfl⟩ := FuncDecl.eq_body_of_mem_body? hb
  obtain ⟨i, he⟩ := EntityVec.exists_mem_entries hd
  have hfunc : Act.panic ∈ self.funcPlan i (.body sig name body) :=
    List.mem_append_right _ (List.mem_append_left _
      ((body.display "    " (some self.module) : FunctionBodyDisplay Ty Op Term σ).panic_mem_plan_of_not_traceFree ht))
  exact .tail _ (List.mem_append_left _ (List.mem_append_left _ (List.mem_append_left _
    (List.mem_append_right _ (List.mem_flatMap.mpr ⟨_, he, hfunc⟩)))))

/-- **What the module printer returns.** On a module whose functions' signatures are
declared and whose bodies are well-formed: `Ok` when no body has a `Trace` instruction
in a block, and a panic when one has. -/
theorem fmt_result_of_wellFormed (hwf : self.module.WellFormed) (st : PrintState σ) :
    (self.fmt.exec st).1 = if self.module.TraceFree then .ok () else .error .panic := by
  rw [fmt_eq, interp_result (fun d h => (Option.not_mem_none d h).elim)]
  by_cases ht : self.module.TraceFree
  · rw [if_neg (self.panic_not_mem_plan hwf ht), if_pos ht]
  · rw [if_pos (self.panic_mem_plan_of_not_traceFree ht), if_neg ht]

theorem fmt_result_of_wellFormed_sampleModule :
    (sampleModule (sampleBody [⟨1⟩, ⟨2⟩, ⟨4⟩])).WellFormed ∧
      ((⟨sampleModule (sampleBody [⟨1⟩, ⟨2⟩, ⟨4⟩]), .none⟩ :
        ModuleDisplay String String String Unit).fmt.exec ⟨[], ()⟩).1 =
        if (sampleModule (sampleBody [⟨1⟩, ⟨2⟩, ⟨4⟩])).TraceFree then .ok () else .error .panic :=
  ⟨by decide, fmt_result_of_wellFormed _ (by decide) _⟩

end ModuleDisplay

/-- The sample module with `v1`, `v2`, `v3` in its block is well-formed, and the module
printer panics at `v3`. -/
theorem ModuleDisplay.fmt_trace_inst :
    (sampleModule (sampleBody [⟨1⟩, ⟨2⟩, ⟨3⟩])).WellFormed ∧
      ((⟨sampleModule (sampleBody [⟨1⟩, ⟨2⟩, ⟨3⟩]), .none⟩ :
        ModuleDisplay String String String Unit).fmt.exec ⟨[], ()⟩).1 = .error .panic := by
  refine ⟨by decide, ?_⟩
  rw [ModuleDisplay.fmt_eq, interp_result (fun d h => (Option.not_mem_none d h).elim),
    if_pos (ModuleDisplay.panic_mem_plan_of_not_traceFree _ (by decide))]

end Waffle
