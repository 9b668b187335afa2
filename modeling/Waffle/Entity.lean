/-
Entity handles and the pools they index (§3.1, §4.1, §4.2 of the spec; the
`entity` module itself is not among the sources). A handle is a 32-bit index
tagged with its kind, and the kind is the prefix the handle prints with, so
`Handle "v"` and `Handle "block"` are the two types `declare_entity!` makes of
`Value` and `Block`. A pool maps a handle to the data at its index; an index
outside it panics in the code, and is `none` here.
-/
import Mathlib.Data.List.Basic
import Mathlib.Data.List.Nodup

namespace Waffle

/-- Modelled from the spec: an entity handle, a 32-bit index printed as its kind's
prefix followed by the index (§3.1, §4.7). -/
structure Handle (pfx : String) where
  index : UInt32
deriving DecidableEq, Repr

instance {pfx : String} : ToString (Handle pfx) := ⟨fun h => pfx ++ toString h.index⟩

/-- The reserved sentinel `invalid`, index `u32::MAX`. -/
def Handle.invalid {pfx : String} : Handle pfx := ⟨4294967295⟩

/-- `declare_entity!`'s `Default`: the invalid handle. -/
instance {pfx : String} : Inhabited (Handle pfx) := ⟨Handle.invalid⟩

abbrev Func := Handle "fn"
abbrev Signature := Handle "sig"
abbrev Block := Handle "block"
abbrev Local := Handle "local"
abbrev Value := Handle "v"
abbrev Global := Handle "global"
abbrev Table := Handle "table"
abbrev Memory := Handle "memory"
abbrev SourceFile := Handle "file"
abbrev SourceLoc := Handle "loc"

/-- Modelled from the spec: an `EntityVec`, the append-only pool of one kind of entity,
indexed by that kind's handles (§4.1). -/
structure EntityVec (pfx : String) (α : Type) where
  items : List α

namespace EntityVec

variable {pfx : String} {α : Type}

/-- `pool[h]`: the data at the handle's index, `none` where the code panics. -/
def get? (v : EntityVec pfx α) (h : Handle pfx) : Option α := v.items[h.index.toNat]?

/-- `entries()`: each item with its handle, in insertion order. -/
def entries (v : EntityVec pfx α) : List (Handle pfx × α) :=
  v.items.enum.map fun (i, a) => (⟨i.toUInt32⟩, a)

theorem mem_of_get? {v : EntityVec pfx α} {h : Handle pfx} {a : α} (hg : v.get? h = some a) :
    a ∈ v.items :=
  List.getElem?_mem hg

theorem mem_of_mem_entries {v : EntityVec pfx α} {h : Handle pfx} {a : α}
    (hm : (h, a) ∈ v.entries) : a ∈ v.items := by
  obtain ⟨x, hx, hxa⟩ := List.mem_map.mp hm
  exact (Prod.mk.inj hxa).2 ▸ List.snd_mem_of_mem_enum hx

theorem exists_mem_entries {v : EntityVec pfx α} {a : α} (h : a ∈ v.items) :
    ∃ i, (i, a) ∈ v.entries := by
  obtain ⟨n, hn⟩ := List.mem_iff_getElem?.mp h
  exact ⟨_, List.mem_map_of_mem _ (List.mem_enum_iff_getElem?.mpr hn : (n, a) ∈ v.items.enum)⟩

theorem lookup_enumFrom (h : Handle pfx) : ∀ (n : Nat) (l : List α), n + l.length ≤ UInt32.size →
    ((l.enumFrom n).map fun (i, a) => ((⟨i.toUInt32⟩ : Handle pfx), a)).lookup h =
      if n ≤ h.index.toNat then l[h.index.toNat - n]? else .none
  | n, [], _ => by simp
  | n, a :: l, hl => by
    simp only [List.length_cons] at hl
    have hn : n.toUInt32.toNat = n := UInt32.toNat_ofNat_of_lt (by omega)
    rw [List.enumFrom_cons, List.map_cons, List.lookup_cons]
    by_cases hk : h.index.toNat = n
    · have he : h = ⟨n.toUInt32⟩ := by
        cases h; congr; exact UInt32.toNat.inj (hk.trans hn.symm)
      simp [he, hn]
    · have hne : (h == ⟨n.toUInt32⟩) = false := by
        simp only [beq_eq_false_iff_ne]; rintro rfl; exact hk hn
      simp only [hne, lookup_enumFrom h (n + 1) l (by omega)]
      by_cases hk' : n + 1 ≤ h.index.toNat
      · obtain ⟨j, hj⟩ : ∃ j, h.index.toNat - n = j + 1 := ⟨h.index.toNat - (n + 1), by omega⟩
        rw [if_pos hk', if_pos (by omega), hj, List.getElem?_cons_succ]
        congr 1; omega
      · rw [if_neg hk', if_neg (by omega)]

/-- With at most `2^32` items the handles of `entries()` are distinct, and looking one up
finds the item at its index. -/
theorem lookup_entries {v : EntityVec pfx α} (hlen : v.items.length ≤ UInt32.size) (h : Handle pfx) :
    v.entries.lookup h = v.get? h := by
  simpa [entries, get?, List.enum] using lookup_enumFrom h 0 v.items (by simpa using hlen)

/-- With at most `2^32` items, the handle `entries()` pairs an item with finds it. -/
theorem get?_of_mem_entries {v : EntityVec pfx α} (hlen : v.items.length ≤ UInt32.size)
    {h : Handle pfx} {a : α} (hm : (h, a) ∈ v.entries) : v.get? h = some a := by
  obtain ⟨⟨n, b⟩, hn, he⟩ := List.mem_map.mp hm
  obtain ⟨rfl, rfl⟩ := Prod.mk.inj he
  have hget := List.mem_enum_iff_getElem?.mp hn
  have hlt : n < v.items.length := (List.getElem?_eq_some_iff.mp hget).1
  have hn : n.toUInt32.toNat = n := UInt32.toNat_ofNat_of_lt (by omega)
  simpa [get?, hn] using hget

/-- With at most `2^32` items the handles of `entries()` are distinct: each index fits in
`u32`, so no two items get one handle. -/
theorem nodup_entries_fst {v : EntityVec pfx α} (hlen : v.items.length ≤ UInt32.size) :
    (v.entries.map Prod.fst).Nodup := by
  have hfst : v.entries.map Prod.fst =
      (List.range v.items.length).map fun i => (⟨i.toUInt32⟩ : Handle pfx) := by
    simp only [entries, List.map_map, ← List.enum_map_fst]
    rfl
  rw [hfst]
  refine List.Nodup.map_on (fun x hx y hy hxy => ?_) (List.nodup_range _)
  have hx' : x.toUInt32.toNat = x := UInt32.toNat_ofNat_of_lt ((List.mem_range.mp hx).trans_le hlen)
  have hy' : y.toUInt32.toNat = y := UInt32.toNat_ofNat_of_lt ((List.mem_range.mp hy).trans_le hlen)
  rw [← hx', ← hy', (Handle.mk.inj hxy)]

end EntityVec

/-- Modelled from the spec: a `PerEntity` map, total over the handles of one kind:
`map[h]` is the entry at the handle's index, and the value type's default for a handle
past the entries (§3.6). -/
structure PerEntity (pfx : String) (α : Type) where
  items : List α

/-- `map[h]`. -/
def PerEntity.get {pfx : String} {α : Type} [Inhabited α] (m : PerEntity pfx α) (h : Handle pfx) : α :=
  m.items.getD h.index.toNat default

theorem PerEntity.get_mem_or_default {pfx : String} {α : Type} [Inhabited α] (m : PerEntity pfx α)
    (h : Handle pfx) : m.get h ∈ m.items ∨ m.get h = default := by
  rw [get, List.getD_eq_getElem?_getD]
  cases hx : m.items[h.index.toNat]? with
  | none => exact .inr rfl
  | some a => exact .inl (List.getElem?_mem hx)

/-- Modelled from the spec: a handle to an interned slice (`ListRef`, §4.2). -/
structure ListRef (α : Type) where
  index : Nat
deriving DecidableEq, Repr

/-- Modelled from the spec: an interning pool (`ListPool`): `pool[r]` is the slice `r`
names, `none` where the code panics (§4.2). -/
structure ListPool (α : Type) where
  lists : List (List α)

def ListPool.get? {α : Type} (p : ListPool α) (r : ListRef α) : Option (List α) :=
  p.lists[r.index]?

end Waffle
