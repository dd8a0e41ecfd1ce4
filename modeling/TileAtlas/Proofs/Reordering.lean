/-
Elements that say the same in another order.

Attributes may come in any order, and so may the elements inside, except that those of
certain names keep the order they have among themselves (`Markup.Reordered`). What is not
an element may stand anywhere. A look-up of an attribute does not see the order
(`Reordered.attribute?_of_mem`), a loop over the attributes ends in the same state
(`Reordered.foldlM_attributes`), and the elements inside can be paired with what
they were written from (`Reordered.exists_elements`, `Reordered.elementsNamed`).
-/

import Mathlib.Data.List.Nodup
import Mathlib.Data.List.Perm.Basic
import TileAtlas.Markup.Tree
import TileAtlas.Proofs.Fallible

namespace TileAtlas.Markup

open Fallible

/-! ### Elements as they are written -/

/-- An attribute without a namespace. -/
def Attribute.plain (a : String × String) : Attribute :=
  ⟨none, a.1, a.2⟩

/-- An element with plain attributes and only elements inside. -/
def Element.write (name : String) (attributes : List (String × String)) (inside : List Element) :
    Element :=
  ⟨name, attributes.map .plain, inside.map Element.node⟩

@[simp] theorem Element.name_write (name : String) (attributes : List (String × String))
    (inside : List Element) : (write name attributes inside).name = name := rfl

@[simp] theorem Element.elements_write (name : String) (attributes : List (String × String))
    (inside : List Element) : (write name attributes inside).elements = inside := by
  have hnode : Node.element? ∘ Element.node = some := rfl
  rw [elements, write, List.filterMap_map, hnode, List.filterMap_some]

/-! ### Other orders -/

def orderedNames : List String := ["wangset", "wangcolor", "wangtile"]

/-- One element says what another one says, in another order: attributes and elements
inside are rearranged, at every depth. Elements of an ordered name keep their order. -/
inductive Reordered : Element → Element → Prop where
  | intro {d e : Element} {inside : List Element}
      (name : e.name = d.name)
      (attributes : e.attributes.Perm d.attributes)
      (each : List.Forall₂ Reordered d.elements inside)
      (order : e.elements.Perm inside)
      (kept : ∀ n ∈ orderedNames, e.elementsNamed n = inside.filter (fun c => c.name == n)) :
      Reordered d e

namespace Reordered

variable {name : String} {as : List (String × String)} {ds : List Element} {d e : Element}

theorem name_eq (h : Reordered d e) : e.name = d.name := by
  cases h with
  | intro hname => exact hname

/-- A written element may be written in another order. -/
theorem of_elements {bs : List (String × String)} {es : List Element} (inside : List Element)
    (hattributes : bs.Perm as) (heach : List.Forall₂ Reordered ds inside) (horder : es.Perm inside)
    (hkept : ∀ n ∈ orderedNames,
      es.filter (fun c => c.name == n) = inside.filter (fun c => c.name == n)) :
    Reordered (.write name as ds) (.write name bs es) := by
  have heach' : List.Forall₂ Reordered (Element.write name as ds).elements inside := by
    rwa [Element.elements_write]
  refine .intro rfl (hattributes.map _) heach' ?_ ?_
  · rwa [Element.elements_write]
  · simpa only [Element.elementsNamed, Element.elements_write] using hkept

theorem of_attributes {bs : List (String × String)} (h : bs.Perm as) :
    Reordered (.write name as []) (.write name bs []) :=
  of_elements [] h .nil (.refl _) fun _ _ => rfl

/-! ### Attributes -/

/-- Reordering leaves the same attributes, in some order. -/
theorem perm_attributes (h : Reordered (.write name as ds) e) :
    e.attributes.Perm (as.map .plain) := by
  cases h with
  | intro _ hattributes => exact hattributes

/-- An attribute is found wherever it stands, if its name occurs once. -/
theorem attribute?_of_mem (h : Reordered (.write name as ds) e) (hnodup : (as.map (·.1)).Nodup)
    {key value : String} (hmem : (key, value) ∈ as) : e.attribute? key = some value := by
  have hperm := h.perm_attributes
  have hplain : Attribute.plain (key, value) ∈ e.attributes :=
    hperm.mem_iff.mpr (List.mem_map_of_mem hmem)
  obtain ⟨a, ha⟩ : ∃ a, e.attributes.find? (fun a => a.space.isNone && a.name == key) = some a :=
    Option.isSome_iff_exists.mp (List.find?_isSome.mpr ⟨_, hplain, by simp [Attribute.plain]⟩)
  obtain ⟨b, hb, rfl⟩ := List.mem_map.mp (hperm.mem_iff.mp (List.mem_of_find?_eq_some ha))
  have hkey : b.1 = key := by
    simpa [Attribute.plain] using List.find?_some ha
  have hb : b = (key, value) := List.inj_on_of_nodup_map hnodup hb hmem hkey
  rw [Element.attribute?, ha, hb]
  rfl

/-- Reordering brings in no attribute. -/
theorem attribute?_of_notMem (h : Reordered (.write name as ds) e) {key : String}
    (hmem : key ∉ as.map (·.1)) : e.attribute? key = none := by
  rw [Element.attribute?, Option.map_eq_none_iff, List.find?_eq_none]
  intro a ha hkey
  obtain ⟨b, hb, rfl⟩ := List.mem_map.mp (h.perm_attributes.mem_iff.mp ha)
  have hkey : b.1 = key := by
    simpa [Attribute.plain] using hkey
  exact hmem (hkey ▸ List.mem_map_of_mem hb)

/-- A loop over the attributes whose state depends on the names it has met, and on nothing
else, ends in the state where all names are met. -/
theorem foldlM_attributes {ε σ : Type} {step : σ → Attribute → Except ε σ} {final : σ}
    (h : Reordered (.write name as ds) e) (state : List String → σ)
    (hstep : ∀ seen, ∀ a ∈ as, step (state seen) (.plain a) = .ok (state (a.1 :: seen)))
    (hfinal : ∀ seen, (∀ a ∈ as, a.1 ∈ seen) → state seen = final) :
    e.attributes.foldlM step (state []) = .ok final := by
  have hrun : ∀ (bs : List Attribute) (seen : List String), (∀ b ∈ bs, b ∈ as.map .plain) →
      bs.foldlM step (state seen) = .ok (state ((bs.map (·.name)).reverse ++ seen)) := by
    intro bs
    induction bs with
    | nil => exact fun _ _ => rfl
    | cons b bs ih =>
        intro seen hbs
        obtain ⟨a, ha, rfl⟩ := List.mem_map.mp (hbs b List.mem_cons_self)
        rw [List.foldlM_cons, hstep seen a ha]
        refine (ih (a.1 :: seen) fun c hc => hbs c (List.mem_cons_of_mem _ hc)).trans ?_
        simp [Attribute.plain]
  rw [hrun e.attributes [] fun b hb => h.perm_attributes.mem_iff.mp hb, hfinal]
  intro a ha
  have hmem := h.perm_attributes.mem_iff.mpr (List.mem_map_of_mem ha)
  exact List.mem_append_left _ (List.mem_reverse.mpr (List.mem_map_of_mem hmem))

/-! ### Elements inside -/

/-- The elements inside are those that were written, in some order and each rearranged. -/
theorem exists_elements {α : Type} {write : α → Element} {xs : List α}
    (h : Reordered (.write name as (xs.map write)) e) :
    ∃ ys, ys.Perm xs ∧
      List.Forall₂ (fun c y => y ∈ xs ∧ Reordered (write y) c) e.elements ys := by
  cases h with
  | intro _ _ heach horder _ =>
      rw [Element.elements_write, List.forall₂_map_left_iff] at heach
      have hmem := (List.forall₂_and_left _ _).mpr ⟨fun x hx => hx, heach⟩
      obtain ⟨ys, hys, hperm⟩ := List.perm_comp_forall₂ horder hmem.flip
      exact ⟨ys, hperm, hys⟩

/-- If only elements of one name were written, there are no others. -/
theorem elementsNamed_eq_elements {α : Type} {write : α → Element} {xs : List α} {n : String}
    (h : Reordered (.write name as (xs.map write)) e) (hname : ∀ x, (write x).name = n) :
    e.elementsNamed n = e.elements := by
  obtain ⟨ys, -, hys⟩ := h.exists_elements
  refine List.filter_eq_self.mpr fun c hc => ?_
  obtain ⟨y, -, -, hy⟩ := exists_of_mem_of_forall₂ hys.flip hc
  rw [hy.name_eq, hname, beq_self_eq_true]

theorem forall₂_filter {R : Element → Element → Prop} (hname : ∀ d e, R d e → e.name = d.name)
    {ds es : List Element} (h : List.Forall₂ R ds es) (n : String) :
    List.Forall₂ R (ds.filter fun d => d.name == n) (es.filter fun e => e.name == n) := by
  induction h with
  | nil => exact .nil
  | cons hhead _ ih =>
      rw [List.filter_cons, List.filter_cons, hname _ _ hhead]
      split
      · exact .cons hhead ih
      · exact ih

/-- The elements of an ordered name are in the order they were written in. -/
theorem elementsNamed (h : Reordered d e) {n : String} (hn : n ∈ orderedNames) :
    List.Forall₂ Reordered (d.elementsNamed n) (e.elementsNamed n) := by
  cases h with
  | intro _ _ heach _ hkept =>
      rw [hkept n hn]
      exact forall₂_filter (fun _ _ => name_eq) heach n

/-- A list under an ordered name is read as it was written, if every member is. -/
theorem mapM_elementsNamed {ε α : Type} {read : Element → Except ε α} {xs : List α} {n : String}
    (h : Reordered d e) (write : α → Element) (hn : n ∈ orderedNames)
    (hwritten : d.elementsNamed n = xs.map write)
    (hread : ∀ x ∈ xs, ∀ c, Reordered (write x) c → read c = .ok x) :
    (e.elementsNamed n).mapM read = .ok xs := by
  have heach := h.elementsNamed hn
  rw [hwritten, List.forall₂_map_left_iff] at heach
  have hmem := (List.forall₂_and_left _ _).mpr ⟨hread, heach⟩
  exact mapM_eq_ok_iff.mpr (hmem.flip.imp fun c _ hc => hc.1 c hc.2)

end Reordered

end TileAtlas.Markup
