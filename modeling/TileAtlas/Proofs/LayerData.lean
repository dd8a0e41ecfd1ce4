/-
What layers hold of their data.

The character data of an element is all text in it, and comments, processing instructions
and elements may stand between its pieces. A layer is read from the text that its data
starts with. No field is lost exactly if only commas and white space come after that text
(`layerFields_characterData_iff`), and as long as this is so, a comment or an instruction
more is not seen (`Remarked.seen_eq`).
-/

import TileAtlas.Proofs.Additions

namespace TileAtlas

open Markup

/-! ### Character data -/

namespace Markup

def Node.text? : Node → Option String
  | .text s => some s
  | _ => none

/-- A comment or a processing instruction: neither text nor an element. -/
def Node.IsRemark (n : Node) : Prop :=
  n.text? = none ∧ n.element? = none

def characters (ns : List Node) : String :=
  String.join (ns.filterMap Node.text?)

def Element.characterData (e : Element) : String :=
  characters e.children

/-- The character data after the first node of an element. -/
def Element.laterText (e : Element) : String :=
  characters e.children.tail

/-- The characters of a list of nodes start with the text of the first. -/
theorem characters_eq (ns : List Node) : characters ns = leadingText ns ++ characters ns.tail := by
  cases ns with
  | nil => rfl
  | cons n ns =>
      cases n with
      | text s => exact String.join_cons
      | _ => exact String.empty_append.symm

/-- What follows the first text is what the reader does not see. -/
theorem characterData_eq (e : Element) : e.characterData = e.leadingText ++ e.laterText := by
  rw [Element.leadingText_eq]
  exact characters_eq e.children

end Markup

namespace Document

open Text (Spare)

/-- **No field of layer data is lost exactly if only commas and white space come after the
text that it starts with.** -/
theorem layerFields_characterData_iff (data : Element) :
    layerFields data.characterData = layerFields data.leadingText ↔ Spare data.laterText := by
  rw [characterData_eq]
  exact layerFields_append_eq_iff _ _

/-! ### Remarks -/

/-- A remark shortens the text that nodes start with, if it changes it at all, and what it
takes from it comes later then. -/
theorem exists_leadingText_eq_append {n : Node} (hn : n.IsRemark) {ns ns' : List Node}
    (h : Inserted n ns ns') :
    ∃ cut rest, leadingText ns = leadingText ns' ++ cut ∧ characters ns'.tail = cut ++ rest := by
  have hstart : ∀ m before after after',
      leadingText (m :: before ++ after) = leadingText (m :: before ++ after') ++ "" := by
    intro m before after after'
    rw [String.append_empty]
    cases m <;> rfl
  cases h with
  | between before after =>
      cases before with
      | nil =>
          have hlead : leadingText (n :: after) = "" := by
            cases n with
            | text s => cases hn.1
            | _ => rfl
          refine ⟨leadingText after, characters after.tail, ?_, characters_eq after⟩
          rw [List.nil_append, List.nil_append, hlead, String.empty_append]
      | cons m before =>
          exact ⟨"", _, hstart m before _ _, String.empty_append.symm⟩
  | cutting before after s t =>
      cases before with
      | nil =>
          have hlater : characters (n :: .text t :: after) = t ++ characters after := by
            rw [characters, List.filterMap_cons_none hn.1]
            exact String.join_cons
          exact ⟨t, characters after, rfl, hlater⟩
      | cons m before =>
          exact ⟨"", _, hstart m before _ _, String.empty_append.symm⟩

/-- A remark comes in, but not into the text of a property, and into layer data only so that
nothing but commas and white space comes after the text that it starts with then. -/
inductive Remarked : Kind → Element → Element → Prop where
  | intro {k : Kind} {name : String} {attributes : List Attribute} {children children' : List Node}
      (n : Node) (remark : n.IsRemark) (notProperty : k ≠ .property)
      (inserted : Inserted n children children')
      (spare : k = .data → Spare (Element.laterText ⟨name, attributes, children'⟩)) :
      Remarked k ⟨name, attributes, children⟩ ⟨name, attributes, children'⟩

/-- A comment or an instruction behind the text leaves no trace in what is seen. -/
theorem Remarked.seen_eq {k : Kind} {e e' : Element} (h : Remarked k e e') :
    e.seen k = e'.seen k := by
  cases h with
  | @intro name attributes children children' n hn hproperty hinserted hspare =>
      apply seen_congr_children
      · intro htext
        have hdata : k = .data := by
          cases k <;> simp_all [Kind.isText]
        obtain ⟨cut, rest, hlead, hlater⟩ := exists_leadingText_eq_append hn hinserted
        have hcut : Spare cut := by
          intro c hc
          have hmem : c ∈ (characters children'.tail).toList := by
            rw [hlater, String.toList_append]
            exact List.mem_append_left _ hc
          exact hspare hdata c hmem
        rw [Kind.seenText, Kind.seenText, if_pos hdata, if_pos hdata, hlead,
          layerText_append _ hcut]
      · intro _
        have hunnoticed : Unnoticed k n := by
          intro c hc
          rw [hn.2] at hc
          cases hc
        exact (seenIn_inserted hunnoticed hinserted []).symm

end Document

open Document Text

/-- **What a parsed map holds of its layer data.** The ids of every layer are the numbers
of the text that its data starts with, cut or filled up to the size of the map. They are
those of its whole character data if only commas and white space come after that text;
otherwise the fields are others. A file with a remark more is read as the same map if no
field is lost in the data that the remark comes into. -/
theorem layers_of_parseMap {text : String} {dir : Path} {m : TileMap}
    (h : parseMap text dir = .ok m) :
    ∃ root, Element.parse? text = some root ∧
      List.Forall₂ (fun (e : Bool × Element) (l : Layer) =>
          ∃ data values, e.2.child? "data" = some data ∧ IsPlainData data ∧
            FieldValues data.leadingText values ∧
            l.gids = resize (cellCount m.width m.height) 0 values ∧
            (Spare data.laterText → FieldValues data.characterData values) ∧
            (¬ Spare data.laterText →
              layerFields data.characterData ≠ layerFields data.leadingText))
        (layerElementsIn true root.children) m.layers ∧
      ∀ text' root', Element.parse? text' = some root' →
        Within Remarked (Kind.mapFile.child root) root root' → parseMap text' dir = .ok m := by
  obtain ⟨root, sizes, refs, layers, hroot, -, -, -, hlayers, rfl⟩ := parseMap_eq_ok_iff.mp h
  refine ⟨root, hroot, ?_, ?_⟩
  · refine hlayers.imp ?_
    intro e l hl
    obtain ⟨data, values, hdata, hplain, hvalues, rfl⟩ := readLayer_eq_ok_iff.mp hl
    refine ⟨data, values, hdata, hplain, hvalues, rfl, ?_, ?_⟩
    · intro hspare
      rw [FieldValues, (layerFields_characterData_iff data).mpr hspare]
      exact hvalues
    · intro hlost hfields
      exact hlost ((layerFields_characterData_iff data).mp hfields)
  · intro text' root' hroot' hwithin
    have hread := parse_eq_of_within (fun _ _ _ => Remarked.seen_eq) hroot hroot'
    exact (hread.2 dir hwithin).trans h

def shoreLayer (data : List Node) : Element :=
  ⟨"layer", [⟨none, "name", "ground"⟩], [(⟨"data", [], data⟩ : Element).node]⟩

def shoreElement (data : List Node) : Element where
  name := "map"
  attributes :=
    [⟨none, "width", "2"⟩, ⟨none, "height", "1"⟩, ⟨none, "tilewidth", "8"⟩,
      ⟨none, "tileheight", "8"⟩]
  children := [(shoreLayer data).node]

def shore (gids : List UInt32) : TileMap :=
  { TileMap.blank 2 1 8 8 with layers := [⟨"ground", true, .ground, gids⟩] }

def shoreText : String :=
  "<map width='2' height='1' tilewidth='8'
  tileheight='8'><layer name='ground'><data>1,2,</data></layer></map>"

def shoreRemarkedText : String :=
  "<map width='2' height='1' tilewidth='8'
  tileheight='8'><layer name='ground'><data>1,2<!-- east -->,</data></layer></map>"

def shoreCutText : String :=
  "<map width='2' height='1' tilewidth='8'
  tileheight='8'><layer name='ground'><data>1<!-- east -->,2</data></layer></map>"

theorem parse?_shore :
    Element.parse? shoreText = some (shoreElement [.text ("1,2" ++ ",")]) ∧
      Element.parse? shoreRemarkedText =
        some (shoreElement [.text "1,2", .comment " east ", .text ","]) ∧
      Element.parse? shoreCutText =
        some (shoreElement [.text "1", .comment " east ", .text ",2"]) :=
  ⟨(parse?_of_toList shoreText String.toList_ofList).trans (by decide +kernel),
    (parse?_of_toList shoreRemarkedText String.toList_ofList).trans (by decide +kernel),
    (parse?_of_toList shoreCutText String.toList_ofList).trans (by decide +kernel)⟩

theorem parseMap_shore :
    parseMap shoreText ⟨"d"⟩ = .ok (shore [1, 2]) ∧
      parseMap shoreCutText ⟨"d"⟩ = .ok (shore [1, 0]) := by
  obtain ⟨hshore, -, hcut⟩ := parse?_shore
  constructor
  · rw [parseMap, parseMapDocument, parseElement_eq_ok_iff.mpr hshore]
    decide +kernel
  · rw [parseMap, parseMapDocument, parseElement_eq_ok_iff.mpr hcut]
    decide +kernel

/-- A remark may come before the last comma. -/
theorem shore_remarked :
    parseMap shoreText ⟨"d"⟩ = .ok (shore [1, 2]) ∧
      parseMap shoreRemarkedText ⟨"d"⟩ = .ok (shore [1, 2]) := by
  obtain ⟨hshore, hremarked, -⟩ := parse?_shore
  obtain ⟨root, hroot, -, hread⟩ := layers_of_parseMap parseMap_shore.1
  cases hshore.symm.trans hroot
  refine ⟨parseMap_shore.1, hread _ _ hremarked ?_⟩
  refine .inside [] [] (.inside [] [] (.here ?_))
  exact .intro (.comment " east ") ⟨rfl, rfl⟩ (by decide) (.cutting [] [] "1,2" ",")
    (fun _ => by decide +kernel)

/-- A remark before the second field takes it from the layer. -/
theorem shore_cut :
    Element.parse? shoreCutText =
        some (shoreElement [.text "1", .comment " east ", .text ",2"]) ∧
      layerFields
          (Element.characterData ⟨"data", [], [.text "1", .comment " east ", .text ",2"]⟩) =
        ["1", "2"] ∧
      parseMap shoreCutText ⟨"d"⟩ = .ok (shore [1, 0]) :=
  ⟨parse?_shore.2.2, by decide +kernel, parseMap_shore.2⟩

end TileAtlas
