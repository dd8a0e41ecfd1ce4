/-
Additions to a document that the readers do not see.

A change somewhere in a document is a change of one element, at any depth (`Within`). If
the readers see the same of that element before and after, they see the same of the whole
document (`Within.seen_eq`), and so read it alike. Two kinds of additions are of that sort:
what has a name that the reader of its place never looks at (`Unknown`), and attributes of
a foreign namespace wherever attributes are looked up (`Foreign`). A loop over attributes
goes by local names, so to it a foreign attribute is the plain attribute of that name
(`Qualified`).
-/

import TileAtlas.Proofs.SeenReaders

namespace TileAtlas

open Markup

namespace Document

/-! ### A node more -/

/-- A node comes in among others: between two of them, or inside a text that it cuts in
two. -/
inductive Inserted (n : Node) : List Node → List Node → Prop where
  | between (before after : List Node) : Inserted n (before ++ after) (before ++ n :: after)
  | cutting (before after : List Node) (s t : String) :
      Inserted n (before ++ .text (s ++ t) :: after)
        (before ++ .text s :: n :: .text t :: after)

def namesIn (ns : List Node) : List String :=
  (ns.filterMap Node.element?).map (·.name)

/-- What is seen of a list of nodes splits at any place: only the names met before carry over. -/
theorem seenIn_append (k : Kind) (met : List String) (before after : List Node) :
    seenIn k met (before ++ after) =
      seenIn k met before ++ seenIn k (met ++ namesIn before) after := by
  induction before generalizing met with
  | nil => simp [seenIn, namesIn]
  | cons n before ih =>
      rw [List.cons_append]
      cases hn : n.element? with
      | none =>
          have hnames : namesIn (n :: before) = namesIn before := by
            rw [namesIn, List.filterMap_cons_none hn, namesIn]
          rw [hnames, seenIn_cons_of_not_element hn, seenIn_cons_of_not_element hn, ih]
      | some c =>
          have hnames : met ++ namesIn (n :: before) = met ++ [c.name] ++ namesIn before := by
            rw [namesIn, List.filterMap_cons_some hn, List.map_cons, namesIn, List.append_assoc,
              List.singleton_append]
          rw [hnames, Node.eq_node_of_element? hn, seenIn_cons_node, seenIn_cons_node, ih]
          by_cases hc : k.inside met c = .unread
          · rw [if_pos hc, if_pos hc]
          · rw [if_neg hc, if_neg hc, List.cons_append]

/-- Names that are not looked at do not matter, even if they were met. -/
theorem seenIn_congr {k : Kind} {met met' : List String}
    (h : ∀ name ∈ k.elementNames, name ∈ met ↔ name ∈ met') (ns : List Node) :
    seenIn k met ns = seenIn k met' ns := by
  induction ns generalizing met met' with
  | nil => rfl
  | cons n ns ih =>
      cases hn : n.element? with
      | none =>
          rw [seenIn_cons_of_not_element hn, seenIn_cons_of_not_element hn]
          exact ih h
      | some c =>
          have hinside : k.inside met c = k.inside met' c := by
            by_cases hc : c.name ∈ k.elementNames
            · have hmem : met.contains c.name = met'.contains c.name := by
                rw [Bool.eq_iff_iff, List.contains_iff_mem, List.contains_iff_mem]
                exact h c.name hc
              rw [Kind.inside, Kind.inside, hmem]
            · have hunread := Kind.child_eq_unread_iff.mpr hc
              simp [Kind.inside, hunread]
          have htail : seenIn k (met ++ [c.name]) ns = seenIn k (met' ++ [c.name]) ns := by
            apply ih
            intro name hname
            rw [List.mem_append, List.mem_append, h name hname]
          rw [Node.eq_node_of_element? hn, seenIn_cons_node, seenIn_cons_node, hinside, htail]

/-- A node that is no element of a name that is looked at. -/
def Unnoticed (k : Kind) (n : Node) : Prop :=
  ∀ c, n.element? = some c → c.name ∉ k.elementNames

/-- A node that is not noticed is as good as absent. -/
theorem seenIn_cons_of_unnoticed {k : Kind} {n : Node} (hn : Unnoticed k n) (met : List String)
    (ns : List Node) : seenIn k met (n :: ns) = seenIn k met ns := by
  cases hc : n.element? with
  | none => exact seenIn_cons_of_not_element hc k met ns
  | some c =>
      have hname := hn c hc
      have hunread : k.inside met c = .unread := by
        simp [Kind.inside, Kind.child_eq_unread_iff.mpr hname]
      rw [Node.eq_node_of_element? hc, seenIn_cons_node, if_pos hunread]
      apply seenIn_congr
      intro name hmem
      have hne : name ≠ c.name := by
        rintro rfl
        exact hname hmem
      simp [hne]

/-- A node that is not noticed may come in anywhere. -/
theorem seenIn_inserted {k : Kind} {n : Node} (hn : Unnoticed k n) {ns ns' : List Node}
    (h : Inserted n ns ns') (met : List String) : seenIn k met ns' = seenIn k met ns := by
  have htext : ∀ s, Unnoticed k (.text s) := by
    intro s c hc
    cases hc
  cases h with
  | between before after =>
      rw [seenIn_append, seenIn_append, seenIn_cons_of_unnoticed hn]
  | cutting before after s t =>
      rw [seenIn_append, seenIn_append, seenIn_cons_of_unnoticed (htext s),
        seenIn_cons_of_unnoticed hn, seenIn_cons_of_unnoticed (htext t),
        seenIn_cons_of_unnoticed (htext (s ++ t))]

/-! ### A change somewhere -/

/-- A change of one element, somewhere in an element of a kind. Where an element stands
decides what it is taken for. -/
inductive Within (Change : Kind → Element → Element → Prop) : Kind → Element → Element → Prop where
  | here {k : Kind} {e e' : Element} (change : Change k e e') : Within Change k e e'
  | inside {k : Kind} {name : String} {attributes : List Attribute} (before after : List Node)
      {c c' : Element} (change : Within Change (k.inside (namesIn before) c) c c') :
      Within Change k ⟨name, attributes, before ++ c.node :: after⟩
        ⟨name, attributes, before ++ c'.node :: after⟩

/-- Elements of which the same is seen are taken for the same. -/
theorem Kind.child_eq_of_seen_eq {k : Kind} {c c' : Element}
    (h : c.seen (k.child c) = c'.seen (k.child c)) : k.child c' = k.child c := by
  have hname : c'.name = c.name := (congrArg Element.name h).symm
  unfold child at h ⊢
  rw [hname]
  cases hlookup : k.inner.lookup c.name with
  | none => rfl
  | some kind =>
      by_cases hkind : kind = .embedded
      · -- Whether it has a source is seen of a tileset in a map in either case.
        subst hkind
        have hsource : c'.attribute? "source" = c.attribute? "source" := by
          simp only [hlookup, true_and] at h
          have hattribute := congrArg (fun e => Element.attribute? e "source") h
          by_cases hsome : (c.attribute? "source").isSome = true
          · simp only [hsome, if_true] at hattribute
            rw [attribute?_seen (by decide) (by decide),
              attribute?_seen (by decide) (by decide)] at hattribute
            exact hattribute.symm
          · simp only [hsome] at hattribute
            rw [attribute?_seen (by decide) (by decide),
              attribute?_seen (by decide) (by decide)] at hattribute
            exact hattribute.symm
        rw [hsource]
      · simp [hkind]

theorem Kind.inside_eq_of_seen_eq {k : Kind} {met : List String} {c c' : Element}
    (h : c.seen (k.inside met c) = c'.seen (k.inside met c)) :
    k.inside met c' = k.inside met c := by
  have hname : c'.name = c.name := (congrArg Element.name h).symm
  unfold inside at h ⊢
  rw [hname]
  by_cases hmet : (k.takesFirst && met.contains c.name) = true
  · rw [if_pos hmet, if_pos hmet]
  · rw [if_neg hmet] at h
    rw [if_neg hmet, if_neg hmet]
    exact child_eq_of_seen_eq h

/-- Elements that differ only inside are seen alike if what is inside is. -/
theorem seen_congr_children {k : Kind} {name : String} {attributes : List Attribute}
    {ns ns' : List Node} (htext : k.isText = true → k.seenText ns = k.seenText ns')
    (hnodes : k.isText = false → seenIn k [] ns = seenIn k [] ns') :
    Element.seen k ⟨name, attributes, ns⟩ = Element.seen k ⟨name, attributes, ns'⟩ := by
  unfold Element.seen
  cases hk : k.isText with
  | true => simp only [if_true, htext hk]
  | false => simp only [Bool.false_eq_true, if_false, hnodes hk]

/-- **What is seen of a document does not change if what is seen of the changed element
does not.** -/
theorem Within.seen_eq {Change : Kind → Element → Element → Prop}
    (hchange : ∀ k e e', Change k e e' → e.seen k = e'.seen k) {k : Kind} {e e' : Element}
    (h : Within Change k e e') : e.seen k = e'.seen k := by
  induction h with
  | here change => exact hchange _ _ _ change
  | @inside k name attributes before after c c' _ ih =>
      have hname : c'.name = c.name := (congrArg Element.name ih).symm
      have hkind := Kind.inside_eq_of_seen_eq ih
      apply seen_congr_children
      · -- An element inside is no text, whatever it is.
        intro _
        cases before with
        | nil => rfl
        | cons n ns => cases n <;> rfl
      · intro _
        rw [seenIn_append, seenIn_append, seenIn_cons_node, seenIn_cons_node, List.nil_append,
          hkind, hname, ih]

/-! ### Additions that are not seen -/

/-- An attribute is passed over if no loop knows its name and no lookup finds it: lookups find
unqualified names only. -/
theorem Kind.attribute?_eq_none {k : Kind} {a : Attribute} (hloop : a.name ∉ k.loopNames)
    (hlookup : a.space ≠ none ∨ a.name ∉ k.lookupNames) : k.attribute? a = none := by
  have hnone : ¬(a.space = none ∧ a.name ∈ k.lookupNames) := by
    rintro ⟨hspace, hname⟩
    rcases hlookup with h | h
    · exact h hspace
    · exact h hname
  rw [attribute?, if_neg hloop, if_neg hnone]

/-- An attribute that is not seen may come in anywhere among the others. -/
theorem seen_insert_attribute {k : Kind} {a : Attribute} (ha : k.attribute? a = none)
    (name : String) (before after : List Attribute) (children : List Node) :
    Element.seen k ⟨name, before ++ after, children⟩ =
      Element.seen k ⟨name, before ++ a :: after, children⟩ := by
  unfold Element.seen
  rw [List.filterMap_append, List.filterMap_append, List.filterMap_cons_none ha]

/-- Something of an unknown name comes in: an attribute whose name is not looked at, or an
element whose name is not looked at, with anything in it. An element of which the text is
read takes no element. -/
inductive Unknown : Kind → Element → Element → Prop where
  | ofAttribute {k : Kind} {name : String} (before after : List Attribute) {children : List Node}
      (a : Attribute) (unknown : a.name ∉ k.attributeNames) :
      Unknown k ⟨name, before ++ after, children⟩ ⟨name, before ++ a :: after, children⟩
  | ofElement {k : Kind} {name : String} {attributes : List Attribute}
      {children children' : List Node} (c : Element) (unknown : c.name ∉ k.elementNames)
      (notData : k ≠ .data) (notProperty : k ≠ .property)
      (inserted : Inserted c.node children children') :
      Unknown k ⟨name, attributes, children⟩ ⟨name, attributes, children'⟩

/-- An unknown addition leaves no trace in what is seen of the element. -/
theorem Unknown.seen_eq {k : Kind} {e e' : Element} (h : Unknown k e e') :
    e.seen k = e'.seen k := by
  cases h with
  | ofAttribute before after a hunknown =>
      rw [Kind.attributeNames, List.mem_append, not_or] at hunknown
      exact seen_insert_attribute (Kind.attribute?_eq_none hunknown.1 (.inr hunknown.2)) _ _ _ _
  | ofElement c hunknown hdata hproperty hinserted =>
      have hunnoticed : Unnoticed k c.node := by
        intro d hd
        cases hd
        exact hunknown
      apply seen_congr_children
      · intro htext
        cases k <;> simp_all [Kind.isText]
      · intro _
        exact (seenIn_inserted hunnoticed hinserted []).symm

/-- An attribute of a namespace comes in where no loop knows its local name. -/
inductive Foreign : Kind → Element → Element → Prop where
  | intro {k : Kind} {name : String} (before after : List Attribute) {children : List Node}
      (a : Attribute) (foreign : a.space ≠ none) (passed : a.name ∉ k.loopNames) :
      Foreign k ⟨name, before ++ after, children⟩ ⟨name, before ++ a :: after, children⟩

/-- A foreign addition leaves no trace in what is seen of the element. -/
theorem Foreign.seen_eq {k : Kind} {e e' : Element} (h : Foreign k e e') :
    e.seen k = e'.seen k := by
  cases h with
  | intro before after a hforeign hpassed =>
      exact seen_insert_attribute (Kind.attribute?_eq_none hpassed (.inl hforeign)) _ _ _ _

/-- An attribute whose local name a loop knows has a namespace instead of none. -/
inductive Qualified : Kind → Element → Element → Prop where
  | intro {k : Kind} {name : String} (before after : List Attribute) {children : List Node}
      (a : Attribute) (known : a.name ∈ k.loopNames) :
      Qualified k ⟨name, before ++ { a with space := none } :: after, children⟩
        ⟨name, before ++ a :: after, children⟩

/-- A qualified attribute a loop knows by its local name counts as the plain one. -/
theorem Qualified.seen_eq {k : Kind} {e e' : Element} (h : Qualified k e e') :
    e.seen k = e'.seen k := by
  cases h with
  | intro before after a hknown =>
      have hplain : k.attribute? { a with space := none } = k.attribute? a := by
        rw [Kind.attribute?, Kind.attribute?, if_pos hknown, if_pos hknown]
      unfold Element.seen
      simp only [List.filterMap_append, List.filterMap_cons, hplain]

end Document

open Document

/-! ### Documents with additions -/

section Documents

variable {text text' : String} {e e' : Element}

/-- Tileset files of which the same is seen are read alike. -/
theorem parseTileset_eq_of_seen_eq (h : Element.parse? text = some e)
    (h' : Element.parse? text' = some e')
    (hseen : e.seen (Kind.tilesetFile.child e) = e'.seen (Kind.tilesetFile.child e)) :
    parseTileset text' = parseTileset text := by
  have hkind := Kind.child_eq_of_seen_eq hseen
  unfold parseTileset
  rw [parseElement_eq_ok_iff.mpr h, parseElement_eq_ok_iff.mpr h']
  show readTilesetDocument e' = readTilesetDocument e
  rw [← readTilesetDocument_seen e', hkind, ← hseen, readTilesetDocument_seen]

/-- Map files of which the same is seen are read alike. -/
theorem parseMap_eq_of_seen_eq (h : Element.parse? text = some e)
    (h' : Element.parse? text' = some e')
    (hseen : e.seen (Kind.mapFile.child e) = e'.seen (Kind.mapFile.child e)) (dir : Path) :
    parseMap text' dir = parseMap text dir := by
  have hkind := Kind.child_eq_of_seen_eq hseen
  have hdocument : readMapDocument dir e' = readMapDocument dir e := by
    rw [← readMapDocument_seen dir e', hkind, ← hseen, readMapDocument_seen]
  unfold parseMap parseMapDocument
  rw [parseElement_eq_ok_iff.mpr h, parseElement_eq_ok_iff.mpr h']
  exact congrArg (Except.map (·.map)) hdocument

/-- A change that is not seen where it is made does not change what a file is read as. -/
theorem parse_eq_of_within {Change : Kind → Element → Element → Prop}
    (hchange : ∀ k e e', Change k e e' → e.seen k = e'.seen k)
    (h : Element.parse? text = some e) (h' : Element.parse? text' = some e') :
    (Within Change (Kind.tilesetFile.child e) e e' → parseTileset text' = parseTileset text) ∧
      ∀ dir, Within Change (Kind.mapFile.child e) e e' →
        parseMap text' dir = parseMap text dir := by
  constructor
  · intro hwithin
    exact parseTileset_eq_of_seen_eq h h' (hwithin.seen_eq hchange)
  · intro dir hwithin
    exact parseMap_eq_of_seen_eq h h' (hwithin.seen_eq hchange) dir

/-- **Unknown names are passed over.** A tileset file or a map file is read as before, to
the same result or the same error, if an attribute of a name that is not looked at comes
to any element of it, or if an element of a name that is not looked at, with anything in
it, comes in anywhere but where a text is read. -/
theorem parse_eq_of_unknown (h : Element.parse? text = some e)
    (h' : Element.parse? text' = some e') :
    (Within Unknown (Kind.tilesetFile.child e) e e' → parseTileset text' = parseTileset text) ∧
      ∀ dir, Within Unknown (Kind.mapFile.child e) e e' →
        parseMap text' dir = parseMap text dir := by
  apply parse_eq_of_within _ h h'
  intro k c c' hunknown
  exact hunknown.seen_eq

def reedTile (more : List Attribute) : Element :=
  ⟨"tile", ⟨none, "id", "3"⟩ :: more ++ [⟨none, "class", "reed"⟩], []⟩

def reedsElement (more : List Attribute) : Element where
  name := "tileset"
  attributes := [⟨none, "tilewidth", "8"⟩, ⟨none, "tileheight", "8"⟩]
  children := [(reedTile more).node]

def reedsText : String :=
  "<tileset tilewidth='8' tileheight='8'><tile id='3' class='reed'/></tileset>"

def reedsGlowingText : String :=
  "<tileset tilewidth='8' tileheight='8'><tile id='3' glow='1' class='reed'/></tileset>"

def marshElement (first : List Node) : Element where
  name := "map"
  attributes :=
    [⟨none, "width", "1"⟩, ⟨none, "height", "1"⟩, ⟨none, "tilewidth", "8"⟩,
      ⟨none, "tileheight", "8"⟩]
  children := first ++ [.element "layer" [] [.element "data" [] [.text "7"]]]

/-- Objects with a layer among them that could not be read. -/
def marshObjects : Element :=
  ⟨"objectgroup", [], [.element "layer" [] []]⟩

def marshText : String :=
  "<map width='1' height='1' tilewidth='8' tileheight='8'><layer><data>7</data></layer></map>"

def marshObjectsText : String :=
  "<map width='1' height='1' tilewidth='8'
  tileheight='8'><objectgroup><layer/></objectgroup><layer><data>7</data></layer></map>"

def reeds : Tileset :=
  { Tileset.empty with
    tileWidth := 8
    tileHeight := 8
    tiles := (∅ : Table UInt32 TileData).insert 3 ⟨some "reed", ∅⟩ }

def marsh : TileMap :=
  { TileMap.blank 1 1 8 8 with layers := [⟨"", true, .other, [7]⟩] }

theorem parse?_reeds :
    Element.parse? reedsText = some (reedsElement []) ∧
      Element.parse? reedsGlowingText = some (reedsElement [⟨none, "glow", "1"⟩]) :=
  ⟨(parse?_of_toList reedsText String.toList_ofList).trans (by decide +kernel),
    (parse?_of_toList reedsGlowingText String.toList_ofList).trans (by decide +kernel)⟩

theorem parse?_marsh :
    Element.parse? marshText = some (marshElement []) ∧
      Element.parse? marshObjectsText = some (marshElement [marshObjects.node]) :=
  ⟨(parse?_of_toList marshText String.toList_ofList).trans (by decide +kernel),
    (parse?_of_toList marshObjectsText String.toList_ofList).trans (by decide +kernel)⟩

theorem parse_reeds_marsh :
    parseTileset reedsText = .ok ⟨none, reeds, []⟩ ∧ parseMap marshText ⟨"d"⟩ = .ok marsh := by
  constructor
  · rw [parseTileset, parseElement_eq_ok_iff.mpr parse?_reeds.1]
    decide +kernel
  · rw [parseMap, parseMapDocument, parseElement_eq_ok_iff.mpr parse?_marsh.1]
    decide +kernel

/-- A tile may glow, and a map may have objects. -/
theorem reeds_marsh_unknown :
    parseTileset reedsGlowingText = .ok ⟨none, reeds, []⟩ ∧
      parseMap marshObjectsText ⟨"d"⟩ = .ok marsh := by
  have htile : Within Unknown (Kind.tilesetFile.child (reedsElement [])) (reedsElement [])
      (reedsElement [⟨none, "glow", "1"⟩]) :=
    .inside [] [] (.here (.ofAttribute [⟨none, "id", "3"⟩] [⟨none, "class", "reed"⟩]
      ⟨none, "glow", "1"⟩ (by decide)))
  have hobjects : Within Unknown (Kind.mapFile.child (marshElement [])) (marshElement [])
      (marshElement [marshObjects.node]) :=
    .here (.ofElement marshObjects (by decide) (by decide) (by decide) (.between [] _))
  rw [(parse_eq_of_unknown parse?_reeds.1 parse?_reeds.2).1 htile,
    (parse_eq_of_unknown parse?_marsh.1 parse?_marsh.2).2 ⟨"d"⟩ hobjects]
  exact parse_reeds_marsh

/-- **When attributes of a namespace are passed over.** A tileset file or a map file is
read as before if an attribute of a namespace comes to any element whose reader does not
look for its local name in a loop. Where it does, the namespace makes no difference: the
attribute counts as the plain one of that name would in its place. -/
theorem parse_eq_of_foreign (h : Element.parse? text = some e)
    (h' : Element.parse? text' = some e') :
    ((Within Foreign (Kind.tilesetFile.child e) e e' → parseTileset text' = parseTileset text) ∧
      ∀ dir, Within Foreign (Kind.mapFile.child e) e e' →
        parseMap text' dir = parseMap text dir) ∧
    ((Within Qualified (Kind.tilesetFile.child e) e e' → parseTileset text' = parseTileset text) ∧
      ∀ dir, Within Qualified (Kind.mapFile.child e) e e' →
        parseMap text' dir = parseMap text dir) := by
  constructor
  · apply parse_eq_of_within _ h h'
    intro k c c' hforeign
    exact hforeign.seen_eq
  · apply parse_eq_of_within _ h h'
    intro k c c' hqualified
    exact hqualified.seen_eq

def reedsForeignText : String :=
  "<tileset xmlns:x='urn:x' tilewidth='8'
  tileheight='8'><tile id='3' x:class='mud' class='reed'/></tileset>"

theorem parse?_reedsForeign :
    Element.parse? reedsForeignText = some (reedsElement [⟨some "urn:x", "class", "mud"⟩]) :=
  (parse?_of_toList reedsForeignText String.toList_ofList).trans (by decide +kernel)

/-- The class of a tile is looked up, so that one of a namespace is passed over. -/
theorem reeds_foreign :
    parseTileset reedsForeignText = .ok ⟨none, reeds, []⟩ := by
  have htile : Within Foreign (Kind.tilesetFile.child (reedsElement [])) (reedsElement [])
      (reedsElement [⟨some "urn:x", "class", "mud"⟩]) :=
    .inside [] [] (.here (.intro [⟨none, "id", "3"⟩] [⟨none, "class", "reed"⟩]
      ⟨some "urn:x", "class", "mud"⟩ (by decide) (by decide)))
  rw [(parse_eq_of_foreign parse?_reeds.1 parse?_reedsForeign).1.1 htile]
  exact parse_reeds_marsh.1

/-- A tileset that has some attributes more after its tile width. -/
def narrowElement (more : List Attribute) : Element :=
  ⟨"tileset", ⟨none, "tilewidth", "8"⟩ :: more ++ [⟨none, "tileheight", "8"⟩], []⟩

def narrowText : String :=
  "<tileset tilewidth='8' tileheight='8'/>"

def narrowForeignText : String :=
  "<tileset xmlns:x='urn:x' tilewidth='8' x:tilewidth='16' tileheight='8'/>"

theorem parse?_narrow :
    Element.parse? narrowText = some (narrowElement []) ∧
      Element.parse? narrowForeignText =
        some (narrowElement [⟨some "urn:x", "tilewidth", "16"⟩]) :=
  ⟨(parse?_of_toList narrowText String.toList_ofList).trans (by decide +kernel),
    (parse?_of_toList narrowForeignText String.toList_ofList).trans (by decide +kernel)⟩

/-- The tile width is read in a loop, so that one of a namespace replaces the plain one. -/
theorem foreign_tilewidth_replaces :
    Element.parse? narrowText = some (narrowElement []) ∧
      Element.parse? narrowForeignText =
        some (narrowElement [⟨some "urn:x", "tilewidth", "16"⟩]) ∧
      parseTileset narrowText =
        .ok ⟨none, { Tileset.empty with tileWidth := 8, tileHeight := 8 }, []⟩ ∧
      parseTileset narrowForeignText =
        .ok ⟨none, { Tileset.empty with tileWidth := 16, tileHeight := 8 }, []⟩ := by
  obtain ⟨hplain, hforeign⟩ := parse?_narrow
  refine ⟨hplain, hforeign, ?_, ?_⟩
  · rw [parseTileset, parseElement_eq_ok_iff.mpr hplain]
    decide +kernel
  · rw [parseTileset, parseElement_eq_ok_iff.mpr hforeign]
    decide +kernel

end Documents

end TileAtlas
