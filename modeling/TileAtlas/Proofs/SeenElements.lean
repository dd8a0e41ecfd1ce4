/-
What the readers see of an element.

The readers take each element for something (`Kind`): what it is taken for says which
attributes are looked at, by local name or only without a namespace, which elements inside
are read, and whether the text is. `Element.seen` leaves out everything else, at every
depth. Looking up an attribute, a loop over the attributes and the searches for elements
inside find in what is seen what they find in the element itself.
-/

import TileAtlas.Proofs.LayerElements

namespace TileAtlas

open Fallible Markup

/-- A run may leave out members that no step reacts to, and put others in their place that
every step takes alike. -/
theorem Fallible.foldlM_filterMap {ε σ α : Type} {step : σ → α → Except ε σ} {f : α → Option α}
    {xs : List α} (hnone : ∀ x ∈ xs, f x = none → ∀ s, step s x = .ok s)
    (hsome : ∀ x ∈ xs, ∀ y, f x = some y → ∀ s, step s y = step s x) (s : σ) :
    (xs.filterMap f).foldlM step s = xs.foldlM step s := by
  induction xs generalizing s with
  | nil => rfl
  | cons x xs ih =>
      have ih := ih (fun z hz => hnone z (List.mem_cons_of_mem x hz))
        (fun z hz => hsome z (List.mem_cons_of_mem x hz))
      rw [List.foldlM_cons]
      cases hx : f x with
      | none =>
          rw [List.filterMap_cons_none hx, hnone x List.mem_cons_self hx, ih]
          rfl
      | some y =>
          rw [List.filterMap_cons_some hx, List.foldlM_cons, hsome x List.mem_cons_self y hx]
          simp only [ih]

namespace Document

/-! ### What elements are taken for -/

/-- What the readers take an element for. The first two stand for the documents around the
root elements. -/
inductive Kind where
  | tilesetFile
  | mapFile
  | tileset
  | tileOffset
  | image
  | tile
  | properties
  | property
  | wangSets
  | wangSet
  | wangColor
  | wangTile
  | map
  | reference
  | embedded
  | group
  | layer
  | data
  | unread
deriving DecidableEq, Repr

namespace Kind

def loopNames : Kind → List String
  | .tileset | .embedded =>
    ["name", "class", "tilewidth", "tileheight", "tilecount", "columns", "spacing", "margin"]
  | .tileOffset => ["x", "y"]
  | .image => ["source", "width", "height", "trans"]
  | .wangSet => ["name", "type", "tile"]
  | .wangColor => ["name", "color", "tile", "probability"]
  | .map => ["width", "height", "tilewidth", "tileheight", "infinite", "orientation"]
  | _ => []

/-- The attributes that are looked up, by names without a namespace. -/
def lookupNames : Kind → List String
  | .tile => ["id", "class", "type"]
  | .property => ["name", "type", "value"]
  | .wangTile => ["tileid", "wangid"]
  | .reference | .embedded => ["firstgid", "source"]
  | .group => ["visible"]
  | .layer => ["name", "visible"]
  | .data => ["compression", "encoding"]
  | _ => []

/-- The elements that are read inside, and what they are taken for. -/
def inner : Kind → List (String × Kind)
  | .tilesetFile => [("tileset", .tileset)]
  | .mapFile => [("map", .map)]
  | .tileset | .embedded =>
    [("tileoffset", .tileOffset), ("image", .image), ("properties", .properties), ("tile", .tile),
      ("wangsets", .wangSets)]
  | .tile => [("properties", .properties)]
  | .properties => [("property", .property)]
  | .wangSets => [("wangset", .wangSet)]
  | .wangSet => [("wangcolor", .wangColor), ("wangtile", .wangTile)]
  | .map => [("tileset", .embedded), ("layer", .layer), ("group", .group)]
  | .group => [("layer", .layer), ("group", .group)]
  | .layer => [("data", .data)]
  | _ => []

def attributeNames (k : Kind) : List String :=
  k.loopNames ++ k.lookupNames

def elementNames (k : Kind) : List String :=
  k.inner.map (·.1)

/-- Whether only the first element of a name is read inside. -/
def takesFirst : Kind → Bool
  | .tile | .layer => true
  | _ => false

/-- Whether the text of the element is read, and nothing else inside. -/
def isText : Kind → Bool
  | .property | .data => true
  | _ => false

/-- What an element is taken for inside another one. A tileset of a map with a source is a
reference to a file, of which nothing more is read. -/
def child (k : Kind) (c : Element) : Kind :=
  match k.inner.lookup c.name with
  | none => .unread
  | some kind => if kind = .embedded ∧ (c.attribute? "source").isSome then .reference else kind

def inside (k : Kind) (met : List String) (c : Element) : Kind :=
  if k.takesFirst && met.contains c.name then .unread else k.child c

/-- What is seen of an attribute: its namespace is not, if it is read in a loop. -/
def attribute? (k : Kind) (a : Attribute) : Option Attribute :=
  if a.name ∈ k.loopNames then some { a with space := none }
  else if a.space = none ∧ a.name ∈ k.lookupNames then some a
  else none

/-- What is seen of the nodes inside an element that is read for its text: the text it
starts with, and of layer data no more than up to the end of the last field. -/
def seenText (k : Kind) (ns : List Node) : List Node :=
  [.text (if k = .data then layerText (leadingText ns) else leadingText ns)]

theorem ne_unread_of_mem_inner {k : Kind} : ∀ entry ∈ k.inner, entry.2 ≠ .unread := by
  cases k <;> decide

/-- An element is not read exactly if its name is not looked at. -/
theorem child_eq_unread_iff {k : Kind} {c : Element} :
    k.child c = .unread ↔ c.name ∉ k.elementNames := by
  unfold child elementNames
  cases hlookup : k.inner.lookup c.name with
  | none =>
      have hnone := List.lookup_eq_none_iff.mp hlookup
      simp only [true_iff, List.mem_map, not_exists, not_and]
      intro entry hentry heq
      have hne := hnone entry hentry
      simp [heq] at hne
  | some kind =>
      obtain ⟨before, after, hinner, -⟩ := List.lookup_eq_some_iff.mp hlookup
      have hmem : (c.name, kind) ∈ k.inner := by simp [hinner]
      have hname : c.name ∈ k.inner.map (·.1) := List.mem_map_of_mem hmem
      simp only [hname, not_true_eq_false, iff_false]
      by_cases hsource : kind = .embedded ∧ (c.attribute? "source").isSome
      · rw [if_pos hsource]
        decide
      · rw [if_neg hsource]
        exact ne_unread_of_mem_inner _ hmem

/-- Unless only the first of a name is read, a child is seen the same wherever it stands. -/
theorem inside_of_takesFirst_eq_false {k : Kind} (h : k.takesFirst = false) (met : List String)
    (c : Element) : k.inside met c = k.child c := by
  simp [inside, h]

end Kind

end Document

/-! ### What is seen -/

open Document (Kind)

mutual

/-- What is seen of a node that is taken for an element of a kind. -/
def Markup.Node.seen (k : Kind) : Node → Node
  | .element name attributes children =>
    .element name (attributes.filterMap k.attribute?)
      (if k.isText then k.seenText children else Document.seenIn k [] children)
  | n => n

def Document.seenIn (k : Kind) (met : List String) : List Node → List Node
  | [] => []
  | n :: ns =>
    match n.element? with
    | none => Document.seenIn k met ns
    | some c =>
      if k.inside met c = .unread then Document.seenIn k (met ++ [c.name]) ns
      else n.seen (k.inside met c) :: Document.seenIn k (met ++ [c.name]) ns

end

def Markup.Element.seen (k : Kind) (e : Element) : Element where
  name := e.name
  attributes := e.attributes.filterMap k.attribute?
  children := if k.isText then k.seenText e.children else Document.seenIn k [] e.children

namespace Document

@[simp] theorem name_seen (k : Kind) (e : Element) : (e.seen k).name = e.name := rfl

theorem element?_node (e : Element) : e.node.element? = some e := rfl

theorem seen_node (k : Kind) (e : Element) : e.node.seen k = (e.seen k).node := by
  rw [Element.node, Node.seen]
  rfl

/-- Texts and comments between the children are not seen. -/
theorem seenIn_cons_of_not_element {n : Node} (hn : n.element? = none) (k : Kind)
    (met : List String) (ns : List Node) : seenIn k met (n :: ns) = seenIn k met ns := by
  rw [seenIn, hn]

/-- A child is seen as its kind says, or left out if it is not read. -/
theorem seenIn_cons_node (k : Kind) (met : List String) (c : Element) (ns : List Node) :
    seenIn k met (c.node :: ns) =
      if k.inside met c = .unread then seenIn k (met ++ [c.name]) ns
      else (c.seen (k.inside met c)).node :: seenIn k (met ++ [c.name]) ns := by
  rw [seenIn, element?_node]
  simp only [seen_node]

/-- What is seen of a node inside an element that reads all elements of a name. -/
def Kind.seenNode? (k : Kind) (n : Node) : Option Node :=
  n.element?.bind fun c => if k.child c = .unread then none else some (c.seen (k.child c)).node

theorem Kind.seenNode?_of_not_element {k : Kind} {n : Node} (hn : n.element? = none) :
    k.seenNode? n = none := by
  rw [seenNode?, hn]
  rfl

theorem Kind.seenNode?_of_unread {k : Kind} {n : Node} {c : Element} (hn : n.element? = some c)
    (hc : k.child c = .unread) : k.seenNode? n = none := by
  rw [seenNode?, hn, Option.bind_some, if_pos hc]

theorem Kind.seenNode?_of_read {k : Kind} {n : Node} {c : Element} (hn : n.element? = some c)
    (hc : k.child c ≠ .unread) : k.seenNode? n = some (c.seen (k.child c)).node := by
  rw [seenNode?, hn, Option.bind_some, if_neg hc]

/-- Where all children of a name are read, each is seen by itself. -/
theorem seenIn_eq_filterMap {k : Kind} (hk : k.takesFirst = false) (met : List String)
    (ns : List Node) : seenIn k met ns = ns.filterMap k.seenNode? := by
  induction ns generalizing met with
  | nil => rfl
  | cons n ns ih =>
      cases hn : n.element? with
      | none =>
          rw [List.filterMap_cons_none (Kind.seenNode?_of_not_element hn),
            seenIn_cons_of_not_element hn, ih]
      | some c =>
          have hinside := k.inside_of_takesFirst_eq_false hk met c
          by_cases hc : k.child c = .unread
          · rw [List.filterMap_cons_none (Kind.seenNode?_of_unread hn hc),
              Node.eq_node_of_element? hn, seenIn_cons_node, hinside, if_pos hc, ih]
          · rw [List.filterMap_cons_some (Kind.seenNode?_of_read hn hc),
              Node.eq_node_of_element? hn, seenIn_cons_node, hinside, if_neg hc, ih]

/-- What is seen of an element inside an element that reads all elements of a name. -/
def Kind.seenChild? (k : Kind) (c : Element) : Option Element :=
  if k.child c = .unread then none else some (c.seen (k.child c))

/-- The elements that are seen are the children that are read, in order. -/
theorem elements_seen {k : Kind} (hfirst : k.takesFirst = false) (htext : k.isText = false)
    (e : Element) : (e.seen k).elements = e.elements.filterMap k.seenChild? := by
  have hnode : ∀ n : Node,
      (k.seenNode? n).bind Node.element? = n.element?.bind k.seenChild? := by
    intro n
    unfold Kind.seenNode? Kind.seenChild?
    cases n.element? with
    | none => rfl
    | some c =>
        by_cases hc : k.child c = .unread
        · simp only [Option.bind_some, if_pos hc, Option.bind_none]
        · simp only [Option.bind_some, if_neg hc]
          rfl
  simp only [Element.elements, Element.seen, htext, Bool.false_eq_true, if_false,
    seenIn_eq_filterMap hfirst, List.filterMap_filterMap, hnode]

/-- Where elements of one name are read, all others are not. -/
theorem Kind.child_of_inner_eq {k inner : Kind} {name : String} (hinner : k.inner = [(name, inner)])
    (hplain : inner ≠ .embedded) (c : Element) :
    k.child c = if c.name = name then inner else .unread := by
  by_cases hc : c.name = name
  · simp [child, hinner, hc, hplain]
  · rw [if_neg hc, child_eq_unread_iff]
    simpa [elementNames, hinner] using hc

/-- Where elements of one name are read, those are seen. -/
theorem elementsNamed_seen {k inner : Kind} {name : String} (hfirst : k.takesFirst = false)
    (htext : k.isText = false) (hinner : k.inner = [(name, inner)]) (hread : inner ≠ .unread)
    (hplain : inner ≠ .embedded) (e : Element) :
    (e.seen k).elementsNamed name = (e.elementsNamed name).map (Element.seen inner) := by
  have hchild : ∀ c : Element,
      k.seenChild? c = if c.name = name then some (c.seen inner) else none := by
    intro c
    rw [Kind.seenChild?, Kind.child_of_inner_eq hinner hplain]
    by_cases hc : c.name = name
    · rw [if_pos hc, if_pos hc, if_neg hread]
    · rw [if_neg hc, if_neg hc, if_pos rfl]
  unfold Element.elementsNamed
  rw [elements_seen hfirst htext]
  induction e.elements with
  | nil => rfl
  | cons c cs ih =>
      by_cases hc : c.name = name
      · have hseen : k.seenChild? c = some (c.seen inner) := by rw [hchild, if_pos hc]
        rw [List.filterMap_cons_some hseen, List.filter_cons_of_pos (by simpa using hc),
          List.filter_cons_of_pos (by simpa using hc), ih, List.map_cons]
      · have hseen : k.seenChild? c = none := by rw [hchild, if_neg hc]
        rw [List.filterMap_cons_none hseen, List.filter_cons_of_neg (by simpa using hc), ih]

/-- Where elements of one name are read, the first of them is seen. -/
theorem child?_seen {k inner : Kind} {name : String} (htext : k.isText = false)
    (hinner : k.inner = [(name, inner)]) (hread : inner ≠ .unread) (hplain : inner ≠ .embedded)
    (e : Element) : (e.seen k).child? name = (e.child? name).map (Element.seen inner) := by
  have hnodes : ∀ (ns : List Node) (met : List String), name ∉ met →
      ((seenIn k met ns).filterMap Node.element?).find? (fun c => c.name == name) =
        ((ns.filterMap Node.element?).find? fun c => c.name == name).map (Element.seen inner) := by
    intro ns
    induction ns with
    | nil =>
        intro met hmet
        rfl
    | cons n ns ih =>
        intro met hmet
        cases hn : n.element? with
        | none =>
            rw [List.filterMap_cons_none hn, seenIn_cons_of_not_element hn]
            exact ih met hmet
        | some c =>
            rw [List.filterMap_cons_some hn, Node.eq_node_of_element? hn, seenIn_cons_node]
            by_cases hc : c.name = name
            · have hkind : k.inside met c = inner := by
                simp [Kind.inside, Kind.child_of_inner_eq hinner hplain, hc, hmet]
              rw [hkind, if_neg hread, List.filterMap_cons_some (element?_node _),
                List.find?_cons_of_pos (by simpa using hc),
                List.find?_cons_of_pos (by simpa using hc), Option.map_some]
            · have hkind : k.inside met c = .unread := by
                simp [Kind.inside, Kind.child_of_inner_eq hinner hplain, hc]
              rw [hkind, if_pos rfl, List.find?_cons_of_neg (by simpa using hc)]
              apply ih (met ++ [c.name])
              intro hmem
              rcases List.mem_append.mp hmem with hmem | hmem
              · exact hmet hmem
              · exact hc (List.mem_singleton.mp hmem).symm
  unfold Element.child? Element.elements
  simp only [Element.seen, htext, Bool.false_eq_true, if_false]
  exact hnodes e.children [] List.not_mem_nil

/-- The attributes a reader looks up are still there. -/
theorem attribute?_seen {k : Kind} {name : String} (hlookup : name ∈ k.lookupNames)
    (hloop : name ∉ k.loopNames) (e : Element) :
    (e.seen k).attribute? name = e.attribute? name := by
  unfold Element.attribute?
  simp only [Element.seen]
  induction e.attributes with
  | nil => rfl
  | cons a as ih =>
      by_cases ha : a.space = none ∧ a.name = name
      · have hseen : k.attribute? a = some a := by
          simp [Kind.attribute?, ha.1, ha.2, hloop, hlookup]
        rw [List.filterMap_cons_some hseen, List.find?_cons_of_pos (by simp [ha.1, ha.2]),
          List.find?_cons_of_pos (by simp [ha.1, ha.2])]
      · rw [List.find?_cons_of_neg (by simpa using ha)]
        cases hseen : k.attribute? a with
        | none =>
            rw [List.filterMap_cons_none hseen]
            exact ih
        | some b =>
            have hb : ¬(b.space = none ∧ b.name = name) := by
              unfold Kind.attribute? at hseen
              split at hseen
              · rename_i hmem
                cases hseen
                rintro ⟨-, rfl⟩
                exact hloop hmem
              · split at hseen
                · cases hseen
                  exact ha
                · cases hseen
            rw [List.filterMap_cons_some hseen, List.find?_cons_of_neg (by simpa using hb)]
            exact ih

/-- A loop that goes by local names sees all the attributes it reacts to. -/
theorem foldlM_attributes_seen {k : Kind} {σ : Type} {step : σ → Attribute → Read σ}
    (hspace : ∀ s a, step s { a with space := none } = step s a)
    (hskip : ∀ s a, a.name ∉ k.loopNames → step s a = .ok s) (e : Element) (s : σ) :
    (e.seen k).attributes.foldlM step s = e.attributes.foldlM step s := by
  apply foldlM_filterMap
  · intro a ha hnone s
    apply hskip
    intro hmem
    simp [Kind.attribute?, hmem] at hnone
  · intro a ha b hb s
    unfold Kind.attribute? at hb
    split at hb
    · cases hb
      exact hspace s a
    · split at hb
      · cases hb
        rfl
      · cases hb

/-- A loop over the elements inside sees all the elements it reacts to. -/
theorem foldlM_elements_seen {k : Kind} {σ : Type} {step : σ → Element → Read σ}
    (hfirst : k.takesFirst = false) (htext : k.isText = false)
    (hskip : ∀ s c, c.name ∉ k.elementNames → step s c = .ok s)
    (hread : ∀ s c, step s (c.seen (k.child c)) = step s c) (e : Element) (s : σ) :
    (e.seen k).elements.foldlM step s = e.elements.foldlM step s := by
  rw [elements_seen hfirst htext]
  apply foldlM_filterMap
  · intro c hc hnone s
    apply hskip
    rw [← Kind.child_eq_unread_iff]
    by_contra hne
    simp [Kind.seenChild?, hne] at hnone
  · intro c hc d hd s
    unfold Kind.seenChild? at hd
    split at hd
    · cases hd
    · cases hd
      exact hread s c

end Document

end TileAtlas
