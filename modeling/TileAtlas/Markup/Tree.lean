/-
Element trees of a markup document.

An attribute has a local name and, if it was written with a qualifier, the namespace
that the qualifier stands for. Elements are known by their local names alone. Character
data that was written in several pieces next to each other is one text node; comments
and processing instructions are nodes of their own and separate the texts around them.
-/

namespace TileAtlas.Markup

structure Attribute where
  space : Option String
  name : String
  value : String
deriving DecidableEq, Repr

inductive Node where
  | text (content : String)
  | comment (content : String)
  | instruction (target : String)
  | element (name : String) (attributes : List Attribute) (children : List Node)

/-- An element: its local name, its attributes in written order, and what is in it. -/
structure Element where
  name : String
  attributes : List Attribute
  children : List Node

/-- The element a node is, if it is one. -/
def Node.element? : Node → Option Element
  | .element name attributes children => some ⟨name, attributes, children⟩
  | _ => none

namespace Element

def node (e : Element) : Node :=
  .element e.name e.attributes e.children

def elements (e : Element) : List Element :=
  e.children.filterMap Node.element?

def elementsNamed (e : Element) (name : String) : List Element :=
  e.elements.filter (fun c => c.name == name)

/-- The first element of a name directly inside. -/
def child? (e : Element) (name : String) : Option Element :=
  e.elements.find? (fun c => c.name == name)

/-- The value of the attribute that has this name and no namespace. -/
def attribute? (e : Element) (name : String) : Option String :=
  (e.attributes.find? (fun a => a.space.isNone && a.name == name)).map (·.value)

/-- The text an element starts with; `none` when something else comes first. -/
def text? (e : Element) : Option String :=
  match e.children with
  | .text s :: _ => some s
  | _ => none

end Element

/-! ### Comparing trees -/

mutual

/-- Whether two nodes are the same tree. -/
def Node.same : Node → Node → Bool
  | .text s, .text t => s == t
  | .comment s, .comment t => s == t
  | .instruction s, .instruction t => s == t
  | .element n as cs, .element n' as' cs' => n == n' && as == as' && sameNodes cs cs'
  | _, _ => false

/-- Whether two lists of nodes are the same trees. -/
def sameNodes : List Node → List Node → Bool
  | [], [] => true
  | m :: ms, n :: ns => m.same n && sameNodes ms ns
  | _, _ => false

end

mutual

/-- The comparison accepts equal nodes only. -/
theorem Node.eq_of_same : ∀ {m n : Node}, m.same n = true → m = n
  | .text s, .text t, h => by rw [beq_iff_eq.mp h]
  | .comment s, .comment t, h => by rw [beq_iff_eq.mp h]
  | .instruction s, .instruction t, h => by rw [beq_iff_eq.mp h]
  | .element n as cs, .element n' as' cs', h => by
    simp only [Node.same, Bool.and_eq_true, beq_iff_eq] at h
    rw [h.1.1, h.1.2, eq_of_sameNodes h.2]

theorem eq_of_sameNodes : ∀ {ms ns : List Node}, sameNodes ms ns = true → ms = ns
  | [], [], _ => rfl
  | m :: ms, n :: ns, h => by
    simp only [sameNodes, Bool.and_eq_true] at h
    rw [m.eq_of_same h.1, eq_of_sameNodes h.2]

end

mutual

theorem Node.same_self : ∀ n : Node, n.same n = true
  | .text s => beq_self_eq_true s
  | .comment s => beq_self_eq_true s
  | .instruction s => beq_self_eq_true s
  | .element n as cs => by simp [Node.same, sameNodes_self cs]

theorem sameNodes_self : ∀ ns : List Node, sameNodes ns ns = true
  | [] => rfl
  | n :: ns => by simp [sameNodes, n.same_self, sameNodes_self ns]

end

instance : DecidableEq Node := fun m n =>
  decidable_of_iff (m.same n = true) ⟨Node.eq_of_same, fun h => h ▸ m.same_self⟩

instance : DecidableEq Element := fun d e =>
  decidable_of_iff (d.node = e.node) (by cases d; cases e; simp [Element.node])

end TileAtlas.Markup
