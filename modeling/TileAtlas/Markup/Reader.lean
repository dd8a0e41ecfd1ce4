/-
Building the element tree of a document from its tokens.

The tokens are read one by one against the stack of elements that are still open. Each
open element knows the namespaces that its qualifiers stand for. A document is well
formed when every token fits, no element is left open, and there is exactly one
element outside all others.
-/

import TileAtlas.Markup.Content
import TileAtlas.Markup.Token
import TileAtlas.Markup.Tree

namespace TileAtlas.Markup

/-- What the two reserved namespaces start with. -/
def reservedStem : String := "http:" ++ "//www.w3.org/"

def xmlSpace : String := reservedStem ++ "XML/1998/namespace"

/-- The namespace of the declarations themselves, which nothing may be bound to. -/
def xmlnsSpace : String := reservedStem ++ "2000/xmlns/"

/-- Namespaces by qualifier, the innermost declaration first. -/
abbrev Scope := List (String × String)

/-- An element that is still open. The children are in reverse order. -/
structure Frame where
  name : QName
  attributes : List Attribute
  scope : Scope
  children : List Node

/-- The state between two tokens: the open elements, innermost first, and the element of
the document once it is complete. -/
structure Builder where
  stack : List Frame
  root : Option Element

/-- What an attribute as written is: a declaration of a namespace, one of the default
namespace, or an attribute proper. -/
inductive AttributeKind where
  | declaration (qualifier space : String)
  | ignored
  | proper (name : QName) (value : String)

/-- Classify an attribute. A declaration must not touch the two reserved namespaces. -/
def RawAttribute.kind? (a : RawAttribute) : Option AttributeKind := do
  let value ← attributeContent? a.value
  if a.name.qualifier = "xmlns" then
    if value = xmlnsSpace then none
    else if a.name.name = "xml" then (if value = xmlSpace then some .ignored else none)
    else if value = xmlSpace then none
    else some (.declaration a.name.name value)
  else if a.name.name = "xmlns" then
    if value = xmlSpace ∨ value = xmlnsSpace then none else some .ignored
  else some (.proper a.name value)

/-- The namespace of an attribute: none without a qualifier; `none` outside if the
qualifier is not declared. -/
def spaceOf? (scope : Scope) (qualifier : String) : Option (Option String) :=
  if qualifier = "" then some none
  else if qualifier = "xml" then some (some xmlSpace)
  else (scope.lookup qualifier).map some

/-- The scope and the attributes of an opening tag inside an outer scope. -/
def resolve? (outer : Scope) (raws : List RawAttribute) : Option (Scope × List Attribute) := do
  let kinds ← raws.mapM RawAttribute.kind?
  let declared := kinds.filterMap fun
    | .declaration q s => some (q, s)
    | _ => none
  if ¬(declared.map (·.1)).Nodup then none
  else
    let scope := declared ++ outer
    let attributes ← (kinds.filterMap fun
      | .proper n v => some (n, v)
      | _ => none).mapM fun (n, v) =>
        (spaceOf? scope n.qualifier).map (fun s => (⟨s, n.name, v⟩ : Attribute))
    if (attributes.map (fun a => (a.space, a.name))).Nodup then
      return (scope, attributes)
    else none

namespace Builder

def empty : Builder := ⟨[], none⟩

/-- Add a complete node. Outside all elements there is room for one element. -/
def addNode (b : Builder) (n : Node) : Option Builder :=
  match b.stack, n with
  | f :: fs, n => some { b with stack := { f with children := n :: f.children } :: fs }
  | [], .element name attributes children =>
    if b.root.isSome then none else some { b with root := some ⟨name, attributes, children⟩ }
  | [], .text _ => none
  | [], _ => some b

/-- Add character data, to the text just before it if there is one. -/
def addText (b : Builder) (s : String) : Option Builder :=
  match b.stack with
  | f :: fs =>
    let children :=
      match f.children with
      | .text t :: ns => .text (t ++ s) :: ns
      | ns => .text s :: ns
    some { b with stack := { f with children := children } :: fs }
  | [] => none

/-- Whether the qualifier of an element is declared. -/
def knows (scope : Scope) (qualifier : String) : Bool :=
  qualifier == "" || (scope.lookup qualifier).isSome

def step (b : Builder) : Token → Option Builder
  | .opening name raws closed => do
    let outer := (b.stack.head?.map (·.scope)).getD []
    let (scope, attributes) ← resolve? outer raws
    if name.qualifier = "xmlns" ∨ knows scope name.qualifier = false then none
    else if closed then b.addNode (.element name.name attributes [])
    else some { b with stack := ⟨name, attributes, scope, []⟩ :: b.stack }
  | .closing name =>
    match b.stack with
    | f :: fs =>
      if f.name = name then
        ({ b with stack := fs } : Builder).addNode
          (.element f.name.name f.attributes f.children.reverse)
      else none
    | [] => none
  | .text raw =>
    if b.stack.isEmpty then (if raw.all isSpace then some b else none)
    else (textContent? raw).bind b.addText
  | .section raw => b.addText (sectionContent raw)
  | .comment content => b.addNode (.comment content)
  | .instruction target => b.addNode (.instruction target)

end Builder

def Element.ofTokens? (tokens : List Token) : Option Element :=
  (tokens.foldlM Builder.step Builder.empty).bind fun b =>
    if b.stack.isEmpty then b.root else none

/-- Read a document; `none` if it is not well formed. -/
def Element.parse? (document : String) : Option Element :=
  (scan? document).bind Element.ofTokens?

end TileAtlas.Markup
