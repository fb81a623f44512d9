/-!
# Markup elements

The tree that a markup document stands for. Of the characters in an element only those before its
first child are kept; an element without such characters has no text.
-/

namespace KeywordCatalog.Markup

/-- An element with its attributes, the text before its first child, and its children. -/
inductive Element
  | node (tag : String) (attributes : List (String × String)) (text : Option String)
      (children : List Element)
deriving Repr

namespace Element

/-- The name of an element. -/
def tag : Element → String
  | .node tag _ _ _ => tag

/-- The attributes of an element. -/
def attributes : Element → List (String × String)
  | .node _ attributes _ _ => attributes

/-- The text before the first child of an element. -/
def text : Element → Option String
  | .node _ _ text _ => text

/-- The elements in an element. -/
def children : Element → List Element
  | .node _ _ _ children => children

/-- The value of an attribute. -/
def attribute? (e : Element) (name : String) : Option String := e.attributes.lookup name

/-- The children of a name. -/
def childrenNamed (e : Element) (name : String) : List Element :=
  e.children.filter fun child => child.tag == name

/-- The first child of a name. -/
def child? (e : Element) (name : String) : Option Element :=
  e.children.find? fun child => child.tag == name

mutual

/-- An element and all that is in it, each before what it contains. -/
def selfAndBelow : Element → List Element
  | .node tag attributes text children =>
    .node tag attributes text children :: allBelow children

/-- The elements of a list and all that is in them. -/
def allBelow : List Element → List Element
  | [] => []
  | e :: rest => selfAndBelow e ++ allBelow rest

end

/-- All elements in an element, at any depth. -/
def inside (e : Element) : List Element := allBelow e.children

/-- The elements of one name that are children of elements of another name at any depth. -/
def grandchildren (e : Element) (parent child : String) : List Element :=
  (e.inside.filter fun d => d.tag == parent).flatMap fun d => d.childrenNamed child

end Element

end KeywordCatalog.Markup
