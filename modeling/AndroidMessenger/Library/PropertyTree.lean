namespace AndroidMessenger.Library

/-! Property trees: a node holds a text and an ordered list of keyed children,
in which a key may occur more than once. -/

mutual
inductive Ptree where
  | node (data : String) (children : Children)
  deriving DecidableEq

inductive Children where
  | nil
  | cons (key : String) (child : Ptree) (rest : Children)
  deriving DecidableEq
end

namespace Children

/-- The first child under a key. -/
def find? (key : String) : Children → Option Ptree
  | .nil => none
  | .cons other child rest => if other = key then some child else find? key rest

/-- Set the text of the first child under a key, adding the child at the end
when there is none. -/
def put (key value : String) : Children → Children
  | .nil => .cons key (.node value .nil) .nil
  | .cons other (.node data children) rest =>
      if other = key then .cons other (.node value children) rest
      else .cons other (.node data children) (put key value rest)

def putChild (key : String) (tree : Ptree) : Children → Children
  | .nil => .cons key tree .nil
  | .cons other child rest =>
      if other = key then .cons other tree rest
      else .cons other child (putChild key tree rest)

def isEmpty : Children → Bool
  | .nil => true
  | .cons .. => false

end Children

namespace Ptree

def data : Ptree → String
  | .node data _ => data

def children : Ptree → Children
  | .node _ children => children

def empty : Ptree := .node "" .nil

def leaf (value : String) : Ptree := .node value .nil

def find? (tree : Ptree) (key : String) : Option Ptree :=
  tree.children.find? key

def put (tree : Ptree) (key value : String) : Ptree :=
  .node tree.data (tree.children.put key value)

def putChild (tree : Ptree) (key : String) (child : Ptree) : Ptree :=
  .node tree.data (tree.children.putChild key child)

@[simp] theorem data_node (data : String) (children : Children) :
    (Ptree.node data children).data = data := rfl

@[simp] theorem children_node (data : String) (children : Children) :
    (Ptree.node data children).children = children := rfl

@[simp] theorem data_empty : empty.data = "" := rfl

@[simp] theorem children_empty : empty.children = .nil := rfl

@[simp] theorem data_leaf (value : String) : (leaf value).data = value := rfl

@[simp] theorem data_put (tree : Ptree) (key value : String) :
    (tree.put key value).data = tree.data := rfl

@[simp] theorem data_putChild (tree : Ptree) (key : String) (child : Ptree) :
    (tree.putChild key child).data = tree.data := rfl

@[simp] theorem find?_empty (key : String) : empty.find? key = none := rfl

end Ptree

namespace Children

@[simp] theorem find?_put_self (children : Children) (key value : String) :
    ((children.put key value).find? key).map Ptree.data = some value :=
  match children with
  | .nil => by simp [put, find?]
  | .cons other (.node _ _) rest => by
      by_cases same : other = key
      · simp [put, find?, same]
      · simpa [put, find?, same] using find?_put_self rest key value

theorem find?_put_of_ne (children : Children) {key other : String}
    (value : String) (hne : key ≠ other) :
    (children.put key value).find? other = children.find? other :=
  match children with
  | .nil => by simp [put, find?, hne]
  | .cons current (.node _ _) rest => by
      by_cases same : current = key
      · have current_ne : current ≠ other := by simpa [same] using hne
        simp [put, find?, same, hne]
      · simp [put, find?, same, find?_put_of_ne rest value hne]

@[simp] theorem find?_putChild_self (children : Children) (key : String)
    (tree : Ptree) : (children.putChild key tree).find? key = some tree :=
  match children with
  | .nil => by simp [putChild, find?]
  | .cons other child rest => by
      by_cases same : other = key
      · simp [putChild, find?, same]
      · simpa [putChild, find?, same] using find?_putChild_self rest key tree

theorem find?_putChild_of_ne (children : Children) {key other : String}
    (tree : Ptree) (hne : key ≠ other) :
    (children.putChild key tree).find? other = children.find? other :=
  match children with
  | .nil => by simp [putChild, find?, hne]
  | .cons current child rest => by
      by_cases same : current = key
      · simp [putChild, find?, same, hne]
      · simp [putChild, find?, same, find?_putChild_of_ne rest tree hne]

end Children

namespace Ptree

theorem find?_put_self (tree : Ptree) (key value : String) :
    ((tree.put key value).find? key).map Ptree.data = some value :=
  tree.children.find?_put_self key value

theorem exists_find?_put (tree : Ptree) (key value : String) :
    ∃ child, (tree.put key value).find? key = some child ∧ child.data = value :=
  Option.map_eq_some_iff.mp (tree.find?_put_self key value)

theorem find?_put_of_ne (tree : Ptree) {key other : String} (value : String)
    (hne : key ≠ other) : (tree.put key value).find? other = tree.find? other :=
  tree.children.find?_put_of_ne value hne

theorem find?_putChild_self (tree : Ptree) (key : String) (child : Ptree) :
    (tree.putChild key child).find? key = some child :=
  tree.children.find?_putChild_self key child

theorem find?_putChild_of_ne (tree : Ptree) {key other : String} (child : Ptree)
    (hne : key ≠ other) : (tree.putChild key child).find? other = tree.find? other :=
  tree.children.find?_putChild_of_ne child hne

end Ptree

/-! A tree has a JSON form when its root holds no text and no other node holds
both text and children. -/

mutual
def Ptree.exclusive : Ptree → Bool
  | .node data children => (data == "" || children.isEmpty) && children.exclusive

def Children.exclusive : Children → Bool
  | .nil => true
  | .cons _ child rest => child.exclusive && rest.exclusive
end

def Ptree.Representable (tree : Ptree) : Prop :=
  tree.data = "" ∧ tree.children.exclusive = true

instance (tree : Ptree) : Decidable tree.Representable :=
  inferInstanceAs (Decidable (_ ∧ _))

namespace Ptree

@[simp] theorem exclusive_leaf (value : String) : (leaf value).exclusive = true := by
  simp [leaf, exclusive, Children.isEmpty, Children.exclusive]

theorem Representable.exclusive {tree : Ptree} (h : tree.Representable) :
    tree.exclusive = true := by
  cases tree with
  | node data children =>
      obtain ⟨hdata, hchildren⟩ := h
      simp only [data_node] at hdata
      simpa [Ptree.exclusive, hdata] using hchildren

end Ptree

theorem Children.exclusive_putChild {tree : Ptree} (htree : tree.exclusive = true)
    (key : String) : ∀ {children : Children}, children.exclusive = true →
      (children.putChild key tree).exclusive = true
  | .nil, _ => by simp [putChild, exclusive, htree]
  | .cons other child rest, h => by
      simp only [exclusive, Bool.and_eq_true] at h
      by_cases same : other = key
      · simp [putChild, same, exclusive, htree, h.2]
      · simp [putChild, same, exclusive, h.1, exclusive_putChild htree key h.2]

/-- Every child is a leaf. -/
def Children.flat : Children → Bool
  | .nil => true
  | .cons _ child rest => child.children.isEmpty && rest.flat

theorem Children.flat_put (key value : String) :
    ∀ {children : Children}, children.flat = true →
      (children.put key value).flat = true
  | .nil, _ => rfl
  | .cons other (.node data children) rest, h => by
      simp only [flat, Ptree.children_node, Bool.and_eq_true] at h
      by_cases same : other = key
      · simp [put, same, flat, h.1, h.2]
      · simp [put, same, flat, h.1, flat_put key value h.2]

theorem Children.exclusive_of_flat :
    ∀ {children : Children}, children.flat = true → children.exclusive = true
  | .nil, _ => rfl
  | .cons key (.node data .nil) rest, h => by
      simp only [flat, Bool.and_eq_true] at h
      simp [exclusive, Ptree.exclusive, isEmpty, exclusive_of_flat h.2]
  | .cons _ (.node _ (.cons ..)) _, h => by simp [flat, isEmpty] at h

end AndroidMessenger.Library
