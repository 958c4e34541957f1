import KernelArchive.Ordered.Map

/-!
# Trees of files and directories

* `Location`: where a node is, as the names from the root down to it.
* `Nodes`: the nodes by location; `Nodes.Closed`: each lies in a directory.
* `FileTree`: which nodes there are. The root is a directory, and whatever lies below another node
  lies below a directory.
* `FileTree.lookup`: the view through which all operations are described.
* `FileTree.put`, `FileTree.remove`, with `lookup_put` and `lookup_remove`.

There are no links, so a node has one location, and no permissions; `FileSystem` tells all that is
left out.
-/

namespace KernelArchive
set_option autoImplicit false

/-- Where a node is: the names from the root down to it. -/
abbrev Location := List String

/-- A file with its bytes, or a directory. -/
inductive Node
  | file (bytes : ByteArray)
  | directory

namespace Node

/-- Is the node a file? -/
def isFile : Node → Bool
  | file _ => true
  | directory => false

@[simp] theorem isFile_eq_false_iff {n : Node} : n.isFile = false ↔ n = directory := by
  cases n <;> simp [isFile]

end Node

/-! ## Nodes by location -/

/-- The nodes at all locations. -/
abbrev Nodes := OrderedMap Location Node

/-- Every node below the root lies in a directory. -/
def Nodes.Closed (nodes : Nodes) : Prop :=
  ∀ loc name, nodes.get? (loc ++ [name]) ≠ none → nodes.get? loc = some .directory

namespace Nodes

/-- The root alone. -/
def root : Nodes := OrderedMap.empty.insert [] .directory

theorem get?_root (loc : Location) :
    root.get? loc = if loc = [] then some .directory else none := by
  rw [root, OrderedMap.get?_insert, OrderedMap.get?_empty]

theorem closed_root : root.Closed := by
  intro loc name h
  rw [get?_root, if_neg (by simp)] at h
  exact absurd rfl h

theorem get?_nil_insert {nodes : Nodes} (h : nodes.get? [] = some .directory) (loc : Location)
    (name : String) (node : Node) :
    (nodes.insert (loc ++ [name]) node).get? [] = some .directory := by
  rw [OrderedMap.get?_insert, if_neg (by simp), h]

theorem closed_insert {nodes : Nodes} (hclosed : nodes.Closed) {loc : Location} {name : String}
    {node : Node} (hdir : nodes.get? loc = some .directory)
    (hkind : nodes.get? (loc ++ [name]) ≠ some .directory ∨ node = .directory) :
    Closed (nodes.insert (loc ++ [name]) node) := by
  intro at' name' hat
  rw [OrderedMap.get?_insert] at hat ⊢
  by_cases hsame : at' ++ [name'] = loc ++ [name]
  · obtain ⟨rfl, -⟩ := List.append_inj' hsame rfl
    have hne : at' ≠ at' ++ [name] := fun e => by simpa using congrArg List.length e
    rw [if_neg hne]
    exact hdir
  · rw [if_neg hsame] at hat
    have hparent := hclosed at' name' hat
    by_cases hhere : at' = loc ++ [name]
    · rw [if_pos hhere]
      rcases hkind with hkind | hkind
      · exact absurd (hhere ▸ hparent) hkind
      · rw [hkind]
    · rw [if_neg hhere]
      exact hparent

/-- The nodes that are neither at a location nor below it. -/
def outside (nodes : Nodes) (loc : Location) : Nodes := nodes.filter (!loc.isPrefixOf ·)

theorem get?_outside (nodes : Nodes) (loc at' : Location) :
    (nodes.outside loc).get? at' = if loc <+: at' then none else nodes.get? at' := by
  rw [outside, OrderedMap.get?_filter]
  by_cases h : loc <+: at'
  · rw [List.isPrefixOf_iff_prefix.2 h, if_pos h]
    rfl
  · rw [Bool.eq_false_iff.2 (mt List.isPrefixOf_iff_prefix.1 h), if_neg h]
    rfl

theorem get?_nil_outside {nodes : Nodes} (h : nodes.get? [] = some .directory) {loc : Location}
    (hne : loc ≠ []) : (nodes.outside loc).get? [] = some .directory := by
  rw [get?_outside, if_neg (fun hp => hne (List.prefix_nil.1 hp)), h]

theorem closed_outside {nodes : Nodes} (hclosed : nodes.Closed) (loc : Location) :
    Closed (nodes.outside loc) := by
  intro at' name hat
  rw [get?_outside] at hat ⊢
  by_cases hbelow : loc <+: at'
  · rw [if_pos (hbelow.trans (List.prefix_append _ _))] at hat
    exact absurd rfl hat
  · rw [if_neg hbelow]
    refine hclosed at' name fun hnone => hat ?_
    split
    · rfl
    · exact hnone

end Nodes

/-! ## Trees -/

/-- The files and directories that exist. -/
structure FileTree where
  /-- The node at each location. -/
  nodes : Nodes
  /-- The root is a directory. -/
  root : nodes.get? [] = some .directory
  /-- Every other node lies in a directory. -/
  closed : nodes.Closed

namespace FileTree

/-- The node at a location. -/
def lookup (t : FileTree) (loc : Location) : Option Node := t.nodes.get? loc

@[simp] theorem lookup_root (t : FileTree) : t.lookup [] = some .directory := t.root

theorem lookup_parent (t : FileTree) {loc : Location} {name : String}
    (h : t.lookup (loc ++ [name]) ≠ none) : t.lookup loc = some .directory :=
  t.closed loc name h

/-- Two trees with the same nodes are equal. -/
theorem ext_lookup {t u : FileTree} (h : ∀ loc, t.lookup loc = u.lookup loc) : t = u := by
  have hn : t.nodes = u.nodes := OrderedMap.ext_get? h
  obtain ⟨nodes, hroot, hclosed⟩ := t
  obtain ⟨nodes', hroot', hclosed'⟩ := u
  cases hn
  rfl

/-- The tree with nothing below the root. -/
def empty : FileTree := ⟨Nodes.root, Nodes.get?_root [], Nodes.closed_root⟩

@[simp] theorem lookup_empty (loc : Location) :
    empty.lookup loc = if loc = [] then some .directory else none := Nodes.get?_root loc

/-- Is there a directory at a location? -/
def hasDirectory (t : FileTree) (loc : Location) : Bool := (t.lookup loc).any (!·.isFile)

theorem hasDirectory_iff {t : FileTree} {loc : Location} :
    t.hasDirectory loc = true ↔ t.lookup loc = some .directory := by
  unfold hasDirectory
  cases t.lookup loc with
  | none => simp
  | some n => simp

/-- May a node be placed under this name in this directory? The directory must exist, and a
directory that has the name already must not give way to a file. -/
def admits (t : FileTree) (loc : Location) (name : String) (node : Node) : Bool :=
  t.hasDirectory loc && (!t.hasDirectory (loc ++ [name]) || !node.isFile)

theorem admits_iff {t : FileTree} {loc : Location} {name : String} {node : Node} :
    t.admits loc name node = true ↔ t.lookup loc = some .directory ∧
      (t.lookup (loc ++ [name]) ≠ some .directory ∨ node = .directory) := by
  rw [admits, Bool.and_eq_true, Bool.or_eq_true, hasDirectory_iff, Bool.not_eq_true',
    Bool.not_eq_true', Node.isFile_eq_false_iff, Bool.eq_false_iff, Ne, hasDirectory_iff]

/-- Places a node under a name in a directory, in the place of a file of that name. Where the tree
does not admit it, nothing changes. -/
def put (t : FileTree) (loc : Location) (name : String) (node : Node) : FileTree :=
  if h : t.admits loc name node = true then
    { nodes := t.nodes.insert (loc ++ [name]) node
      root := Nodes.get?_nil_insert t.root loc name node
      closed := Nodes.closed_insert t.closed (admits_iff.1 h).1 (admits_iff.1 h).2 }
  else t

theorem lookup_put {t : FileTree} {loc : Location} {name : String} {node : Node}
    (h : t.admits loc name node = true) (at' : Location) :
    (t.put loc name node).lookup at' = if at' = loc ++ [name] then some node else t.lookup at' := by
  rw [put, dif_pos h]
  exact OrderedMap.get?_insert t.nodes (loc ++ [name]) at' node

/-- Takes away the node at a location below the root and all nodes below it. -/
def remove (t : FileTree) (loc : Location) : FileTree :=
  if h : loc = [] then t
  else ⟨t.nodes.outside loc, Nodes.get?_nil_outside t.root h, Nodes.closed_outside t.closed loc⟩

theorem lookup_remove {t : FileTree} {loc : Location} (h : loc ≠ []) (at' : Location) :
    (t.remove loc).lookup at' = if loc <+: at' then none else t.lookup at' := by
  rw [remove, dif_neg h]
  exact Nodes.get?_outside t.nodes loc at'

end FileTree
end KernelArchive
