import Mathlib.Data.List.Basic
import ScenarioScript.Proofs.Forest.Stream

/-!
# Where every line of a forest comes from

A forest need not be the work of grouping: its nodes may be nested to any depth, and every node
that owns others gives a block, conditional or not.  A node has an **address**, the number of its
root followed by the number of a child for every generation.  The **origin** of a line is the node
that it belongs to; the line either is the node's own or ends the node's block.

* `Node.at?` and `Forest.at?` — the node at an address.
* `Origin.line` — the line of an origin, for which the nodes around do not matter.
* `Forest.IsArrangement` — **what makes an order of origins right**: every node has one line of its
  own and every block one more, and the lines come in the order of the addresses, where the end of a
  block counts as one more child.  So it stands right behind the last line of what is below.
* `Forest.IsArrangement.eq` — there is one such order only, and `Forest.origins` is in it
  (`Forest.isArrangement_origins`).
* `Forest.emit_arranged` — **the emission of any forest**, line by line.
-/

namespace ScenarioScript

/-- **Induction over forests**: over the roots, and for each root over what it owns. -/
@[elab_as_elim]
lemma Forest.induction {motive : Forest → Prop} (nil : motive [])
    (cons : ∀ (node : Node) (forest : Forest),
      motive node.children → motive forest → motive (node :: forest)) :
    ∀ forest, motive forest
  | [] => nil
  | ⟨statement, conditional, children⟩ :: forest =>
      cons ⟨statement, conditional, children⟩ forest (Forest.induction nil cons children)
        (Forest.induction nil cons forest)

/-! ## Addresses -/

/-- **The node at an address** below a node; the empty address is that of the node itself. -/
def Node.at? : Node → (address : List Nat) → Option Node
  | node, [] => some node
  | node, index :: address => (node.children[index]?).bind fun child => child.at? address

/-- **The node at an address** of a forest. -/
def Forest.at? (forest : Forest) : (address : List Nat) → Option Node
  | [] => none
  | index :: address => (forest[index]?).bind fun root => root.at? address

lemma Node.at?_append (node : Node) (address below : List Nat) :
    node.at? (address ++ below) = (node.at? address).bind fun inner => inner.at? below := by
  induction address generalizing node with
  | nil => rfl
  | cons index address ih =>
      rw [List.cons_append, Node.at?, Node.at?]
      cases node.children[index]? with
      | none => rfl
      | some child => exact ih child

lemma Forest.at?_append {forest : Forest} {address : List Nat} {node : Node}
    (h : Forest.at? forest address = some node) (below : List Nat) :
    Forest.at? forest (address ++ below) = node.at? below := by
  cases address with
  | nil => exact absurd h (by simp [Forest.at?])
  | cons index address =>
      obtain ⟨root, hroot, hnode⟩ := Option.bind_eq_some_iff.mp h
      rw [List.cons_append, Forest.at?, hroot, Option.bind_some, Node.at?_append, hnode,
        Option.bind_some]

/-! ## Origins -/

/-- **What a line belongs to.** -/
structure Origin where
  address : List Nat
  node : Node
  /-- Whether the line stands behind all that the node owns. -/
  ends : Bool

namespace Origin

/-- How far the node is below its root. -/
def level (origin : Origin) : Nat :=
  origin.address.length - 1

/-- **The line of an origin**, if the roots stand at `depth`. -/
def line (indent : Text) (depth : Int) (origin : Origin) : Text :=
  if origin.ends then Stream.margin indent (depth + origin.level) ++ [char '\x7d']
  else if origin.node.isBlock then
    Stream.blockLine indent (depth + origin.level) origin.node.statement
  else Stream.plainLine indent (depth + origin.level) origin.node.statement

/-- Where the line stands among the others.  The end of a block counts as a child behind all those
    that the node has. -/
def place (origin : Origin) : List Nat :=
  if origin.ends then origin.address ++ [origin.node.children.length] else origin.address

@[simp] lemma place_own (address : List Nat) (node : Node) :
    (⟨address, node, false⟩ : Origin).place = address :=
  rfl

@[simp] lemma place_end (address : List Nat) (node : Node) :
    (⟨address, node, true⟩ : Origin).place = address ++ [node.children.length] :=
  rfl

/-- **The order of the lines.** -/
def Precedes (first second : Origin) : Prop :=
  first.place < second.place

/-- The origins of the nodes' own lines. -/
def own (origins : List Origin) : List Origin :=
  origins.filter fun origin => !origin.ends

end Origin

/-- The line that ends the block of a node, if it has one. -/
def Node.ending (address : List Nat) (node : Node) : List Origin :=
  if node.isBlock then [⟨address, node, true⟩] else []

mutual

def Node.origins (address : List Nat) : Node → List Origin
  | ⟨statement, conditional, children⟩ =>
    ⟨address, ⟨statement, conditional, children⟩, false⟩
      :: (Forest.originsFrom address 0 children
        ++ Node.ending address ⟨statement, conditional, children⟩)

/-- The origins of the lines of a forest that stands below `parent`; its first root has the number
    `index`. -/
def Forest.originsFrom (parent : List Nat) : (index : Nat) → Forest → List Origin
  | _, [] => []
  | index, node :: forest =>
    node.origins (parent ++ [index]) ++ Forest.originsFrom parent (index + 1) forest

end

/-- **The origins of the lines of a forest**, from left to right. -/
def Forest.origins (forest : Forest) : List Origin :=
  Forest.originsFrom [] 0 forest

/-- **Origins in the right order.** -/
structure Forest.IsArrangement (forest : Forest) (origins : List Origin) : Prop where
  /-- There is a line for every node, and a second one if it is a block. -/
  mem_iff : ∀ origin, origin ∈ origins
    ↔ Forest.at? forest origin.address = some origin.node ∧ (origin.ends → origin.node.isBlock)
  /-- No line is repeated, and a node is in front of what it owns. -/
  ordered : origins.Pairwise Origin.Precedes
  /-- The nodes come in the order of the statements. -/
  statements : (Origin.own origins).map (fun origin => origin.node.statement)
    = Forest.traverse forest
  /-- A block ends right behind the last line of what is below its node. -/
  encloses : ∀ address node, Forest.at? forest address = some node → node.isBlock →
    ∃ before inside behind,
      origins = before ++ ⟨address, node, false⟩ :: (inside ++ ⟨address, node, true⟩ :: behind)
        ∧ ∀ origin, origin ∈ inside
          ↔ origin ∈ origins ∧ address <+: origin.address ∧ address ≠ origin.address

mutual

/-- The number of blocks in a tree. -/
def Node.blocks : Node → Nat
  | ⟨_, _, children⟩ => (if children.isEmpty then 0 else 1) + Forest.blocks children

/-- **The number of nodes that own others.** -/
def Forest.blocks : Forest → Nat
  | [] => 0
  | node :: forest => node.blocks + Forest.blocks forest

end

mutual

def Node.unflagged : Node → Node
  | ⟨statement, _, children⟩ => ⟨statement, false, Forest.unflagged children⟩

/-- **A forest without conditional nodes**, otherwise the same. -/
def Forest.unflagged : Forest → Forest
  | [] => []
  | node :: forest => node.unflagged :: Forest.unflagged forest

end

/-! ## Which origins there are -/

lemma Node.origins_eq (address : List Nat) (node : Node) :
    node.origins address = ⟨address, node, false⟩
      :: (Forest.originsFrom address 0 node.children ++ node.ending address) := by
  obtain ⟨statement, conditional, children⟩ := node
  rw [Node.origins]

lemma Node.mem_ending_iff {address : List Nat} {node : Node} {origin : Origin} :
    origin ∈ node.ending address ↔ node.isBlock ∧ origin = ⟨address, node, true⟩ := by
  rw [Node.ending]
  split <;> simp [*]

/-- The node itself, and what is below it. -/
lemma Node.mem_origins_iff {address : List Nat} {node : Node} {origin : Origin} :
    origin ∈ node.origins address
      ↔ (origin.address = address ∧ origin.node = node ∧ (origin.ends → node.isBlock))
        ∨ origin ∈ Forest.originsFrom address 0 node.children := by
  obtain ⟨address', node', ends⟩ := origin
  rw [Node.origins_eq, List.mem_cons, List.mem_append, Node.mem_ending_iff]
  cases ends with
  | false => simp
  | true =>
      simp only [Origin.mk.injEq]
      tauto

/-- **An origin is a node with its address**, and blocks have two. -/
lemma Forest.mem_originsFrom_iff {forest : Forest} {parent : List Nat} {start : Nat}
    {origin : Origin} :
    origin ∈ Forest.originsFrom parent start forest ↔ ∃ index below,
      origin.address = parent ++ (start + index) :: below
        ∧ Forest.at? forest (index :: below) = some origin.node
        ∧ (origin.ends → origin.node.isBlock) := by
  induction forest using Forest.induction generalizing parent start with
  | nil => simp [Forest.originsFrom, Forest.at?]
  | cons node forest ihchildren ihforest =>
      rw [Forest.originsFrom, List.mem_append, Node.mem_origins_iff, ihchildren, ihforest]
      constructor
      · rintro ((⟨haddress, hnode, hends⟩ | ⟨index, below, haddress, h⟩)
          | ⟨index, below, haddress, h⟩)
        · exact ⟨0, [], haddress, by rw [hnode]; rfl, by rwa [hnode]⟩
        · exact ⟨0, index :: below, by simpa using haddress, h⟩
        · exact ⟨index + 1, below, by rw [haddress, Nat.add_assoc, Nat.add_comm 1], h⟩
      · rintro ⟨_ | index, below, haddress, hnode, hends⟩
        · cases below with
          | nil =>
              obtain rfl : node = origin.node := Option.some.inj hnode
              exact .inl (.inl ⟨haddress, rfl, hends⟩)
          | cons index below =>
              exact .inl (.inr ⟨index, below, by simpa using haddress, hnode, hends⟩)
        · exact .inr ⟨index, below, by rw [haddress, Nat.add_assoc, Nat.add_comm 1], hnode, hends⟩

lemma Forest.mem_origins_iff {forest : Forest} {origin : Origin} :
    origin ∈ Forest.origins forest
      ↔ Forest.at? forest origin.address = some origin.node
        ∧ (origin.ends → origin.node.isBlock) := by
  rw [Forest.origins, Forest.mem_originsFrom_iff]
  constructor
  · rintro ⟨index, below, haddress, h⟩
    rw [haddress, Nat.zero_add]
    exact h
  · rintro ⟨hnode, hends⟩
    cases haddress : origin.address with
    | nil => exact absurd hnode (by simp [haddress, Forest.at?])
    | cons index below =>
        exact ⟨index, below, by simp, by rwa [haddress] at hnode, hends⟩

/-! ## In which order they come -/

section Order

variable {forest : Forest} {node : Node} {parent address : List Nat} {origin : Origin} {start : Nat}

lemma Forest.exists_place_eq (h : origin ∈ Forest.originsFrom parent start forest) :
    ∃ index rest, origin.place = parent ++ (start + index) :: rest ∧ index < forest.length := by
  obtain ⟨index, below, haddress, hnode, -⟩ := Forest.mem_originsFrom_iff.mp h
  obtain ⟨root, hroot, -⟩ := Option.bind_eq_some_iff.mp hnode
  have hlt : index < forest.length := (List.getElem?_eq_some_iff.mp hroot).1
  rw [Origin.place]
  split
  · exact ⟨index, below ++ [origin.node.children.length], by simp [haddress], hlt⟩
  · exact ⟨index, below, haddress, hlt⟩

lemma Node.exists_place_eq (h : origin ∈ node.origins address) :
    ∃ rest, origin.place = address ++ rest := by
  rw [Node.origins_eq, List.mem_cons, List.mem_append, Node.mem_ending_iff] at h
  rcases h with rfl | hbelow | ⟨-, rfl⟩
  · exact ⟨[], by simp⟩
  · obtain ⟨index, rest, hplace, -⟩ := Forest.exists_place_eq hbelow
    exact ⟨_, hplace⟩
  · exact ⟨[node.children.length], Origin.place_end address node⟩

lemma Origin.precedes_of_append {later : Origin} {rest : List Nat} (hrest : rest ≠ [])
    (horigin : origin.place = address) (hlater : later.place = address ++ rest) :
    origin.Precedes later := by
  obtain ⟨index, rest, rfl⟩ := List.exists_cons_of_ne_nil hrest
  have hlt : address ++ [] < address ++ index :: rest :=
    List.append_left_lt (List.nil_lt_cons index rest)
  rw [List.append_nil] at hlt
  rwa [Origin.Precedes, horigin, hlater]

lemma Origin.precedes_of_lt {later : Origin} {first second : Nat} {rest rest' : List Nat}
    (hlt : first < second) (horigin : origin.place = parent ++ first :: rest)
    (hlater : later.place = parent ++ second :: rest') : origin.Precedes later := by
  rw [Origin.Precedes, horigin, hlater]
  exact List.append_left_lt (List.cons_lt_cons_iff.mpr (.inl hlt))

/-- **The lines of a tree are in order**, if those below its node are. -/
lemma Node.pairwise_origins
    (h : (Forest.originsFrom address 0 node.children).Pairwise Origin.Precedes) :
    (node.origins address).Pairwise Origin.Precedes := by
  rw [Node.origins_eq, List.pairwise_cons, List.pairwise_append]
  refine ⟨fun later hlater => ?_, h, ?_, fun origin horigin last hlast => ?_⟩
  · rcases List.mem_append.mp hlater with hbelow | hending
    · obtain ⟨index, rest, hplace, -⟩ := Forest.exists_place_eq hbelow
      exact Origin.precedes_of_append (by simp) (Origin.place_own address node) hplace
    · obtain ⟨-, rfl⟩ := Node.mem_ending_iff.mp hending
      exact Origin.precedes_of_append (by simp) (Origin.place_own address node)
        (Origin.place_end address node)
  · rw [Node.ending]
    split <;> simp
  · obtain ⟨index, rest, hplace, hlt⟩ := Forest.exists_place_eq horigin
    obtain ⟨-, rfl⟩ := Node.mem_ending_iff.mp hlast
    exact Origin.precedes_of_lt (by omega) hplace (Origin.place_end address node)

/-- **The lines of a forest are in order.** -/
lemma Forest.pairwise_originsFrom (forest : Forest) (parent : List Nat) (start : Nat) :
    (Forest.originsFrom parent start forest).Pairwise Origin.Precedes := by
  induction forest using Forest.induction generalizing parent start with
  | nil => rw [Forest.originsFrom]; exact .nil
  | cons node forest ihchildren ihforest =>
      rw [Forest.originsFrom, List.pairwise_append]
      refine ⟨Node.pairwise_origins (ihchildren (parent ++ [start]) 0),
        ihforest parent (start + 1), fun origin horigin later hlater => ?_⟩
      obtain ⟨rest, hplace⟩ := Node.exists_place_eq horigin
      obtain ⟨index, rest', hplace', -⟩ := Forest.exists_place_eq hlater
      rw [List.append_assoc, List.singleton_append] at hplace
      exact Origin.precedes_of_lt (by omega) hplace hplace'

lemma Origin.own_append (first second : List Origin) :
    Origin.own (first ++ second) = Origin.own first ++ Origin.own second :=
  List.filter_append first second

/-- The own lines of a tree: that of the node, and those of what it owns. -/
lemma Node.own_origins (address : List Nat) (node : Node) :
    Origin.own (node.origins address) = ⟨address, node, false⟩
      :: Origin.own (Forest.originsFrom address 0 node.children) := by
  have hending : Origin.own (node.ending address) = [] := by
    rw [Node.ending]
    split <;> rfl
  rw [Node.origins_eq, Origin.own, List.filter_cons_of_pos rfl, ← Origin.own, Origin.own_append,
    hending, List.append_nil]

/-- The own lines belong to the statements from left to right. -/
lemma Forest.statements_own (forest : Forest) (parent : List Nat) (start : Nat) :
    (Origin.own (Forest.originsFrom parent start forest)).map (fun origin => origin.node.statement)
      = Forest.traverse forest := by
  induction forest using Forest.induction generalizing parent start with
  | nil => rw [Forest.originsFrom, Forest.traverse]; rfl
  | cons node forest ihchildren ihforest =>
      obtain ⟨statement, conditional, children⟩ := node
      rw [Forest.originsFrom, Origin.own_append, Node.own_origins, List.map_append, List.map_cons,
        ihchildren, ihforest, Forest.traverse, Node.traverse]

end Order

/-! ## Blocks stand together -/

section Together

variable {node inner : Node}

lemma Forest.exists_originsFrom_eq {forest : Forest} {index : Nat}
    (h : forest[index]? = some node) (parent : List Nat) (start : Nat) :
    ∃ before behind, Forest.originsFrom parent start forest
      = before ++ (node.origins (parent ++ [start + index]) ++ behind) := by
  induction forest generalizing index start with
  | nil => simp at h
  | cons root forest ih =>
      rw [Forest.originsFrom]
      cases index with
      | zero =>
          obtain rfl : root = node := by simpa using h
          exact ⟨[], _, rfl⟩
      | succ index =>
          obtain ⟨before, behind, heq⟩ := ih (by simpa using h) (start + 1)
          refine ⟨root.origins (parent ++ [start]) ++ before, behind, ?_⟩
          rw [heq, Nat.add_assoc, Nat.add_comm 1, List.append_assoc]

lemma Node.exists_origins_eq {below : List Nat} (h : node.at? below = some inner)
    (address : List Nat) : ∃ before behind,
      node.origins address = before ++ (inner.origins (address ++ below) ++ behind) := by
  induction below generalizing node address with
  | nil =>
      obtain rfl : node = inner := Option.some.inj h
      exact ⟨[], [], by simp⟩
  | cons index below ih =>
      obtain ⟨child, hchild, hinner⟩ := Option.bind_eq_some_iff.mp h
      obtain ⟨front, back, hforest⟩ := Forest.exists_originsFrom_eq hchild address 0
      obtain ⟨before, behind, hnode⟩ := ih hinner (address ++ [index])
      refine ⟨⟨address, node, false⟩ :: (front ++ before),
        behind ++ (back ++ node.ending address), ?_⟩
      rw [Node.origins_eq, hforest, Nat.zero_add, hnode]
      simp

/-- **The lines of a tree stand together.** -/
lemma Forest.exists_origins_eq {forest : Forest} {address : List Nat}
    (h : Forest.at? forest address = some node) : ∃ before behind,
      Forest.origins forest = before ++ (node.origins address ++ behind) := by
  cases address with
  | nil => exact absurd h (by simp [Forest.at?])
  | cons index below =>
      obtain ⟨root, hroot, hnode⟩ := Option.bind_eq_some_iff.mp h
      obtain ⟨front, back, hforest⟩ := Forest.exists_originsFrom_eq hroot [] 0
      obtain ⟨before, behind, hnode⟩ := Node.exists_origins_eq hnode [index]
      refine ⟨front ++ before, behind ++ back, ?_⟩
      rw [Forest.origins, hforest, Nat.zero_add, List.nil_append, hnode]
      simp

/-- Of all the lines of a forest, those below a node are the ones whose address goes on from that
    of the node. -/
lemma Forest.mem_below_iff {forest : Forest} {address : List Nat}
    (h : Forest.at? forest address = some node) (origin : Origin) :
    origin ∈ Forest.originsFrom address 0 node.children
      ↔ origin ∈ Forest.origins forest ∧ address <+: origin.address
        ∧ address ≠ origin.address := by
  rw [Forest.mem_originsFrom_iff, Forest.mem_origins_iff]
  constructor
  · rintro ⟨index, below, haddress, hnode, hends⟩
    rw [Nat.zero_add] at haddress
    refine ⟨⟨?_, hends⟩, ⟨index :: below, haddress.symm⟩, by simp [haddress]⟩
    rw [haddress, Forest.at?_append h]
    exact hnode
  · rintro ⟨⟨hnode, hends⟩, ⟨below, haddress⟩, hne⟩
    cases below with
    | nil => exact absurd (by simpa using haddress) hne
    | cons index below =>
        rw [← haddress, Forest.at?_append h] at hnode
        exact ⟨index, below, by rw [Nat.zero_add, haddress], hnode, hends⟩

end Together

namespace Forest

/-- **The origins of a forest come in the right order.** -/
lemma isArrangement_origins (forest : Forest) : IsArrangement forest (origins forest) where
  mem_iff _ := mem_origins_iff
  ordered := pairwise_originsFrom forest [] 0
  statements := statements_own forest [] 0
  encloses address node h hblock := by
    obtain ⟨before, behind, heq⟩ := exists_origins_eq h
    refine ⟨before, originsFrom address 0 node.children, behind, ?_, mem_below_iff h⟩
    rw [heq, Node.origins_eq, Node.ending, if_pos hblock]
    simp

lemma IsArrangement.nodup {forest : Forest} {origins : List Origin}
    (h : IsArrangement forest origins) : origins.Nodup := by
  refine h.ordered.imp ?_
  rintro first _ hlt rfl
  exact List.lt_irrefl _ hlt

/-- **There is one right order only.** -/
lemma IsArrangement.eq {forest : Forest} {first second : List Origin}
    (h : IsArrangement forest first) (h' : IsArrangement forest second) : first = second := by
  have hperm : first.Perm second :=
    (List.perm_ext_iff_of_nodup h.nodup h'.nodup).mpr fun origin =>
      (h.mem_iff origin).trans (h'.mem_iff origin).symm
  refine hperm.eq_of_pairwise (fun a b _ _ hlt hgt => ?_) h.ordered h'.ordered
  exact absurd hgt (List.lt_asymm hlt)

end Forest

/-! ## The emission -/

section Emission

variable (indent : Text) (depth : Int)

/-- One line for each node, and one more for each block. -/
lemma Forest.length_originsFrom (forest : Forest) (parent : List Nat) (start : Nat) :
    (Forest.originsFrom parent start forest).length
      = Forest.count forest + Forest.blocks forest := by
  induction forest using Forest.induction generalizing parent start with
  | nil => rw [Forest.originsFrom, Forest.count, Forest.blocks]; rfl
  | cons node forest ihchildren ihforest =>
      obtain ⟨statement, conditional, children⟩ := node
      dsimp only at ihchildren
      have hending : ∀ address, (Node.ending address ⟨statement, conditional, children⟩).length
          = if children.isEmpty then 0 else 1 := by
        intro address
        cases children <;> rfl
      rw [Forest.originsFrom, Node.origins, Forest.count, Node.count, Forest.blocks, Node.blocks,
        List.length_append, List.length_cons, List.length_append, hending, ihchildren, ihforest]
      omega

/-- **A forest emits the lines of its origins**, wherever it stands. -/
lemma Forest.lines_emit (forest : Forest) (parent : List Nat) (start : Nat) :
    (Forest.emit indent (depth + parent.length) forest).lines
      = (Forest.originsFrom parent start forest).map (Origin.line indent depth) := by
  induction forest using Forest.induction generalizing parent start with
  | nil => rw [Forest.emit, Forest.originsFrom]; rfl
  | cons node forest ihchildren ihforest =>
      obtain ⟨statement, conditional, children⟩ := node
      have hlevel : (parent ++ [start]).length - 1 = parent.length := by simp
      have hbelow : depth + ((parent ++ [start]).length : Int) = depth + parent.length + 1 := by
        rw [List.length_append, List.length_singleton]
        omega
      have hchildren := ihchildren (parent ++ [start]) 0
      rw [hbelow] at hchildren
      rw [Forest.emit, Emission.append, ihforest parent (start + 1), Forest.originsFrom,
        Node.origins, List.map_append, List.map_cons, List.map_append, ← hchildren, Node.emit,
        Origin.line, Origin.level, hlevel]
      cases children with
      | nil => simp [Forest.emit, Node.ending, Node.isBlock, indentLine_resolve]
      | cons child children =>
          simp [Node.ending, Node.isBlock, Origin.line, Origin.level, indentLine_ifOpen,
            indentLine_ifClose]

lemma Forest.lines_emit_origins (forest : Forest) :
    (Forest.emit indent depth forest).lines
      = (Forest.origins forest).map (Origin.line indent depth) := by
  have h := Forest.lines_emit indent depth forest [] 0
  rwa [List.length_nil, Int.natCast_zero, Int.add_zero] at h

/-- The flags of the nodes do not matter. -/
lemma Forest.emit_unflagged (forest : Forest) (depth : Int) :
    Forest.emit indent depth (Forest.unflagged forest) = Forest.emit indent depth forest := by
  induction forest using Forest.induction generalizing depth with
  | nil => rw [Forest.unflagged]
  | cons node forest ihchildren ihforest =>
      obtain ⟨statement, conditional, children⟩ := node
      have hempty : (Forest.unflagged children).isEmpty = children.isEmpty := by
        cases children with
        | nil => rw [Forest.unflagged]
        | cons child children => rw [Forest.unflagged]; rfl
      rw [Forest.unflagged, Forest.emit, Forest.emit, ihforest, Node.unflagged, Node.emit,
        Node.emit, hempty, ihchildren]

end Emission

/-- **The emission of any forest**, however deep it is nested.  Its lines are those of its origins
    in the right order, of which there is one, so that there is one line for each node and one more
    for each block.  It reports what its statements report, from left to right.  Which of the nodes
    are conditional does not matter. -/
theorem Forest.emit_arranged (indent : Text) (depth : Int) (forest : Forest) :
    (∃ origins, Forest.IsArrangement forest origins)
      ∧ (∀ origins, Forest.IsArrangement forest origins →
        (Forest.emit indent depth forest).lines = origins.map (Origin.line indent depth))
      ∧ (Forest.emit indent depth forest).lines.length
        = Forest.count forest + Forest.blocks forest
      ∧ (Forest.emit indent depth forest).unresolved
        = (Forest.traverse forest).flatMap (fun statement => (resolve statement).unresolved)
      ∧ ∀ other, Forest.unflagged other = Forest.unflagged forest →
        Forest.emit indent depth other = Forest.emit indent depth forest := by
  have hlines := Forest.lines_emit_origins indent depth forest
  have harranged := Forest.isArrangement_origins forest
  refine ⟨⟨_, harranged⟩, fun origins h => ?_, ?_, Forest.unresolved_emit indent depth forest,
    fun other h => ?_⟩
  · rw [hlines, h.eq harranged]
  · rw [hlines, List.length_map, Forest.origins, Forest.length_originsFrom]
  · rw [← Forest.emit_unflagged indent other, h, Forest.emit_unflagged]

/-- The case of a plain node that owns a conditional one, which owns a statement without code.  The
    roots stand so far out that only the innermost statements are indented. -/
theorem Forest.emit_arranged_plain_block :
    let inner (conditional : Bool) : Node :=
      ⟨"b".toText, conditional, [Node.leaf "c".toText, Node.leaf "<end>".toText]⟩
    let forest : Forest := [⟨"a".toText, false, [inner true]⟩, Node.leaf "d".toText]
    let other : Forest := [⟨"a".toText, true, [inner false]⟩, Node.leaf "d".toText]
    (Forest.IsArrangement forest (Forest.origins forest)
        ∧ Forest.unflagged other = Forest.unflagged forest)
      ∧ (Forest.emit "  ".toText (-1) forest).lines
        = ["if (a) \x7b".toText, "if (b) \x7b".toText, "  c".toText, [], "\x7d".toText,
          "\x7d".toText, "d".toText]
      ∧ (Forest.emit "  ".toText (-1) forest).lines.length = 5 + 2
      ∧ Forest.emit "  ".toText (-1) other = Forest.emit "  ".toText (-1) forest := by
  intro inner forest other
  obtain ⟨-, hlines, hlength, -, hflags⟩ := Forest.emit_arranged "  ".toText (-1) forest
  have harranged := Forest.isArrangement_origins forest
  have hother : Forest.unflagged other = Forest.unflagged forest := by
    simp [other, forest, inner, Forest.unflagged, Node.unflagged]
  exact ⟨⟨harranged, hother⟩, (hlines _ harranged).trans (by decide), hlength, hflags other hother⟩

end ScenarioScript
