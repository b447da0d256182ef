import EditorPane.Paint
import Mathlib.Data.List.Basic
import Mathlib.Logic.Function.Iterate

/-!
# Trees are walked in pre-order

A tree is walked with a stack of the nodes that are still to come. In each round the node on top
gives its commands and its children take its place, put on the stack last to first. Whatever the
stack holds, a round leaves one node fewer to come, counted with all that is inside the nodes of the
stack, and it does not change the commands that there will be in the end. So the walk is over after
as many rounds as the tree has nodes, with the commands of the recursion on the tree.

A terminal of a tree is told apart from all others by its place: the way down to its node, as the
numbers of the children passed, and its number among the terminals there. The walk comes to every
place once, the places ordered by the way first and along each way from left to right.

## Main definitions

* `Walk`, `Walk.round` — a walk under way, and one round of it.
* `ParseNode.descendant?`, `ParseNode.terminalAt?` — what stands at a place of a tree.
* `Visit`, `Visit.Before`, `ParseNode.visits` — the terminals of a tree with their places.

## Main results

* `walk_eq_flatMap_preorder` — the walk over a stack is the recursion on one tree after the other.
* `Walk.outcome_round`, `Walk.nodeCount_round` — what a round keeps, and what it uses up.
* `ParseNode.mem_visits_iff`, `ParseNode.pairwise_visits`, `ParseNode.filterMap_visits` — every
  terminal has one visit, in order, and the visits give the commands.
* `syntacticCommands_in_preorder` — the walk over a tree.
-/

namespace EditorPane

/-- The trees on a stack are walked one after the other, each in pre-order. -/
theorem walk_eq_flatMap_preorder (d : Document) (stack : List ParseNode) :
    walk d stack = stack.flatMap (ParseNode.preorder d) := by
  induction stack using walk.induct with
  | case1 => simp [walk]
  | case2 c terminals children rest ih =>
    rw [walk, ih, List.flatMap_append, List.flatMap_cons, ParseNode.preorder, List.append_assoc]
    rfl

/-! ## Rounds -/

theorem nodeCount_reverse (stack : List ParseNode) : nodeCount stack.reverse = nodeCount stack := by
  induction stack with
  | nil => rfl
  | cons n rest ih =>
    rw [List.reverse_cons, nodeCount_append, ih, Nat.add_comm, ← nodeCount_append]
    rfl

theorem nodeCount_eq_zero_iff {stack : List ParseNode} : nodeCount stack = 0 ↔ stack = [] := by
  cases stack with
  | nil => simp [nodeCount]
  | cons n rest =>
    cases n
    simp [nodeCount]

/-- A walk under way: the nodes still to come, of which the last one is on top, and the commands
that there are so far. -/
structure Walk where
  stack : List ParseNode
  commands : List DecorationCommand

namespace Walk

/-- A walk that is about to start. -/
def start (tree : ParseNode) : Walk := ⟨[tree], []⟩

/-- One round. The node on top gives its commands, and its children take its place, the first of
them on top. Without a node there is nothing to do. -/
def round (d : Document) (w : Walk) : Walk :=
  match w.stack.getLast? with
  | none => w
  | some n => ⟨w.stack.dropLast ++ n.children.reverse, w.commands ++ n.ownCommands d⟩

/-- The commands that the walk ends with. -/
def outcome (d : Document) (w : Walk) : List DecorationCommand :=
  w.commands ++ walk d w.stack.reverse

variable (d : Document) (w : Walk)

/-- A round only moves commands from those to come to those that there are. -/
theorem outcome_round : (w.round d).outcome d = w.outcome d := by
  obtain ⟨stack, commands⟩ := w
  rcases List.eq_nil_or_concat' stack with rfl | ⟨rest, ⟨c, terminals, children⟩, rfl⟩
  · rfl
  · simp [round, outcome, walk, ParseNode.children]

/-- The number of nodes to come goes down in each round, while the stack may grow. -/
theorem nodeCount_round : nodeCount (w.round d).stack = nodeCount w.stack - 1 := by
  obtain ⟨stack, commands⟩ := w
  rcases List.eq_nil_or_concat' stack with rfl | ⟨rest, ⟨c, terminals, children⟩, rfl⟩
  · simp [round, nodeCount]
  · simp only [round, List.getLast?_concat, List.dropLast_concat, nodeCount_append,
      nodeCount_reverse, ParseNode.children, nodeCount]
    omega

theorem outcome_iterate_round (k : Nat) : ((round d)^[k] w).outcome d = w.outcome d := by
  induction k with
  | zero => rfl
  | succ k ih => rw [Function.iterate_succ_apply', outcome_round, ih]

theorem nodeCount_iterate_round (k : Nat) :
    nodeCount ((round d)^[k] w).stack = nodeCount w.stack - k := by
  induction k with
  | zero => rfl
  | succ k ih => rw [Function.iterate_succ_apply', nodeCount_round, ih, Nat.sub_sub]

/-- A walk is over when there have been as many rounds as there were nodes to come. -/
theorem stack_iterate_round_eq_nil_iff {k : Nat} :
    ((round d)^[k] w).stack = [] ↔ nodeCount w.stack ≤ k := by
  rw [← nodeCount_eq_zero_iff, nodeCount_iterate_round, Nat.sub_eq_zero_iff_le]

theorem commands_iterate_round {k : Nat} (h : nodeCount w.stack ≤ k) :
    ((round d)^[k] w).commands = w.outcome d := by
  have hover := (stack_iterate_round_eq_nil_iff d w).2 h
  rw [← outcome_iterate_round d w k, outcome, hover, List.reverse_nil, walk, List.append_nil]

end Walk

/-! ## Places -/

/-- A terminal together with its place in a tree and the construct it belongs to. -/
structure Visit where
  path : List Nat
  index : Nat
  construct : Construct
  terminal : Terminal
  deriving DecidableEq, Repr

namespace Visit

/-- The order of places. A way comes before all that go on from it. -/
def Before (v w : Visit) : Prop := v.path < w.path ∨ v.path = w.path ∧ v.index < w.index

/-- The visit as seen from the parent of the node where the way starts, its child `i`. -/
def inChild (i : Nat) (v : Visit) : Visit := { v with path := i :: v.path }

/-- The command of the terminal, if it has one. -/
def command? (d : Document) (v : Visit) : Option DecorationCommand :=
  v.terminal.command? d v.construct

variable {v w : Visit} {i j : Nat}

theorem Before.inChild (h : v.Before w) (i : Nat) : (v.inChild i).Before (w.inChild i) := by
  rcases h with hpath | ⟨hpath, hindex⟩
  · exact .inl (List.cons_lt_cons_iff.2 (.inr ⟨rfl, hpath⟩))
  · exact .inr ⟨congrArg (List.cons i) hpath, hindex⟩

theorem before_inChild_of_lt (h : i < j) (v w : Visit) : (v.inChild i).Before (w.inChild j) :=
  .inl (List.cons_lt_cons_iff.2 (.inl h))

end Visit

namespace ParseNode

/-- What holds of a node if it holds of its children holds of every node. -/
theorem induction {P : ParseNode → Prop}
    (node : ∀ c terminals children, (∀ m ∈ children, P m) → P (.node c terminals children)) :
    ∀ n, P n
  | .node c terminals children => node c terminals children fun m _ => induction node m

/-- The node that a way leads down to. Each number of it is that of a child to go on with. -/
def descendant? (n : ParseNode) : List Nat → Option ParseNode
  | [] => some n
  | i :: path => n.children[i]?.bind fun m => m.descendant? path

/-- The terminal with the number `index` at the node that `path` leads to, with the construct of the
node. -/
def terminalAt? (n : ParseNode) (path : List Nat) (index : Nat) : Option (Construct × Terminal) :=
  (n.descendant? path).bind fun m => m.terminals[index]?.map fun t => (m.construct, t)

theorem terminalAt?_cons (n : ParseNode) (i : Nat) (path : List Nat) (index : Nat) :
    n.terminalAt? (i :: path) index
      = n.children[i]?.bind fun m => m.terminalAt? path index :=
  Option.bind_assoc _ _ _

/-- The terminals that belong to a node directly, with their places. -/
def ownVisits (n : ParseNode) : List Visit :=
  n.terminals.zipIdx.map fun (t, k) => ⟨[], k, n.construct, t⟩

theorem mem_ownVisits {n : ParseNode} {v : Visit} : v ∈ n.ownVisits ↔
    v.path = [] ∧ n.terminals[v.index]? = some v.terminal ∧ n.construct = v.construct := by
  obtain ⟨path, index, construct, terminal⟩ := v
  rw [ownVisits, List.mem_map]
  constructor
  · rintro ⟨⟨t, k⟩, ht, hv⟩
    cases hv
    exact ⟨rfl, List.mem_zipIdx_iff_getElem?.1 ht, rfl⟩
  · rintro ⟨rfl, ht, rfl⟩
    exact ⟨(terminal, index), List.mem_zipIdx_iff_getElem?.2 ht, rfl⟩

theorem pairwise_ownVisits (n : ParseNode) : n.ownVisits.Pairwise Visit.Before := by
  have hindices : (n.terminals.zipIdx.map Prod.snd).Pairwise (· < ·) := by
    rw [List.zipIdx_map_snd]
    exact List.pairwise_lt_range' 1
  rw [List.pairwise_map] at hindices
  rw [ownVisits, List.pairwise_map]
  exact hindices.imp fun hlt => .inr ⟨rfl, hlt⟩

theorem filterMap_ownVisits (d : Document) (n : ParseNode) :
    n.ownVisits.filterMap (Visit.command? d) = n.ownCommands d := by
  have hterminals := List.zipIdx_map_fst 0 n.terminals
  rw [ownCommands, ← hterminals, ownVisits, List.filterMap_map, List.filterMap_map]
  rfl

end ParseNode

mutual

/-- The terminals of a tree with their places, those of a node before those inside it. -/
def ParseNode.visits : ParseNode → List Visit
  | .node c terminals children =>
    (ParseNode.node c terminals children).ownVisits ++ visitsOfChildren 0 children

/-- The terminals inside the children of a node, of which the first one has the number `i`. -/
def visitsOfChildren (i : Nat) : List ParseNode → List Visit
  | [] => []
  | n :: rest => n.visits.map (Visit.inChild i) ++ visitsOfChildren (i + 1) rest

end

/-! ## Visits of children -/

theorem mem_visitsOfChildren {i : Nat} {children : List ParseNode} {v : Visit} :
    v ∈ visitsOfChildren i children ↔ ∃ (k : Nat) (n : ParseNode) (u : Visit),
      children[k]? = some n ∧ u ∈ n.visits ∧ u.inChild (i + k) = v := by
  induction children generalizing i with
  | nil => simp [visitsOfChildren]
  | cons n rest ih =>
    rw [visitsOfChildren, List.mem_append, List.mem_map, ih]
    constructor
    · rintro (⟨u, hu, rfl⟩ | ⟨k, m, u, hm, hu, rfl⟩)
      · exact ⟨0, n, u, rfl, hu, rfl⟩
      · exact ⟨k + 1, m, u, hm, hu, by rw [Nat.add_right_comm, Nat.add_assoc]⟩
    · rintro ⟨_ | k, m, u, hm, hu, rfl⟩
      · cases hm
        exact .inl ⟨u, hu, rfl⟩
      · exact .inr ⟨k, m, u, hm, hu, by rw [Nat.add_right_comm, Nat.add_assoc]⟩

theorem pairwise_visitsOfChildren {children : List ParseNode}
    (h : ∀ n ∈ children, n.visits.Pairwise Visit.Before) (i : Nat) :
    (visitsOfChildren i children).Pairwise Visit.Before := by
  induction children generalizing i with
  | nil => simp [visitsOfChildren]
  | cons n rest ih =>
    rw [List.forall_mem_cons] at h
    rw [visitsOfChildren, List.pairwise_append, List.pairwise_map]
    refine ⟨h.1.imp fun hbefore => hbefore.inChild i, ih h.2 (i + 1), ?_⟩
    intro v hv w hw
    obtain ⟨u, -, rfl⟩ := List.mem_map.1 hv
    obtain ⟨k, m, x, -, -, rfl⟩ := mem_visitsOfChildren.1 hw
    exact Visit.before_inChild_of_lt (by omega) u x

theorem filterMap_visitsOfChildren {d : Document} {children : List ParseNode}
    (h : ∀ n ∈ children, n.visits.filterMap (Visit.command? d) = n.preorder d) (i : Nat) :
    (visitsOfChildren i children).filterMap (Visit.command? d)
      = children.flatMap (ParseNode.preorder d) := by
  induction children generalizing i with
  | nil => simp [visitsOfChildren]
  | cons n rest ih =>
    rw [List.forall_mem_cons] at h
    rw [visitsOfChildren, List.filterMap_append, ih h.2, List.filterMap_map, List.flatMap_cons,
      ← h.1]
    rfl

/-! ## All visits -/

namespace ParseNode

/-- There is a visit for each terminal of a tree, and for nothing else. -/
theorem mem_visits_iff {n : ParseNode} {v : Visit} :
    v ∈ n.visits ↔ n.terminalAt? v.path v.index = some (v.construct, v.terminal) := by
  obtain ⟨path, index, construct, terminal⟩ := v
  induction path generalizing n with
  | nil =>
    obtain ⟨c, terminals, children⟩ := n
    have hchildren : (⟨[], index, construct, terminal⟩ : Visit) ∉ visitsOfChildren 0 children := by
      intro h
      obtain ⟨k, m, u, -, -, hu⟩ := mem_visitsOfChildren.1 h
      cases hu
    rw [visits, List.mem_append, or_iff_left hchildren, mem_ownVisits]
    simp [terminalAt?, descendant?, and_comm]
  | cons i path ih =>
    obtain ⟨c, terminals, children⟩ := n
    have hown : (⟨i :: path, index, construct, terminal⟩ : Visit)
        ∉ (node c terminals children).ownVisits := by simp [mem_ownVisits]
    rw [visits, List.mem_append, or_iff_right hown, mem_visitsOfChildren]
    rw [terminalAt?_cons, Option.bind_eq_some_iff]
    constructor
    · rintro ⟨k, m, u, hm, hu, hv⟩
      rw [Nat.zero_add] at hv
      cases hv
      exact ⟨m, hm, ih.1 hu⟩
    · rintro ⟨m, hm, hterminal⟩
      refine ⟨i, m, ⟨path, index, construct, terminal⟩, hm, ih.2 hterminal, ?_⟩
      rw [Nat.zero_add, Visit.inChild]

/-- The visits are in order, so no terminal has two of them. -/
theorem pairwise_visits (n : ParseNode) : n.visits.Pairwise Visit.Before := by
  induction n using induction with
  | node c terminals children ih =>
    rw [visits, List.pairwise_append]
    refine ⟨pairwise_ownVisits _, pairwise_visitsOfChildren ih 0, ?_⟩
    intro v hv w hw
    obtain ⟨i, m, u, -, -, rfl⟩ := mem_visitsOfChildren.1 hw
    have hpath : v.path = [] := (mem_ownVisits.1 hv).1
    rw [Visit.Before, hpath]
    exact .inl (List.nil_lt_cons _ _)

/-- The visits give the commands of the tree. -/
theorem filterMap_visits (d : Document) (n : ParseNode) :
    n.visits.filterMap (Visit.command? d) = n.preorder d := by
  induction n using induction with
  | node c terminals children ih =>
    rw [visits, List.filterMap_append, filterMap_ownVisits, filterMap_visitsOfChildren ih, preorder]
    rfl

end ParseNode

/-! ## The walk over a tree -/

/-- The walk over a tree is over after as many rounds as the tree has nodes, and not before. Its
commands are those of the recursion on the tree: each terminal of the tree is visited once, those of
a node before those inside it and its children from first to last, and the visits that have a
command give it. -/
theorem syntacticCommands_in_preorder (d : Document) (tree : ParseNode) :
    (∀ k, ((Walk.round d)^[k] (.start tree)).stack = [] ↔ nodeCount [tree] ≤ k) ∧
    ((Walk.round d)^[nodeCount [tree]] (.start tree)).commands = syntacticCommands d tree ∧
    syntacticCommands d tree = tree.preorder d ∧
    ∃ visits : List Visit, visits.Pairwise Visit.Before ∧
      (∀ v, v ∈ visits ↔ tree.terminalAt? v.path v.index = some (v.construct, v.terminal)) ∧
      syntacticCommands d tree = visits.filterMap (Visit.command? d) := by
  have hpreorder : syntacticCommands d tree = tree.preorder d := by
    rw [syntacticCommands, walk_eq_flatMap_preorder, List.flatMap_singleton]
  refine ⟨fun _ => Walk.stack_iterate_round_eq_nil_iff d _, ?_, hpreorder, tree.visits,
    tree.pairwise_visits, fun _ => ParseNode.mem_visits_iff, ?_⟩
  · exact Walk.commands_iterate_round d (.start tree) (Nat.le_refl _)
  · rw [hpreorder, ParseNode.filterMap_visits]

end EditorPane
