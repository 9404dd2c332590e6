import CodeIndex.Proofs.Locality
import CodeIndex.Proofs.Preorder
import Mathlib.Data.List.Basic

/-!
A walk over a concrete tree as a loop over its nodes.

A rule says what a node adds in a scope, and in which scope the nodes below it are visited. Where
that scope can be read off the nodes around a place, so can what a node adds: the walk then adds
what the occurrences of the tree add, in their order, and fails if one of them does.
-/

namespace CodeIndex.Concrete

def Fails {ε α : Type} (x : Except ε α) : Prop :=
  ∃ e, x = .error e

section Fails

variable {ε α β : Type}

theorem fails_error (e : ε) : Fails (.error e : Except ε α) :=
  ⟨e, rfl⟩

theorem not_fails_ok (a : α) : ¬Fails (.ok a : Except ε α) := by
  rintro ⟨e, h⟩
  cases h

theorem not_fails_iff {x : Except ε α} : ¬Fails x ↔ ∃ a, x = .ok a := by
  cases x with
  | error e => exact ⟨fun h => absurd (fails_error e) h, fun ⟨a, h⟩ => by cases h⟩
  | ok a => exact ⟨fun _ => ⟨a, rfl⟩, fun _ => not_fails_ok a⟩

/-- What cannot fail after its first step fails if that step does. -/
theorem fails_bind_iff {x : Except ε α} {f : α → Except ε β} (hf : ∀ a, ¬Fails (f a)) :
    Fails (x >>= f) ↔ Fails x := by
  cases x with
  | error e => exact ⟨fun _ => fails_error e, fun _ => fails_error e⟩
  | ok a => exact ⟨fun h => absurd h (hf a), fun h => absurd h (not_fails_ok a)⟩

/-- Two computations of which neither fails do not fail one after the other. -/
theorem not_fails_bind {x : Except ε α} {f : α → Except ε β} (hx : ¬Fails x)
    (hf : ∀ a, ¬Fails (f a)) : ¬Fails (x >>= f) :=
  fun h => hx ((fails_bind_iff hf).mp h)

theorem not_fails_mapM {f : α → Except ε β} {l : List α} (hf : ∀ a ∈ l, ¬Fails (f a)) :
    ¬Fails (l.mapM f) := by
  induction l with
  | nil => exact not_fails_ok []
  | cons a rest ih =>
      obtain ⟨hfirst, hrest⟩ := List.forall_mem_cons.mp hf
      rw [List.mapM_cons]
      exact not_fails_bind hfirst fun b => not_fails_bind (ih hrest) fun _ => not_fails_ok _

theorem fails_map_iff {x : Except ε α} {f : α → β} : Fails (x.map f) ↔ Fails x :=
  fails_bind_iff fun a => not_fails_ok (f a)

end Fails

/-! ### The loop -/

namespace Found

theorem append_empty (a : Found) : a ++ {} = a := by
  change append a {} = a
  simp only [append, List.append_nil]

theorem append_assoc (a b c : Found) : a ++ b ++ c = a ++ (b ++ c) := by
  change append (append a b) c = append a (append b c)
  simp only [append, List.append_assoc]

end Found

/-- What the occurrences add, from the first to the last, unless one of them fails. -/
def gather (foundAt : Occurrence Tree → Except AnalysisFailure Found) :
    List (Occurrence Tree) → Except AnalysisFailure Found
  | [] => .ok {}
  | o :: others => do return (← foundAt o) ++ (← gather foundAt others)

section Gather

variable {foundAt : Occurrence Tree → Except AnalysisFailure Found}
  {os later : List (Occurrence Tree)}

private theorem gather_append : gather foundAt (os ++ later) =
    do return (← gather foundAt os) ++ (← gather foundAt later) := by
  induction os with
  | nil => exact (bind_pure _).symm
  | cons o others ih =>
      simp only [List.cons_append, gather, ih, bind_assoc, pure_bind, Found.append_assoc]

/-- The loop fails if an occurrence does. -/
theorem gather_fails_iff : Fails (gather foundAt os) ↔ ∃ o ∈ os, Fails (foundAt o) := by
  induction os with
  | nil => simp [gather, not_fails_ok]
  | cons o others ih =>
      simp only [List.mem_cons, exists_eq_or_imp, ← ih, gather]
      cases foundAt o with
      | error e => exact ⟨fun _ => .inl (fails_error e), fun _ => fails_error e⟩
      | ok own =>
          rw [or_iff_right (not_fails_ok own)]
          exact fails_bind_iff fun rest => not_fails_ok (own ++ rest)

/-- Where each occurrence shows some items in a view of what was found, the view has these items, in
the order of the occurrences. -/
theorem gather_views {β : Type} (view : Found → List β) {items : Occurrence Tree → List β}
    (hempty : view {} = []) (happend : ∀ a b, view (a ++ b) = view a ++ view b)
    (hown : ∀ o ∈ os, Yields (fun own => view own = items o) (foundAt o)) :
    Yields (fun found => view found = os.flatMap items) (gather foundAt os) := by
  induction os with
  | nil => exact .pure hempty
  | cons o others ih =>
      obtain ⟨hfirst, hothers⟩ := List.forall_mem_cons.mp hown
      refine .bind hfirst fun own hfirst => .bind (ih hothers) fun rest hrest => .pure ?_
      rw [happend, hfirst, hrest, List.flatMap_cons]

/-- If each occurrence adds one item at most to a part of what is found, that part lists these items
in order. -/
theorem gather_view {β : Type} (view : Found → List β) {item? : Occurrence Tree → Option β}
    (hempty : view {} = []) (happend : ∀ a b, view (a ++ b) = view a ++ view b)
    (hown : ∀ o ∈ os, Yields (fun own => view own = (item? o).toList) (foundAt o)) :
    Yields (fun found => view found = os.filterMap item?) (gather foundAt os) := by
  rw [List.filterMap_eq_flatMap_toList]
  exact gather_views view hempty happend hown

/-- The loop keeps the symbols that an occurrence adds. -/
theorem gather_own {found : Found} (h : gather foundAt os = .ok found) {o : Occurrence Tree}
    (member : o ∈ os) :
    ∃ own, foundAt o = .ok own ∧ ∀ s ∈ own.symbols, s ∈ found.symbols := by
  induction os generalizing found with
  | nil => cases member
  | cons first others ih =>
      cases hfirst : foundAt first with
      | error e => simp [gather, hfirst, bind, Except.bind] at h
      | ok own =>
          cases hrest : gather foundAt others with
          | error e => simp [gather, hfirst, hrest, bind, Except.bind] at h
          | ok rest =>
              obtain rfl : own ++ rest = found := by
                simpa [gather, hfirst, hrest, bind, Except.bind, pure, Except.pure] using h
              rcases List.mem_cons.mp member with rfl | member
              · exact ⟨own, hfirst, fun s hs => List.mem_append_left _ hs⟩
              · obtain ⟨later, hlater, hkept⟩ := ih hrest member
                exact ⟨later, hlater, fun s hs => List.mem_append_right _ (hkept s hs)⟩

end Gather

/-! ### The walk -/

def foundAt (rule : NodeRule) (scopeOf : List Tree → Scope) (o : Occurrence Tree) :
    Except AnalysisFailure Found :=
  (rule (scopeOf o.above) o.node).map Prod.fst

/-- The rule visits the nodes below a node in the scope that the node and those around it make. -/
def Follows (rule : NodeRule) (scopeOf : List Tree → Scope) : Prop :=
  ∀ above t, Yields (fun result => result.2 = scopeOf (t :: above)) (rule (scopeOf above) t)

instance : Branching Tree where
  parts := Tree.children
  sizeOf_lt {t p} hp := by
    cases t
    have := List.sizeOf_lt_of_mem hp
    simp only [Tree.children, Tree.node.sizeOf_spec] at this ⊢
    omega

theorem Tree.mem_of_child? {t c : Tree} {name : String} (h : t.child? name = some c) :
    c ∈ t.children :=
  List.mem_of_find?_eq_some h

section Walk

variable {rule : NodeRule} {scopeOf : List Tree → Scope}

theorem walk_eq (scope : Scope) (t : Tree) :
    walk rule scope t = do
      let result ← rule scope t
      return result.1 ++ (← walkAll rule result.2 t.children) := by
  cases t with
  | node kind start stop field children =>
      rw [walk]
      cases rule scope (.node kind start stop field children) with
      | error e => rfl
      | ok result =>
          cases hbelow : walkAll rule result.2 children with
          | error e => simp only [hbelow, Tree.children, bind, Except.bind]
          | ok below => simp only [hbelow, Tree.children, bind, Except.bind, pure, Except.pure]

theorem walkAll_cons (scope : Scope) (t : Tree) (others : List Tree) :
    walkAll rule scope (t :: others) =
      do return (← walk rule scope t) ++ (← walkAll rule scope others) := by
  rw [walkAll]
  cases walk rule scope t with
  | error e => rfl
  | ok first => cases walkAll rule scope others <;> rfl

private theorem walkAll_eq_gather {above ts : List Tree}
    (hwalk : ∀ t ∈ ts, walk rule (scopeOf above) t =
      gather (foundAt rule scopeOf) (preorderBelow above t)) :
    walkAll rule (scopeOf above) ts =
      gather (foundAt rule scopeOf) (ts.flatMap (preorderBelow above)) := by
  induction ts with
  | nil => rfl
  | cons t others ih =>
      obtain ⟨hfirst, hothers⟩ := List.forall_mem_cons.mp hwalk
      rw [List.flatMap_cons, gather_append, ← hfirst, ← ih hothers, walkAll_cons]

/-- The walk adds what each node adds at its place, a node before the nodes below it. -/
theorem walk_eq_gather (h : Follows rule scopeOf) (t : Tree) : ∀ above : List Tree,
    walk rule (scopeOf above) t =
      gather (foundAt rule scopeOf) (preorderBelow above t) := by
  induction t using Branching.induction with
  | node t ih =>
      intro above
      have hbelow := walkAll_eq_gather fun p hp => ih p hp (t :: above)
      rw [preorderBelow_eq, gather, ← hbelow, walk_eq]
      unfold foundAt
      cases hrule : rule (scopeOf above) t with
      | error e => rfl
      | ok result =>
          rw [← h above t result hrule]
          rfl

end Walk

/-! ### Scopes by name -/

theorem eq_some_of_nonEmpty? {name? : Option String} {name : String}
    (h : nonEmpty? name? = some name) : name? = some name := by
  cases name? with
  | none => cases h
  | some s =>
      simp only [nonEmpty?] at h
      split at h
      · cases h
      · exact h

theorem nonEmpty?_eq_self {name? : Option String} (h : name? ≠ some "") :
    nonEmpty? name? = name? := by
  cases name? with
  | none => rfl
  | some name =>
      have hne : name ≠ "" := fun heq => h (congrArg some heq)
      simp [nonEmpty?, hne]

/-- The kinds of nodes that define classes and functions, and how their names are read. -/
structure Naming where
  classes : List String
  functions : List String
  textOf : Tree → Option String

namespace Naming

variable (g : Naming)

def className? (t : Tree) : Option String :=
  if t.kind ∈ g.classes then (t.child? "name").bind g.textOf else none

def functionName? (t : Tree) : Option String :=
  if t.kind ∈ g.functions then (t.child? "name").bind g.textOf else none

def enclosingClass? (o : Occurrence Tree) : Option String :=
  o.above.findSome? g.className?

def enclosingFunction? (o : Occurrence Tree) : Option String :=
  o.above.findSome? g.functionName?

def scopeOf (above : List Tree) : Scope :=
  { inClass := above.findSome? g.className?, inFunction := above.findSome? g.functionName? }

def enter (scope : Scope) (t : Tree) : Scope :=
  { inClass := (g.className? t).or scope.inClass
    inFunction := (g.functionName? t).or scope.inFunction }

private theorem scopeOf_cons (t : Tree) (above : List Tree) :
    g.scopeOf (t :: above) = g.enter (g.scopeOf above) t := by
  simp only [scopeOf, enter, List.findSome?_cons]
  cases g.className? t <;> cases g.functionName? t <;> rfl

section Enter

variable {g} {scope : Scope} {t : Tree} {name : String}

theorem enter_of_class (hclass : t.kind ∈ g.classes) (hfunction : t.kind ∉ g.functions)
    (hname : (t.child? "name").bind g.textOf = some name) :
    g.enter scope t = { scope with inClass := some name } := by
  simp only [enter, className?, functionName?, if_pos hclass, if_neg hfunction, hname,
    Option.some_or, Option.none_or]

theorem enter_of_function (hclass : t.kind ∉ g.classes) (hfunction : t.kind ∈ g.functions)
    (hname : (t.child? "name").bind g.textOf = some name) :
    g.enter scope t = { scope with inFunction := some name } := by
  simp only [enter, className?, functionName?, if_neg hclass, if_pos hfunction, hname,
    Option.some_or, Option.none_or]

/-- A definition without a name makes no scope. -/
theorem enter_of_unnamed (hname : (t.child? "name").bind g.textOf = none) :
    g.enter scope t = scope := by
  simp only [enter, className?, functionName?, hname, ite_self, Option.none_or]

theorem enter_of_other (hclass : t.kind ∉ g.classes) (hfunction : t.kind ∉ g.functions) :
    g.enter scope t = scope := by
  simp only [enter, className?, functionName?, if_neg hclass, if_neg hfunction, Option.none_or]

end Enter

/-- Where each node makes the scope of the nodes below it, a walk over a whole tree is a loop over
its occurrences. -/
theorem walk_eq_gather {rule : NodeRule}
    (h : ∀ scope t, Yields (fun result => result.2 = g.enter scope t) (rule scope t))
    (root : Tree) :
    walk rule {} root = gather (foundAt rule g.scopeOf) (preorder root) := by
  have hfollows : Follows rule g.scopeOf := by
    intro above t result hresult
    rw [scopeOf_cons]
    exact h _ t result hresult
  exact Concrete.walk_eq_gather hfollows root []

end Naming

end CodeIndex.Concrete
