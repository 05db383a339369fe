import HtmlQuery.Proofs.Tree.Kinship
import HtmlQuery.Proofs.Tree.Preorder
import HtmlQuery.Proofs.Tree.Walk
import HtmlQuery.Search.Named

/-!
# What searches find

`Scope.nodes` lists what a search looks at by recursion on the tree.  The walk of the search, which
follows links and knows one place at a time, visits just these nodes and in this order
(`Node.toList_candidates`).  They all come after the origin (`Scope.precedes_of_mem`).

So a search for all nodes filters that list, and one for the first node finds its head.  The named
searches come in pairs of these two, one pair for each scope and condition, and the name of a search
says which scope and which condition that is (`NamedSearch.areSearches_of_table`).
-/

namespace HtmlQuery

/-- The nodes that a search looks at, in its order.  There are none around an attribute. -/
def Scope.nodes (scope : Scope) (deep : Bool) : Node → List Node
  | .attribute .. => []
  | .inner p =>
    match scope with
    | .child => p.children.map .inner
    | .sibling => p.behind.map .inner
    | .descendant => if deep then p.below.map .inner else p.children.map .inner

/-- The walk of a search visits the nodes of its scope. -/
theorem Node.toList_candidates (origin : Node) (scope : Scope) (deep : Bool) :
    (origin.candidates scope deep).toList = scope.nodes deep origin := by
  have hchild := origin.toList_childWalk
  have hsibling := origin.toList_followingSiblingWalk
  have hbelow := origin.toList_descendantWalk
  match origin, scope, deep with
  | .inner p, .child, _ => exact hchild
  | .inner p, .sibling, _ =>
    rw [candidates, hsibling, followingSiblings, p.followingSiblings_eq_behind]
    rfl
  | .inner p, .descendant, false => exact hchild
  | .inner p, .descendant, true =>
    rw [candidates, if_pos rfl, hbelow, descendants, p.descendants_eq_below]
    rfl
  | .attribute .., .child, _ => exact hchild
  | .attribute .., .sibling, _ => exact hsibling
  | .attribute .., .descendant, false => exact hchild
  | .attribute .., .descendant, true => exact hbelow

/-- The nodes of a scope are those of an axis. -/
theorem Scope.nodes_eq (scope : Scope) (deep : Bool) (origin : Node) :
    scope.nodes deep origin = origin.children ∨ scope.nodes deep origin = origin.descendants ∨
      scope.nodes deep origin = origin.followingSiblings := by
  rw [← origin.toList_candidates]
  match scope, deep with
  | .child, _ => exact .inl origin.toList_childWalk
  | .sibling, _ => exact .inr (.inr origin.toList_followingSiblingWalk)
  | .descendant, false => exact .inl origin.toList_childWalk
  | .descendant, true => exact .inr (.inl origin.toList_descendantWalk)

theorem Scope.isNodeSet_nodes (scope : Scope) (deep : Bool) (origin : Node) :
    IsNodeSet origin.document (scope.nodes deep origin) := by
  rcases scope.nodes_eq deep origin with h | h | h
  · exact h ▸ isNodeSet_children origin
  · exact h ▸ isNodeSet_descendants origin
  · exact h ▸ isNodeSet_followingSiblings origin

/-- A search only looks at what comes after its origin. -/
theorem Scope.precedes_of_mem {scope : Scope} {deep : Bool} {origin n : Node}
    (h : n ∈ scope.nodes deep origin) : origin.Precedes n := by
  have below : origin.Above n → origin.Precedes n := fun ha =>
    (Node.precedes_iff_rank ha.document_rank.1).mpr ha.document_rank.2
  rcases scope.nodes_eq deep origin with he | he | he
  · exact below (.single (mem_children_iff.mp (he ▸ h)).2)
  · exact below (mem_descendants_iff.mp (he ▸ h)).2
  · exact (mem_followingSiblings_iff.mp (he ▸ h)).2.2.2

/-! ## Named searches -/

namespace NamedSearch

/-- Every name is the name of one search. -/
theorem ofName?_of_mem : ∀ row ∈ every, ofName? row.1 = some row.2 := by
  decide +kernel

/-- How names end, and the condition that each of them says. -/
def endings : List (String × (String → String → Condition)) :=
  [("_with_attribute_value_matches", fun a b => .onAttribute a .equals b),
    ("_with_attribute_value_contains", fun a b => .onAttribute a .contains b),
    ("_with_attribute_value_begins_with", fun a b => .onAttribute a .beginsWith b),
    ("_with_attribute_value_ends_with", fun a b => .onAttribute a .endsWith b),
    ("_with_attribute", fun a _ => .hasAttribute a),
    ("_with_class", fun a _ => .hasClass a),
    ("_with_id", fun a _ => .hasId a),
    ("_of_tag", fun a _ => .hasTag a),
    ("_of_tag_value_matches", fun a b => .valueOfTag a .equals b),
    ("_of_tag_value_contains", fun a b => .valueOfTag a .contains b)]

/-- That two names stand for the searches through a scope for what meets a condition, the one for
the first node and the other for all nodes. -/
def AreSearches (first all : String) (scope : Scope) (deep : Bool)
    (condition : String → String → Condition) : Prop :=
  ∃ one many : NamedSearch, ofName? first = some one ∧ one.all = false ∧
    ofName? all = some many ∧ many.all = true ∧
    ∀ origin a b, one.first? origin a b = origin.search? scope (condition a b) deep ∧
      many.nodes origin a b = origin.searchAll scope (condition a b) deep

/-- A row of a table has the names of two searches. -/
theorem areSearches_of_row {table : SearchTable} (ht : table ∈ tables) {first all : String}
    {c : NamedCondition} (h : ((first, all), c) ∈ table.names.zip conditions) :
    AreSearches first all table.scope table.deep c.condition := by
  have hevery : ∀ row ∈ ofRow table ((first, all), c), ofName? row.1 = some row.2 := fun row hrow =>
    ofName?_of_mem row
      (List.mem_flatMap.mpr ⟨table, ht, List.mem_flatMap.mpr ⟨_, h, hrow⟩⟩)
  exact ⟨⟨table.scope, table.deep, false, c⟩, ⟨table.scope, table.deep, true, c⟩,
    hevery (first, _) (by simp [ofRow]), rfl, hevery (all, _) (by simp [ofRow]), rfl,
    fun origin a b => ⟨rfl, rfl⟩⟩

/-- The endings say the conditions of the rows, in the same order. -/
theorem exists_condition {e : String × (String → String → Condition)} (he : e ∈ endings) :
    ∃ c, (e, c) ∈ endings.zip conditions ∧ c.condition = e.2 := by
  have hfst : (endings.zip conditions).map Prod.fst = endings := rfl
  rw [← hfst] at he
  obtain ⟨⟨e, c⟩, hmem, rfl⟩ := List.mem_map.mp he
  refine ⟨c, hmem, ?_⟩
  fin_cases hmem <;> rfl

/-- Where the names of a table have these endings, they stand for the conditions. -/
theorem areSearches_of_table {table : SearchTable} (ht : table ∈ tables) {first all : String}
    (hnames : table.names = endings.map fun e => (first ++ e.1, all ++ e.1))
    {e : String × (String → String → Condition)} (he : e ∈ endings) :
    AreSearches (first ++ e.1) (all ++ e.1) table.scope table.deep e.2 := by
  obtain ⟨c, hmem, hc⟩ := exists_condition he
  rw [← hc]
  refine areSearches_of_row ht ?_
  rw [hnames, List.zip_map_left]
  exact List.mem_map_of_mem (f := Prod.map _ id) hmem

end NamedSearch

/-- Searches miss nothing and find nothing else.  A search for all nodes finds the nodes of its
scope that meet the condition, in the order of the document, all of them after the origin.  A search
for the first node finds the first of these, and none only if there are none.  The sixty names stand
for these two searches, in each scope and with each of ten conditions. -/
theorem search_complete (origin : Node) (scope : Scope) (deep : Bool) (condition : Condition) :
    origin.searchAll scope condition deep = (scope.nodes deep origin).filter condition.holds ∧
    Ascending (origin.searchAll scope condition deep) ∧
    (origin.searchAll scope condition deep).Nodup ∧
    (∀ n ∈ origin.searchAll scope condition deep, n.document = origin.document) ∧
    origin ∉ origin.searchAll scope condition deep ∧
    origin.search? scope condition deep = (origin.searchAll scope condition deep).head? ∧
    (origin.search? scope condition deep = none ↔ origin.searchAll scope condition deep = []) ∧
    NamedSearch.every.length = 60 ∧
    ∀ e ∈ NamedSearch.endings,
      NamedSearch.AreSearches ("child" ++ e.1) ("children" ++ e.1) .child false e.2 ∧
      NamedSearch.AreSearches ("sibling" ++ e.1) ("siblings" ++ e.1) .sibling false e.2 ∧
      NamedSearch.AreSearches ("descendant" ++ e.1) ("descendants" ++ e.1) .descendant true
        e.2 := by
  have hall : origin.searchAll scope condition deep =
      (scope.nodes deep origin).filter condition.holds := by
    rw [Node.searchAll, Node.toList_candidates]
  have hfirst : origin.search? scope condition deep =
      (origin.searchAll scope condition deep).head? := by
    rw [Node.search?, Node.searchAll, List.head?_filter]
  have hset : IsNodeSet origin.document (origin.searchAll scope condition deep) :=
    hall ▸ (scope.isNodeSet_nodes deep origin).sublist List.filter_sublist
  refine ⟨hall, hset.ascending, hset.nodup, hset.inside, fun hmem => ?_, hfirst, ?_, rfl,
    fun e he => ⟨?_, ?_, ?_⟩⟩
  · have hself : origin.Precedes origin :=
      Scope.precedes_of_mem (List.mem_of_mem_filter (hall ▸ hmem))
    exact Nat.lt_irrefl _ ((Node.precedes_iff_rank rfl).mp hself)
  · rw [hfirst, List.head?_eq_none_iff]
  · have hmem : NamedSearch.childTable ∈ NamedSearch.tables := by simp [NamedSearch.tables]
    exact NamedSearch.areSearches_of_table hmem (by decide +kernel) he
  · have hmem : NamedSearch.siblingTable ∈ NamedSearch.tables := by simp [NamedSearch.tables]
    exact NamedSearch.areSearches_of_table hmem (by decide +kernel) he
  · have hmem : NamedSearch.descendantTable ∈ NamedSearch.tables := by simp [NamedSearch.tables]
    exact NamedSearch.areSearches_of_table hmem (by decide +kernel) he

/-- The `div` of `<div><ul class="m"><li class="m"></li></ul><p class="m"></p></div>`. -/
def nestedPage : Node :=
  .inner (.ofTree ⟨0⟩ (.node (.element .html "div" [])
    [.node (.element .html "ul" [⟨"class", "m", .plain⟩])
      [.node (.element .html "li" [⟨"class", "m", .plain⟩]) []],
      .node (.element .html "p" [⟨"class", "m", .plain⟩]) []]))

/-- A search goes on below what it found. -/
theorem search_complete_nestedPage :
    ("_with_class", fun a _ => Condition.hasClass a) ∈ NamedSearch.endings ∧
      ∃ one many : NamedSearch, NamedSearch.ofName? "descendant_with_class" = some one ∧
        NamedSearch.ofName? "descendants_with_class" = some many ∧
        (many.nodes nestedPage "m" "").map Node.tagName? = [some "ul", some "li", some "p"] ∧
        (one.first? nestedPage "m" "").map Node.tagName? = some (some "ul") := by
  have hmem : ("_with_class", fun a _ => Condition.hasClass a) ∈ NamedSearch.endings := by
    simp [NamedSearch.endings]
  obtain ⟨-, -, -, -, -, -, -, -, hnamed⟩ :=
    search_complete nestedPage .descendant true (.hasClass "m")
  obtain ⟨one, many, hone, -, hmany, -, hpair⟩ := (hnamed _ hmem).2.2
  refine ⟨hmem, one, many, hone, hmany, ?_, ?_⟩
  · rw [(hpair nestedPage "m" "").2]
    cbv
  · rw [(hpair nestedPage "m" "").1]
    cbv

end HtmlQuery
