import HtmlQuery.Search.Scope

/-!
# Named searches

Sixty searches have a name of their own.  They are made by three tables of names, one for each
scope.  A table has a row for each of ten conditions, with the name of the search for the first node
and the name of the search for all nodes, as in `child_with_class` and `children_with_class`.
`NamedSearch.ofName?` finds the search of a name.
-/

namespace HtmlQuery

/-- The conditions that names are made for. -/
inductive NamedCondition where
  /-- The value of an attribute compares with a given one. -/
  | attributeValue (mode : Matching)
  /-- An attribute is there. -/
  | hasAttribute
  /-- The class is a given one. -/
  | hasClass
  /-- The identifier is a given one. -/
  | hasId
  /-- The tag is a given one. -/
  | hasTag
  /-- The tag is a given one and the direct text value compares with a given one. -/
  | tagValue (mode : Matching)
deriving DecidableEq, Repr

/-- The condition with its arguments filled in.  Those that need one argument leave out the
second. -/
def NamedCondition.condition (c : NamedCondition) (a b : String) : Condition :=
  match c with
  | .attributeValue mode => .onAttribute a mode b
  | .hasAttribute => .hasAttribute a
  | .hasClass => .hasClass a
  | .hasId => .hasId a
  | .hasTag => .hasTag a
  | .tagValue mode => .valueOfTag a mode b

/-- A search that has a name. -/
structure NamedSearch where
  /-- Where it looks. -/
  scope : Scope
  /-- Whether it looks below the children. -/
  deep : Bool
  /-- Whether it wants all nodes. -/
  all : Bool
  /-- What it looks for. -/
  condition : NamedCondition
deriving DecidableEq, Repr

/-- The names of the searches through one scope. -/
structure SearchTable where
  /-- Where they look. -/
  scope : Scope
  /-- Whether they look below the children. -/
  deep : Bool
  /-- For each condition the name of the search for the first node, and that of the search for all
  nodes. -/
  names : List (String × String)

namespace NamedSearch

/-- The searches through the descendants. -/
def descendantTable : SearchTable where
  scope := .descendant
  deep := true
  names :=
    [("descendant_with_attribute_value_matches", "descendants_with_attribute_value_matches"),
      ("descendant_with_attribute_value_contains", "descendants_with_attribute_value_contains"),
      ("descendant_with_attribute_value_begins_with",
        "descendants_with_attribute_value_begins_with"),
      ("descendant_with_attribute_value_ends_with", "descendants_with_attribute_value_ends_with"),
      ("descendant_with_attribute", "descendants_with_attribute"),
      ("descendant_with_class", "descendants_with_class"),
      ("descendant_with_id", "descendants_with_id"),
      ("descendant_of_tag", "descendants_of_tag"),
      ("descendant_of_tag_value_matches", "descendants_of_tag_value_matches"),
      ("descendant_of_tag_value_contains", "descendants_of_tag_value_contains")]

/-- The searches through the children. -/
def childTable : SearchTable where
  scope := .child
  deep := false
  names :=
    [("child_with_attribute_value_matches", "children_with_attribute_value_matches"),
      ("child_with_attribute_value_contains", "children_with_attribute_value_contains"),
      ("child_with_attribute_value_begins_with", "children_with_attribute_value_begins_with"),
      ("child_with_attribute_value_ends_with", "children_with_attribute_value_ends_with"),
      ("child_with_attribute", "children_with_attribute"),
      ("child_with_class", "children_with_class"),
      ("child_with_id", "children_with_id"),
      ("child_of_tag", "children_of_tag"),
      ("child_of_tag_value_matches", "children_of_tag_value_matches"),
      ("child_of_tag_value_contains", "children_of_tag_value_contains")]

/-- The searches through the siblings. -/
def siblingTable : SearchTable where
  scope := .sibling
  deep := false
  names :=
    [("sibling_with_attribute_value_matches", "siblings_with_attribute_value_matches"),
      ("sibling_with_attribute_value_contains", "siblings_with_attribute_value_contains"),
      ("sibling_with_attribute_value_begins_with", "siblings_with_attribute_value_begins_with"),
      ("sibling_with_attribute_value_ends_with", "siblings_with_attribute_value_ends_with"),
      ("sibling_with_attribute", "siblings_with_attribute"),
      ("sibling_with_class", "siblings_with_class"),
      ("sibling_with_id", "siblings_with_id"),
      ("sibling_of_tag", "siblings_of_tag"),
      ("sibling_of_tag_value_matches", "siblings_of_tag_value_matches"),
      ("sibling_of_tag_value_contains", "siblings_of_tag_value_contains")]

/-- The three tables. -/
def tables : List SearchTable :=
  [descendantTable, childTable, siblingTable]

/-- The conditions that the rows of a table are about. -/
def conditions : List NamedCondition :=
  [.attributeValue .equals, .attributeValue .contains, .attributeValue .beginsWith,
    .attributeValue .endsWith, .hasAttribute, .hasClass, .hasId, .hasTag, .tagValue .equals,
    .tagValue .contains]

/-- The two searches of a row, with their names. -/
def ofRow (table : SearchTable) : (String × String) × NamedCondition → List (String × NamedSearch)
  | ((first, all), c) =>
    [(first, ⟨table.scope, table.deep, false, c⟩), (all, ⟨table.scope, table.deep, true, c⟩)]

/-- All searches that have names. -/
def every : List (String × NamedSearch) :=
  tables.flatMap fun table => (table.names.zip conditions).flatMap (ofRow table)

/-- The search of a name. -/
def ofName? (name : String) : Option NamedSearch :=
  every.lookup name

/-- The first node found. -/
def first? (s : NamedSearch) (origin : Node) (a b : String) : Option Node :=
  origin.search? s.scope (s.condition.condition a b) s.deep

/-- All nodes found. -/
def nodes (s : NamedSearch) (origin : Node) (a b : String) : List Node :=
  origin.searchAll s.scope (s.condition.condition a b) s.deep

end NamedSearch

end HtmlQuery
