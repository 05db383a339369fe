import HtmlQuery.Search.Condition
import HtmlQuery.Tree.Walk

/-!
# Searches

A search walks through a scope and keeps the nodes that meet a condition.  Looking for the first
stops there, looking for all goes on below a node that was found.
-/

namespace HtmlQuery

/-- Where a search looks. -/
inductive Scope where
  /-- Among the children. -/
  | child
  /-- Among the siblings after the origin. -/
  | sibling
  /-- Among the children, or everywhere below the origin. -/
  | descendant
deriving DecidableEq, Repr

namespace Node

/-- The walk through a scope.  `deep` matters to the scope of descendants only. -/
def candidates (origin : Node) (scope : Scope) (deep : Bool) : Walk :=
  match scope with
  | .child => origin.childWalk
  | .sibling => origin.followingSiblingWalk
  | .descendant => if deep then origin.descendantWalk else origin.childWalk

/-- The first node of a scope that meets a condition. -/
def search? (origin : Node) (scope : Scope) (condition : Condition) (deep : Bool) : Option Node :=
  (origin.candidates scope deep).toList.find? condition.holds

/-- All nodes of a scope that meet a condition, in order. -/
def searchAll (origin : Node) (scope : Scope) (condition : Condition) (deep : Bool) : List Node :=
  (origin.candidates scope deep).toList.filter condition.holds

end Node

end HtmlQuery
