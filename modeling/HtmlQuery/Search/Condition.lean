import HtmlQuery.Text.Occurrence
import HtmlQuery.Tree.Node

/-!
# Conditions on nodes

A `Condition` looks at an attribute, at the tag, or at the tag and the direct text value, and says
how the value found there has to compare with a given one.  Values are compared as they are, upper
and lower case told apart.
-/

namespace HtmlQuery

/-- How a value compares with a given one. -/
inductive Matching where
  /-- The two are equal. -/
  | equals
  /-- The given one occurs in the value. -/
  | contains
  /-- The value begins with the given one. -/
  | beginsWith
  /-- The value ends with the given one. -/
  | endsWith
  /-- Any value will do. -/
  | present
deriving DecidableEq, Repr

/-- Whether a value compares with a given one as asked. -/
def Matching.test : Matching → (candidate value : String) → Bool
  | .equals, candidate, value => candidate == value
  | .contains, candidate, value => Text.contains candidate value
  | .beginsWith, candidate, value => Text.beginsWith candidate value
  | .endsWith, candidate, value => Text.endsWith candidate value
  | .present, _, _ => true

/-- What a condition looks at. -/
inductive Target where
  /-- The attributes of this name. -/
  | attributes (name : String)
  /-- The tag. -/
  | tag (name : String)
  /-- The direct text value of elements with this tag. -/
  | valueOfTag (name : String)
deriving DecidableEq, Repr

/-- A condition on a node. -/
structure Condition where
  /-- What the condition looks at. -/
  target : Target
  /-- How it compares. -/
  mode : Matching := .present
  /-- What it compares with. -/
  value : String := ""
deriving DecidableEq, Repr

namespace Condition

/-- Some attribute of this name compares with the value. -/
def onAttribute (name : String) (mode : Matching) (value : String) : Condition :=
  ⟨.attributes name, mode, value⟩

/-- There is an attribute of this name. -/
def hasAttribute (name : String) : Condition :=
  onAttribute name .present ""

/-- The whole class attribute equals the value. -/
def hasClass (value : String) : Condition :=
  onAttribute "class" .equals value

/-- The identifier equals the value. -/
def hasId (value : String) : Condition :=
  onAttribute "id" .equals value

/-- The node is an element with this tag. -/
def hasTag (tag : String) : Condition :=
  ⟨.tag tag, .present, ""⟩

/-- The node is an element with this tag and its direct text value compares with the value. -/
def valueOfTag (tag : String) (mode : Matching) (value : String) : Condition :=
  ⟨.valueOfTag tag, mode, value⟩

/-- Whether a node meets a condition. -/
def holds (condition : Condition) (n : Node) : Bool :=
  match condition.target with
  | .attributes name =>
    n.attributeList.any fun a => a.name == name && condition.mode.test a.value condition.value
  | .tag tag => n.hasTag tag
  | .valueOfTag tag =>
    n.hasTag tag &&
      match n.rawValue? with
      | some text => condition.mode.test text condition.value
      | none => false

end Condition

end HtmlQuery
