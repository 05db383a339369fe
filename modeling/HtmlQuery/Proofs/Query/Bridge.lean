import HtmlQuery.Proofs.Query.Filter
import HtmlQuery.Proofs.Query.Substring
import HtmlQuery.Proofs.Query.Template
import HtmlQuery.Proofs.Tree.Walk
import HtmlQuery.Search.Scope

/-!
# Templates and searches

A template is written as a text, read, and evaluated along axes with sorting between the steps.  A
search tests a condition on a walk.  `templates_agree_with_searches` says that they find the same
nodes in the same order.

All there is to show is that the predicate of a template decides its condition
(`Template.Ask.decides`).  An expression sees the attributes of an element as a node-set.  Where it
compares, any of these may make it true, as for a condition.  A function takes the first one, so the
two agree if there is no other.

An end of a value is cut off by its position, and positions are doubles that are rounded by adding a
half.  So the two also part with values of more than `2 ^ 52` characters (`ExactLengths`).
-/

namespace HtmlQuery

/-! ## Attributes as nodes -/

namespace Node

/-- The values of the attributes of a name. -/
def valuesOf (n : Node) (name : String) : List String :=
  (n.attributeList.filter (·.name == name)).map (·.value)

/-- The attributes of a name as nodes. -/
def attributesOf (n : Node) (name : String) : List Node :=
  n.attributeNodes.filter ((NodeTest.name name).passes .attribute)

/-- The texts of the attributes of a name are their values. -/
theorem map_rawText_attributesOf (n : Node) (name : String) :
    (n.attributesOf name).map rawText = n.valuesOf name := by
  match n with
  | .inner p =>
    have hlist : p.attributes = (List.finRange p.attributes.length).map fun i => p.attributes[i] :=
      (List.map_getElem_finRange p.attributes).symm
    have hpasses : ((NodeTest.name name).passes .attribute ∘ Node.attribute p) =
        ((fun a : Attribute => a.name == name) ∘ fun i => p.attributes[i]) := by
      funext i
      simp [NodeTest.passes, tagName?]
    rw [attributesOf, attributeNodes, valuesOf, attributeList, List.filter_map, hpasses,
      List.map_map]
    conv_rhs => rw [hlist, List.filter_map, List.map_map]
    rfl
  | .attribute .. => rfl

theorem any_attributesOf (n : Node) (name : String) (test : String → Bool) :
    (n.attributesOf name).any (fun m => test m.rawText) = (n.valuesOf name).any test := by
  rw [← map_rawText_attributesOf, List.any_map]
  rfl

end Node

theorem Condition.holds_onAttribute (name : String) (mode : Matching) (value : String) (n : Node) :
    (onAttribute name mode value).holds n =
      (n.valuesOf name).any fun candidate => mode.test candidate value := by
  rw [Node.valuesOf, List.any_map, List.any_filter]
  rfl

theorem Template.eval_attributePath (top : Node) (focus : Focus) (name : String) :
    (attributePath name).eval top focus = .ok (.nodeSet (focus.node.attributesOf name)) := by
  have hstep : (Step.mk .attribute (.name name) []).eval top [focus.node] =
      .ok (focus.node.attributesOf name) := by
    rw [Step.eval, stepFrom, collect, evalPredicates, collect, ok_bind, ok_bind, List.append_nil]
    rfl
  rw [attributePath, Expr.eval, if_neg Bool.false_ne_true, evalSteps, hstep, ok_bind, evalSteps]
  rfl

/-! ## Conditions as predicates -/

/-- No element of a tree carries two attributes of this name. -/
def NoneRepeats (top : Node) (name : String) : Prop :=
  ∀ n : Node, n.document = top → (n.attributeList.filter (·.name == name)).length ≤ 1

/-- Two lengths on which the arithmetic of positions is exact: whole numbers are exact below
`2 ^ 53`, and rounding, which adds a half first, leaves a position as it is up to `2 ^ 52`. -/
def ExactLengths (text back : String) : Prop :=
  text.length < 2 ^ 53 ∧ back.length < 2 ^ 53 ∧ text.length + 1 ≤ back.length + 2 ^ 52

namespace Template

/-- The condition that a template puts on an attribute. -/
def Ask.condition (a : Ask) : Condition :=
  .onAttribute a.name a.mode a.value

/-- What a tree has to be like for a template and a condition to say the same of its attributes. -/
def Ask.Fits (a : Ask) (top : Node) : Prop :=
  match a.mode with
  | .equals | .present => True
  | .contains | .beginsWith => NoneRepeats top a.name
  | .endsWith =>
    NoneRepeats top a.name ∧
      ∀ n : Node, n.document = top → ∀ text ∈ n.valuesOf a.name, ExactLengths text a.value

section Decides

variable {top : Node} {name value : String} {mode : Matching}

theorem decides_attributePath :
    (attributePath name).Decides top (Condition.onAttribute name .present value).holds := by
  intro focus _
  refine ⟨_, eval_attributePath top focus name, ?_, ?_⟩
  · intro h
    cases h
  · rw [Condition.holds_onAttribute, ← Node.any_attributesOf]
    cases h : focus.node.attributesOf name <;> rfl

theorem decides_equals :
    (Expr.binary .equal (attributePath name) (quotedExpr value)).Decides top
      (Condition.onAttribute name .equals value).holds := by
  intro focus _
  refine ⟨_, Expr.eval_binary_of_values (by decide) (by decide)
    (eval_attributePath top focus name) (eval_quotedExpr top focus value),
    Value.type_boolean_ne_number, ?_⟩
  rw [Condition.holds_onAttribute]
  exact focus.node.any_attributesOf name (· == value)

/-- If no attribute repeats, an expression that looks at the first one decides what is asked of
any. -/
theorem decides_of_first {e : Expr} {test : String → Bool} (hr : NoneRepeats top name)
    (h : ∀ (focus : Focus) (m : Node) (ms : List Node), focus.node.document = top →
      focus.node.attributesOf name = m :: ms →
        ∃ v, e.eval top focus = .ok v ∧ v.toBoolean = test m.rawText) :
    (Expr.binary .and (attributePath name) e).Decides top fun n => (n.valuesOf name).any test := by
  have hfirst : ∀ focus : Focus, focus.node.document = top →
      (Condition.onAttribute name .present "").holds focus.node = true →
        ∃ v, e.eval top focus = .ok v ∧ v.toBoolean = (focus.node.valuesOf name).any test := by
    intro focus inside hpresent
    have hvalues := focus.node.map_rawText_attributesOf name
    rw [Condition.holds_onAttribute] at hpresent
    cases hm : focus.node.attributesOf name with
    | nil =>
      rw [hm] at hvalues
      rw [← hvalues] at hpresent
      cases hpresent
    | cons m ms =>
      obtain ⟨v, hv, htest⟩ := h focus m ms inside hm
      -- The first value is the only one.
      have hsingle := hr focus.node inside
      rw [← List.length_map Attribute.value, show List.map _ _ = focus.node.valuesOf name from rfl,
        ← hvalues, hm, List.map_cons, List.length_cons] at hsingle
      have hrest : ms.map Node.rawText = [] := List.eq_nil_of_length_eq_zero (by omega)
      refine ⟨v, hv, ?_⟩
      rw [htest, ← hvalues, hm, List.map_cons, hrest, List.any_cons, List.any_nil, Bool.or_false]
  -- What is asked of the values holds only where there are some.
  have hpresent : ∀ n : Node, ((Condition.onAttribute name .present "").holds n &&
      (n.valuesOf name).any test) = (n.valuesOf name).any test := by
    intro n
    rw [Condition.holds_onAttribute]
    cases n.valuesOf name <;> rfl
  have hand := @Expr.Decides.and top _ e _ (fun n => (n.valuesOf name).any test)
    decides_attributePath hfirst
  simp only [hpresent] at hand
  exact hand

end Decides

/-! ## Functions of an attribute and a value -/

section Calls

variable {top m : Node} {ms : List Node} {focus : Focus} {name : String} {e : Expr} {v : Value}

theorem evalArguments_attributePath (hm : focus.node.attributesOf name = m :: ms)
    (he : e.eval top focus = .ok v) :
    evalArguments top [attributePath name, e] focus = .ok [.nodeSet (m :: ms), v] := by
  rw [evalArguments, eval_attributePath, hm, ok_bind, evalArguments, he, ok_bind, evalArguments]
  rfl

theorem eval_contains (value : String) (hm : focus.node.attributesOf name = m :: ms) :
    (Expr.call .contains [attributePath name, quotedExpr value]).eval top focus =
      .ok (.boolean (Text.contains m.rawText value)) := by
  rw [Expr.eval, evalArguments_attributePath hm (eval_quotedExpr top focus value)]
  rfl

theorem eval_startsWith (value : String) (hm : focus.node.attributesOf name = m :: ms) :
    (Expr.call .startsWith [attributePath name, quotedExpr value]).eval top focus =
      .ok (.boolean (Text.beginsWith m.rawText value)) := by
  rw [Expr.eval, evalArguments_attributePath hm (eval_quotedExpr top focus value)]
  rfl

theorem eval_stringLength {text : String} (he : e.eval top focus = .ok v) (hv : v.toText = text) :
    (Expr.call .stringLength [e]).eval top focus = .ok (.number (Float.ofNat text.length)) := by
  subst hv
  rw [Expr.eval, evalArguments, he, ok_bind, evalArguments]
  rfl

theorem eval_startExpr (value : String) (hm : focus.node.attributesOf name = m :: ms) :
    (startExpr name value).eval top focus =
      .ok (.number (Float.ofNat m.rawText.length - Float.ofNat value.length + 1)) := by
  have hattribute : (attributePath name).eval top focus = .ok (.nodeSet (m :: ms)) := by
    rw [eval_attributePath, hm]
  have hleft : (Expr.call .stringLength [attributePath name]).eval top focus =
      .ok (.number (Float.ofNat m.rawText.length)) :=
    eval_stringLength hattribute rfl
  have hright : (Expr.call .stringLength [quotedExpr value]).eval top focus =
      .ok (.number (Float.ofNat value.length)) :=
    eval_stringLength (eval_quotedExpr top focus value) rfl
  have hdifference : (Expr.binary .subtract (.call .stringLength [attributePath name])
      (.call .stringLength [quotedExpr value])).eval top focus =
        .ok (.number (Float.ofNat m.rawText.length - Float.ofNat value.length)) := by
    rw [Expr.eval_binary_of_values (by decide) (by decide) hleft hright]
    rfl
  have hone : (Expr.number 1).eval top focus = .ok (.number 1) := by
    rw [Expr.eval]
  rw [startExpr, Expr.eval_binary_of_values (by decide) (by decide) hdifference hone]
  rfl

/-- Where a text is cut off for a value that it should end with. -/
def endStart (text value : String) : Float :=
  roundHalfUp (Float.ofNat text.length - Float.ofNat value.length + 1)

theorem eval_end (value : String) (hm : focus.node.attributesOf name = m :: ms) :
    (Expr.binary .equal (.call .substring [attributePath name, startExpr name value])
        (quotedExpr value)).eval top focus =
      .ok (.boolean (substring m.rawText (endStart m.rawText value) (1 / 0) == value)) := by
  have hcall : (Expr.call .substring [attributePath name, startExpr name value]).eval top focus =
      .ok (.string (substring m.rawText (endStart m.rawText value) (1 / 0))) := by
    rw [Expr.eval, evalArguments_attributePath hm (eval_startExpr value hm)]
    rfl
  exact Expr.eval_binary_of_values (by decide) (by decide) hcall (eval_quotedExpr top focus value)

/-- If no attribute repeats, the predicate for an end asks whether what is cut off is the value. -/
theorem decides_end {value : String} (hr : NoneRepeats top name) :
    (Ask.mk name .endsWith value).expr.Decides top fun n =>
      (n.valuesOf name).any fun text => substring text (endStart text value) (1 / 0) == value :=
  decides_of_first hr fun _ _ _ _ hm => ⟨_, eval_end value hm, rfl⟩

/-- With exact lengths, what is cut off is the value where the text ends with it. -/
theorem substring_endStart {text value : String} (h : ExactLengths text value) :
    (substring text (endStart text value) (1 / 0) == value) = Text.endsWith text value := by
  rw [Bool.eq_iff_iff, beq_iff_eq]
  exact substring_length_sub_length h.1 h.2.1 h.2.2

end Calls

/-! ## Templates -/

/-- What a template asks of an attribute decides its condition. -/
theorem Ask.decides {a : Ask} {top : Node} (h : a.Fits top) :
    a.expr.Decides top a.condition.holds := by
  obtain ⟨name, mode, value⟩ := a
  have hholds := funext (Condition.holds_onAttribute name mode value)
  rw [condition]
  cases mode with
  | equals => exact decides_equals
  | contains =>
    rw [hholds]
    exact decides_of_first h fun _ _ _ _ hm => ⟨_, eval_contains value hm, rfl⟩
  | beginsWith =>
    rw [hholds]
    exact decides_of_first h fun _ _ _ _ hm => ⟨_, eval_startsWith value hm, rfl⟩
  | endsWith =>
    obtain ⟨hr, hexact⟩ := h
    rw [hholds]
    intro focus inside
    obtain ⟨v, hv, htype, hvalue⟩ := decides_end hr focus inside
    refine ⟨v, hv, htype, hvalue.trans ?_⟩
    rw [Bool.eq_iff_iff, List.any_eq_true, List.any_eq_true]
    refine exists_congr fun text => and_congr_right fun htext => ?_
    rw [substring_endStart (hexact focus.node inside text htext)]
    rfl
  | present => exact decides_attributePath

/-- Whether a node is what a template looks for. -/
def finds (t : Template) (n : Node) : Bool :=
  (t.tag?.elim n.isElement n.hasTag) && t.ask?.all (·.condition.holds n)

/-- A template whose predicate is a test selects the elements below a node that pass it. -/
theorem select_of_filters (t : Template) {n : Node} {test : Node → Bool}
    (hw : ∀ name ∈ t.names, isWord name.toList = true)
    (h : Filters n.document (t.ask?.map Ask.expr).toList test) :
    n.ofTemplate t =
      .ok (n.descendants.filter fun m => t.tag?.elim m.isElement m.hasTag && test m) := by
  have htest : ∀ m : Node, t.test.passes .child m = t.tag?.elim m.isElement m.hasTag := by
    intro m
    rw [Template.test]
    cases t.tag? <;> rfl
  have heval := @eval_below n t.test _ _ h 1 1
  simp only [htest] at heval
  rw [Node.ofTemplate, expression_eq hw, ok_bind, Node.select, compile_text hw, ok_bind,
    Query.select_eq_ok]
  exact heval

/-- A template selects what it looks for, below the node that it is asked of. -/
theorem select_eq (t : Template) {n : Node} (hw : ∀ name ∈ t.names, isWord name.toList = true)
    (h : ∀ a ∈ t.ask?, a.Fits n.document) :
    n.ofTemplate t = .ok (n.descendants.filter t.finds) := by
  have hfilters : Filters n.document (t.ask?.map Ask.expr).toList
      fun m => t.ask?.all (·.condition.holds m) := by
    cases ha : t.ask? with
    | none => exact filters_nil
    | some a => exact (Ask.decides (h a ha)).filters
  exact select_of_filters t hw hfilters

/-- A call for one node gives the first of all. -/
theorem firstOfTemplate?_eq (n : Node) (t : Template) :
    n.firstOfTemplate? t = (n.ofTemplate t).map List.head? := by
  rw [Node.firstOfTemplate?, Node.ofTemplate]
  cases t.expression with
  | error e => rfl
  | ok text =>
    rw [ok_bind, ok_bind, Node.selectFirst?, Node.select]
    cases Query.compile text with
    | error e => rfl
    | ok q =>
      rw [ok_bind, ok_bind, Query.selectFirst?]
      cases q.select n <;> rfl

end Template

/-! ## Agreement -/

/-- A text that is read on its own as one name without a prefix.  The star, which stands for every
name, is read as a token of the same kind, but it is no name. -/
structure ReadsAsName (name : String) : Prop where
  /-- It is read as one token. -/
  token : ∃ position, tokenize name = .ok [⟨.name name, position⟩]
  /-- It is not the star. -/
  ne_star : name ≠ "*"
  /-- It has no prefix. -/
  no_colon : ':' ∉ name.toList

/-- The texts that are read as names are the words. -/
theorem readsAsName_iff {name : String} : ReadsAsName name ↔ isWord name.toList = true := by
  constructor
  · rintro ⟨⟨position, htoken⟩, hstar, hcolon⟩
    exact isWord_of_tokenize htoken hstar hcolon
  · intro h
    have hlex : Lexes false (name.toList ++ []) [.name name] := lexes_name h rfl rfl lexes_nil
    obtain ⟨located, htokens, hmap⟩ := hlex 0
    obtain ⟨position, rest, rfl, hrest⟩ := Parser.map_token_eq_cons hmap
    rw [List.map_eq_nil_iff] at hrest
    subst hrest
    rw [List.append_nil] at htokens
    exact ⟨⟨position, htokens⟩, ne_star_of_isWord h, not_mem_colon_of_isWord h⟩

theorem Node.searchAll_descendant (n : Node) (c : Condition) :
    n.searchAll .descendant c true = n.descendants.filter c.holds := by
  rw [searchAll, candidates, if_pos rfl, toList_descendantWalk]

/-- Only elements carry attributes. -/
theorem Template.Ask.isElement_of_holds {a : Template.Ask} {n : Node}
    (h : a.condition.holds n = true) : n.isElement = true := by
  rw [condition, Condition.holds_onAttribute, Node.valuesOf, List.any_eq_true] at h
  obtain ⟨_, hvalue, -⟩ := h
  obtain ⟨found, hfound, -⟩ := List.mem_map.mp hvalue
  have hlist : found ∈ n.attributeList := List.mem_of_mem_filter hfound
  match n with
  | .inner p =>
    have hlist : found ∈ p.label.attributes := hlist
    show (p.label.kind == .element) = true
    cases hl : p.label with
    | element vocabulary tag attributes => rfl
    | document | fragment | doctype _ | text _ | comment _ | instruction _ _ =>
      rw [hl] at hlist
      cases hlist
  | .attribute .. => cases hlist

/-- A template that looks for any element finds what a search for its condition finds. -/
theorem ofTemplate_any (t : Template) (a : Template.Ask) {n : Node} (htag : t.tag? = none)
    (ha : t.ask? = some a) (hw : ∀ name ∈ t.names, isWord name.toList = true)
    (h : a.Fits n.document) :
    n.ofTemplate t = .ok (n.searchAll .descendant a.condition true) := by
  have hfits : ∀ b ∈ t.ask?, b.Fits n.document := by
    intro b hb
    rw [ha] at hb
    obtain rfl := Option.some.inj hb
    exact h
  rw [Template.select_eq t hw hfits, Node.searchAll_descendant]
  congr 1
  refine List.filter_congr fun m _ => ?_
  rw [Template.finds, htag, ha]
  show (m.isElement && a.condition.holds m) = a.condition.holds m
  cases hholds : a.condition.holds m with
  | false => rw [Bool.and_false]
  | true => rw [Template.Ask.isElement_of_holds hholds, Bool.and_true]

/-- Templates and searches agree, whatever node they are asked of.  Where a template takes the first
attribute of a name, no element of the tree may carry two of them, and for the end of a value the
lengths have to be such that positions are exact.  A call for one node gives the first of all. -/
theorem templates_agree_with_searches (n : Node) :
    (∀ tag, ReadsAsName tag →
      n.ofTemplate (.ofTag tag) = .ok (n.searchAll .descendant (.hasTag tag) true)) ∧
    (∀ name, ReadsAsName name →
      n.ofTemplate (.withAttribute name) =
        .ok (n.searchAll .descendant (.hasAttribute name) true)) ∧
    (∀ value,
      n.ofTemplate (.withClass value) = .ok (n.searchAll .descendant (.hasClass value) true)) ∧
    (∀ tag name, ReadsAsName tag → ReadsAsName name →
      n.ofTemplate (.tagWithAttribute tag name) =
        .ok ((n.searchAll .descendant (.hasTag tag) true).filter
          (Condition.hasAttribute name).holds)) ∧
    (∀ name mode value, ReadsAsName name → mode = .equals ∨ mode = .present →
      n.ofTemplate (.attributeValue name mode value) =
        .ok (n.searchAll .descendant (.onAttribute name mode value) true)) ∧
    (∀ name mode value, ReadsAsName name → NoneRepeats n.document name →
      (mode = .endsWith → ∀ m : Node, m.document = n.document → ∀ text ∈ m.valuesOf name,
        ExactLengths text value) →
      n.ofTemplate (.attributeValue name mode value) =
        .ok (n.searchAll .descendant (.onAttribute name mode value) true)) ∧
    ∀ t, n.firstOfTemplate? t = (n.ofTemplate t).map List.head? := by
  have hname {name : String} (h : ReadsAsName name) : ∀ x ∈ [name], isWord x.toList = true := by
    intro x hx
    rw [List.mem_singleton.mp hx]
    exact readsAsName_iff.mp h
  refine ⟨fun tag ht => ?_, fun name hn => ?_, fun value => ?_, fun tag name ht hn => ?_,
    fun name mode value hn hmode => ?_, fun name mode value hn hr hexact => ?_,
    Template.firstOfTemplate?_eq n⟩
  · rw [Template.select_eq (.ofTag tag) (hname ht) (by rintro _ ⟨⟩), Node.searchAll_descendant]
    congr 1
    exact List.filter_congr fun m _ => Bool.and_true (m.hasTag tag)
  · exact ofTemplate_any (.withAttribute name) ⟨name, .present, ""⟩ rfl rfl (hname hn) trivial
  · exact ofTemplate_any (.withClass value) ⟨"class", .equals, value⟩ rfl rfl
      (List.forall_mem_nil _) trivial
  · have hnames : ∀ x ∈ [tag, name], isWord x.toList = true :=
      List.forall_mem_cons.mpr ⟨readsAsName_iff.mp ht, hname hn⟩
    have hfits : ∀ a ∈ (Template.tagWithAttribute tag name).ask?, a.Fits n.document := by
      rintro _ ⟨⟩
      trivial
    rw [Template.select_eq (.tagWithAttribute tag name) hnames hfits, Node.searchAll_descendant,
      List.filter_filter]
    congr 1
    exact List.filter_congr fun m _ => Bool.and_comm _ _
  · refine ofTemplate_any (.attributeValue name mode value) ⟨name, mode, value⟩ rfl rfl
      (hname hn) ?_
    rcases hmode with rfl | rfl <;> trivial
  · refine ofTemplate_any (.attributeValue name mode value) ⟨name, mode, value⟩ rfl rfl
      (hname hn) ?_
    cases mode with
    | equals | present => trivial
    | contains | beginsWith => exact hr
    | endsWith => exact ⟨hr, hexact rfl⟩

/-- The attributes of a node are those at a place of its tree, or there are none. -/
theorem Node.attributeList_eq {top : Place} {n : Node} (h : n.document = .inner top) :
    n.attributeList = [] ∨ ∃ p ∈ top.withDescendants, n.attributeList = p.attributes := by
  match n with
  | .inner p => exact .inr ⟨p, Node.inner.inj h ▸ p.mem_withDescendants_top, rfl⟩
  | .attribute .. => exact .inl rfl

theorem templates_agree_smallPage :
    ReadsAsName "x" ∧ NoneRepeats smallPage.document "x" ∧
      (∀ m : Node, m.document = smallPage.document → ∀ text ∈ m.valuesOf "x",
        ExactLengths text "1") ∧
      smallPage.ofTemplate (.attributeValue "x" .endsWith "1") =
        .ok (smallPage.searchAll .descendant (.onAttribute "x" .endsWith "1") true) ∧
      (smallPage.searchAll .descendant (.onAttribute "x" .endsWith "1") true).map Node.tagName? =
        [some "a"] := by
  have hname : ReadsAsName "x" := readsAsName_iff.mpr (by decide)
  have hplaces : ∀ p ∈ smallPage.place.top.withDescendants,
      (p.attributes.filter (·.name == "x")).map (·.value) = [] ∨
        (p.attributes.filter (·.name == "x")).map (·.value) = ["1"] := by
    decide
  have hvalues : ∀ m : Node, m.document = smallPage.document →
      m.valuesOf "x" = [] ∨ m.valuesOf "x" = ["1"] := by
    intro m hm
    rw [Node.valuesOf]
    rcases Node.attributeList_eq hm with he | ⟨p, hp, he⟩
    · exact .inl (he ▸ rfl)
    · exact he ▸ hplaces p hp
  have hrepeats : NoneRepeats smallPage.document "x" := by
    intro m hm
    rw [← List.length_map Attribute.value]
    show (m.valuesOf "x").length ≤ 1
    rcases hvalues m hm with he | he <;> simp [he]
  have hexact : ∀ m : Node, m.document = smallPage.document → ∀ text ∈ m.valuesOf "x",
      ExactLengths text "1" := by
    intro m hm text htext
    rcases hvalues m hm with he | he
    · rw [he] at htext
      cases htext
    · rw [he, List.mem_singleton] at htext
      subst htext
      exact ⟨by decide, by decide, by decide⟩
  exact ⟨hname, hrepeats, hexact,
    (templates_agree_with_searches smallPage).2.2.2.2.2.1 "x" .endsWith "1" hname hrepeats
      fun _ => hexact, by cbv⟩

/-! ## Where they differ -/

/-- The top of a page with nothing but a `p`, which has an attribute `x`. -/
def paragraphPage (value : String) : Node :=
  .inner (.ofTree ⟨0⟩ (.node .document [.node (.element .html "p" [⟨"x", value, .plain⟩]) []]))

theorem noneRepeats_paragraphPage (value : String) :
    NoneRepeats (paragraphPage value).document "x" := by
  have hplaces : (paragraphPage value).place.top.withDescendants.map (·.attributes) =
      [[], [⟨"x", value, .plain⟩]] := rfl
  intro m hm
  rcases Node.attributeList_eq hm with he | ⟨p, hp, he⟩
  · simp [he]
  · have hmem := List.mem_map_of_mem (f := (·.attributes)) hp
    rw [hplaces] at hmem
    rw [he]
    rcases List.mem_pair.mp hmem with hp | hp <;> simp [hp]

/-- On that page a template for the end of the value finds the `p` if the value, cut off where an
end begins, is that end. -/
theorem ofTemplate_paragraphPage (value back : String) :
    (paragraphPage value).ofTemplate (.attributeValue "x" .endsWith back) =
      .ok ((paragraphPage value).descendants.filter fun _ =>
        substring value (Template.endStart value back) (1 / 0) == back) := by
  have hname : ∀ name ∈ ["x"], isWord name.toList = true := by decide
  obtain ⟨p, hp, helement, hvalues⟩ : ∃ p, (paragraphPage value).descendants = [p] ∧
      p.isElement = true ∧ p.valuesOf "x" = [value] := ⟨_, rfl, rfl, rfl⟩
  rw [Template.select_of_filters (.attributeValue "x" .endsWith back) hname
    (Template.decides_end (noneRepeats_paragraphPage value)).filters, hp]
  simp [Template.tag?, List.filter_cons, helement, hvalues]

/-- A search on that page finds the `p` if the value ends as asked. -/
theorem searchAll_paragraphPage (value back : String) :
    (paragraphPage value).searchAll .descendant (.onAttribute "x" .endsWith back) true =
      (paragraphPage value).descendants.filter fun _ => Text.endsWith value back := by
  obtain ⟨p, hp, hvalues⟩ : ∃ p, (paragraphPage value).descendants = [p] ∧
      p.valuesOf "x" = [value] := ⟨_, rfl, rfl⟩
  rw [Node.searchAll_descendant, hp]
  simp [List.filter_cons, Condition.holds_onAttribute, hvalues, Matching.test]

/-- With a value that is too long for its positions to be exact, the two differ. -/
theorem disagree_of_length_eq {value : String} (hlength : value.length = 2 ^ 52 + 1)
    (hend : Text.endsWith value "a" = true) :
    (paragraphPage value).ofTemplate (.attributeValue "x" .endsWith "a") = .ok [] ∧
      (paragraphPage value).searchAll .descendant (.onAttribute "x" .endsWith "a") true ≠ [] := by
  have hcut : substring value (Template.endStart value "a") (1 / 0) = "" :=
    substring_of_length_eq hlength
  rw [ofTemplate_paragraphPage, searchAll_paragraphPage, hcut, hend, List.filter_true]
  exact ⟨congrArg Except.ok (List.filter_false _), nofun⟩

/-- The star is read as a single token with the kind of a name, and no template takes it.  A value
of more than `2 ^ 52` characters loses its last one, though its length is exact. -/
theorem templates_disagree :
    (tokenize "*" = .ok [⟨.name "*", 0⟩] ∧ ':' ∉ "*".toList ∧
      smallPage.ofTemplate (.ofTag "*") = .error ⟨.invalidName "*", 0⟩) ∧
    letI value := String.ofList (List.replicate (2 ^ 52 + 1) 'a')
    value.length < 2 ^ 53 ∧ ReadsAsName "x" ∧ NoneRepeats (paragraphPage value).document "x" ∧
      (paragraphPage value).ofTemplate (.attributeValue "x" .endsWith "a") = .ok [] ∧
      (paragraphPage value).searchAll .descendant (.onAttribute "x" .endsWith "a") true ≠ [] := by
  have hlength : (String.ofList (List.replicate (2 ^ 52 + 1) 'a')).length = 2 ^ 52 + 1 := by
    rw [String.length_ofList, List.length_replicate]
  have hend (n : Nat) :
      Text.endsWith (String.ofList (List.replicate (n + 1) 'a')) "a" = true := by
    rw [Text.endsWith, List.isSuffixOf_iff_suffix, String.toList_ofList (l := List.replicate _ _),
      List.replicate_succ']
    exact List.suffix_append _ _
  exact ⟨⟨by cbv, by decide, by cbv⟩, by rw [hlength]; decide,
    readsAsName_iff.mpr (by decide), noneRepeats_paragraphPage _,
    disagree_of_length_eq hlength (hend (2 ^ 52))⟩

end HtmlQuery
