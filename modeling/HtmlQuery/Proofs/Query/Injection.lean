import HtmlQuery.Proofs.Query.Bridge

/-!
# Templates cannot be injected into

Names and values are written into the text of a template and lose what set them apart.  Still the
text is read as the tree that the template stands for, whatever the value is: a value comes back as
a literal, or as a concatenation of literals that join to it, and never as anything else
(`writesValue_quotedExpr`).  A name comes back as a test for that name, wherever it stands.

That a text is read on its own as one token with the kind of a name is not enough for a name: the
star is read so too, and a template refuses it.
-/

namespace HtmlQuery

/-- An expression writes a value down: as a literal, or as literals put together. -/
def WritesValue (value : String) (e : Expr) : Prop :=
  e = .literal value ∨
    ∃ texts : List String, e = .call .concat (texts.map .literal) ∧ String.join texts = value

theorem writesValue_quotedExpr (value : String) : WritesValue value (quotedExpr value) := by
  unfold quotedExpr
  split
  next =>
    refine .inr ⟨_, rfl, ?_⟩
    rw [join_textsOf, intercalate_piecesAt, String.ofList_toList]
  next => exact .inl rfl

namespace Template

/-- The predicate about an attribute, the value that it compares with being written down. -/
def comparison (name : String) (mode : Matching) (written : Expr) : Expr :=
  let found := attributePath name
  match mode with
  | .equals => .binary .equal found written
  | .contains => .binary .and found (.call .contains [found, written])
  | .beginsWith => .binary .and found (.call .startsWith [found, written])
  | .endsWith =>
    let start := Expr.binary .add
      (.binary .subtract (.call .stringLength [found]) (.call .stringLength [written])) (.number 1)
    .binary .and found (.binary .equal (.call .substring [found, start]) written)
  | .present => found

theorem Ask.expr_eq (a : Ask) : a.expr = comparison a.name a.mode (quotedExpr a.value) := by
  obtain ⟨name, mode, value⟩ := a
  cases mode <;> rfl

/-- The text of a template is read as the template, with the names as tests for names and the value
as a value. -/
theorem parse_expression (t : Template) (h : ∀ name ∈ t.names, ReadsAsName name) :
    t.expression = .ok t.text ∧ ∃ predicates : List Expr,
      Expr.parse t.text = .ok (.path false
        [.every .self, .every .descendantOrSelf,
          .mk .child ((t.tag?.map NodeTest.name).getD .any) predicates]) ∧
      match t.ask? with
      | none => predicates = []
      | some a => ∃ written, WritesValue a.value written ∧
          predicates = [comparison a.name a.mode written] := by
  have hwords : ∀ name ∈ t.names, isWord name.toList = true :=
    fun name hname => readsAsName_iff.mp (h name hname)
  refine ⟨expression_eq hwords, (t.ask?.map Ask.expr).toList, parse_text hwords, ?_⟩
  cases t.ask? with
  | none => rfl
  | some a => exact ⟨quotedExpr a.value, writesValue_quotedExpr a.value, by rw [← a.expr_eq]; rfl⟩

/-- A name that is an operator elsewhere, and a value that tries to break out of its literal. -/
theorem parse_expression_hostile :
    let text := ".//*[@div=concat('', \"'\", '\"]|//a')]"
    ReadsAsName "div" ∧
      (Template.attributeValue "div" .equals "'\"]|//a").expression = .ok text ∧
      ∃ written, WritesValue "'\"]|//a" written ∧
        Expr.parse text = .ok (.path false
          [.every .self, .every .descendantOrSelf,
            .mk .child .any [.binary .equal (attributePath "div") written]]) := by
  intro text
  have hname : ReadsAsName "div" := readsAsName_iff.mpr (by decide)
  have htext : (Template.attributeValue "div" .equals "'\"]|//a").text = text := by rfl
  have hnames : ∀ name ∈ (Template.attributeValue "div" .equals "'\"]|//a").names,
      ReadsAsName name := by
    intro name hmem
    rw [List.mem_singleton.mp hmem]
    exact hname
  obtain ⟨hexpression, predicates, hparse, hask⟩ := parse_expression _ hnames
  obtain ⟨written, hwritten, hpredicates⟩ := hask
  rw [htext] at hexpression hparse
  rw [hpredicates] at hparse
  exact ⟨hname, hexpression, written, hwritten, hparse⟩

/-- The star is read as a single token with the kind of a name, and no template takes it. -/
theorem expression_star :
    tokenize "*" = .ok [⟨.name "*", 0⟩] ∧ ':' ∉ "*".toList ∧
      (Template.ofTag "*").expression = .error ⟨.invalidName "*", 0⟩ := by
  refine ⟨by cbv, by decide, by cbv⟩

end Template

end HtmlQuery
