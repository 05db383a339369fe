import HtmlQuery.Proofs.Query.Quoting
import HtmlQuery.Query.Basic

/-!
# What templates are read as

A template looks for a tag or for any element, and may ask something of an attribute: `tag?` and
`attribute?` say what.  Its text is read as the path `Template.expr`, if its names are words
(`parse_text`).

The text is taken apart from its end, because how a text is read depends on what comes behind it.
The tokens are put together the other way, from the operands to the whole.
-/

namespace HtmlQuery

/-! ## Names -/

theorem ne_star_of_isWord {name : String} (h : isWord name.toList = true) : name ≠ "*" := by
  rintro rfl
  exact absurd h (by decide)

theorem not_mem_colon_of_isWord {name : String} (h : isWord name.toList = true) :
    ':' ∉ name.toList := by
  intro hmem
  cases hn : name.toList with
  | nil =>
    rw [hn] at hmem
    cases hmem
  | cons c cs =>
    rw [hn, isWord, Bool.and_eq_true, List.all_eq_true] at h
    rw [hn] at hmem
    rcases List.mem_cons.mp hmem with rfl | hmem
    · exact absurd h.1 (by decide)
    · exact absurd (h.2 _ hmem) (by decide)

namespace Template

/-! ## What a template asks -/

/-- What is asked of an attribute: its name, and how its value compares with a given one. -/
structure Ask where
  /-- The name. -/
  name : String
  /-- How the values compare. -/
  mode : Matching
  /-- What the value compares with. -/
  value : String

/-- The tag that a template looks for, nothing for any element. -/
def tag? : Template → Option String
  | .ofTag tag | .tagWithAttribute tag _ => some tag
  | .withAttribute _ | .attributeValue .. | .withClass _ => none

/-- What a template asks of an attribute. -/
def ask? : Template → Option Ask
  | .ofTag _ => none
  | .tagWithAttribute _ name | .withAttribute name => some ⟨name, .present, ""⟩
  | .attributeValue name mode value => some ⟨name, mode, value⟩
  | .withClass value => some ⟨"class", .equals, value⟩

/-- The text of a template by what it asks. -/
theorem text_eq (t : Template) : t.text = ".//" ++ t.tag?.getD "*" ++
    (t.ask?.map fun a => attributePredicate a.name a.mode a.value).getD "" := by
  cases t with
  | ofTag tag => exact (String.append_empty).symm
  | tagWithAttribute tag name =>
    rw [text, String.append_assoc, String.append_assoc]
    rfl
  | withAttribute name => rfl
  | attributeValue name mode value => rfl
  | withClass value => rfl

/-- The names of a template are those that it asks for. -/
theorem isWord_names {t : Template} (h : ∀ name ∈ t.names, isWord name.toList = true) :
    (∀ tag ∈ t.tag?, isWord tag.toList = true) ∧
      ∀ a ∈ t.ask?, isWord a.name.toList = true := by
  cases t with
  | ofTag _ | tagWithAttribute _ _ | withAttribute _ | attributeValue _ _ _ =>
    simpa [names, tag?, ask?] using h
  | withClass value =>
    simp only [tag?, ask?, Option.mem_def, Option.some.injEq, reduceCtorEq, false_imp_iff,
      implies_true, forall_eq', true_and]
    decide

/-! ## Tokens -/

/-- An attribute of the current node. -/
def attributeTokens (name : String) : List Token :=
  [.symbol .atSign, .name name]

/-- A function and its arguments. -/
def callTokens (function : String) (arguments : List Token) : List Token :=
  .function function :: .symbol .leftParen :: (arguments ++ [.symbol .rightParen])

/-- What comes behind `@name and` where a text begins with a value or contains it. -/
def occurrenceTokens (function name value : String) : List Token :=
  callTokens function (attributeTokens name ++ .symbol .comma :: quotedTokens value)

/-- The position from which a text has as many characters as a value. -/
def startTokens (name value : String) : List Token :=
  callTokens "string-length" (attributeTokens name) ++ .symbol .minus ::
    callTokens "string-length" (quotedTokens value) ++ .symbol .plus :: [.number 1]

/-- What comes behind `@name and` where a text ends with a value. -/
def endTokens (name value : String) : List Token :=
  callTokens "substring" (attributeTokens name ++ .symbol .comma :: startTokens name value) ++
    .symbol .equal :: quotedTokens value

/-- The tokens of what is asked of an attribute. -/
def Ask.tokens (a : Ask) : List Token :=
  match a.mode with
  | .equals => attributeTokens a.name ++ .symbol .equal :: quotedTokens a.value
  | .contains =>
    attributeTokens a.name ++ .symbol .and :: occurrenceTokens "contains" a.name a.value
  | .beginsWith =>
    attributeTokens a.name ++ .symbol .and :: occurrenceTokens "starts-with" a.name a.value
  | .endsWith => attributeTokens a.name ++ .symbol .and :: endTokens a.name a.value
  | .present => attributeTokens a.name

/-- The tokens of the predicate, if a template has one. -/
def predicateTokens : Option Ask → List Token
  | none => []
  | some a => .symbol .leftBracket :: (a.tokens ++ [.symbol .rightBracket])

/-- The tokens of a template. -/
def tokens (t : Template) : List Token :=
  .symbol .dot :: .symbol .doubleSlash :: .name (t.tag?.getD "*") :: predicateTokens t.ask?

section Lexing

variable {afterOperand : Bool} {name : String} {rest : List Char} {tokens : List Token}

theorem lexes_attribute (hn : isWord name.toList = true) (hr : endsName rest = true)
    (hk : classifyName false name rest = .name name) (h : Lexes true rest tokens) :
    Lexes afterOperand ('@' :: (name.toList ++ rest)) (attributeTokens name ++ tokens) :=
  lexes_single rfl (lexes_name hn hr hk h)

/-- A function, whose name is no operator and no node type, and its parenthesis. -/
theorem lexes_call (function : String) (hn : isWord function.toList = true)
    (hk : classifyName false function ('(' :: rest) = .function function)
    (h : Lexes false rest tokens) :
    Lexes false (function.toList ++ '(' :: rest)
      (.function function :: .symbol .leftParen :: tokens) :=
  lexes_name hn rfl hk (lexes_single rfl h)

theorem lexes_and (h : Lexes false rest tokens) :
    Lexes true (' ' :: 'a' :: 'n' :: 'd' :: ' ' :: rest) (.symbol .and :: tokens) := by
  have hand : Lexes true ("and".toList ++ ' ' :: rest) (.symbol .and :: tokens) :=
    lexes_name (by decide) rfl rfl (lexes_space rfl h)
  exact lexes_space rfl hand

/-- An operator of one character between spaces. -/
theorem lexes_spaced {c : Char} {symbol : Symbol} (hs : singleSymbol? c = some symbol)
    (ho : (Token.symbol symbol).endsOperand = false) (h : Lexes false rest tokens) :
    Lexes true (' ' :: c :: ' ' :: rest) (.symbol symbol :: tokens) := by
  have hbehind : Lexes (Token.symbol symbol).endsOperand (' ' :: rest) tokens := by
    rw [ho]
    exact lexes_space rfl h
  exact lexes_space rfl (lexes_single hs hbehind)

theorem lexes_close (h : Lexes true rest tokens) :
    Lexes true (')' :: rest) (.symbol .rightParen :: tokens) :=
  lexes_single rfl h

/-- A function of an attribute and a value. -/
theorem lexes_occurrence (function value : String) (hf : isWord function.toList = true)
    (hk : ∀ rest, classifyName false function ('(' :: rest) = .function function)
    (hn : isWord name.toList = true) (h : Lexes true rest tokens) :
    Lexes false
      (function.toList ++ '(' :: '@' :: (name.toList ++ ',' :: ' ' ::
        ((quoteLiteral value).toList ++ ')' :: rest)))
      (occurrenceTokens function name value ++ tokens) := by
  have hcomma : Lexes true (',' :: ' ' :: _) (.symbol .comma :: _) :=
    lexes_comma (lexes_quoteLiteral value (lexes_close h))
  have hcall := lexes_call function hf (hk _) (lexes_attribute hn rfl rfl hcomma)
  simpa [occurrenceTokens, callTokens, attributeTokens] using hcall

/-- The position from which a text has as many characters as a value. -/
theorem lexes_start (value : String) (hn : isWord name.toList = true)
    (h : Lexes true (')' :: rest) tokens) :
    Lexes false
      ("string-length".toList ++ '(' :: '@' :: (name.toList ++ ')' :: ' ' :: '-' :: ' ' ::
        ("string-length".toList ++ '(' :: ((quoteLiteral value).toList ++
          ')' :: ' ' :: '+' :: ' ' :: '1' :: ')' :: rest))))
      (startTokens name value ++ tokens) := by
  have hone : Lexes false ('1' :: ')' :: rest) (.number 1 :: tokens) :=
    lexes_scan rfl rfl rfl rfl h
  have hplus : Lexes true (' ' :: '+' :: ' ' :: _) (.symbol .plus :: _) := lexes_spaced rfl rfl hone
  have hvalue := lexes_call "string-length" (by decide) rfl
    (lexes_quoteLiteral value (lexes_close hplus))
  have hminus : Lexes true (' ' :: '-' :: ' ' :: _) (.symbol .minus :: _) :=
    lexes_spaced rfl rfl hvalue
  have hcall := lexes_call "string-length" (by decide) rfl
    (lexes_attribute hn rfl rfl (lexes_close hminus))
  simpa [startTokens, callTokens, attributeTokens] using hcall

theorem lexes_end (value : String) (hn : isWord name.toList = true) (h : Lexes true rest tokens) :
    Lexes false
      ("substring".toList ++ '(' :: '@' :: (name.toList ++ ',' :: ' ' ::
        ("string-length".toList ++ '(' :: '@' :: (name.toList ++ ')' :: ' ' :: '-' :: ' ' ::
          ("string-length".toList ++ '(' :: ((quoteLiteral value).toList ++
            ')' :: ' ' :: '+' :: ' ' :: '1' :: ')' :: ' ' :: '=' :: ' ' ::
              ((quoteLiteral value).toList ++ rest)))))))
      (endTokens name value ++ tokens) := by
  have hequal : Lexes true (' ' :: '=' :: ' ' :: _) (.symbol .equal :: _) :=
    lexes_spaced rfl rfl (lexes_quoteLiteral value h)
  have hcomma : Lexes true (',' :: ' ' :: _) (.symbol .comma :: _) :=
    lexes_comma (lexes_start value hn (lexes_close hequal))
  have hcall := lexes_call "substring" (by decide) rfl
    (lexes_attribute hn rfl rfl hcomma)
  simpa [endTokens, callTokens, attributeTokens] using hcall

/-- What a template asks of an attribute, as it is written. -/
theorem lexes_attributePredicate {a : Ask} (hn : isWord a.name.toList = true) :
    Lexes afterOperand (attributePredicate a.name a.mode a.value).toList
      (predicateTokens (some a)) := by
  obtain ⟨name, mode, value⟩ := a
  have hclose : Lexes true [']'] [.symbol .rightBracket] := lexes_single rfl lexes_nil
  have hopen {cs : List Char} {ts : List Token} (h : Lexes false cs ts) :
      Lexes afterOperand ('[' :: cs) (.symbol .leftBracket :: ts) := lexes_single rfl h
  cases mode with
  | equals =>
    have hequal : Lexes true ('=' :: _) (.symbol .equal :: _) :=
      lexes_single rfl (lexes_quoteLiteral value hclose)
    have h := hopen (lexes_attribute hn rfl rfl hequal)
    simpa [attributePredicate, predicateTokens, Ask.tokens] using h
  | contains =>
    have hcall := lexes_occurrence "contains" value (by decide) (fun _ => rfl) hn hclose
    have h := hopen (lexes_attribute hn rfl rfl (lexes_and hcall))
    simpa [attributePredicate, predicateTokens, Ask.tokens] using h
  | beginsWith =>
    have hcall := lexes_occurrence "starts-with" value (by decide) (fun _ => rfl) hn hclose
    have h := hopen (lexes_attribute hn rfl rfl (lexes_and hcall))
    simpa [attributePredicate, predicateTokens, Ask.tokens] using h
  | endsWith =>
    have hcall := lexes_end value hn hclose
    have h := hopen (lexes_attribute hn rfl rfl (lexes_and hcall))
    simpa [attributePredicate, predicateTokens, Ask.tokens] using h
  | present =>
    have h := hopen (lexes_attribute hn rfl rfl hclose)
    simpa [attributePredicate, predicateTokens, Ask.tokens] using h

/-- The predicate of a template begins with the name that it asks for. -/
theorem toList_attributePredicate (name : String) (mode : Matching) (value : String) :
    ∃ cs, (attributePredicate name mode value).toList = '[' :: '@' :: (name.toList ++ cs) := by
  cases mode <;> simp [attributePredicate]

/-- A template as it is written. -/
theorem lexes_text {t : Template} (h : ∀ name ∈ t.names, isWord name.toList = true) :
    Lexes false t.text.toList t.tokens := by
  obtain ⟨htag, hask⟩ := isWord_names h
  -- Before the predicate, or at the end, the tag is over.
  have hbehind : ∃ rest, Lexes true rest (predicateTokens t.ask?) ∧ endsName rest = true ∧
      (∀ tag, classifyName false tag rest = .name tag) ∧
      t.text.toList = '.' :: '/' :: '/' :: ((t.tag?.getD "*").toList ++ rest) := by
    cases ha : t.ask? with
    | none =>
      refine ⟨[], lexes_nil, rfl, fun _ => rfl, ?_⟩
      rw [text_eq, ha]
      simp
    | some a =>
      obtain ⟨cs, hcs⟩ := toList_attributePredicate a.name a.mode a.value
      refine ⟨'[' :: '@' :: (a.name.toList ++ cs), ?_, rfl, fun _ => rfl, ?_⟩
      · rw [← hcs]
        exact lexes_attributePredicate (hask a ha)
      · rw [text_eq, ha, ← hcs]
        simp
  obtain ⟨rest, hrest, hends, hkind, htext⟩ := hbehind
  have hname : Lexes false ((t.tag?.getD "*").toList ++ rest)
      (.name (t.tag?.getD "*") :: predicateTokens t.ask?) := by
    cases ht : t.tag? with
    | none => exact lexes_scan rfl rfl rfl rfl hrest
    | some tag => exact lexes_name (htag tag ht) hends (hkind tag) hrest
  rw [htext]
  exact lexes_scan rfl rfl rfl rfl (lexes_scan rfl rfl rfl rfl hname)

end Lexing

/-! ## Reading -/

/-- An attribute of the current node. -/
def attributePath (name : String) : Expr :=
  .path false [.mk .attribute (.name name) []]

/-- The position from which a text has as many characters as a value. -/
def startExpr (name value : String) : Expr :=
  .binary .add
    (.binary .subtract (.call .stringLength [attributePath name])
      (.call .stringLength [quotedExpr value]))
    (.number 1)

/-- What is asked of an attribute. -/
def Ask.expr (a : Ask) : Expr :=
  let found := attributePath a.name
  let value := quotedExpr a.value
  match a.mode with
  | .equals => .binary .equal found value
  | .contains => .binary .and found (.call .contains [found, value])
  | .beginsWith => .binary .and found (.call .startsWith [found, value])
  | .endsWith =>
    .binary .and found
      (.binary .equal (.call .substring [found, startExpr a.name a.value]) value)
  | .present => found

/-- The test of a template. -/
def test (t : Template) : NodeTest :=
  (t.tag?.map .name).getD .any

/-- The path that a template is read as. -/
def expr (t : Template) : Expr :=
  .path false
    [.every .self, .descendantOrSelf, .mk .child t.test (t.ask?.map Ask.expr).toList]

section Reading

open HtmlQuery.Parser

variable {name : String} {depth : Nat}

theorem reads_attribute (hn : isWord name.toList = true) :
    ReadsAt depth 10 (attributeTokens name) 0 (· = attributePath name) := by
  have htest := reads_nodeTest_name (ne_star_of_isWord hn) (not_mem_colon_of_isWord hn)
  have hstep : Reads (run (step (parseOr depth))) 11 (attributeTokens name) 0
      (· = .mk .attribute (.name name) []) :=
    htest.step_attribute reads_predicates_nil (congrArg _)
  have hsteps : Reads (run (steps (parseOr depth))) 10 (attributeTokens name) 0
      (· = [.mk .attribute (.name name) []]) :=
    hstep.steps_one (congrArg ([·]))
  exact hsteps.parsePath_steps (congrArg _)

/-- A function of one argument or more. -/
theorem reads_call (function : Function) {tokens : List Token} {cost : Nat} {es : List Expr}
    (harity : function.arity.allows es.length = true)
    (h : Reads (run (argumentList (parseOr depth))) 1 tokens cost (· = es)) :
    ReadsAt depth 10 (callTokens function.spelling tokens) cost (· = .call function es) := by
  have hcall := (h.arguments function.spelling (opens_parseOr depth)).primary_call
    (R := (· = .call function es)) (by rintro _ rfl; exact ⟨harity, rfl⟩)
  exact hcall.parsePath_primary

/-- One argument. -/
theorem reads_argument {tokens : List Token} {cost : Nat} {e : Expr}
    (h : ReadsAt depth 10 tokens cost (· = e)) :
    Reads (run (argumentList (parseOr (depth + 2)))) 1 tokens cost (· = [e]) :=
  (h.parseOr (by decide)).argumentList_one (congrArg ([·]))

theorem reads_occurrence (function : Function) (value : String)
    (harity : function.arity = ⟨2, some 2⟩) (hn : isWord name.toList = true) :
    ReadsAt (depth + 4) 10 (occurrenceTokens function.spelling name value) 0
      (· = .call function [attributePath name, quotedExpr value]) := by
  have hattribute : Reads (run (parseOr (depth + 4))) 2 (attributeTokens name) 0
      (· = attributePath name) :=
    (reads_attribute hn).parseOr (by decide)
  have hlist : Reads (run (argumentList (parseOr (depth + 4)))) 1
      (attributeTokens name ++ .symbol .comma :: quotedTokens value) 0
      (· = [attributePath name, quotedExpr value]) :=
    hattribute.argumentList_cons (reads_argument (reads_quoted value)) (congrArg₂ List.cons)
  exact reads_call function (by rw [harity]; rfl) hlist

theorem reads_start (value : String) (hn : isWord name.toList = true) :
    Reads (run (parseOr (depth + 6))) 2 (startTokens name value) 2 (· = startExpr name value) := by
  have hlength {tokens : List Token} {e : Expr} (h : ReadsAt (depth + 2) 10 tokens 0 (· = e)) :
      ReadsAt (depth + 4) 7 (callTokens "string-length" tokens) 0 (· = .call .stringLength [e]) :=
    (reads_call .stringLength rfl (reads_argument h)).loosen (by decide)
  have hone : ReadsAt (depth + 4) 7 [.number 1] 0 (· = .number 1) :=
    (ReadsAt.path reads_primary_number).loosen (by decide)
  have hsums : Chained 6 := .inl (by decide)
  have hdifference : LeadsAt (depth + 4) 6
      (callTokens "string-length" (attributeTokens name) ++ .symbol .minus ::
        callTokens "string-length" (quotedTokens value)) 1
      (· = .binary .subtract (.call .stringLength [attributePath name])
        (.call .stringLength [quotedExpr value])) :=
    ((hlength (reads_attribute hn)).leadsAt hsums).snoc hsums rfl (hlength (reads_quoted value))
      (congrArg₂ _)
  have hsum : LeadsAt (depth + 4) 6
      ((callTokens "string-length" (attributeTokens name) ++ .symbol .minus ::
        callTokens "string-length" (quotedTokens value)) ++ .symbol .plus :: [.number 1]) 2
      (· = startExpr name value) :=
    hdifference.snoc hsums (f := .binary .add) rfl hone (congrArg₂ _)
  exact (hsum.readsAt hsums).parseOr (by decide)

theorem reads_end (value : String) (hn : isWord name.toList = true) :
    ReadsAt (depth + 6) 4 (endTokens name value) 3
      (· = .binary .equal (.call .substring [attributePath name, startExpr name value])
        (quotedExpr value)) := by
  have hattribute : Reads (run (parseOr (depth + 6))) 2 (attributeTokens name) 0
      (· = attributePath name) :=
    (reads_attribute hn).parseOr (by decide)
  have hlist : Reads (run (argumentList (parseOr (depth + 6)))) 1
      (attributeTokens name ++ .symbol .comma :: startTokens name value) 2
      (· = [attributePath name, startExpr name value]) := by
    have h := hattribute.argumentList_cons ((reads_start value hn).argumentList_one
      (R := (· = [startExpr name value])) (congrArg ([·])))
      (R := (· = [attributePath name, startExpr name value])) (congrArg₂ List.cons)
    simpa using h
  have hcall : ReadsAt (depth + 6) 5 (callTokens "substring" _) 2
      (· = .call .substring [attributePath name, startExpr name value]) :=
    (reads_call .substring rfl hlist).loosen (by decide)
  exact hcall.joined (.inl (by decide)) rfl
    ((reads_quoted value).loosen (by decide)) (congrArg₂ _)

/-- What is asked of an attribute, as it is read. -/
theorem reads_ask {a : Ask} (hn : isWord a.name.toList = true) :
    ∃ cost ≤ 4, Reads (run (parseOr (depth + 8))) 2 a.tokens cost (· = a.expr) := by
  obtain ⟨name, mode, value⟩ := a
  have hattribute {k : Nat} (hl : 2 ≤ k) (hu : k ≤ 10) :
      ReadsAt (depth + 6) k (attributeTokens name) 0 (· = attributePath name) :=
    (reads_attribute hn).loosen ⟨hl, hu, le_rfl⟩
  have hand {tokens : List Token} {cost : Nat} {e : Expr}
      (h : ReadsAt (depth + 6) 4 tokens cost (· = e)) :
      Reads (run (parseOr (depth + 8))) 2 (attributeTokens name ++ .symbol .and :: tokens)
        (0 + 1 + cost) (· = .binary .and (attributePath name) e) :=
    ((hattribute (by decide) (by decide)).joined (.inl (by decide)) rfl h
      (congrArg₂ _)).parseOr (by decide)
  have hoccurrence (function : Function) (harity : function.arity = ⟨2, some 2⟩) :
      ReadsAt (depth + 6) 4 (occurrenceTokens function.spelling name value) 0
        (· = .call function [attributePath name, quotedExpr value]) :=
    (reads_occurrence function value harity hn).loosen (by decide)
  cases mode with
  | equals =>
    have hequal : ReadsAt (depth + 6) 4
        (attributeTokens name ++ .symbol .equal :: quotedTokens value) 1
        (· = .binary .equal (attributePath name) (quotedExpr value)) :=
      (hattribute (by decide) (by decide)).joined (.inl (by decide)) rfl
        ((reads_quoted value).loosen (by decide)) (congrArg₂ _)
    exact ⟨1, by decide, hequal.parseOr (by decide)⟩
  | contains => exact ⟨1, by decide, hand (hoccurrence .contains rfl)⟩
  | beginsWith => exact ⟨1, by decide, hand (hoccurrence .startsWith rfl)⟩
  | endsWith => exact ⟨4, by decide, hand (reads_end value hn)⟩
  | present => exact ⟨0, by decide, (reads_attribute hn).parseOr (by decide)⟩

/-- The predicate of a template, if it has one. -/
theorem reads_predicates {ask? : Option Ask} (h : ∀ a ∈ ask?, isWord a.name.toList = true) :
    ∃ cost ≤ 4, Reads (run (predicates (parseOr (depth + 8)))) 11 (predicateTokens ask?) cost
      (· = (ask?.map Ask.expr).toList) := by
  cases ask? with
  | none => exact ⟨0, by decide, reads_predicates_nil⟩
  | some a =>
    obtain ⟨cost, hcost, hask⟩ := @reads_ask depth a (h a rfl)
    exact ⟨cost, hcost, hask.predicates_cons reads_predicates_nil (congrArg₂ List.cons)⟩

theorem reads_test {t : Template} (h : ∀ tag ∈ t.tag?, isWord tag.toList = true) :
    Reads (run nodeTest) 12 [.name (t.tag?.getD "*")] 0 (· = t.test) := by
  rw [test]
  cases ht : t.tag? with
  | none => exact reads_nodeTest_any
  | some tag =>
    have hw := h tag ht
    exact reads_nodeTest_name (ne_star_of_isWord hw) (not_mem_colon_of_isWord hw)

/-- A template as it is read. -/
theorem reads_template {t : Template} (h : ∀ name ∈ t.names, isWord name.toList = true) :
    ∃ cost ≤ 4, Reads (run (parseOr (depth + 10))) 2 t.tokens cost (· = t.expr) := by
  obtain ⟨htag, hask⟩ := isWord_names h
  obtain ⟨cost, hcost, hpredicates⟩ := @reads_predicates depth _ hask
  have hstep : Reads (run (step (parseOr (depth + 8)))) 11
      (.name (t.tag?.getD "*") :: predicateTokens t.ask?) cost
      (· = .mk .child t.test (t.ask?.map Ask.expr).toList) :=
    (reads_test htag).step_child hpredicates (congrArg _)
  have hlast : Reads (run (steps (parseOr (depth + 8)))) 10
      (.name (t.tag?.getD "*") :: predicateTokens t.ask?) cost
      (· = [.mk .child t.test (t.ask?.map Ask.expr).toList]) :=
    hstep.steps_one (congrArg ([·]))
  have hsteps : Reads (run (steps (parseOr (depth + 8)))) 10 t.tokens (0 + cost)
      (· = [.every .self, .descendantOrSelf, .mk .child t.test (t.ask?.map Ask.expr).toList]) :=
    reads_step_dot.steps_doubleSlash hlast
      (congrArg₂ fun s ss => s :: Step.descendantOrSelf :: ss)
  have hpath : ReadsAt (depth + 8) 10 t.tokens (0 + cost) (· = t.expr) :=
    hsteps.parsePath_steps (congrArg _)
  exact ⟨0 + cost, by omega, hpath.parseOr (by decide)⟩

/-- The text of a template is read as the path that it stands for. -/
theorem parse_text {t : Template} (h : ∀ name ∈ t.names, isWord name.toList = true) :
    Expr.parse t.text = .ok t.expr := by
  obtain ⟨cost, hcost, hread⟩ := @reads_template 246 t h
  exact parse_of_lexes (lexes_text h) hread (List.cons_ne_nil _ _)
    (Nat.le_trans hcost (by decide))

/-- A template starts at the node that it is asked of. -/
theorem compile_text {t : Template} (h : ∀ name ∈ t.names, isWord name.toList = true) :
    Query.compile t.text = .ok ⟨t.text, .here, t.expr⟩ := by
  have horigin : Origin.of t.text = .here := by
    rw [Origin.of, text_eq, String.append_assoc, String.toList_append]
    rfl
  rw [Query.compile, parse_text h, ok_bind, horigin]
  rfl

theorem expression_eq {t : Template} (h : ∀ name ∈ t.names, isWord name.toList = true) :
    t.expression = .ok t.text := by
  have hnone : t.names.find? (! isNameText ·) = none := by
    rw [List.find?_eq_none]
    intro name hname
    rw [isNameText_of_isWord (h name hname)]
    decide
  rw [expression, hnone]

end Reading

end Template

end HtmlQuery
