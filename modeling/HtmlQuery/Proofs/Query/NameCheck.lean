import HtmlQuery.Proofs.Query.Bridge
import HtmlQuery.Proofs.Query.Bytes
import HtmlQuery.Proofs.Query.Typing

/-!
# Names that templates take

A template refuses a text that is no name, so that its expression can be read.  The check and the
lexer spell out what a name is on their own, and they differ in one point: the check takes any
character beyond ASCII at the front, but no token begins with one that is no letter
(`readsAsName_iff_isNameText`).

So an expression with such a name cannot be read, and the error shows that character
(`Template.compile_of_stray`).  All other expressions of templates are read, and evaluating them
gives nodes (`Template.exists_ofTemplate`).
-/

namespace HtmlQuery

/-! ## Texts that are not read -/

/-- The first character of a text, if it is beyond ASCII and no name begins with it. -/
def strayStart? (text : String) : Option Char :=
  text.toList.head?.filter fun c => 0x80 ≤ c.toNat && !beginsName c

theorem strayStart?_eq_some_iff {text : String} {c : Char} :
    strayStart? text = some c ↔
      ∃ cs, text.toList = c :: cs ∧ 0x80 ≤ c.toNat ∧ beginsName c = false := by
  rw [strayStart?, Option.filter_eq_some_iff, Bool.and_eq_true, decide_eq_true_eq,
    Bool.not_eq_true', List.head?_eq_some_iff]
  constructor
  · rintro ⟨⟨cs, hcs⟩, hc⟩
    exact ⟨cs, hcs, hc⟩
  · rintro ⟨cs, hcs, hc⟩
    exact ⟨⟨cs, hcs⟩, hc⟩

/-- The check takes what is read as a name, and besides that the texts with a stray character at the
front. -/
theorem readsAsName_iff_isNameText {name : String} :
    ReadsAsName name ↔ isNameText name = true ∧ strayStart? name = none := by
  rw [readsAsName_iff, isNameText, strayStart?]
  cases name.toList with
  | nil => simp [isWord]
  | cons c cs =>
    rw [isWord, List.head?_cons, Option.filter_some]
    cases hc : beginsName c with
    | true => simp [hc]
    | false => by_cases hge : 0x80 ≤ c.toNat <;> simp [hc, hge]

/-- Reading stops at a character that no token begins with, so many bytes into the text. -/
def BreaksOff (afterOperand : Bool) (input : List Char) (offset : Nat) (c : Char) : Prop :=
  ∀ position, lexFrom position afterOperand input =
    .error ⟨.unexpectedCharacter c, position + offset⟩

section Breaks

variable {afterOperand : Bool} {c d : Char} {cs rest : List Char} {offset : Nat}

theorem scan_of_stray (hc : 0x80 ≤ c.toNat) (hn : beginsName c = false) :
    scan afterOperand c cs = .error ⟨.unexpectedCharacter c, 0⟩ := by
  unfold scan
  rw [singleSymbol?_of_le hc]
  simp only [beq_eq_false_of_le hc (show '"'.toNat < 0x80 by decide),
    beq_eq_false_of_le hc (show '\''.toNat < 0x80 by decide),
    beq_eq_false_of_le hc (show '$'.toNat < 0x80 by decide),
    isAsciiDigit_of_le hc, hn, Bool.or_self, Bool.false_eq_true, ↓reduceIte]
  split
  case h_15 => rfl
  all_goals exact absurd hc (by decide)

theorem breaksOff_stray (hc : 0x80 ≤ c.toNat) (hn : beginsName c = false) :
    BreaksOff afterOperand (c :: cs) 0 c := by
  intro position
  rw [lexFrom, if_neg (by rw [isSpace_of_le hc]; decide), scan_of_stray hc hn]

/-- A token in front of a text that cannot be read. -/
theorem breaksOff_scan (token : Token) {front : List Char} {s : Scan (c :: cs)}
    (hc : Text.isSpace c = false) (hs : scan afterOperand c cs = .ok s) (hf : s.front = front)
    (ht : s.token = token) (hr : s.rest = rest) (h : BreaksOff token.endsOperand rest offset d) :
    BreaksOff afterOperand (c :: cs) (byteLength front + offset) d := by
  subst hf ht hr
  intro position
  rw [lexFrom, if_neg (by rw [hc]; decide), hs]
  simp only [h (position + byteLength s.front), Nat.add_assoc]

/-- A word in front of a text that cannot be read. -/
theorem breaksOff_word {text : List Char} (ht : isWord text = true) (hr : endsName rest = true)
    (h : BreaksOff (classifyName afterOperand (String.ofList text) rest).endsOperand rest offset d) :
    BreaksOff afterOperand (text ++ rest) (byteLength text + offset) d := by
  cases text with
  | nil => cases ht
  | cons c cs =>
    obtain ⟨s, hs, hfront, hrest, htoken⟩ := @scan_word afterOperand c cs rest ht hr
    exact breaksOff_scan _ (isSpace_eq_false_of_isWord ht) hs hfront htoken hrest h

theorem compile_of_breaksOff {text : String} (h : BreaksOff false text.toList offset d) :
    Query.compile text = .error ⟨.unexpectedCharacter d, offset⟩ := by
  rw [Query.compile, Expr.parse, tokenize, h 0, Nat.zero_add]
  rfl

end Breaks

namespace Template

variable {t : Template} {c : Char}

/-! ## Templates that are not read -/

theorem expression_eq_ok_iff {text : String} :
    t.expression = .ok text ↔ (∀ name ∈ t.names, isNameText name = true) ∧ text = t.text := by
  rw [expression]
  cases h : t.names.find? (! isNameText ·) with
  | none =>
    have hall : ∀ name ∈ t.names, isNameText name = true := by
      simpa using List.find?_eq_none.mp h
    rw [Except.ok.injEq, eq_comm]
    exact (and_iff_right hall).symm
  | some name =>
    have hname : (!isNameText name) = true := List.find?_some (p := (! isNameText ·)) h
    have hmem : name ∈ t.names := List.mem_of_find?_eq_some h
    simp only [reduceCtorEq, false_iff, not_and]
    intro hall
    rw [hall name hmem] at hname
    cases hname

/-- The text of a template up to what it asks of an attribute. -/
theorem toList_text (t : Template) :
    t.text.toList = '.' :: '/' :: '/' :: ((t.tag?.getD "*").toList ++
      (t.ask?.elim [] fun a => (attributePredicate a.name a.mode a.value).toList)) := by
  rw [text_eq]
  cases t.ask? <;> simp

/-- A part of the text of a template that cannot be read, behind what every such text begins
with. -/
theorem breaksOff_below {front rest : List Char} (h : BreaksOff false rest (byteLength front) c) :
    BreaksOff false ('.' :: '/' :: '/' :: rest) (byteLength ('.' :: '/' :: '/' :: front)) c := by
  have hslashes : BreaksOff true ('/' :: '/' :: rest) (byteLength ['/', '/'] + _) c :=
    breaksOff_scan (.symbol .doubleSlash) rfl rfl rfl rfl rfl h
  have hdot : BreaksOff false ('.' :: '/' :: '/' :: rest) (byteLength ['.'] + _) c :=
    breaksOff_scan (.symbol .dot) rfl rfl rfl rfl rfl hslashes
  rwa [← byteLength_append, ← byteLength_append] at hdot

theorem breaksOff_tag {tag : String} (htag : t.tag? = some tag) (hc : strayStart? tag = some c) :
    ∃ before behind, t.text.toList = before ++ c :: behind ∧
      BreaksOff false t.text.toList (byteLength before) c := by
  obtain ⟨cs, hcs, hge, hbegins⟩ := strayStart?_eq_some_iff.mp hc
  rw [toList_text, htag, Option.getD_some, hcs]
  exact ⟨['.', '/', '/'], _, rfl, breaksOff_below (breaksOff_stray hge hbegins)⟩

theorem breaksOff_attribute {a : Ask} (htag : ∀ tag ∈ t.tag?, isWord tag.toList = true)
    (ha : t.ask? = some a) (hc : strayStart? a.name = some c) :
    ∃ before behind, t.text.toList = before ++ c :: behind ∧
      BreaksOff false t.text.toList (byteLength before) c := by
  obtain ⟨cs, hcs, hge, hbegins⟩ := strayStart?_eq_some_iff.mp hc
  obtain ⟨more, hmore⟩ := toList_attributePredicate a.name a.mode a.value
  have hat : BreaksOff false ('@' :: c :: (cs ++ more)) (byteLength ['@'] + 0) c :=
    breaksOff_scan (.symbol .atSign) rfl rfl rfl rfl rfl (breaksOff_stray hge hbegins)
  have hname : BreaksOff true ('[' :: '@' :: c :: (cs ++ more)) (byteLength ['['] + _) c :=
    breaksOff_scan (.symbol .leftBracket) rfl rfl rfl rfl rfl hat
  have hsubject : BreaksOff false ((t.tag?.getD "*").toList ++ '[' :: '@' :: c :: (cs ++ more))
      (byteLength ((t.tag?.getD "*").toList ++ ['[', '@'])) c := by
    rw [byteLength_append]
    cases ht : t.tag? with
    | none => exact breaksOff_scan (.name "*") rfl rfl rfl rfl rfl hname
    | some tag => exact breaksOff_word (htag tag ht) rfl hname
  rw [toList_text, ha, Option.elim_some, hmore, hcs]
  exact ⟨'.' :: '/' :: '/' :: ((t.tag?.getD "*").toList ++ ['[', '@']), cs ++ more, by simp,
    breaksOff_below hsubject⟩

/-- The first name with a stray character at the front is where the expression cannot be read. -/
theorem compile_of_stray (h : ∀ name ∈ t.names, isNameText name = true)
    (hc : t.names.findSome? strayStart? = some c) :
    ∃ before behind, t.text.toList = before ++ c :: behind ∧
      Query.compile t.text = .error ⟨.unexpectedCharacter c, byteLength before⟩ := by
  have hbreaks : ∃ before behind, t.text.toList = before ++ c :: behind ∧
      BreaksOff false t.text.toList (byteLength before) c := by
    have hword {name : String} (hmem : name ∈ t.names) (hn : strayStart? name = none) :
        isWord name.toList = true :=
      readsAsName_iff.mp (readsAsName_iff_isNameText.mpr ⟨h name hmem, hn⟩)
    cases t with
    | ofTag tag =>
      exact breaksOff_tag rfl (by simpa [names] using hc)
    | tagWithAttribute tag name =>
      cases htag : strayStart? tag with
      | some d =>
        have hd : d = c := by simpa [names, htag] using hc
        exact breaksOff_tag rfl (hd ▸ htag)
      | none =>
        refine breaksOff_attribute (a := ⟨name, .present, ""⟩) ?_ rfl (by simpa [names, htag] using hc)
        rintro _ ⟨⟩
        exact hword List.mem_cons_self htag
    | withAttribute name | attributeValue name mode value =>
      refine breaksOff_attribute ?_ rfl (by simpa [names] using hc)
      rintro _ ⟨⟩
    | withClass value => cases hc
  obtain ⟨before, behind, htext, hbreaks⟩ := hbreaks
  exact ⟨before, behind, htext, compile_of_breaksOff hbreaks⟩

/-! ## Templates that are read -/

/-- No part of the expression is a variable, and none wants nodes of another expression. -/
def Harmless (e : Expr) : Prop :=
  ∀ p ∈ e.parts, (∀ name position, p ≠ .variable name position) ∧ p.nodePlaces = []

section Harmless

theorem harmless_of_children {e : Expr} (hv : ∀ name position, e ≠ .variable name position)
    (hn : e.nodePlaces = []) (hc : ∀ c ∈ e.children, Harmless c) : Harmless e :=
  Expr.forall_parts.mpr ⟨⟨hv, hn⟩, hc⟩

theorem harmless_binary {op : BinaryOp} {left right : Expr} (hl : Harmless left)
    (hr : Harmless right) : Harmless (.binary op left right) := by
  refine harmless_of_children nofun rfl fun c hc => ?_
  rcases List.mem_pair.mp hc with rfl | rfl
  · exact hl
  · exact hr

theorem harmless_call {function : Function} {arguments : List Expr}
    (hn : (Expr.call function arguments).nodePlaces = []) (h : ∀ e ∈ arguments, Harmless e) :
    Harmless (.call function arguments) :=
  harmless_of_children nofun hn h

theorem harmless_literal (text : String) : Harmless (.literal text) :=
  harmless_of_children nofun rfl nofun

theorem harmless_attributePath (name : String) : Harmless (attributePath name) :=
  harmless_of_children nofun rfl nofun

theorem harmless_quotedExpr (value : String) : Harmless (quotedExpr value) := by
  rw [quotedExpr]
  split
  · refine harmless_call rfl fun e he => ?_
    obtain ⟨text, -, rfl⟩ := List.mem_map.mp he
    exact harmless_literal text
  · exact harmless_literal value

theorem harmless_startExpr (name value : String) : Harmless (startExpr name value) := by
  have hlength {e : Expr} (he : Harmless e) : Harmless (.call .stringLength [e]) :=
    harmless_call rfl (List.forall_mem_singleton.mpr he)
  exact harmless_binary
    (harmless_binary (hlength (harmless_attributePath name)) (hlength (harmless_quotedExpr value)))
    (harmless_of_children nofun rfl nofun)

/-- What a template asks. -/
theorem harmless_ask (a : Ask) : Harmless a.expr := by
  obtain ⟨name, mode, value⟩ := a
  have hname := harmless_attributePath name
  have hvalue := harmless_quotedExpr value
  have hpair {e : Expr} (he : Harmless e) : ∀ c ∈ [attributePath name, e], Harmless c :=
    List.forall_mem_cons.mpr ⟨hname, List.forall_mem_singleton.mpr he⟩
  cases mode with
  | equals => exact harmless_binary hname hvalue
  | contains | beginsWith => exact harmless_binary hname (harmless_call rfl (hpair hvalue))
  | endsWith =>
    exact harmless_binary hname (harmless_binary
      (harmless_call rfl (hpair (harmless_startExpr name value))) hvalue)
  | present => exact hname

/-- The only expression below that of a template is what it asks. -/
theorem children_expr (t : Template) : t.expr.children = (t.ask?.map Ask.expr).toList := by
  simp [expr, Expr.children, Step.predicates, Step.every, Step.descendantOrSelf]

theorem harmless_expr (t : Template) : Harmless t.expr := by
  refine harmless_of_children nofun rfl fun c hc => ?_
  rw [children_expr, Option.mem_toList, Option.map_eq_some_iff] at hc
  obtain ⟨a, -, rfl⟩ := hc
  exact harmless_ask a

end Harmless

/-- A template whose names are read as names gives nodes, wherever it is asked. -/
theorem exists_ofTemplate (h : ∀ name ∈ t.names, ReadsAsName name) (n : Node) :
    ∃ nodes, n.ofTemplate t = .ok nodes := by
  have hw : ∀ name ∈ t.names, isWord name.toList = true :=
    fun name hname => readsAsName_iff.mp (h name hname)
  have hchecked := (Expr.allowed_of_parse (parse_text hw)).wellFormed
  have hnone : FailsOnly (fun _ => False) (t.expr.valueAt n) := by
    refine failsOnly_eval (fun p hp => ⟨hchecked p hp, (harmless_expr t p hp).1, ?_⟩) _
    rw [(harmless_expr t p hp).2]
    exact nofun
  cases hv : t.expr.valueAt n with
  | error error => exact (hnone error hv).elim
  | ok v =>
    have htype := Expr.type_of_eval hv
    cases v with
    | nodeSet nodes =>
      refine ⟨nodes, ?_⟩
      rw [Node.ofTemplate, expression_eq hw, ok_bind, Node.select, compile_text hw, ok_bind,
        Query.select_eq_ok]
      exact hv
    | boolean | number | string => cases htype

end Template

/-- The check on names and the lexer agree up to stray characters.  What is read as a name passes the
check, and of what passes it all that is not read as a name begins with a character beyond ASCII
that no token begins with.  If no name of a template does, its expression is read, and asking for it
gives nodes everywhere.  Otherwise the expression cannot be read, and asking for it fails, at the
first such character. -/
theorem name_check_exact (name : String) (t : Template) :
    (ReadsAsName name ↔ isNameText name = true ∧ strayStart? name = none) ∧
    ∀ text, t.expression = .ok text →
      (t.names.findSome? strayStart? = none →
        (∃ q, Query.compile text = .ok q) ∧ ∀ n : Node, ∃ nodes, n.ofTemplate t = .ok nodes) ∧
      ∀ c, t.names.findSome? strayStart? = some c →
        ∃ before behind, text.toList = before ++ c :: behind ∧
          Query.compile text = .error ⟨.unexpectedCharacter c, byteLength before⟩ ∧
            ∀ n : Node, n.ofTemplate t = .error ⟨.unexpectedCharacter c, byteLength before⟩ := by
  refine ⟨readsAsName_iff_isNameText, fun text h => ?_⟩
  obtain ⟨hnames, rfl⟩ := Template.expression_eq_ok_iff.mp h
  refine ⟨fun hnone => ?_, fun c hc => ?_⟩
  · have hreads : ∀ name ∈ t.names, ReadsAsName name := fun name hname =>
      readsAsName_iff_isNameText.mpr
        ⟨hnames name hname, List.findSome?_eq_none_iff.mp hnone name hname⟩
    have hw : ∀ name ∈ t.names, isWord name.toList = true :=
      fun name hname => readsAsName_iff.mp (hreads name hname)
    exact ⟨⟨_, Template.compile_text hw⟩, Template.exists_ofTemplate hreads⟩
  · obtain ⟨before, behind, htext, hcompile⟩ := Template.compile_of_stray hnames hc
    refine ⟨before, behind, htext, hcompile, fun n => ?_⟩
    rw [Node.ofTemplate, h, ok_bind, Node.select, hcompile]
    rfl

/-- The multiplication sign stands among the letters of Latin-1 and is none. -/
theorem beginsName_times : beginsName '×' = false := by
  rw [beginsName, Text.isAlphabetic, if_neg (by decide), Text.inRanges, ← Array.foldl_toList]
  decide +kernel

theorem strayStart?_times : strayStart? "×" = some '×' :=
  strayStart?_eq_some_iff.mpr ⟨[], rfl, by decide, beginsName_times⟩

theorem isNameText_times : isNameText "×" = true := by
  simp [isNameText]

/-- A tag and an attribute that pass the check.  The attribute is a multiplication sign, and the
expression cannot be read at its eighth byte. -/
theorem name_check_exact_times :
    let t := Template.tagWithAttribute "p" "×"
    t.expression = .ok ".//p[@×]" ∧ t.names.findSome? strayStart? = some '×' ∧
      ∃ before behind, ".//p[@×]".toList = before ++ '×' :: behind ∧
        Query.compile ".//p[@×]" = .error ⟨.unexpectedCharacter '×', byteLength before⟩ := by
  intro t
  have hexpression : t.expression = .ok ".//p[@×]" := by
    refine Template.expression_eq_ok_iff.mpr ⟨?_, by decide⟩
    exact List.forall_mem_cons.mpr ⟨by cbv, List.forall_mem_singleton.mpr isNameText_times⟩
  have htag : strayStart? "p" = none := by cbv
  have hstray : t.names.findSome? strayStart? = some '×' := by
    rw [Template.names, List.findSome?_cons, htag, List.findSome?_cons, strayStart?_times]
  obtain ⟨before, behind, htext, hcompile, -⟩ :=
    ((name_check_exact "×" t).2 _ hexpression).2 '×' hstray
  exact ⟨hexpression, hstray, before, behind, htext, hcompile⟩

/-- The multiplication sign passes as a tag, is not read as a name, and the expression with it is not
read either. -/
theorem times_passes_unread :
    isNameText "×" = true ∧ ¬ ReadsAsName "×" ∧
      (Template.ofTag "×").expression = .ok ".//×" ∧
      Query.compile ".//×" = .error ⟨.unexpectedCharacter '×', 3⟩ := by
  have hreads : ¬ ReadsAsName "×" := fun h => by
    have hnone := (readsAsName_iff_isNameText.mp h).2
    rw [strayStart?_times] at hnone
    cases hnone
  have hexpression : (Template.ofTag "×").expression = .ok ".//×" :=
    Template.expression_eq_ok_iff.mpr
      ⟨List.forall_mem_singleton.mpr isNameText_times, by decide⟩
  have hbreaks : BreaksOff false ".//×".toList 3 '×' :=
    @Template.breaksOff_below '×' [] ['×'] (breaksOff_stray (by decide) beginsName_times)
  exact ⟨isNameText_times, hreads, hexpression, compile_of_breaksOff hbreaks⟩

end HtmlQuery
