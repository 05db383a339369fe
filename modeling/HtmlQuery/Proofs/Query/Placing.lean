import HtmlQuery.Proofs.Query.Layout
import HtmlQuery.Proofs.Query.Outcome
import HtmlQuery.Proofs.Query.Template
import HtmlQuery.Proofs.Query.WellFormed
import HtmlQuery.Proofs.Text.Words

/-!
# Values inside expressions

What a value is written as may stand alone, or where an operand can stand.  Behind an equals sign
and among the arguments of a function it is read whenever one literal would be, as the same
expression as alone.  In any other place (`OperandPlace`) it is read as if the value were one literal.

The texts before and behind such a place are read as they are on their own, since both what comes
before it and what a value is written as end with a token that no text behind it changes
(`lexFrom_append`).  So two values in one place differ in the tokens that they are written as and in
nothing else, and the parser exchanges one for the other (`exchanges_quoted`): first a value with
both kinds of quotes for any other, and then a value for a literal of it.
-/

namespace HtmlQuery

/-! ## Text behind text -/

/-- No text behind the token makes it another one. -/
def Token.Settled : Token → Prop
  | .symbol s => ∃ c, singleSymbol? c = some s
  | .literal _ => True
  | _ => False

section Appending

variable {afterOperand : Bool} {position : Nat} {lexeme front input : List Char} {token : Token}
  {tokens : List Located}

theorem Token.Settled.scans (h : token.Settled) (hs : token.IsSpelledBy lexeme)
    (rest : List Char) : Scans afterOperand lexeme rest token := by
  cases token with
  | symbol s =>
    obtain ⟨c, hc⟩ := h
    obtain rfl : lexeme = [c] := hs.trans (spelling_of_singleSymbol? hc)
    exact scans_of_scan (isSpace_eq_false_of_singleSymbol? hc) (scan_of_singleSymbol? hc)
  | literal text =>
    obtain ⟨quote, hquote, hmem, rfl⟩ := hs
    obtain ⟨s, hscan, hfront, htoken⟩ := scanLiteral_append hmem rest
    have happend : text.toList ++ [quote] ++ rest = text.toList ++ quote :: rest := by simp
    refine ⟨quote, text.toList ++ [quote], rfl, ?_, ?_⟩
    · rcases hquote with rfl | rfl <;> rfl
    · rw [happend, scan_quote hquote]
      exact ⟨s, hscan, hfront, htoken.trans (by rw [String.ofList_toList])⟩
  | name | number | «variable» | function | nodeType | axis => exact h.elim

theorem Piece.endsOperand_of_getLast? {pieces : List Piece}
    (h : (pieces.map (·.token)).getLast? = some token) :
    Piece.endsOperand afterOperand pieces = token.endsOperand := by
  rw [List.getLast?_map, Option.map_eq_some_iff] at h
  obtain ⟨p, hp, rfl⟩ := h
  obtain ⟨ps, rfl⟩ := List.getLast?_eq_some_iff.mp hp
  rw [Piece.endsOperand, List.foldl_append]
  rfl

/-- Behind a token that is settled, text is read as if it stood alone. -/
theorem lexFrom_append (h : lexFrom position afterOperand front = .ok tokens)
    (hlast : (tokens.map (·.token)).getLast? = some token) (ht : token.Settled)
    (rest : List Char) :
    lexFrom position afterOperand (front ++ rest) =
      (lexFrom (position + byteLength front) token.endsOperand rest).map (tokens ++ ·) := by
  obtain ⟨pieces, last, rfl, hspace, rfl, hread⟩ := exists_pieces h
  rw [Piece.map_token_located] at hlast
  have hrest : Piece.ReadBefore (last ++ rest) afterOperand pieces := by
    refine hread.respace ⟨List.forall₂_same.mpr fun _ _ => ⟨rfl, rfl⟩,
      List.forall₂_same.mpr fun _ _ => id⟩ fun afterOperand p hp _ => ?_
    have hp' : p.token = token := by
      rw [List.getLast?_map, hp] at hlast
      exact Option.some.inj hlast
    exact (hp'.symm ▸ ht).scans p.spelled _
  rw [List.append_assoc, hrest.lexFrom_eq, Piece.endsOperand_of_getLast? hlast,
    lexFrom_space hspace, byteLength_append, Nat.add_assoc]

/-- Where a text begins makes no difference to its tokens. -/
theorem lexes_of_lexFrom (h : lexFrom position afterOperand input = .ok tokens) :
    Lexes afterOperand input (tokens.map (·.token)) := by
  obtain ⟨pieces, last, rfl, hspace, rfl, hread⟩ := exists_pieces h
  refine fun position' => ⟨_, hread.lexFrom_last hspace position', ?_⟩
  rw [Piece.map_token_located, Piece.map_token_located]

end Appending

/-! ## A value in the place of another one -/

theorem lexes_quoted (value : String) :
    Lexes false (quoteLiteral value).toList (quotedTokens value) := by
  have hnil : Lexes true [] [] := lexes_nil
  have hvalue := lexes_quoteLiteral value hnil
  rwa [List.append_nil, List.append_nil] at hvalue

/-- The last token of what a value is written as. -/
theorem exists_last_quotedTokens (value : String) :
    ∃ token : Token, (quotedTokens value).getLast? = some token ∧ token.Settled ∧
      token.endsOperand = true := by
  unfold quotedTokens
  split
  · refine ⟨.symbol .rightParen, ?_, ⟨')', rfl⟩, rfl⟩
    rw [← List.cons_append, ← List.cons_append, List.getLast?_concat]
  · exact ⟨.literal value, rfl, trivial, rfl⟩

/-- A value with both kinds of quotes is written as a function of literals. -/
theorem quotedTokens_of_hasBothQuotes {value : String} (h : hasBothQuotes value = true) :
    ∃ text more, quotedTokens value =
      .function "concat" :: .symbol .leftParen :: .literal text :: more := by
  rw [quotedTokens, if_pos h]
  rw [hasBothQuotes, Bool.and_eq_true, List.contains_iff_mem] at h
  have hlength := two_le_length_piecesAt h.1
  cases hpieces : piecesAt '\'' value.toList with
  | nil => exact absurd hpieces (splitBy_ne_nil _ _)
  | cons piece more =>
    cases more with
    | nil =>
      rw [hpieces] at hlength
      exact absurd hlength (Nat.lt_irrefl 1)
    | cons piece' more =>
      rw [literalTokens_textsOf_cons_cons]
      exact ⟨_, _, rfl⟩

theorem quotedTokens_begins (value : String) :
    (∃ name more, quotedTokens value = .function name :: more) ∨
      ∃ text more, quotedTokens value = .literal text :: more := by
  unfold quotedTokens
  split
  · exact .inl ⟨_, _, rfl⟩
  · exact .inr ⟨_, _, rfl⟩

/-- A text ends with a symbol of one character that nothing else begins with, and behind which an
operand comes, such as an equals sign, an opening parenthesis or a comma. -/
structure OpensOperand (pre : String) (front : List Located) : Prop where
  tokenize_eq : tokenize pre = .ok front
  last : ∃ c symbol, singleSymbol? c = some symbol ∧
    (Token.symbol symbol).endsOperand = false ∧
    (front.map (·.token)).getLast? = some (.symbol symbol)

/-- A place for an operand between two texts, anywhere in an expression.  A function takes two
nestings that a literal does not take, and they have to be left where the place is: so it is one if
some value with both kinds of quotes is read there. -/
structure OperandPlace (pre post : String) (front : List Located) : Prop
    extends OpensOperand pre front where
  takes : ∃ value, hasBothQuotes value = true ∧
    ∃ e, Expr.parse (pre ++ quoteLiteral value ++ post) = .ok e

section Places

variable {pre : String} {front : List Located}

/-- The tokens before a value, those of the value, and those behind it. -/
theorem OpensOperand.tokenize_quoted (h : OpensOperand pre front) (value post : String) :
    ∃ quoted : List Located, quoted.map (·.token) = quotedTokens value ∧
      ∃ position, tokenize (pre ++ quoteLiteral value ++ post) =
        (lexFrom position true post.toList).map fun back => front ++ (quoted ++ back) := by
  obtain ⟨c, symbol, hsymbol, hends, hlast⟩ := h.last
  obtain ⟨quoted, hlex, hquoted⟩ := lexes_quoted value (0 + byteLength pre.toList)
  obtain ⟨token, htoken, hsettled, hoperand⟩ := exists_last_quotedTokens value
  refine ⟨quoted, hquoted,
    0 + byteLength pre.toList + byteLength (quoteLiteral value).toList, ?_⟩
  rw [tokenize, String.toList_append, String.toList_append, List.append_assoc,
    lexFrom_append h.tokenize_eq hlast ⟨c, hsymbol⟩, hends,
    lexFrom_append hlex (hquoted ▸ htoken) hsettled, hoperand]
  rcases lexFrom _ true post.toList with _ | _ <;> rfl

end Places

namespace Parser

/-- A function is read only if the first of its arguments is. -/
theorem exists_run_of_primary {expr : Parse Expr} {name : String} {token : Token}
    {position position' position'' operators finish : Nat} {rest : List Located}
    {r : Expr × State} (htoken : token ≠ .symbol .rightParen)
    (h : run (primary expr) ⟨⟨.function name, position⟩ :: ⟨.symbol .leftParen, position'⟩ ::
      ⟨token, position''⟩ :: rest, operators, finish⟩ = .ok r) :
    ∃ s r', run expr s = .ok r' := by
  rw [run_primary] at h
  dsimp only at h
  cases hfunction : Function.ofName? name with
  | none =>
    rw [hfunction] at h
    cases h
  | some function =>
    rw [hfunction] at h
    obtain ⟨_, hargs, -⟩ := run_bind_eq_ok.mp h
    rw [run_arguments] at hargs
    obtain ⟨_, hopen, hinside⟩ := run_bind_eq_ok.mp hargs
    rw [run_expect, skip?_cons_self] at hopen
    obtain rfl := Except.ok.inj hopen
    have hmore : skip? .rightParen ⟨⟨token, position''⟩ :: rest, operators, finish⟩ = none := by
      refine skip?_eq_none ?_
      rintro _ ⟨⟩
      exact htoken
    rw [argumentsInside, hmore] at hinside
    obtain ⟨_, hlist, -⟩ := run_bind_eq_ok.mp hinside
    rw [run_argumentList] at hlist
    obtain ⟨r', hr', -⟩ := run_bind_eq_ok.mp hlist
    exact ⟨_, r', hr'⟩

/-- Some tokens come in the place of those of a value. -/
def Replaces (value : String) (tokens l l' : List Token) : Prop :=
  l = quotedTokens value ∧ l' = tokens

/-- A value with both kinds of quotes can be exchanged for what is read as a primary operand. -/
theorem exchanges_quoted {alike : Expr → Expr → Prop} (hc : Expr.Congruence alike)
    {value : String} (hboth : hasBothQuotes value = true) {tokens : List Token} {e : Expr}
    (hbegins : (∃ name more, tokens = .function name :: more) ∨
      ∃ text more, tokens = .literal text :: more)
    (hreads : ∀ depth, Reads (run (primary (parseOr (depth + 2)))) 12 tokens 0 (· = e))
    (he : alike (quotedExpr value) e) :
    Exchanges (Replaces value tokens) alike where
  congruence := hc
  begins := by
    rintro _ _ ⟨rfl, rfl⟩
    obtain ⟨text, more, hquoted⟩ := quotedTokens_of_hasBothQuotes hboth
    exact ⟨⟨_, _, hquoted⟩, hbegins⟩
  reads := by
    rintro front front' ⟨hfront, hfront'⟩ depth rest rest' operators finish finish' v t hallowed
      hrun
    have hdepth : 2 ≤ depth := by
      obtain ⟨text, more, hquoted⟩ := quotedTokens_of_hasBothQuotes hboth
      obtain ⟨_, behind, rfl, hbehind⟩ := map_token_eq_cons (hfront.trans hquoted)
      obtain ⟨_, inside, rfl, hinside⟩ := map_token_eq_cons hbehind
      obtain ⟨_, others, rfl, -⟩ := map_token_eq_cons hinside
      obtain ⟨s, r, hr⟩ := exists_run_of_primary Token.noConfusion hrun
      exact two_le_of_run_parseOr hr
    obtain ⟨depth, rfl⟩ := Nat.exists_eq_add_of_le' hdepth
    have hstops : ∀ rest, Stops 12 rest := fun _ t _ => binding_lt t.token
    obtain ⟨_, rfl, hread⟩ :=
      reads_primary_quoted value front rest operators finish hfront (hstops _) hallowed
    obtain ⟨_, rfl, hread'⟩ :=
      hreads depth front' rest' operators finish' hfront' (hstops _) hallowed
    obtain ⟨rfl, rfl⟩ := Prod.mk.inj (Except.ok.inj (hread.symm.trans hrun))
    exact ⟨rfl, _, hread', he⟩

theorem congruence_any : Expr.Congruence fun _ _ => True := by
  constructor <;> intros <;> trivial

end Parser

section Exchanged

variable {pre post : String} {front quoted back : List Located} {value : String}

/-- Every value is read in a place, whatever quotes it contains. -/
theorem OperandPlace.parse_quoted (h : OperandPlace pre post front) (value : String) :
    ∃ (quoted back : List Located) (e : Expr), quoted.map (·.token) = quotedTokens value ∧
      tokenize (pre ++ quoteLiteral value ++ post) = .ok (front ++ (quoted ++ back)) ∧
      Expr.parse (pre ++ quoteLiteral value ++ post) = .ok e := by
  obtain ⟨sample, hboth, e, he⟩ := h.takes
  obtain ⟨quoted, hquoted, position, htokens⟩ := h.tokenize_quoted sample post
  obtain ⟨quoted', hquoted', position', htokens'⟩ := h.tokenize_quoted value post
  rw [Expr.parse, bind_eq_ok] at he
  obtain ⟨tokens, hlex, he⟩ := he
  rw [htokens, map_eq_ok] at hlex
  obtain ⟨back, hback, rfl⟩ := hlex
  obtain ⟨back', hback', hsame⟩ := lexes_of_lexFrom hback position'
  rw [hback'] at htokens'
  have hexchanges := Parser.exchanges_quoted Parser.congruence_any hboth (quotedTokens_begins value)
    (fun _ => reads_primary_quoted value) trivial
  have hmatched : Parser.Matched (Parser.Replaces sample (quotedTokens value))
      (front ++ (quoted ++ back)) (front ++ (quoted' ++ back')) :=
    .behind rfl (.swap ⟨hquoted, hquoted'⟩ (Parser.matched_of_map_eq hsame))
  obtain ⟨e', he', -⟩ := (Expr.ofTokens_congr hexchanges hmatched _ _).1 e he
  refine ⟨quoted', back', e', hquoted', htokens', ?_⟩
  rw [Expr.parse, htokens']
  exact he'

/-- What a value is written as can be replaced by the value as one literal. -/
theorem ofTokens_literal (hquoted : quoted.map (·.token) = quotedTokens value) {finish : Nat}
    {e : Expr} (he : Expr.ofTokens (front ++ (quoted ++ back)) finish = .ok e)
    (position finish' : Nat) :
    ∃ e', Expr.ofTokens (front ++ ⟨.literal value, position⟩ :: back) finish' = .ok e' ∧
      e.EvaluatesAlike e' := by
  have hsplit : front ++ ⟨.literal value, position⟩ :: back =
      front ++ ([⟨.literal value, position⟩] ++ back) := rfl
  rw [hsplit]
  by_cases hboth : hasBothQuotes value = true
  · have hexchanges := Parser.exchanges_quoted congruence_evaluatesAlike hboth
      (.inr ⟨value, [], rfl⟩) (fun _ => Parser.reads_primary_literal) fun top focus => by
        rw [eval_quotedExpr, Expr.eval]
        exact .refl _
    have hmatched : Parser.Matched (Parser.Replaces value [.literal value])
        (front ++ (quoted ++ back)) (front ++ ([⟨.literal value, position⟩] ++ back)) :=
      .behind rfl (.swap ⟨hquoted, rfl⟩ (Parser.matched_of_map_eq rfl))
    exact (Expr.ofTokens_congr hexchanges hmatched _ _).1 e he
  · rw [quotedTokens, if_neg hboth] at hquoted
    have hmatched : Parser.Matched (fun _ _ => False) (front ++ (quoted ++ back))
        (front ++ ([⟨.literal value, position⟩] ++ back)) :=
      .behind rfl (.behind hquoted.symm (Parser.matched_of_map_eq rfl))
    exact (Expr.ofTokens_congr (Parser.exchanges_nothing congruence_evaluatesAlike)
      hmatched _ _).1 e he

end Exchanged

/-! ## Values alone, compared, and as arguments -/

section Whole

open HtmlQuery.Parser

variable {value pre post : String} {front : List Located} {left : Expr} {function : Function}
  {before behind : List Expr}

theorem quotedTokens_ne_nil (value : String) : quotedTokens value ≠ [] := by
  obtain ⟨_, _, h⟩ | ⟨_, _, h⟩ := quotedTokens_begins value <;>
  · rw [h]
    exact List.cons_ne_nil _ _

theorem parse_quoteLiteral (value : String) :
    Expr.parse (quoteLiteral value) = .ok (quotedExpr value) := by
  have hread : Reads (run (parseOr maxDepth)) 2 (quotedTokens value) 0 (· = quotedExpr value) :=
    (@reads_quoted 252 value).parseOr (by decide)
  exact parse_of_lexes (lexes_quoted value) hread (quotedTokens_ne_nil value) (by decide)

/-- However many pieces a value is put together from, they are arguments side by side. -/
theorem nesting_quotedExpr (value : String) : (quotedExpr value).nesting ≤ 2 := by
  unfold quotedExpr
  split
  · rw [Expr.nesting, greatest_enclosed_le]
    intro e he
    obtain ⟨text, -, rfl⟩ := List.mem_map.mp he
    rw [Expr.nesting]
  · rw [Expr.nesting]
    exact Nat.zero_le 2

theorem operators_literal (text : String) : (Expr.literal text).operators = 0 := by
  rw [Expr.operators_of_not rfl]
  rfl

theorem wellFormed_literal (text : String) : (Expr.literal text).WellFormed :=
  Expr.wellFormed_iff.mpr ⟨trivial, fun _ hc => absurd hc List.not_mem_nil⟩

theorem operators_quotedExpr (value : String) : (quotedExpr value).operators = 0 := by
  unfold quotedExpr
  split
  · have hliterals : ∀ texts : List String, Expr.operatorsIn (texts.map .literal) = 0 := by
      intro texts
      induction texts with
      | nil => rfl
      | cons text more ih => rw [List.map_cons, Expr.operatorsIn_cons, ih, operators_literal]
    rw [Expr.operators_of_not rfl]
    exact hliterals _
  · exact operators_literal value

/-- What a value is written as, behind some tokens and before others. -/
theorem OpensOperand.exists_parse {back : List Token} {cost : Nat} {P : Expr → Prop}
    (h : OpensOperand pre front) (hpost : Lexes true post.toList back)
    (hread : Reads (run (parseOr maxDepth)) 2
      (front.map (·.token) ++ (quotedTokens value ++ back)) cost P) (hc : cost ≤ maxOperators) :
    ∃ e, P e ∧ Expr.parse (pre ++ quoteLiteral value ++ post) = .ok e := by
  obtain ⟨quoted, hquoted, position, htokens⟩ := h.tokenize_quoted value post
  obtain ⟨located, hlex, rfl⟩ := hpost position
  rw [hlex] at htokens
  have hmap : (front ++ (quoted ++ located)).map (·.token) =
      front.map (·.token) ++ (quotedTokens value ++ located.map (·.token)) := by
    rw [List.map_append, List.map_append, hquoted]
  have hne : front.map (·.token) ++ (quotedTokens value ++ located.map (·.token)) ≠ [] :=
    List.append_ne_nil_of_right_ne_nil _
      (List.append_ne_nil_of_left_ne_nil (quotedTokens_ne_nil value) _)
  obtain ⟨e, he, hparse⟩ := hread.exists_ofTokens hmap hne hc _
  refine ⟨e, he, ?_⟩
  rw [Expr.parse, htokens]
  exact hparse

/-- A value behind an equals sign is the right operand, if one literal there is allowed. -/
theorem reads_equal_quoted (h : (Expr.binary .equal left (.literal value)).Allowed) :
    Reads (run (parseOr maxDepth)) 2
      (fit BinaryOp.equal.level left.level left.tokens ++ .symbol .equal :: quotedTokens value)
      (left.operators + 1 + 0)
      fun e => ∃ l, l.erase = left.erase ∧ e = .binary .equal l (quotedExpr value) := by
  obtain ⟨-, hparts⟩ := Expr.wellFormed_iff.mp h.wellFormed
  have hnesting := h.nesting_le
  rw [Expr.nesting] at hnesting
  have hleft : LeadsAt 254 BinaryOp.equal.level _ _ _ :=
    (rereads left (hparts left List.mem_cons_self)).leadsAt (BinaryOp.chained_level .equal)
      ((le_max_left _ _).trans (Nat.le_of_add_le_add_right hnesting))
  have hright : ReadsAt 254 (BinaryOp.equal.level + 1) (quotedTokens value) 0
      (· = quotedExpr value) := (@reads_quoted 252 value).loosen (by decide)
  have hjoined : LeadsAt 254 BinaryOp.equal.level _ _
      fun e => ∃ l, l.erase = left.erase ∧ e = .binary .equal l (quotedExpr value) :=
    hleft.snoc (BinaryOp.chained_level .equal) (BinaryOp.joinAt_symbol .equal) hright
      fun hl hr => ⟨_, hl, congrArg _ hr⟩
  exact (hjoined.readsAt (BinaryOp.chained_level .equal)).parseOr (by decide)

/-! ### Arguments -/

/-- What stands among the arguments of a function: an expression, or a value in place of one. -/
def argumentTokens (value : String) : Option Expr → List Token
  | some e => e.tokens
  | none => quotedTokens value

/-- What such an argument is read as. -/
def IsArgument (value : String) : Option Expr → Expr → Prop
  | some e => fun e' => e'.erase = e.erase
  | none => (· = quotedExpr value)

/-- Each argument before a value has a comma behind it, and each one behind it has a comma before
it. -/
theorem intercalate_append_cons {α : Type} (separator : List α) (before : List (List α))
    (middle : List α) (behind : List (List α)) :
    separator.intercalate (before ++ middle :: behind) =
      before.flatMap (· ++ separator) ++ (middle ++ behind.flatMap (separator ++ ·)) := by
  induction before with
  | nil => rw [List.nil_append, List.flatMap_nil, List.nil_append, Text.intercalate_cons_eq]
  | cons first before ih =>
    have hne : before ++ middle :: behind ≠ [] := List.append_ne_nil_of_right_ne_nil _
      (List.cons_ne_nil _ _)
    rw [List.cons_append, List.intercalate_cons_of_ne_nil hne, ih, List.flatMap_cons,
      List.append_assoc, List.append_assoc, List.append_assoc]

theorem argumentTokens_eq (value : String) (before behind : List Expr) :
    [.symbol .comma].intercalate ((before.map some ++ none :: behind.map some).map
        (argumentTokens value)) =
      before.flatMap (·.tokens ++ [.symbol .comma]) ++
        (quotedTokens value ++ behind.flatMap (.symbol .comma :: ·.tokens)) := by
  rw [List.map_append, List.map_cons, intercalate_append_cons, List.map_map, List.map_map,
    List.flatMap_map, List.flatMap_map]
  rfl

theorem exists_arguments {es : List Expr}
    (h : List.Forall₂ (IsArgument value) (before.map some ++ none :: behind.map some) es) :
    ∃ es' es'' : List Expr, es'.map Expr.erase = before.map Expr.erase ∧
      es''.map Expr.erase = behind.map Expr.erase ∧ es = es' ++ quotedExpr value :: es'' := by
  induction before generalizing es with
  | nil =>
    obtain ⟨_, es'', rfl, hbehind, rfl⟩ := List.forall₂_cons_left_iff.mp h
    rw [List.forall₂_map_left_iff] at hbehind
    exact ⟨[], es'', rfl, map_eq_of_forall₂ hbehind, rfl⟩
  | cons first before ih =>
    obtain ⟨e, _, he, hes, rfl⟩ := List.forall₂_cons_left_iff.mp h
    obtain ⟨es', es'', hbefore, hbehind, rfl⟩ := ih hes
    exact ⟨e :: es', es'', map_cons_congr he hbefore, hbehind, rfl⟩

/-- A value among the arguments of a function is one of them, if one literal there is allowed. -/
theorem reads_call_quoted
    (h : (Expr.call function (before ++ .literal value :: behind)).Allowed) :
    Reads (run (parseOr maxDepth)) 2
      (.function function.spelling :: .symbol .leftParen ::
        before.flatMap (·.tokens ++ [.symbol .comma]) ++
          (quotedTokens value ++
            (behind.flatMap (.symbol .comma :: ·.tokens) ++ [.symbol .rightParen])))
      (Expr.operatorsIn before + Expr.operatorsIn behind)
      fun e => ∃ es es' : List Expr, es.map Expr.erase = before.map Expr.erase ∧
        es'.map Expr.erase = behind.map Expr.erase ∧
          e = .call function (es ++ quotedExpr value :: es') := by
  obtain ⟨harity, hparts⟩ := Expr.wellFormed_iff.mp h.wellFormed
  have hnesting := h.nesting_le
  rw [Expr.nesting] at hnesting
  have hnested := greatest_enclosed_le.mp (Nat.le_of_add_le_add_right hnesting)
  have hargument : ∀ x ∈ before.map some ++ none :: behind.map some,
      Reads (run (parseOr 254)) 2 (argumentTokens value x) (x.elim 0 Expr.operators)
        (IsArgument value x) := by
    intro x hx
    cases x with
    | none => exact (@reads_quoted 250 value).parseOr (by decide)
    | some e =>
      have he : e ∈ before ++ .literal value :: behind := by
        simp only [List.mem_append, List.mem_cons, List.mem_map, Option.some.injEq, exists_eq_right,
          reduceCtorEq, false_or] at hx ⊢
        exact hx.imp_right .inr
      exact (rereads e (hparts e he)).returns (hnested e he)
  have hcall := (reads_arguments function.spelling (opens_parseOr 254) hargument).primary_call
    (R := fun e => ∃ es es' : List Expr, es.map Expr.erase = before.map Expr.erase ∧
      es'.map Expr.erase = behind.map Expr.erase ∧
        e = .call function (es ++ quotedExpr value :: es')) fun {es} hes => by
    obtain ⟨es', es'', hbefore, hbehind, rfl⟩ := exists_arguments hes
    have hlength := hes.length_eq
    refine ⟨?_, es', es'', hbefore, hbehind, rfl⟩
    rw [← hlength, List.length_append, List.length_cons, List.length_map, List.length_map]
    rwa [Expr.Checked, List.length_append, List.length_cons] at harity
  have hread : ReadsAt 254 10 _ _ _ := hcall.parsePath_primary
  have hcost : ((before.map some ++ none :: behind.map some).map
      (Option.elim · 0 Expr.operators)).sum =
        Expr.operatorsIn before + Expr.operatorsIn behind := by
    rw [List.map_append, List.map_cons, List.map_map, List.map_map, List.sum_append, List.sum_cons]
    exact congrArg _ (Nat.zero_add _)
  rw [argumentTokens_eq, hcost, List.append_assoc, List.append_assoc] at hread
  exact hread.parseOr (by decide)

/-! ### Texts -/

/-- A text that ends with such a symbol opens an operand. -/
theorem Lexes.opensOperand {c : Char} {symbol : Symbol} {tokens : List Token}
    (h : Lexes false pre.toList tokens) (hc : singleSymbol? c = some symbol)
    (hends : (Token.symbol symbol).endsOperand = false)
    (hlast : tokens.getLast? = some (.symbol symbol)) :
    ∃ front, OpensOperand pre front ∧ front.map (·.token) = tokens := by
  obtain ⟨front, hfront, rfl⟩ := h 0
  exact ⟨front, ⟨hfront, c, symbol, hc, hends, hlast⟩, rfl⟩

theorem parse_equal_quoted
    (hpre : Lexes false pre.toList
      (fit BinaryOp.equal.level left.level left.tokens ++ [.symbol .equal]))
    (h : (Expr.binary .equal left (.literal value)).Allowed) :
    ∃ l, l.erase = left.erase ∧
      Expr.parse (pre ++ quoteLiteral value) = .ok (.binary .equal l (quotedExpr value)) := by
  obtain ⟨front, hopens, hfront⟩ := hpre.opensOperand (c := '=') rfl rfl List.getLast?_concat
  have hread := reads_equal_quoted h
  rw [List.append_cons, ← hfront] at hread
  rw [← List.append_nil (quotedTokens value)] at hread
  have hoperators := h.operators_le
  rw [(joins_binary .equal).operators, operators_literal] at hoperators
  have hend : Lexes true "".toList [] := lexes_nil
  obtain ⟨_, ⟨l, hl, rfl⟩, hparse⟩ := hopens.exists_parse hend hread hoperators
  rw [String.append_empty] at hparse
  exact ⟨l, hl, hparse⟩

theorem parse_call_quoted
    (hpre : Lexes false pre.toList (.function function.spelling :: .symbol .leftParen ::
      before.flatMap (·.tokens ++ [.symbol .comma])))
    (hpost : Lexes true post.toList
      (behind.flatMap (.symbol .comma :: ·.tokens) ++ [.symbol .rightParen]))
    (h : (Expr.call function (before ++ .literal value :: behind)).Allowed) :
    ∃ es es' : List Expr, es.map Expr.erase = before.map Expr.erase ∧
      es'.map Expr.erase = behind.map Expr.erase ∧
        Expr.parse (pre ++ quoteLiteral value ++ post) =
          .ok (.call function (es ++ quotedExpr value :: es')) := by
  have hopens : ∃ front, OpensOperand pre front ∧ front.map (·.token) =
      .function function.spelling :: .symbol .leftParen ::
        before.flatMap (·.tokens ++ [.symbol .comma]) := by
    rcases List.eq_nil_or_concat' before with rfl | ⟨_, last, rfl⟩
    · exact hpre.opensOperand (c := '(') rfl rfl rfl
    · rw [List.flatMap_append, List.flatMap_singleton, ← List.append_assoc, ← List.cons_append,
        ← List.cons_append] at hpre ⊢
      exact hpre.opensOperand (c := ',') rfl rfl List.getLast?_concat
  obtain ⟨front, hopens, hfront⟩ := hopens
  have hread := reads_call_quoted h
  rw [← hfront] at hread
  have hoperators := h.operators_le
  rw [Expr.operators_of_not rfl] at hoperators
  have hcost : Expr.operatorsIn before + Expr.operatorsIn behind ≤ maxOperators := by
    rwa [Expr.children, Expr.operatorsIn_append, Expr.operatorsIn_cons, operators_literal,
      Nat.zero_add] at hoperators
  obtain ⟨_, ⟨es, es', hbefore, hbehind, rfl⟩, hparse⟩ := hopens.exists_parse hpost hread hcost
  exact ⟨es, es', hbefore, hbehind, hparse⟩

end Whole

/-- Every value is written as an expression without operators that nests two deep at most, however
many quotes it contains, and that has this value wherever it is evaluated.  This expression is read
where the value stands alone, behind an equals sign and among the arguments of a function, whenever
one literal in its place is allowed.  In any other place for an operand the value is read too, and
the whole evaluates as if the value were one literal there. -/
theorem quoted_values_read_back (value : String) :
    ∃ written : Expr,
      (written.operators = 0 ∧ written.nesting ≤ 2 ∧
        ∀ top focus, written.eval top focus = .ok (.string value)) ∧
      Expr.parse (quoteLiteral value) = .ok written ∧
      (∀ left pre,
        Lexes false pre.toList
          (fit BinaryOp.equal.level left.level left.tokens ++ [.symbol .equal]) →
        (Expr.binary .equal left (.literal value)).Allowed →
          ∃ l, l.erase = left.erase ∧
            Expr.parse (pre ++ quoteLiteral value) = .ok (.binary .equal l written)) ∧
      (∀ function before behind pre post,
        Lexes false pre.toList (.function function.spelling :: .symbol .leftParen ::
          before.flatMap (·.tokens ++ [.symbol .comma])) →
        Lexes true post.toList
          (behind.flatMap (.symbol .comma :: ·.tokens) ++ [.symbol .rightParen]) →
        (Expr.call function (before ++ .literal value :: behind)).Allowed →
          ∃ es es' : List Expr, es.map Expr.erase = before.map Expr.erase ∧
            es'.map Expr.erase = behind.map Expr.erase ∧
              Expr.parse (pre ++ quoteLiteral value ++ post) =
                .ok (.call function (es ++ written :: es'))) ∧
      ∀ pre post front, OperandPlace pre post front →
        ∃ (quoted back : List Located) (e : Expr), quoted.map (·.token) = quotedTokens value ∧
          tokenize (pre ++ quoteLiteral value ++ post) = .ok (front ++ (quoted ++ back)) ∧
          Expr.parse (pre ++ quoteLiteral value ++ post) = .ok e ∧
          ∀ position finish, ∃ e',
            Expr.ofTokens (front ++ ⟨.literal value, position⟩ :: back) finish = .ok e' ∧
              e.EvaluatesAlike e' := by
  refine ⟨quotedExpr value, ?written, parse_quoteLiteral value, ?compared, ?argument, ?elsewhere⟩
  case written =>
    exact ⟨operators_quotedExpr value, nesting_quotedExpr value, fun top focus =>
      eval_quotedExpr top focus value⟩
  case compared =>
    intro left pre hpre hallowed
    exact parse_equal_quoted hpre hallowed
  case argument =>
    intro function before behind pre post hpre hpost hallowed
    exact parse_call_quoted hpre hpost hallowed
  case elsewhere =>
    intro pre post front hplace
    obtain ⟨quoted, back, e, hquoted, htokens, he⟩ := hplace.parse_quoted value
    refine ⟨quoted, back, e, hquoted, htokens, he, fun position finish => ?_⟩
    rw [Expr.parse, htokens] at he
    exact ofTokens_literal hquoted he position finish

/-- A value with quotes of both kinds at its ends and side by side. -/
theorem quoted_values_read_back_hostile :
    let value := "''\"a'\""
    let left := Expr.path false [.mk .attribute (.name "b") []]
    let x := Expr.literal "x"
    let y := Expr.literal "y"
    let front := [⟨.symbol .dot, 0⟩, ⟨.symbol .doubleSlash, 1⟩, ⟨.name "*", 3⟩,
      ⟨.symbol .leftBracket, 4⟩, ⟨.symbol .atSign, 5⟩, ⟨.name "b", 6⟩, ⟨.symbol .equal, 7⟩]
    quoteLiteral value = "concat('', \"'\", '', \"'\", '\"a', \"'\", '\"')" ∧
      Lexes false "attribute::b=".toList (fit BinaryOp.equal.level left.level left.tokens ++
        [.symbol .equal]) ∧
      (Expr.binary .equal left (.literal value)).Allowed ∧
      Lexes false "concat('x', ".toList
        (.function "concat" :: .symbol .leftParen :: [x].flatMap (·.tokens ++ [.symbol .comma])) ∧
      Lexes true ",'y')".toList
        ([y].flatMap (.symbol .comma :: ·.tokens) ++ [.symbol .rightParen]) ∧
      (Expr.call .concat ([x] ++ .literal value :: [y])).Allowed ∧
      OperandPlace ".//*[@b=" "]" front ∧
      ∃ written, Expr.parse (quoteLiteral value) = .ok written ∧
        (∃ l, l.erase = left.erase ∧
          Expr.parse ("attribute::b=" ++ quoteLiteral value) = .ok (.binary .equal l written)) ∧
        (∃ es es' : List Expr, es.map Expr.erase = [x].map Expr.erase ∧
          es'.map Expr.erase = [y].map Expr.erase ∧
            Expr.parse ("concat('x', " ++ quoteLiteral value ++ ",'y')") =
              .ok (.call .concat (es ++ written :: es'))) ∧
        ∃ e, Expr.parse (".//*[@b=" ++ quoteLiteral value ++ "]") = .ok e := by
  intro value left x y front
  have hleft : Lexes false "attribute::b=".toList
      (fit BinaryOp.equal.level left.level left.tokens ++ [.symbol .equal]) := by
    have hlex := @lexes_of_lexFrom false 0 "attribute::b=".toList
      [⟨.axis "attribute", 0⟩, ⟨.symbol .colonColon, 9⟩, ⟨.name "b", 11⟩, ⟨.symbol .equal, 12⟩]
      (by cbv)
    have htokens : fit BinaryOp.equal.level left.level left.tokens ++ [.symbol .equal] =
      [.axis "attribute", .symbol .colonColon, .name "b", .symbol .equal] := by cbv
    rw [htokens]
    exact hlex
  have hbefore : Lexes false "concat('x', ".toList (.function "concat" :: .symbol .leftParen ::
      [x].flatMap (·.tokens ++ [.symbol .comma])) := by
    have htext : Lexes false (between '\'' ['x'] ++ [',', ' ']) [.literal "x", .symbol .comma] :=
      lexes_literal (.inr rfl) (by decide) (lexes_comma lexes_nil)
    rw [List.flatMap_singleton, Expr.tokens]
    exact Template.lexes_call "concat" (by decide) rfl htext
  have hbehind : Lexes true ",'y')".toList
      ([y].flatMap (.symbol .comma :: ·.tokens) ++ [.symbol .rightParen]) := by
    have htext : Lexes false (between '\'' ['y'] ++ [')']) [.literal "y", .symbol .rightParen] :=
      lexes_literal (.inr rfl) (by decide) (Template.lexes_close lexes_nil)
    rw [List.flatMap_singleton, Expr.tokens]
    exact lexes_single rfl htext
  have hcompared : (Expr.binary .equal left (.literal value)).Allowed := by
    have hchecked : left.Checked := by simp [left, Expr.Checked, NodeTest.Checked, Step.test]
    have hattribute : left.WellFormed :=
      Expr.wellFormed_iff.mpr ⟨hchecked, by simp [left, Expr.children, Step.predicates]⟩
    have hoperands : ∀ c ∈ (Expr.binary .equal left (.literal value)).children, c.WellFormed := by
      simp [Expr.children, hattribute, wellFormed_literal]
    have hnesting : (Expr.binary .equal left (.literal value)).nesting = 0 := by cbv
    refine ⟨Expr.wellFormed_iff.mpr ⟨trivial, hoperands⟩, ?_, ?_⟩
    · rw [hnesting]
      decide
    · simp [Expr.operators_eq, Expr.children, Expr.isOperator, Step.predicates, left, maxOperators]
  have hcall : (Expr.call .concat ([x] ++ .literal value :: [y])).Allowed := by
    have harguments : ∀ c ∈ [x] ++ Expr.literal value :: [y], c.WellFormed := by
      simp [x, y, wellFormed_literal]
    have hnesting : (Expr.call .concat ([x] ++ .literal value :: [y])).nesting = 2 := by cbv
    refine ⟨Expr.wellFormed_iff.mpr ⟨rfl, harguments⟩, ?_, ?_⟩
    · rw [hnesting]
      decide
    · simp [Expr.operators_eq, Expr.children, Expr.isOperator, x, y]
  have hplace : OperandPlace ".//*[@b=" "]" front := by
    refine ⟨⟨by cbv, '=', .equal, rfl, rfl, rfl⟩, "'\"", by decide, ?_⟩
    exact ⟨_, Template.parse_text (t := .attributeValue "b" .equals "'\"") (by decide)⟩
  obtain ⟨written, -, halone, hequal, hargument, hinside⟩ := quoted_values_read_back value
  obtain ⟨_, _, e, -, -, he, -⟩ := hinside _ _ _ hplace
  exact ⟨by cbv, hleft, hcompared, hbefore, hbehind, hcall, hplace, written, halone,
    hequal left _ hleft hcompared, hargument .concat [x] [y] _ _ hbefore hbehind hcall, e, he⟩

end HtmlQuery
