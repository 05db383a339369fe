import HtmlQuery.Proofs.Query.Lexing
import HtmlQuery.Proofs.Query.Parsing

/-!
# Values as expressions

A value is written as a literal, or as a concatenation of literals if it contains both kinds of
quotes.  Whatever the value is, what is written is read as `quotedTokens` (`lexes_quoteLiteral`),
these are read as `quotedExpr` (`reads_quoted`), and its value is the value again
(`eval_quotedExpr`).

Everything comes down to the pieces between the apostrophes: they contain no apostrophe, and with
apostrophes between them they are the text.
-/

namespace HtmlQuery

/-! ## Pieces -/

section Pieces

variable {c : Char} {text piece : List Char}

theorem splitBy_ne_nil (p : Char → Bool) (text : List Char) : Text.splitBy p text ≠ [] := by
  cases text with
  | nil => exact List.cons_ne_nil _ _
  | cons d ds =>
    rw [Text.splitBy]
    split
    · exact List.cons_ne_nil _ _
    · split <;> exact List.cons_ne_nil _ _

/-- The pieces of a text do not contain the character that it is cut at. -/
theorem not_mem_of_mem_piecesAt (h : piece ∈ piecesAt c text) : c ∉ piece := by
  rw [piecesAt] at h
  induction text generalizing piece with
  | nil =>
    rw [Text.splitBy, List.mem_singleton] at h
    subst h
    exact List.not_mem_nil
  | cons d ds ih =>
    rw [Text.splitBy] at h
    split at h
    next =>
      rcases List.mem_cons.mp h with rfl | h
      · exact List.not_mem_nil
      · exact ih h
    next hd =>
      cases hs : Text.splitBy (· == c) ds with
      | nil => exact absurd hs (splitBy_ne_nil _ _)
      | cons w ws =>
        rw [hs] at h
        rcases List.mem_cons.mp h with rfl | h
        · have hw : c ∉ w := ih (hs ▸ List.mem_cons_self)
          have hne : c ≠ d := fun he => hd (beq_iff_eq.mpr he.symm)
          exact List.not_mem_cons_of_ne_of_not_mem hne hw
        · exact ih (hs ▸ List.mem_cons_of_mem w h)

/-- With the character between them the pieces are the text again. -/
theorem intercalate_piecesAt : [c].intercalate (piecesAt c text) = text := by
  rw [piecesAt]
  induction text with
  | nil => rfl
  | cons d ds ih =>
    rw [Text.splitBy]
    split
    next hd =>
      obtain rfl := beq_iff_eq.mp hd
      rw [List.intercalate_cons_of_ne_nil (splitBy_ne_nil _ _), ih]
      rfl
    next hd =>
      cases hs : Text.splitBy (· == c) ds with
      | nil => exact absurd hs (splitBy_ne_nil _ _)
      | cons w ws =>
        rw [hs] at ih
        rw [List.intercalate_cons_cons_left, ih]

/-- A text is cut where the character occurs. -/
theorem two_le_length_piecesAt (h : c ∈ text) : 2 ≤ (piecesAt c text).length := by
  match hp : piecesAt c text with
  | [] => exact absurd hp (splitBy_ne_nil _ _)
  | [piece] =>
    have htext : [c].intercalate (piecesAt c text) = text := intercalate_piecesAt
    rw [hp, List.intercalate_singleton] at htext
    rw [← htext] at h
    exact absurd h (not_mem_of_mem_piecesAt (hp ▸ List.mem_singleton_self piece))
  | _ :: _ :: _ => exact Nat.le_add_left _ _

end Pieces

/-! ## What a value is read as -/

/-- Whether a value contains both kinds of quotes. -/
def hasBothQuotes (value : String) : Bool :=
  value.toList.contains '\'' && value.toList.contains '"'

/-- The texts that are put together: the pieces between the apostrophes, and the apostrophes. -/
def textsOf (pieces : List (List Char)) : List String :=
  (pieces.map String.ofList).intersperse "'"

theorem two_le_length_textsOf {pieces : List (List Char)} (h : 2 ≤ pieces.length) :
    2 ≤ (textsOf pieces).length := by
  match pieces with
  | [] => exact absurd h (by decide)
  | [_] => exact absurd h (Nat.lt_irrefl 1)
  | _ :: _ :: _ => exact Nat.le_add_left _ _

/-- The expression that a value is written as. -/
def quotedExpr (value : String) : Expr :=
  if hasBothQuotes value then
    .call .concat ((textsOf (piecesAt '\'' value.toList)).map .literal)
  else .literal value

/-- Literals with commas between them. -/
def literalTokens (texts : List String) : List Token :=
  (texts.map .literal).intersperse (.symbol .comma)

theorem literalTokens_textsOf_cons_cons {piece piece' : List Char} {more : List (List Char)} :
    literalTokens (textsOf (piece :: piece' :: more)) =
      .literal (String.ofList piece) :: .symbol .comma :: .literal "'" :: .symbol .comma ::
        literalTokens (textsOf (piece' :: more)) := by
  cases more <;> rfl

/-- The tokens that a value is written as. -/
def quotedTokens (value : String) : List Token :=
  if hasBothQuotes value then
    .function "concat" :: .symbol .leftParen ::
      (literalTokens (textsOf (piecesAt '\'' value.toList)) ++ [.symbol .rightParen])
  else [.literal value]

/-! ## Tokens -/

section Tokens

variable {rest : List Char} {tokens : List Token}

/-- A value as a literal between quotes that it does not contain. -/
theorem lexes_between {quote : Char} {value : String} (hq : quote = '"' ∨ quote = '\'')
    (hv : value.toList.contains quote = false) (h : Lexes true rest tokens) :
    Lexes false (between quote value.toList ++ rest) (.literal value :: tokens) := by
  have hmem : quote ∉ value.toList := by
    rw [← List.contains_iff_mem, hv]
    exact Bool.false_ne_true
  have hlex : Lexes false _ (.literal (String.ofList value.toList) :: tokens) :=
    lexes_literal hq hmem h
  rw [String.ofList_toList] at hlex
  exact hlex

/-- The pieces in apostrophes, and between them the apostrophe in double quotes. -/
theorem lexes_pieces {pieces : List (List Char)} (hne : pieces ≠ [])
    (hp : ∀ piece ∈ pieces, '\'' ∉ piece) (h : Lexes true rest tokens) :
    Lexes false
      ([',', ' ', '"', '\'', '"', ',', ' '].intercalate (pieces.map (between '\'')) ++ rest)
      (literalTokens (textsOf pieces) ++ tokens) := by
  induction pieces with
  | nil => exact absurd rfl hne
  | cons piece more ih =>
    have hpiece : '\'' ∉ piece := hp piece List.mem_cons_self
    cases more with
    | nil =>
      rw [List.map_singleton, List.intercalate_singleton]
      exact lexes_literal (.inr rfl) hpiece h
    | cons piece' more =>
      have hmore := ih (List.cons_ne_nil _ _) fun p h => hp p (List.mem_cons_of_mem _ h)
      have hquote : Lexes false ('"' :: '\'' :: '"' :: ',' :: ' ' :: _)
          (.literal "'" :: .symbol .comma :: _) :=
        lexes_literal (.inl rfl) (List.not_mem_cons_of_ne_of_not_mem (by decide) List.not_mem_nil)
          (lexes_comma hmore)
      rw [List.map_cons, List.map_cons, List.intercalate_cons_cons, List.append_assoc,
        List.append_assoc, literalTokens_textsOf_cons_cons]
      exact lexes_literal (.inr rfl) hpiece (lexes_comma hquote)

/-- A value as it is written. -/
theorem lexes_quoteLiteral (value : String) (h : Lexes true rest tokens) :
    Lexes false ((quoteLiteral value).toList ++ rest) (quotedTokens value ++ tokens) := by
  unfold quoteLiteral quotedTokens hasBothQuotes
  dsimp only
  cases hsingle : value.toList.contains '\'' with
  | false =>
    rw [Bool.false_and, if_neg Bool.false_ne_true, Bool.not_false, if_pos rfl, String.toList_ofList]
    exact lexes_between (.inr rfl) hsingle h
  | true =>
    cases hdouble : value.toList.contains '"' with
    | false =>
      rw [Bool.and_false, if_neg Bool.false_ne_true, Bool.not_true, if_neg Bool.false_ne_true,
        Bool.not_false, if_pos rfl, String.toList_ofList]
      exact lexes_between (.inl rfl) hdouble h
    | true =>
      have hclose : Lexes true (')' :: rest) (.symbol .rightParen :: tokens) := lexes_single rfl h
      have hpieces := lexes_pieces (splitBy_ne_nil (· == '\'') value.toList)
        (fun piece hpiece => not_mem_of_mem_piecesAt hpiece) hclose
      have hopen : Lexes false ('(' :: _) (.symbol .leftParen :: _) := lexes_single rfl hpieces
      have hname : Lexes false ("concat".toList ++ _) (.function "concat" :: _) :=
        lexes_name (by decide) rfl rfl hopen
      rw [Bool.and_true, Bool.not_true, if_neg Bool.false_ne_true, if_neg Bool.false_ne_true,
        if_pos rfl, List.cons_append, List.cons_append, List.append_assoc]
      simp only [String.toList_append, String.toList_ofList, List.append_assoc]
      exact hname

end Tokens

/-! ## Reading -/

section Reading

open HtmlQuery.Parser

variable {depth : Nat}

theorem reads_literal {text : String} : ReadsAt depth 10 [.literal text] 0 (· = .literal text) :=
  reads_primary_literal.parsePath_primary

/-- Literals as the arguments of a function. -/
theorem reads_literalTokens {texts : List String} (hne : texts ≠ []) :
    Reads (run (argumentList (parseOr (depth + 2)))) 1 (literalTokens texts) 0
      (· = texts.map .literal) := by
  induction texts with
  | nil => exact absurd rfl hne
  | cons text more ih =>
    have htext : Reads (run (parseOr (depth + 2))) 2 [.literal text] 0 (· = .literal text) :=
      reads_literal.parseOr (by decide)
    cases more with
    | nil => exact htext.argumentList_one (congrArg ([·]))
    | cons text' more =>
      exact htext.argumentList_cons (ih (List.cons_ne_nil _ _)) (congrArg₂ List.cons)

/-- What a value is written as, as a primary operand. -/
theorem reads_primary_quoted (value : String) :
    Reads (run (primary (parseOr (depth + 2)))) 12 (quotedTokens value) 0
      (· = quotedExpr value) := by
  unfold quotedTokens quotedExpr
  split
  next hboth =>
    rw [hasBothQuotes, Bool.and_eq_true, List.contains_iff_mem] at hboth
    have hlength := two_le_length_piecesAt hboth.1
    have htexts := two_le_length_textsOf hlength
    have hne : textsOf (piecesAt '\'' value.toList) ≠ [] := by
      rintro he
      rw [he] at htexts
      exact absurd htexts (by decide)
    have hargs := (@reads_literalTokens depth _ hne).arguments Function.concat.spelling
      (opens_parseOr _)
    refine hargs.primary_call (R := (· = .call .concat _)) ?_
    rintro _ rfl
    rw [List.length_map]
    exact ⟨by simp [Function.arity, Arity.allows, htexts], rfl⟩
  next => exact reads_primary_literal

theorem reads_quoted (value : String) :
    ReadsAt (depth + 2) 10 (quotedTokens value) 0 (· = quotedExpr value) :=
  (reads_primary_quoted value).parsePath_primary

/-- A text is read as the expression that its tokens are read as. -/
theorem parse_of_lexes {text : String} {tokens : List Token} {cost : Nat} {e : Expr}
    (h : Lexes false text.toList tokens)
    (hread : Reads (run (parseOr maxDepth)) 2 tokens cost (· = e)) (hne : tokens ≠ [])
    (hc : cost ≤ maxOperators) : Expr.parse text = .ok e := by
  obtain ⟨located, hlex, htokens⟩ := h 0
  rw [Expr.parse, tokenize, hlex, ok_bind]
  exact hread.ofTokens htokens hne hc

end Reading

/-! ## Evaluation -/

theorem evalArguments_literals (top : Node) (focus : Focus) (texts : List String) :
    evalArguments top (texts.map .literal) focus = .ok (texts.map .string) := by
  induction texts with
  | nil => rfl
  | cons text more ih =>
    rw [List.map_cons, evalArguments, ih, Expr.eval]
    rfl

/-- The pieces with apostrophes between them, put together. -/
theorem join_textsOf (pieces : List (List Char)) :
    String.join (textsOf pieces) = String.ofList (['\''].intercalate pieces) := by
  induction pieces with
  | nil => rfl
  | cons piece more ih =>
    cases more with
    | nil =>
      rw [List.intercalate_singleton]
      exact String.toList_inj.mp (by simp [textsOf, String.join_cons])
    | cons piece' more =>
      show String.join (String.ofList piece :: "'" :: textsOf (piece' :: more)) = _
      rw [String.join_cons, String.join_cons, ih, List.intercalate_cons_cons, String.ofList_append,
        String.ofList_append, String.append_assoc]

/-- What a value is written as has this value, wherever it is evaluated. -/
theorem eval_quotedExpr (top : Node) (focus : Focus) (value : String) :
    (quotedExpr value).eval top focus = .ok (.string value) := by
  unfold quotedExpr
  split
  next =>
    rw [Expr.eval, evalArguments_literals, ok_bind]
    show Except.ok (Value.string (String.join ((List.map Value.string _).map Value.toText))) = _
    rw [List.map_map, show Value.toText ∘ Value.string = id from rfl, List.map_id, join_textsOf,
      intercalate_piecesAt, String.ofList_toList]
  next => rw [Expr.eval]

end HtmlQuery
