import HtmlQuery.Proofs.Query.Placing
import HtmlQuery.Proofs.Query.Pointing

/-!
# What stands around a token

What kind of a token a name is hangs on what stands around it: on the token before it, which may
have ended an operand, and on the characters behind it, of which no token is known yet.  Here these
characters are known to be read as the parenthesis or the colons that the kind of the name speaks
of (`Scans.next`), so that every token stands between its neighbours as its kind says
(`Piece.SitsBetween`).

Two things follow.  A star or the name of an operator is an operator if a token stands before it and
that token does not want an operand behind it, which is the rule of the grammar.  And the parser
never misses the parenthesis behind a function or a node type or the colons behind an axis.
-/

namespace HtmlQuery

/-- The operators that are spelled like names or like the test for any name. -/
def Symbol.isWord : Symbol → Bool
  | .multiply | .and | .or | .div | .mod => true
  | _ => false

/-- The operators. -/
def Symbol.isOperator : Symbol → Bool
  | .slash | .doubleSlash | .pipe | .plus | .minus | .equal | .notEqual | .less | .lessEqual
  | .greater | .greaterEqual => true
  | s => s.isWord

/-- The tokens that want an operand behind them: operators, and what opens a step, a test, a
parenthesis, a predicate or an argument. -/
def Token.awaitsOperand : Token → Bool
  | .symbol .atSign | .symbol .colonColon | .symbol .leftParen | .symbol .leftBracket
  | .symbol .comma => true
  | .symbol s => s.isOperator
  | _ => false

/-- What ends an operand wants none. -/
theorem Token.awaitsOperand_eq_false {t : Token} (h : t.endsOperand = true) :
    t.awaitsOperand = false := by
  cases t with
  | symbol s => cases s <;> first | rfl | cases h
  | _ => rfl

/-- What wants no operand ends one, if it is not the name of a function or of an axis. -/
theorem Token.endsOperand_of_awaitsOperand {t : Token} (h : t.awaitsOperand = false) :
    t.endsOperand = true ∨ ∃ name, t = .function name ∨ t = .axis name := by
  cases t with
  | symbol s => cases s <;> first | exact .inl rfl | cases h
  | function name => exact .inr ⟨name, .inl rfl⟩
  | axis name => exact .inr ⟨name, .inr rfl⟩
  | _ => exact .inl rfl

/-! ## Names and the characters behind them -/

section Names

variable {afterOperand : Bool} {name : String} {rest : List Char}

/-- The kinds of a name. -/
theorem classifyName_cases :
    (∃ s, afterOperand = true ∧ operatorName? name = some s ∧
      classifyName afterOperand name rest = .symbol s) ∨
    (∃ cs, rest.dropWhile Text.isSpace = '(' :: cs ∧
      (classifyName afterOperand name rest = .function name ∨
        classifyName afterOperand name rest = .nodeType name)) ∨
    (∃ cs, rest.dropWhile Text.isSpace = ':' :: ':' :: cs ∧
      classifyName afterOperand name rest = .axis name) ∨
    classifyName afterOperand name rest = .name name := by
  unfold classifyName
  split
  next s hs => exact .inl ⟨s, rfl, hs, rfl⟩
  next =>
    split
    next cs hrest =>
      refine .inr (.inl ⟨cs, hrest, ?_⟩)
      split
      · exact .inr rfl
      · exact .inl rfl
    next cs hrest => exact .inr (.inr (.inl ⟨cs, hrest, rfl⟩))
    next => exact .inr (.inr (.inr rfl))

/-- The name of an operator is that operator behind an operand only. -/
theorem classifyName_eq_symbol_iff {s : Symbol} (h : operatorName? name = some s) :
    classifyName afterOperand name rest = .symbol s ↔ afterOperand = true := by
  constructor
  · intro hsymbol
    rcases @classifyName_cases afterOperand name rest with
      ⟨_, hafter, -⟩ | ⟨_, -, hkind | hkind⟩ | ⟨_, -, hkind⟩ | hkind
    · exact hafter
    all_goals cases hkind.symm.trans hsymbol
  · rintro rfl
    unfold classifyName
    rw [h]

theorem operatorName?_spelling {s : Symbol} (h : s.isWord = true) :
    s = .multiply ∨ operatorName? s.spelling = some s := by
  cases s with
  | multiply => exact .inl rfl
  | and | or | div | mod => exact .inr rfl
  | _ => cases h

end Names

/-! ## Tokens and their neighbours -/

section Neighbours

variable {afterOperand : Bool} {c : Char} {cs lexeme rest : List Char} {t : Token}

/-- The kinds of a name that say what follows it. -/
def Token.looksAhead : Token → Bool
  | .function _ | .nodeType _ | .axis _ => true
  | _ => false

/-- Only names look ahead. -/
theorem eq_scanName_of_looksAhead {s : Scan (c :: cs)} (h : scan afterOperand c cs = .ok s)
    (ht : s.token.looksAhead = true) : s = scanName afterOperand c cs := by
  obtain ⟨symbol, htoken, -⟩ | ⟨-, h⟩ | ⟨rfl, h⟩ | ⟨-, rfl⟩ | ⟨-, rfl⟩ | ⟨rfl, rfl⟩ := scan_cases h
  · rw [htoken] at ht
    cases ht
  · obtain ⟨text, -, -, htoken⟩ := front_of_scanLiteral h
    rw [htoken] at ht
    cases ht
  · cases cs with
    | nil => cases h
    | cons d ds =>
      rw [scanVariable] at h
      split at h
      · obtain rfl := Except.ok.inj h
        cases ht
      · cases h
  · unfold scanNumber at ht
    split at ht <;> cases ht
  · rfl
  · cases ht

/-- What follows a name that looks ahead is what it says. -/
theorem Scans.dropWhile_eq (h : Scans afterOperand lexeme rest t) (ht : t.looksAhead = true) :
    (∃ cs, rest.dropWhile Text.isSpace = '(' :: cs ∧ ∀ name, t ≠ .axis name) ∨
      ∃ cs, rest.dropWhile Text.isSpace = ':' :: ':' :: cs ∧ ∃ name, t = .axis name := by
  obtain ⟨c, cs, rfl, -, s, hs, hfront, rfl⟩ := h
  have hrest : s.rest = rest := @Cut.rest_eq_of_front_eq (c :: cs) rest s.toCut hfront
  obtain rfl := eq_scanName_of_looksAhead hs ht
  have htoken : (scanName afterOperand c (cs ++ rest)).token =
    classifyName afterOperand (String.ofList (scanName afterOperand c (cs ++ rest)).front)
      (scanName afterOperand c (cs ++ rest)).rest := rfl
  rw [hfront, hrest] at htoken
  rw [htoken] at ht ⊢
  rcases @classifyName_cases afterOperand (String.ofList (c :: cs)) rest with
    ⟨s, -, -, hkind⟩ | ⟨ds, hds, hkind | hkind⟩ | ⟨ds, hds, hkind⟩ | hkind
  · rw [hkind] at ht
    cases ht
  · exact .inl ⟨ds, hds, fun _ => by rw [hkind]; nofun⟩
  · exact .inl ⟨ds, hds, fun _ => by rw [hkind]; nofun⟩
  · exact .inr ⟨ds, hds, _, hkind⟩
  · rw [hkind] at ht
    cases ht

/-- An opening parenthesis is read as one. -/
theorem Scans.eq_leftParen (h : Scans afterOperand lexeme rest t) {ds : List Char}
    (htext : lexeme ++ rest = '(' :: ds) : t = .symbol .leftParen := by
  obtain ⟨c, cs, rfl, -, s, hs, -, rfl⟩ := h
  obtain ⟨rfl, -⟩ := List.cons.inj htext
  cases hs
  rfl

/-- Two colons are read as one token. -/
theorem Scans.eq_colonColon (h : Scans afterOperand lexeme rest t) {ds : List Char}
    (htext : lexeme ++ rest = ':' :: ':' :: ds) : t = .symbol .colonColon := by
  obtain ⟨c, cs, rfl, -, s, hs, -, rfl⟩ := h
  obtain ⟨rfl, hcs⟩ := List.cons.inj htext
  replace hcs : cs ++ rest = ':' :: ds := hcs
  revert s
  rw [hcs]
  rintro s ⟨⟩
  rfl

/-- A word is the operator that it spells behind an operand, and nowhere else. -/
theorem Scans.word_iff {s : Symbol} (hs : s.isWord = true)
    (h : Scans afterOperand s.spelling.toList rest t) :
    t = .symbol s ↔ afterOperand = true := by
  obtain ⟨c, cs, hfront, -, read, hread, hreadFront, rfl⟩ := h
  rcases operatorName?_spelling hs with rfl | hname
  · obtain ⟨rfl, rfl⟩ := List.cons.inj hfront
    cases hread
    cases afterOperand <;> simp [Scan.one]
  · have hc : beginsName c = true := by
      cases s with
      | and | or | div | mod =>
        obtain ⟨rfl, -⟩ := List.cons.inj hfront
        decide
      | _ => cases hname
    obtain rfl := Except.ok.inj ((scan_of_beginsName hc).symm.trans hread)
    have htoken : (scanName afterOperand c (cs ++ rest)).token =
      classifyName afterOperand (String.ofList (scanName afterOperand c (cs ++ rest)).front)
        (scanName afterOperand c (cs ++ rest)).rest := rfl
    rw [htoken, hreadFront, String.ofList_toList]
    exact classifyName_eq_symbol_iff hname

end Neighbours

/-! ## Pieces and their neighbours -/

namespace Piece

section Pieces

variable {afterOperand : Bool} {p : Piece} {ps before after : List Piece} {last : List Char}

theorem ReadBefore.append (h : ReadBefore last afterOperand (before ++ after)) :
    ReadBefore last (endsOperand afterOperand before) after := by
  induction before generalizing afterOperand with
  | nil => exact h
  | cons p ps ih => exact ih h.2

/-- What follows a name that looks ahead is read as it says. -/
theorem ReadBefore.next (h : ReadBefore last afterOperand (p :: after))
    (hlast : ∀ c ∈ last, Text.isSpace c = true) (hp : p.token.looksAhead = true) :
    (∃ name, p.token = .axis name) ∧ (after.head?.map token) = some (.symbol .colonColon) ∨
      (∀ name, p.token ≠ .axis name) ∧ (after.head?.map token) = some (.symbol .leftParen) := by
  have hbehind := h.1.dropWhile_eq hp
  cases after with
  | nil =>
    rw [List.flatMap_nil, List.nil_append, List.dropWhile_eq_nil_iff.mpr hlast] at hbehind
    rcases hbehind with ⟨_, hnil, -⟩ | ⟨_, hnil, -⟩ <;> cases hnil
  | cons q qs =>
    have hq := h.2.1
    rw [List.flatMap_cons, text, List.append_assoc, List.append_assoc, dropWhile_gap hq] at hbehind
    rcases hbehind with ⟨cs, htext, hname⟩ | ⟨cs, htext, hname⟩
    · exact .inr ⟨hname, congrArg some (hq.eq_leftParen htext)⟩
    · exact .inl ⟨hname, congrArg some (hq.eq_colonColon htext)⟩

theorem endsOperand_iff :
    endsOperand false before = true ↔
      ∃ u, before.getLast?.map token = some u ∧ u.endsOperand = true := by
  cases hu : before.getLast?.map token with
  | none =>
    rw [Option.map_eq_none_iff, List.getLast?_eq_none_iff] at hu
    subst hu
    simp [endsOperand]
  | some u =>
    rw [← List.getLast?_map] at hu
    rw [endsOperand_of_getLast? hu]
    simp

/-- A piece stands between the tokens before it and behind it as its kind says. -/
structure SitsBetween (previous? : Option Token) (p : Piece) (next? : Option Token) : Prop where
  /-- A parenthesis opens behind a function and behind a node type. -/
  parenthesis : ∀ name, p.token = .function name ∨ p.token = .nodeType name →
    next? = some (.symbol .leftParen)
  /-- Colons follow an axis. -/
  colons : ∀ name, p.token = .axis name → next? = some (.symbol .colonColon)
  /-- An operator that is spelled as a word comes behind the end of an operand. -/
  operator : ∀ s : Symbol, s.isWord = true → p.token = .symbol s →
    ∃ u, previous? = some u ∧ u.endsOperand = true
  /-- A name that is spelled as an operator does not. -/
  name : ∀ s : Symbol, s.isWord = true → p.token = .name s.spelling →
    ∀ u, previous? = some u → u.endsOperand = false
  /-- A word is an operator if there is a token before it that wants no operand, and only then. -/
  word : ∀ s : Symbol, s.isWord = true → p.lexeme = s.spelling.toList →
    (p.token = .symbol s ↔ ∃ u, previous? = some u ∧ u.awaitsOperand = false)

/-- A word spells no symbol that opens a parenthesis or comes behind an axis. -/
theorem spelling_ne_of_isWord {s symbol : Symbol} (hs : s.isWord = true)
    (h : symbol = .leftParen ∨ symbol = .colonColon) :
    s.spelling.toList ≠ symbol.spelling.toList := by
  cases s with
  | multiply | and | or | div | mod => rcases h with rfl | rfl <;> decide
  | _ => cases hs

/-- A word whose predecessor wants no operand comes behind the end of one. -/
theorem endsOperand_of_awaitsOperand {s : Symbol} (hs : s.isWord = true)
    (hp : p.lexeme = s.spelling.toList) {u : Token}
    (hu : before.getLast?.map token = some u) (hawaits : u.awaitsOperand = false)
    (h : ReadBefore last afterOperand (before ++ p :: after))
    (hlast : ∀ c ∈ last, Text.isSpace c = true) : u.endsOperand = true := by
  rcases Token.endsOperand_of_awaitsOperand hawaits with hends | ⟨name, hname⟩
  · exact hends
  · -- Behind the name of a function or of an axis comes a symbol that is no word.
    obtain ⟨q, hq, rfl⟩ := Option.map_eq_some_iff.mp hu
    obtain ⟨before, rfl⟩ := List.getLast?_eq_some_iff.mp hq
    rw [List.append_assoc, List.singleton_append] at h
    have hlooks : q.token.looksAhead = true := by
      rcases hname with hname | hname <;> rw [hname] <;> rfl
    have hspelled := p.spelled
    rcases h.append.next hlast hlooks with ⟨-, hnext⟩ | ⟨-, hnext⟩
    all_goals
      have htoken : p.token = .symbol _ := Option.some.inj hnext
      rw [htoken] at hspelled
      exact absurd (hp.symm.trans hspelled) (spelling_ne_of_isWord hs (by simp))

theorem ReadBefore.sitsBetween (h : ReadBefore last false (before ++ p :: after))
    (hlast : ∀ c ∈ last, Text.isSpace c = true) :
    p.SitsBetween (before.getLast?.map token) (after.head?.map token) := by
  have hread := h.append
  have hword : ∀ s : Symbol, s.isWord = true → p.lexeme = s.spelling.toList →
      (p.token = .symbol s ↔ endsOperand false before = true) := fun s hs hp =>
    (hp ▸ hread.1).word_iff hs
  constructor
  case parenthesis =>
    intro name hname
    have hlooks : p.token.looksAhead = true := by
      rcases hname with hname | hname <;> rw [hname] <;> rfl
    rcases hread.next hlast hlooks with ⟨⟨axis, haxis⟩, -⟩ | ⟨-, hnext⟩
    · rcases hname with hname | hname <;> cases hname.symm.trans haxis
    · exact hnext
  case colons =>
    intro name hname
    have hlooks : p.token.looksAhead = true := by
      rw [hname]
      rfl
    rcases hread.next hlast hlooks with ⟨-, hnext⟩ | ⟨hno, -⟩
    · exact hnext
    · exact absurd hname (hno name)
  case operator =>
    intro s hs htoken
    have hspelled := p.spelled
    rw [htoken] at hspelled
    exact endsOperand_iff.mp ((hword s hs hspelled).mp htoken)
  case name =>
    intro s hs htoken u hu
    have hspelled := p.spelled
    rw [htoken] at hspelled
    refine Bool.eq_false_iff.mpr fun hends => ?_
    have hsymbol := (hword s hs hspelled).mpr (endsOperand_iff.mpr ⟨u, hu, hends⟩)
    cases hsymbol.symm.trans htoken
  case word =>
    intro s hs hp
    rw [hword s hs hp, endsOperand_iff]
    constructor
    · rintro ⟨u, hu, hends⟩
      exact ⟨u, hu, Token.awaitsOperand_eq_false hends⟩
    · rintro ⟨u, hu, hawaits⟩
      exact ⟨u, hu, endsOperand_of_awaitsOperand hs hp hu hawaits h hlast⟩

end Pieces

end Piece

/-! ## Expressions -/

/-- Behind the tokens that were read follows what the last of them says. -/
theorem head?_of_tokenize {expression : String} {read left : List Located} {t : Token}
    (h : tokenize expression = .ok (read ++ left)) (ht : (read.map (·.token)).getLast? = some t) :
    (∀ name, t = .function name ∨ t = .nodeType name →
      (left.map (·.token)).head? = some (.symbol .leftParen)) ∧
    ∀ name, t = .axis name → (left.map (·.token)).head? = some (.symbol .colonColon) := by
  obtain ⟨pieces, last, hlay, hread⟩ := Piece.exists_layOut h
  have htokens : pieces.map (·.token) = read.map (·.token) ++ left.map (·.token) := by
    rw [← List.map_append, ← hlay.located_eq, Piece.map_token_located]
  obtain ⟨front, after, rfl, hfront, hafter⟩ := List.map_eq_append_iff.mp htokens
  rw [← hfront, List.getLast?_map, Option.map_eq_some_iff] at ht
  obtain ⟨p, hp, rfl⟩ := ht
  obtain ⟨before, rfl⟩ := List.getLast?_eq_some_iff.mp hp
  rw [List.append_assoc, List.singleton_append] at hread
  have hsits := hread.sitsBetween hlay.blank
  rw [← List.head?_map, hafter] at hsits
  exact ⟨hsits.parenthesis, hsits.colons⟩

/-- Tokens are told apart consistently.  Wherever an expression can be read as tokens, each of them
stands between its neighbours as its kind says: functions and node types before an opening
parenthesis, axes before colons, and a word is an operator if it comes behind a token that wants no
operand, otherwise a name.  So nothing that the parser fails on is a name without the parenthesis or
the colons that its kind speaks of. -/
theorem tokens_classified (expression : String) :
    (∀ tokens, tokenize expression = .ok tokens →
      ∃ (pieces : List Piece) (last : List Char), Piece.LayOut pieces last expression tokens ∧
        ∀ before p after, pieces = before ++ p :: after →
          p.SitsBetween (before.getLast?.map (·.token)) (after.head?.map (·.token))) ∧
    ∀ e, Expr.parse expression = .error e →
      (∀ name, e.fault ≠ .missingParenthesis name) ∧ e.fault ≠ .missingColons := by
  constructor
  · intro tokens htokens
    obtain ⟨pieces, last, hlay, hread⟩ := Piece.exists_layOut htokens
    refine ⟨pieces, last, hlay, ?_⟩
    rintro before p after rfl
    exact hread.sitsBetween hlay.blank
  · intro e he
    rcases Expr.parse_points he with
      ⟨before, behind, -, -, hshows⟩ |
      ⟨tokens, htokens, ⟨-, rfl⟩ | ⟨read, s, happend, -, -, hshows⟩⟩
    · constructor
      · rintro name hfault
        rw [hfault] at hshows
        exact hshows
      · intro hfault
        rw [hfault] at hshows
        exact hshows
    · exact ⟨nofun, nofun⟩
    · rw [← show read ++ s.tokens = tokens from happend] at htokens
      constructor
      · intro name hfault
        rw [hfault] at hshows
        obtain ⟨hlast | hlast, hhead⟩ := hshows
        · exact hhead ((head?_of_tokenize htokens hlast).1 name (.inl rfl))
        · exact hhead ((head?_of_tokenize htokens hlast).1 name (.inr rfl))
      · intro hfault
        rw [hfault] at hshows
        obtain ⟨⟨name, hlast⟩, hhead⟩ := hshows
        exact hhead ((head?_of_tokenize htokens hlast).2 name rfl)

/-- A name, an operator, an axis and a name.  Both names are words.  The bracket is not closed. -/
theorem tokens_classified_words :
    let expression := "and * self::div["
    let tokens : List Located := [⟨.name "and", 0⟩, ⟨.symbol .multiply, 4⟩, ⟨.axis "self", 6⟩,
      ⟨.symbol .colonColon, 10⟩, ⟨.name "div", 12⟩, ⟨.symbol .leftBracket, 15⟩]
    tokenize expression = .ok tokens ∧
      (∃ (pieces : List Piece) (last : List Char), Piece.LayOut pieces last expression tokens ∧
        ∀ before p after, pieces = before ++ p :: after →
          p.SitsBetween (before.getLast?.map (·.token)) (after.head?.map (·.token))) ∧
      ∃ e, Expr.parse expression = .error e ∧ (∀ name, e.fault ≠ .missingParenthesis name) ∧
        e.fault ≠ .missingColons := by
  intro expression tokens
  have htokens : tokenize "and * self::div[" = .ok tokens := by cbv
  have herror : Expr.parse "and * self::div[" = .error ⟨.unexpectedEnd, 16⟩ := by cbv
  obtain ⟨hclassified, hfails⟩ := tokens_classified expression
  exact ⟨htokens, hclassified tokens htokens, _, herror, hfails _ herror⟩

end HtmlQuery
