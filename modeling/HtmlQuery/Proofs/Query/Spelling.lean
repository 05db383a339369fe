import HtmlQuery.Proofs.Query.Lookahead
import HtmlQuery.Query.Value

/-!
# Tokens and their spellings

A token is read from a spelling of it (`Scan.isSpelledBy`): its fixed spelling, what it carries, or
what it carries behind a dollar sign or between quotes.  So an expression that is read consists of
spellings with white space around them (`exists_pieces`), and the position of a token is the number
of bytes before its spelling.  No spelling is empty, so the positions ascend.
-/

namespace HtmlQuery

/-! ## Spellings -/

/-- Whether a text is a spelling of a token.  A number is spelled by digits with at most one point
among them. -/
def Token.IsSpelledBy (lexeme : List Char) : Token → Prop
  | .symbol s => lexeme = s.spelling.toList
  | .number value => ∃ n, unsignedNumber? lexeme = some n ∧ n.toFloat = value
  | .literal text =>
    ∃ quote, (quote = '"' ∨ quote = '\'') ∧ quote ∉ text.toList ∧
      lexeme = between quote text.toList
  | .variable text => lexeme = '$' :: text.toList
  | .name text | .function text | .nodeType text | .axis text => lexeme = text.toList

section Scan

variable {afterOperand : Bool} {c : Char} {cs : List Char}

theorem spelling_of_singleSymbol? {s : Symbol} (h : singleSymbol? c = some s) :
    s.spelling.toList = [c] := by
  unfold singleSymbol? at h
  split at h
  all_goals
    cases h
    try rfl

theorem spelling_of_operatorName? {name : String} {s : Symbol} (h : operatorName? name = some s) :
    s.spelling = name := by
  unfold operatorName? at h
  split at h
  all_goals
    cases h
    try rfl

theorem isSpelledBy_classifyName {name rest : List Char} :
    (classifyName afterOperand (String.ofList name) rest).IsSpelledBy name := by
  have hname : name = (String.ofList name).toList := String.toList_ofList.symm
  unfold classifyName
  split
  next operator h =>
    rw [← spelling_of_operatorName? h] at hname
    exact hname
  · split
    · split
      · exact hname
      · exact hname
    · exact hname
    · exact hname

theorem isSpelledBy_scanLiteral {quote : Char} {s : Scan (quote :: cs)}
    (hq : quote = '"' ∨ quote = '\'') (h : scanLiteral quote cs = .ok s) :
    s.token.IsSpelledBy s.front := by
  obtain ⟨text, ht, hfront, htoken⟩ := front_of_scanLiteral h
  rw [htoken]
  refine ⟨quote, hq, ?_, ?_⟩
  · rw [String.toList_ofList]
    exact ht
  · rw [String.toList_ofList]
    exact hfront

theorem isSpelledBy_scanVariable {s : Scan ('$' :: cs)} (h : scanVariable '$' cs = .ok s) :
    s.token.IsSpelledBy s.front := by
  unfold scanVariable at h
  split at h
  · cases h
  · split at h
    · obtain rfl := Except.ok.inj h
      exact congrArg (List.cons '$') String.toList_ofList.symm
    · cases h

/-! ### Numbers -/

/-- A point and digits, or nothing. -/
inductive IsFraction : List Char → Prop where
  | nil : IsFraction []
  | point {ds : List Char} (h : ∀ d ∈ ds, Text.isAsciiDigit d = true) : IsFraction ('.' :: ds)

/-- Digits, maybe a point and digits behind it, and at least one digit. -/
structure IsUnsigned (whole fraction : List Char) : Prop where
  whole_digits : ∀ d ∈ whole, Text.isAsciiDigit d = true
  isFraction : IsFraction fraction
  some_digit : whole ≠ [] ∨ fraction.drop 1 ≠ []

/-- A number begins with a digit, or with a point and a digit. -/
inductive BeginsNumber : Char → List Char → Prop where
  | digit {c : Char} {cs : List Char} (hc : Text.isAsciiDigit c = true) : BeginsNumber c cs
  | point {d : Char} {ds : List Char} (hd : Text.isAsciiDigit d = true) :
    BeginsNumber '.' (d :: ds)

section Numbers

variable {whole fraction text : List Char} {n : Decimal.Numeral}

theorem ne_point_of_isAsciiDigit (hc : Text.isAsciiDigit c = true) : c ≠ '.' := by
  rintro rfl
  exact absurd hc (by decide)

theorem IsUnsigned.unsignedNumber?_eq (h : IsUnsigned whole fraction) :
    unsignedNumber? (whole ++ fraction) = some { whole, fraction := fraction.drop 1 } := by
  obtain ⟨hwhole, hfraction, hsome⟩ := h
  have hin : ∀ d ∈ whole, (d != '.') = true :=
    fun d hd => bne_iff_ne.mpr (ne_point_of_isAsciiDigit (hwhole d hd))
  have htake : (whole ++ fraction).takeWhile (· != '.') = whole := by
    rw [List.takeWhile_append_of_pos hin]
    cases hfraction <;> simp
  have hdrop : (whole ++ fraction).dropWhile (· != '.') = fraction := by
    rw [List.dropWhile_append_of_pos hin]
    cases hfraction <;> simp
  have hdigits : (fraction.drop 1).all Text.isAsciiDigit = true := by
    cases hfraction with
    | nil => rfl
    | point hds => exact List.all_eq_true.mpr hds
  have hnone : (whole.isEmpty && (fraction.drop 1).isEmpty) = false := by
    rw [Bool.and_eq_false_iff, List.isEmpty_eq_false_iff, List.isEmpty_eq_false_iff]
    exact hsome
  rw [unsignedNumber?, htake, hdrop, List.all_eq_true.mpr hwhole, hdigits, hnone]
  rfl

/-- A text that is a number has these parts. -/
theorem exists_of_unsignedNumber? (h : unsignedNumber? text = some n) :
    ∃ whole fraction, text = whole ++ fraction ∧ IsUnsigned whole fraction := by
  rw [unsignedNumber?] at h
  split at h
  next hall =>
    simp only [Bool.and_eq_true, List.all_eq_true, Bool.not_eq_true', Bool.and_eq_false_iff,
      List.isEmpty_eq_false_iff] at hall
    obtain ⟨⟨hwhole, hfraction⟩, hsome⟩ := hall
    refine ⟨_, _, List.takeWhile_append_dropWhile.symm, hwhole, ?_, hsome⟩
    cases hpoint : text.dropWhile (· != '.') with
    | nil => exact .nil
    | cons c cs =>
      obtain rfl := eq_of_dropWhile_bne hpoint
      rw [hpoint] at hfraction
      exact .point hfraction
  next => cases h

theorem digit_or_point_of_unsignedNumber? (h : unsignedNumber? text = some n) :
    ∀ c ∈ text, Text.isAsciiDigit c = true ∨ c = '.' := by
  obtain ⟨whole, fraction, rfl, hwhole, hfraction, -⟩ := exists_of_unsignedNumber? h
  intro c hc
  rcases List.mem_append.mp hc with hc | hc
  · exact .inl (hwhole c hc)
  · cases hfraction with
    | nil => cases hc
    | point hds =>
      rcases List.mem_cons.mp hc with rfl | hc
      · exact .inr rfl
      · exact .inl (hds c hc)

theorem isSpace_eq_false_of_unsignedNumber? (h : unsignedNumber? text = some n) :
    ∀ c ∈ text, Text.isSpace c = false := by
  intro c hc
  rw [Bool.eq_false_iff]
  intro hspace
  rcases digit_or_point_of_unsignedNumber? h c hc with hdigit | rfl
  · rw [isAsciiDigit_of_isSpace hspace] at hdigit
    cases hdigit
  · exact absurd hspace (by decide)

theorem isFraction_cutFraction (input : List Char) : IsFraction (cutFraction input).front := by
  unfold cutFraction
  split
  · exact .point fun d hd => List.mem_takeWhile_imp hd
  · exact .nil

theorem BeginsNumber.digit_or_point (h : BeginsNumber c cs) :
    Text.isAsciiDigit c = true ∨ c = '.' := by
  cases h with
  | digit hc => exact .inl hc
  | point => exact .inr rfl

/-- A number is digits, none if it begins with the point, and what stands behind the point. -/
theorem BeginsNumber.front_scanNumber (h : BeginsNumber c cs) :
    (scanNumber c cs).front = (c :: cs).takeWhile Text.isAsciiDigit ++
      (cutFraction ((c :: cs).dropWhile Text.isAsciiDigit)).front := by
  cases h with
  | digit hc =>
    have hpoint : ¬ (c == '.') = true := fun he => ne_point_of_isAsciiDigit hc (beq_iff_eq.mp he)
    rw [List.takeWhile_cons_of_pos hc, List.dropWhile_cons_of_pos hc, scanNumber, if_neg hpoint]
    rfl
  | point hd => rfl

theorem BeginsNumber.unsignedNumber?_scanNumber (h : BeginsNumber c cs) :
    ∃ n, unsignedNumber? (scanNumber c cs).front = some n ∧
      (scanNumber c cs).token = .number n.toFloat := by
  cases h with
  | digit hc =>
    have hpoint : ¬ (c == '.') = true := fun he => ne_point_of_isAsciiDigit hc (beq_iff_eq.mp he)
    have hparts : IsUnsigned (c :: cs.takeWhile Text.isAsciiDigit)
        (cutFraction (cs.dropWhile Text.isAsciiDigit)).front :=
      ⟨List.forall_mem_cons.mpr ⟨hc, fun d hd => List.mem_takeWhile_imp hd⟩,
        isFraction_cutFraction _, .inl (List.cons_ne_nil _ _)⟩
    rw [scanNumber, if_neg hpoint]
    exact ⟨_, hparts.unsignedNumber?_eq, rfl⟩
  | @point d ds hd =>
    have hparts : IsUnsigned [] ('.' :: (d :: ds).takeWhile Text.isAsciiDigit) := by
      refine ⟨List.forall_mem_nil _, .point fun d hd => List.mem_takeWhile_imp hd, .inr ?_⟩
      rw [List.takeWhile_cons_of_pos hd]
      exact List.cons_ne_nil _ _
    exact ⟨_, hparts.unsignedNumber?_eq, rfl⟩

theorem BeginsNumber.isSpelledBy_scanNumber (h : BeginsNumber c cs) :
    (scanNumber c cs).token.IsSpelledBy (scanNumber c cs).front := by
  obtain ⟨n, hn, htoken⟩ := h.unsignedNumber?_scanNumber
  rw [htoken]
  exact ⟨n, hn, rfl⟩

end Numbers

/-! ### Every token -/

/-- What `scan` reads, by the character that it begins with: a symbol, a literal, a variable, a
number, a name, or a star that stands for every name. -/
theorem scan_cases {s : Scan (c :: cs)} (h : scan afterOperand c cs = .ok s) :
    (∃ symbol : Symbol, s.token = .symbol symbol ∧ s.front = symbol.spelling.toList) ∨
      ((c = '"' ∨ c = '\'') ∧ scanLiteral c cs = .ok s) ∨
      (c = '$' ∧ scanVariable c cs = .ok s) ∨
      (BeginsNumber c cs ∧ s = scanNumber c cs) ∨
      (beginsName c = true ∧ s = scanName afterOperand c cs) ∨
      (c = '*' ∧ s = .one c cs (.name "*")) := by
  unfold scan at h
  split at h
  next symbol hsymbol =>
    obtain rfl := Except.ok.inj h
    exact .inl ⟨symbol, rfl, (spelling_of_singleSymbol? hsymbol).symm⟩
  split at h
  next hquote => exact .inr (.inl ⟨by simpa using hquote, h⟩)
  split at h
  next hdollar => exact .inr (.inr (.inl ⟨beq_iff_eq.mp hdollar, h⟩))
  split at h
  next hdigit => exact .inr (.inr (.inr (.inl ⟨.digit hdigit, (Except.ok.inj h).symm⟩)))
  split at h
  next hname => exact .inr (.inr (.inr (.inr (.inl ⟨hname, (Except.ok.inj h).symm⟩))))
  split at h
  next =>
    obtain rfl := Except.ok.inj h
    cases afterOperand with
    | true => exact .inl ⟨.multiply, rfl, rfl⟩
    | false => exact .inr (.inr (.inr (.inr (.inr ⟨rfl, rfl⟩))))
  -- What is left are symbols, and a number that begins with a point.
  case h_13 =>
    split at h
    next hd =>
      exact .inr (.inr (.inr (.inl ⟨.point hd, (Except.ok.inj h).symm⟩)))
    next =>
      obtain rfl := Except.ok.inj h
      exact .inl ⟨.dot, rfl, rfl⟩
  all_goals
    cases h
    try exact .inl ⟨_, rfl, rfl⟩

/-- A token is read from a spelling of it. -/
theorem Scan.isSpelledBy {s : Scan (c :: cs)} (h : scan afterOperand c cs = .ok s) :
    s.token.IsSpelledBy s.front := by
  obtain ⟨symbol, htoken, hfront⟩ | ⟨hquote, h⟩ | ⟨rfl, h⟩ | ⟨hbegin, rfl⟩ | ⟨-, rfl⟩ |
    ⟨rfl, rfl⟩ := scan_cases h
  · rw [htoken]
    exact hfront
  · exact isSpelledBy_scanLiteral hquote h
  · exact isSpelledBy_scanVariable h
  · exact hbegin.isSpelledBy_scanNumber
  · exact isSpelledBy_classifyName
  · rfl

end Scan

/-! ## Pieces -/

/-- A token with its spelling and the white space before it. -/
structure Piece where
  /-- The white space. -/
  gap : List Char
  /-- The spelling. -/
  lexeme : List Char
  /-- The token. -/
  token : Token
  /-- White space is of four kinds. -/
  blank : ∀ c ∈ gap, Text.isSpace c = true
  /-- The spelling is one of the token. -/
  spelled : token.IsSpelledBy lexeme
  /-- The spelling is not empty. -/
  lexeme_ne_nil : lexeme ≠ []

namespace Piece

/-- The characters of a piece. -/
def text (p : Piece) : List Char :=
  p.gap ++ p.lexeme

/-- The tokens of pieces of a text, the first of which begins at a byte.  Each stands at the byte at
which its spelling begins. -/
def located (position : Nat) : List Piece → List Located
  | [] => []
  | p :: ps => ⟨p.token, position + byteLength p.gap⟩ :: located (position + byteLength p.text) ps

theorem byteLength_gap_lt (p : Piece) : byteLength p.gap < byteLength p.text := by
  have := byteLength_pos p.lexeme_ne_nil
  rw [text, byteLength_append]
  omega

/-- A token stands behind a front of the pieces, and not at their end. -/
theorem position_of_mem_located {position : Nat} {pieces : List Piece} {t : Located}
    (h : t ∈ located position pieces) :
    ∃ front rest, pieces.flatMap text = front ++ rest ∧ rest ≠ [] ∧
      t.position = position + byteLength front := by
  induction pieces generalizing position with
  | nil => cases h
  | cons p ps ih =>
    rcases List.mem_cons.mp h with rfl | h
    · refine ⟨p.gap, p.lexeme ++ ps.flatMap text, ?_, ?_, rfl⟩
      · rw [List.flatMap_cons, text, List.append_assoc]
      · exact List.append_ne_nil_of_left_ne_nil p.lexeme_ne_nil _
    · obtain ⟨front, rest, htext, hrest, hposition⟩ := ih h
      refine ⟨p.text ++ front, rest, ?_, hrest, ?_⟩
      · rw [List.flatMap_cons, htext, List.append_assoc]
      · rw [hposition, byteLength_append, Nat.add_assoc]

/-- The tokens of pieces stand one behind the other. -/
theorem pairwise_located (position : Nat) (pieces : List Piece) :
    (located position pieces).Pairwise fun s t => s.position < t.position := by
  induction pieces generalizing position with
  | nil => exact .nil
  | cons p ps ih =>
    refine .cons (fun t ht => ?_) (ih _)
    obtain ⟨front, -, -, -, hposition⟩ := position_of_mem_located ht
    have hgap := p.byteLength_gap_lt
    show position + byteLength p.gap < t.position
    omega

end Piece

namespace Piece

/-- Each of some pieces is read where the ones behind it and then `rest` follow. -/
def ReadBefore (rest : List Char) : (afterOperand : Bool) → List Piece → Prop
  | _, [] => True
  | afterOperand, p :: ps =>
    Scans afterOperand p.lexeme (ps.flatMap text ++ rest) p.token ∧
      ReadBefore rest p.token.endsOperand ps

/-- More white space before the first piece. -/
def behind (p : Piece) {c : Char} (hc : Text.isSpace c = true) : Piece :=
  { p with gap := c :: p.gap, blank := List.forall_mem_cons.mpr ⟨hc, p.blank⟩ }

end Piece

/-- What is read consists of the spellings of its tokens with white space around them. -/
theorem exists_pieces {position : Nat} {afterOperand : Bool} {input : List Char}
    {tokens : List Located} (h : lexFrom position afterOperand input = .ok tokens) :
    ∃ (pieces : List Piece) (last : List Char), input = pieces.flatMap Piece.text ++ last ∧
      (∀ c ∈ last, Text.isSpace c = true) ∧ Piece.located position pieces = tokens ∧
      Piece.ReadBefore last afterOperand pieces := by
  fun_induction lexFrom position afterOperand input generalizing tokens with
  | case1 =>
    obtain rfl := Except.ok.inj h
    exact ⟨[], [], rfl, List.forall_mem_nil _, rfl, trivial⟩
  | case2 position afterOperand c cs hc ih =>
    obtain ⟨pieces, last, rfl, hlast, rfl, hread⟩ := ih h
    cases pieces with
    | nil => exact ⟨[], c :: last, rfl, List.forall_mem_cons.mpr ⟨hc, hlast⟩, rfl, trivial⟩
    | cons p ps =>
      refine ⟨p.behind hc :: ps, last, rfl, hlast, ?_, hread⟩
      simp only [Piece.located, Piece.behind, Piece.text, List.cons_append, byteLength_cons,
        Nat.add_assoc]
  | case3 => cases h
  | case4 => cases h
  | case5 position afterOperand c cs hc s hs more hmore ih =>
    obtain rfl := Except.ok.inj h
    obtain ⟨pieces, last, hrest, hlast, rfl, hread⟩ := ih hmore
    refine ⟨⟨[], s.front, s.token, List.forall_mem_nil _, Scan.isSpelledBy hs, s.front_ne_nil⟩ ::
      pieces, last, ?_, hlast, rfl, ?_, hread⟩
    · rw [List.flatMap_cons, Piece.text, List.nil_append, List.append_assoc, ← hrest, s.append_eq]
    · exact hrest ▸ scans_of_scan (Bool.eq_false_iff.mpr hc) hs

/-- Tokens stand at characters of the expression. -/
theorem position_of_mem_tokenize {expression : String} {tokens : List Located}
    (h : tokenize expression = .ok tokens) {t : Located} (ht : t ∈ tokens) :
    t.position < expression.utf8ByteSize ∧
      (⟨t.position⟩ : String.Pos.Raw).IsValid expression := by
  obtain ⟨pieces, last, htext, -, rfl, -⟩ := exists_pieces h
  obtain ⟨front, rest, hpieces, hrest, hposition⟩ := Piece.position_of_mem_located ht
  rw [hpieces, List.append_assoc] at htext
  rw [Nat.zero_add] at hposition
  have hpos := byteLength_pos (List.append_ne_nil_of_left_ne_nil hrest last)
  refine ⟨?_, hposition ▸ isValid_byteLength htext⟩
  rw [hposition, ← byteLength_toList, htext, byteLength_append]
  omega

end HtmlQuery
