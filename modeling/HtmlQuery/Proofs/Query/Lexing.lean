import HtmlQuery.Query.Template
import Mathlib

/-!
# How texts are read as tokens

`Lexes afterOperand input tokens` says that a text is read as these tokens wherever it stands.  The
lemmas build this up from the end of a text, a token at a time: in front of a text that is read
somehow, a symbol, a name, a literal or white space adds its own token or none.

A name goes on as long as it can, so it needs a text behind it that ends it, `endsName`.  What kind
of a name it is hangs on that text too.
-/

namespace HtmlQuery

/-- A text is read as these tokens, wherever in an expression it begins. -/
def Lexes (afterOperand : Bool) (input : List Char) (tokens : List Token) : Prop :=
  ∀ position, ∃ located,
    lexFrom position afterOperand input = .ok located ∧ located.map (·.token) = tokens

/-! ## Characters -/

theorem toNat_le_of_isAlpha {c : Char} (h : c.isAlpha = true) : 65 ≤ c.toNat := by
  simp only [Char.isAlpha, Char.isUpper, Char.isLower, Bool.or_eq_true, Bool.and_eq_true,
    decide_eq_true_eq, ge_iff_le, UInt32.le_iff_toNat_le] at h
  have hc : c.toNat = c.val.toNat := rfl
  rcases h with h | h
  · exact h.1
  · exact Nat.le_trans (by decide) h.1

/-- No name begins with a character below the letters. -/
theorem toNat_le_of_beginsName {c : Char} (h : beginsName c = true) : 65 ≤ c.toNat := by
  simp only [beginsName, Text.isAlphabetic, Bool.or_eq_true, beq_iff_eq] at h
  rcases h with h | rfl
  · split at h
    · exact toNat_le_of_isAlpha h
    · omega
  · decide

theorem isAsciiDigit_eq_false_of_beginsName {c : Char} (h : beginsName c = true) :
    Text.isAsciiDigit c = false := by
  have hc := toNat_le_of_beginsName h
  rw [Text.isAsciiDigit, Bool.and_eq_false_iff]
  refine .inr (decide_eq_false fun hle => ?_)
  have : c.toNat ≤ 57 := UInt32.le_iff_toNat_le.mp hle
  omega

theorem ne_of_beginsName {c d : Char} (h : beginsName c = true) (hd : beginsName d = false) :
    c ≠ d := by
  rintro rfl
  rw [h] at hd
  cases hd

theorem isSpace_eq_false_of_beginsName {c : Char} (h : beginsName c = true) :
    Text.isSpace c = false := by
  have key : ∀ d, beginsName d = false → (c == d) = false :=
    fun d hd => beq_eq_false_iff_ne.mpr (ne_of_beginsName h hd)
  simp [Text.isSpace, key ' ' (by decide), key '\t' (by decide), key '\n' (by decide),
    key '\r' (by decide)]

theorem singleSymbol?_eq_none_of_beginsName {c : Char} (h : beginsName c = true) :
    singleSymbol? c = none := by
  have key : ∀ d, beginsName d = false → c ≠ d := fun d hd => ne_of_beginsName h hd
  simp [singleSymbol?, key '(' (by decide), key ')' (by decide), key '[' (by decide),
    key ']' (by decide), key '@' (by decide), key ',' (by decide), key '|' (by decide),
    key '+' (by decide), key '-' (by decide), key '=' (by decide)]

/-- Whether a text is a name without a prefix. -/
def isWord : List Char → Bool
  | [] => false
  | c :: cs => beginsName c && cs.all continuesName

/-- Whether a name is over before a text. -/
def endsName : List Char → Bool
  | [] => true
  | d :: _ => !continuesName d && d != ':'

theorem isNameText_of_isWord {name : String} (h : isWord name.toList = true) :
    isNameText name = true := by
  rw [isNameText]
  cases hn : name.toList with
  | nil =>
    rw [hn] at h
    exact h
  | cons c cs =>
    rw [hn, isWord, Bool.and_eq_true] at h
    simp [h.1, h.2]

/-! ## Tokens -/

section Tokens

variable {afterOperand : Bool} {c : Char} {cs rest : List Char} {tokens : List Token}

theorem lexes_nil : Lexes afterOperand [] [] :=
  fun position => ⟨[], by rw [lexFrom], rfl⟩

theorem lexes_space (hc : Text.isSpace c = true) (h : Lexes afterOperand cs tokens) :
    Lexes afterOperand (c :: cs) tokens := by
  intro position
  rw [lexFrom, if_pos hc]
  exact h _

/-- The token that is read first, and those of what it leaves. -/
theorem lexes_scan {s : Scan (c :: cs)} {token : Token} (hc : Text.isSpace c = false)
    (hs : scan afterOperand c cs = .ok s) (ht : s.token = token) (hr : s.rest = rest)
    (h : Lexes token.endsOperand rest tokens) : Lexes afterOperand (c :: cs) (token :: tokens) := by
  subst ht hr
  intro position
  obtain ⟨located, hlex, rfl⟩ := h (position + byteLength s.front)
  refine ⟨⟨s.token, position⟩ :: located, ?_, rfl⟩
  rw [lexFrom, if_neg (by simp [hc]), hs]
  simp only [hlex]

theorem scan_of_singleSymbol? {symbol : Symbol} (hs : singleSymbol? c = some symbol) :
    scan afterOperand c cs = .ok (.one c cs (.symbol symbol)) := by
  unfold scan
  rw [hs]

theorem isSpace_eq_false_of_singleSymbol? {symbol : Symbol} (hs : singleSymbol? c = some symbol) :
    Text.isSpace c = false := by
  rw [Bool.eq_false_iff]
  intro hspace
  simp only [Text.isSpace, Bool.or_eq_true, beq_iff_eq] at hspace
  rcases hspace with ((rfl | rfl) | rfl) | rfl <;> simp [singleSymbol?] at hs

/-- A symbol of one character that nothing else begins with. -/
theorem lexes_single {symbol : Symbol} (hs : singleSymbol? c = some symbol)
    (h : Lexes (Token.symbol symbol).endsOperand cs tokens) :
    Lexes afterOperand (c :: cs) (.symbol symbol :: tokens) :=
  lexes_scan (isSpace_eq_false_of_singleSymbol? hs) (scan_of_singleSymbol? hs) rfl rfl h

/-- A comma and the space behind it. -/
theorem lexes_comma (h : Lexes false cs tokens) :
    Lexes afterOperand (',' :: ' ' :: cs) (.symbol .comma :: tokens) :=
  lexes_single rfl (lexes_space rfl h)

/-- Behind what is not the quote stands the quote. -/
theorem eq_of_dropWhile_bne {quote close : Char} (h : cs.dropWhile (· != quote) = close :: rest) :
    close = quote := by
  have hhead := List.head?_dropWhile_not (· != quote) cs
  rw [h] at hhead
  simpa using hhead

/-- A literal is read up to the next quote of its kind. -/
theorem scanLiteral_append {quote : Char} {text : List Char} (ht : quote ∉ text)
    (rest : List Char) :
    ∃ s, scanLiteral quote (text ++ quote :: rest) = .ok s ∧ s.front = between quote text ∧
      s.token = .literal (String.ofList text) := by
  have hin : ∀ d ∈ text, (d != quote) = true :=
    fun d hd => bne_iff_ne.mpr (ne_of_mem_of_not_mem hd ht)
  have hfront : (text ++ quote :: rest).takeWhile (· != quote) = text := by
    rw [List.takeWhile_append_of_pos hin, List.takeWhile_cons_of_neg (by simp), List.append_nil]
  have hrest : (text ++ quote :: rest).dropWhile (· != quote) = quote :: rest := by
    rw [List.dropWhile_append_of_pos hin, List.dropWhile_cons_of_neg (by simp)]
  cases hs : scanLiteral quote (text ++ quote :: rest) with
  | error e =>
    unfold scanLiteral at hs
    dsimp only at hs
    split at hs
    next h => exact absurd (hrest.symm.trans h) (List.cons_ne_nil _ _)
    next => cases hs
  | ok s =>
    unfold scanLiteral at hs
    dsimp only at hs
    split at hs
    next => cases hs
    next close behind h =>
      obtain rfl := eq_of_dropWhile_bne h
      obtain rfl := Except.ok.inj hs
      refine ⟨_, rfl, ?_, congrArg (fun l => Token.literal (String.ofList l)) hfront⟩
      exact congrArg (fun l => close :: (l ++ [close])) hfront

/-- What is read as a literal stands between two quotes. -/
theorem front_of_scanLiteral {quote : Char} {s : Scan (quote :: cs)}
    (h : scanLiteral quote cs = .ok s) :
    ∃ text, quote ∉ text ∧ s.front = between quote text ∧
      s.token = .literal (String.ofList text) := by
  unfold scanLiteral at h
  dsimp only at h
  split at h
  next => cases h
  next close rest hrest =>
    obtain rfl := Except.ok.inj h
    obtain rfl := eq_of_dropWhile_bne hrest
    refine ⟨cs.takeWhile (· != close), fun hmem => ?_, rfl, rfl⟩
    have hne := List.mem_takeWhile_imp hmem
    simp at hne

theorem scan_quote (hq : c = '"' ∨ c = '\'') : scan afterOperand c cs = scanLiteral c cs := by
  rcases hq with rfl | rfl <;> rfl

/-- A literal between two quotes of a kind that it does not contain. -/
theorem lexes_literal {quote : Char} {text : List Char} (hq : quote = '"' ∨ quote = '\'')
    (ht : quote ∉ text) (h : Lexes true rest tokens) :
    Lexes afterOperand (between quote text ++ rest) (.literal (String.ofList text) :: tokens) := by
  obtain ⟨s, hs, hfront, htoken⟩ := scanLiteral_append ht rest
  have hbehind : s.rest = rest := by
    have happend : between quote text ++ s.rest = between quote text ++ rest := by
      rw [← hfront, s.append_eq, hfront, between]
      simp
    exact List.append_cancel_left happend
  have hspace : Text.isSpace quote = false := by
    rcases hq with rfl | rfl <;> decide
  rw [between, List.append_assoc]
  exact lexes_scan hspace ((scan_quote hq).trans hs) htoken hbehind h

theorem scan_of_beginsName (hc : beginsName c = true) :
    scan afterOperand c cs = .ok (scanName afterOperand c cs) := by
  have key : ∀ d, beginsName d = false → (c == d) = false :=
    fun d hd => beq_eq_false_iff_ne.mpr (ne_of_beginsName hc hd)
  unfold scan
  rw [singleSymbol?_eq_none_of_beginsName hc]
  simp only [key '"' (by decide), key '\'' (by decide), key '$' (by decide),
    isAsciiDigit_eq_false_of_beginsName hc, hc, Bool.or_self, Bool.false_eq_true, ↓reduceIte]

theorem cutLocalNameOrStar_of_endsName (h : endsName rest = true) :
    (cutLocalNameOrStar rest).front = [] ∧ (cutLocalNameOrStar rest).rest = rest := by
  unfold cutLocalNameOrStar cutLocalName
  split
  next => cases h
  next =>
    split
    next => cases h
    next => exact ⟨rfl, rfl⟩

/-- The longest name at the front of a text. -/
theorem scan_word (hw : isWord (c :: cs) = true) (hr : endsName rest = true) :
    ∃ s, scan afterOperand c (cs ++ rest) = .ok s ∧ s.front = c :: cs ∧ s.rest = rest ∧
      s.token = classifyName afterOperand (String.ofList (c :: cs)) rest := by
  rw [isWord, Bool.and_eq_true] at hw
  have hin : ∀ d ∈ cs, continuesName d = true := List.all_eq_true.mp hw.2
  have hfirst : (cs ++ rest).takeWhile continuesName = cs ∧
      (cs ++ rest).dropWhile continuesName = rest := by
    rw [List.takeWhile_append_of_pos hin, List.dropWhile_append_of_pos hin]
    cases rest with
    | nil => simp
    | cons d ds =>
      rw [endsName, Bool.and_eq_true, Bool.not_eq_true'] at hr
      rw [List.takeWhile_cons_of_neg (by simp [hr.1]),
        List.dropWhile_cons_of_neg (by simp [hr.1]), List.append_nil]
      exact ⟨rfl, rfl⟩
  have htail : (cutLocalNameOrStar rest).front = [] ∧ (cutLocalNameOrStar rest).rest = rest :=
    cutLocalNameOrStar_of_endsName hr
  have hfront : (scanName afterOperand c (cs ++ rest)).front = c :: cs := by
    show c :: ((cs ++ rest).takeWhile continuesName ++
      (cutLocalNameOrStar ((cs ++ rest).dropWhile continuesName)).front) = _
    rw [hfirst.1, hfirst.2, htail.1, List.append_nil]
  have hrest : (scanName afterOperand c (cs ++ rest)).rest = rest := by
    show (cutLocalNameOrStar ((cs ++ rest).dropWhile continuesName)).rest = _
    rw [hfirst.2, htail.2]
  refine ⟨_, scan_of_beginsName hw.1, hfront, hrest, ?_⟩
  show classifyName afterOperand (String.ofList (scanName afterOperand c (cs ++ rest)).front)
    (scanName afterOperand c (cs ++ rest)).rest = _
  rw [hfront, hrest]

theorem isSpace_eq_false_of_isWord (hw : isWord (c :: cs) = true) : Text.isSpace c = false := by
  rw [isWord, Bool.and_eq_true] at hw
  exact isSpace_eq_false_of_beginsName hw.1

theorem lexes_word {text : List Char} (ht : isWord text = true) (hr : endsName rest = true)
    (h : Lexes (classifyName afterOperand (String.ofList text) rest).endsOperand rest tokens) :
    Lexes afterOperand (text ++ rest)
      (classifyName afterOperand (String.ofList text) rest :: tokens) := by
  cases text with
  | nil => cases ht
  | cons c cs =>
    obtain ⟨s, hs, -, hrest, htoken⟩ := scan_word ht hr
    exact lexes_scan (isSpace_eq_false_of_isWord ht) hs htoken hrest h

/-- A name, of whatever kind it is before the text behind it. -/
theorem lexes_name {name : String} {token : Token} (hn : isWord name.toList = true)
    (hr : endsName rest = true) (hk : classifyName afterOperand name rest = token)
    (h : Lexes token.endsOperand rest tokens) :
    Lexes afterOperand (name.toList ++ rest) (token :: tokens) := by
  have hlex := @lexes_word afterOperand rest tokens _ hn hr
  rw [String.ofList_toList, hk] at hlex
  exact hlex h

end Tokens

/-! ## Names on their own -/

theorem classifyName_eq_name {afterOperand : Bool} {name found : String} {rest : List Char}
    (h : classifyName afterOperand found rest = .name name) : found = name := by
  unfold classifyName at h
  split at h
  · cases h
  · split at h
    · split at h <;> cases h
    · cases h
    · exact Token.name.inj h

theorem scanLiteral_ne_name {quote : Char} {cs : List Char} {s : Scan (quote :: cs)}
    {name : String} (hs : scanLiteral quote cs = .ok s) : s.token ≠ .name name := by
  obtain ⟨text, -, -, htoken⟩ := front_of_scanLiteral hs
  rw [htoken]
  exact Token.noConfusion

theorem scanVariable_ne_name {dollar : Char} {cs : List Char} {s : Scan (dollar :: cs)}
    {name : String} (hs : scanVariable dollar cs = .ok s) : s.token ≠ .name name := by
  unfold scanVariable at hs
  split at hs
  · cases hs
  · split at hs
    · obtain rfl := Except.ok.inj hs
      exact Token.noConfusion
    · cases hs

theorem scanNumber_ne_name {c : Char} {cs : List Char} {name : String} :
    (scanNumber c cs).token ≠ .name name := by
  unfold scanNumber
  split <;> exact Token.noConfusion

/-- Where a name is read, it is the front of the text, either `*` or what the characters of names
make up. -/
theorem front_of_scan {afterOperand : Bool} {c : Char} {cs : List Char} {s : Scan (c :: cs)}
    {name : String} (hs : scan afterOperand c cs = .ok s) (ht : s.token = .name name) :
    name.toList = s.front ∧
      (name = "*" ∨ beginsName c = true ∧ s = scanName afterOperand c cs) := by
  unfold scan at hs
  split at hs
  next =>
    obtain rfl := Except.ok.inj hs
    cases ht
  next =>
    split at hs
    next => exact absurd ht (scanLiteral_ne_name hs)
    split at hs
    next => exact absurd ht (scanVariable_ne_name hs)
    split at hs
    next =>
      obtain rfl := Except.ok.inj hs
      exact absurd ht scanNumber_ne_name
    split at hs
    next hc =>
      obtain rfl := Except.ok.inj hs
      refine ⟨?_, .inr ⟨hc, rfl⟩⟩
      rw [← classifyName_eq_name ht, String.toList_ofList]
      rfl
    split at hs
    next =>
      obtain rfl := Except.ok.inj hs
      cases afterOperand with
      | true => cases ht
      | false =>
        obtain rfl := Token.name.inj ht
        exact ⟨rfl, .inl rfl⟩
    -- What is left are symbols, and a number that begins with a point.
    all_goals try split at hs
    all_goals cases hs
    all_goals cases ht

theorem length_front_le {input : List Char} (cut : Cut input) :
    cut.front.length ≤ input.length := by
  have h := congrArg List.length cut.append_eq
  rw [List.length_append] at h
  omega

/-- No name is longer than the text that it is read from. -/
theorem length_le_of_lexFrom {position : Nat} {afterOperand : Bool} {input : List Char}
    {located : List Located} (h : lexFrom position afterOperand input = .ok located)
    {name : String} {p : Nat} (hmem : ⟨.name name, p⟩ ∈ located) :
    name.toList.length ≤ input.length := by
  fun_induction lexFrom position afterOperand input generalizing located with
  | case1 =>
    obtain rfl := Except.ok.inj h
    cases hmem
  | case2 position afterOperand c cs hc ih =>
    exact Nat.le_succ_of_le (ih h hmem)
  | case3 => cases h
  | case4 => cases h
  | case5 position afterOperand c cs hc s hs tokens hrest ih =>
    obtain rfl := Except.ok.inj h
    rcases List.mem_cons.mp hmem with he | hmem
    · rw [(front_of_scan hs (congrArg Located.token he).symm).1]
      exact length_front_le s.toCut
    · exact Nat.le_trans (ih hrest hmem) (Nat.le_of_lt s.length_rest_lt)

theorem cutLocalNameOrStar_front (input : List Char) :
    (cutLocalNameOrStar input).front = [] ∨ ':' ∈ (cutLocalNameOrStar input).front := by
  unfold cutLocalNameOrStar
  split
  · exact .inr List.mem_cons_self
  · unfold cutLocalName
    split
    · split
      · exact .inr List.mem_cons_self
      · exact .inl rfl
    · exact .inl rfl

/-- What is read as one name without a prefix is a name by its characters. -/
theorem isWord_of_tokenize {name : String} {position : Nat}
    (h : tokenize name = .ok [⟨.name name, position⟩]) (hstar : name ≠ "*")
    (hcolon : ':' ∉ name.toList) : isWord name.toList = true := by
  rw [tokenize] at h
  cases hn : name.toList with
  | nil =>
    rw [hn, lexFrom] at h
    cases h
  | cons c cs =>
    rw [hn, lexFrom] at h
    split at h
    next hc =>
      -- White space is no part of the name, so there is not enough left for it.
      have hle := length_le_of_lexFrom h List.mem_cons_self
      rw [hn, List.length_cons] at hle
      omega
    next hc =>
      cases hs : scan false c cs with
      | error e =>
        rw [hs] at h
        cases h
      | ok s =>
        rw [hs] at h
        dsimp only at h
        split at h
        next => cases h
        next tokens hrest =>
          obtain ⟨ht, -⟩ := List.cons.inj (Except.ok.inj h)
          obtain ⟨hfront, hkind⟩ := front_of_scan hs (congrArg Located.token ht)
          obtain ⟨hc, rfl⟩ := hkind.resolve_left hstar
          rw [hn] at hfront hcolon
          have hcut : cs = cs.takeWhile continuesName ++
              (cutLocalNameOrStar (cs.dropWhile continuesName)).front := (List.cons.inj hfront).2
          rcases cutLocalNameOrStar_front (cs.dropWhile continuesName) with hnone | hmem
          · rw [hnone, List.append_nil] at hcut
            have hall : (cs.takeWhile continuesName).all continuesName = true := List.all_takeWhile
            rw [← hcut] at hall
            rw [isWord, hc, hall, Bool.true_and]
          · refine absurd (List.mem_cons_of_mem c ?_) hcolon
            rw [hcut]
            exact List.mem_append_right _ hmem

end HtmlQuery
