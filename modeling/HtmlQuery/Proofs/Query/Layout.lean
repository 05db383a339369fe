import HtmlQuery.Proofs.Query.Exchange
import HtmlQuery.Proofs.Query.Rendering
import HtmlQuery.Proofs.Query.Spelling
import HtmlQuery.Query.Basic
import HtmlQuery.Proofs.Text.Blank

/-!
# White space between tokens

White space may be put before, between and behind the tokens of an expression, and made longer or
shorter where there is some, as long as it does not vanish between two tokens (`Piece.Respaced`).
The tokens stay what they are, each at its new place (`Piece.ReadBefore.respace`), the expression
stays what it is up to the positions of variables, or what is wrong with it stays the same, and so
does where a query starts.

Where a query starts is seen in the first characters that are not blank, in the wider sense of
`Text.isBlank`.  No token begins with such a character, so these are the first ones of the first
token.
-/

namespace HtmlQuery

/-! ## Pieces at other distances -/

namespace Piece

/-- Two pieces are the same token in the same spelling. -/
structure SameLexeme (p q : Piece) : Prop where
  lexeme_eq : q.lexeme = p.lexeme
  token_eq : q.token = p.token

/-- The same tokens in the same spellings, with white space between two of them wherever there was
some. -/
structure Respaced (ps qs : List Piece) : Prop where
  same : List.Forall₂ SameLexeme ps qs
  apart : List.Forall₂ (fun p q => p.gap ≠ [] → q.gap ≠ []) ps.tail qs.tail

section Pieces

variable {afterOperand : Bool} {p q : Piece} {ps qs : List Piece} {rest rest' : List Char}

theorem map_token_located (position : Nat) (ps : List Piece) :
    (located position ps).map (·.token) = ps.map (·.token) := by
  induction ps generalizing position with
  | nil => rfl
  | cons p ps ih => rw [located, List.map_cons, List.map_cons, ih]

theorem map_token_eq (h : List.Forall₂ SameLexeme ps qs) :
    qs.map (·.token) = ps.map (·.token) :=
  map_eq_of_forall₂ (h.imp fun _ _ hpq => hpq.token_eq)

/-- What is asked of the first spelling only. -/
theorem exists_head?_iff {P : List Char → Prop} (h : List.Forall₂ SameLexeme ps qs) :
    (∃ q ∈ qs.head?, P q.lexeme) ↔ ∃ p ∈ ps.head?, P p.lexeme := by
  cases h with
  | nil => exact Iff.rfl
  | cons h _ => simp [h.lexeme_eq]

/-- White space before a token ends where the token begins. -/
theorem dropWhile_gap {front : List Char} {token : Token}
    (h : Scans afterOperand front rest token) (p : Piece) (text : List Char) :
    (p.gap ++ (front ++ text)).dropWhile Text.isSpace = front ++ text := by
  obtain ⟨c, cs, rfl, hc, -⟩ := h
  rw [List.dropWhile_append_of_pos p.blank, List.cons_append,
    List.dropWhile_cons_of_neg (Bool.eq_false_iff.mp hc)]

/-- A token sees the same of the pieces behind it if the first of them is the same. -/
theorem looksLike_text (h : ReadBefore rest afterOperand (p :: ps)) (hsame : SameLexeme p q)
    (hapart : p.gap ≠ [] → q.gap ≠ []) (text' : List Char) :
    LooksLike ((p :: ps).flatMap text ++ rest) (q.text ++ text') := by
  have hscan := h.1
  rw [List.flatMap_cons, text, text, hsame.lexeme_eq, List.append_assoc, List.append_assoc,
    List.append_assoc]
  refine ⟨?_, ?_⟩
  · cases hgap : q.gap with
    | cons c cs =>
      refine .inl ?_
      rintro _ ⟨⟩
      exact q.blank c (hgap ▸ List.mem_cons_self)
    | nil =>
      have hgap' : p.gap = [] := by
        by_contra hne
        exact hapart hne hgap
      rw [hgap', List.nil_append, List.nil_append]
      exact .inr (hscan.beginAlike _ _)
  · rw [dropWhile_gap hscan, dropWhile_gap hscan]
    exact hscan.beginAlike _ _

/-- Pieces at other distances are read before another rest if the last of them is. -/
theorem ReadBefore.respace (h : ReadBefore rest afterOperand ps) (hr : Respaced ps qs)
    (hlast : ∀ afterOperand, ∀ p ∈ ps.getLast?, Scans afterOperand p.lexeme rest p.token →
      Scans afterOperand p.lexeme rest' p.token) : ReadBefore rest' afterOperand qs := by
  obtain ⟨hsame, hapart⟩ := hr
  induction hsame generalizing afterOperand with
  | nil => trivial
  | @cons p q ps qs hpq hsame ih =>
    obtain ⟨hscan, hread⟩ := h
    rw [List.tail_cons, List.tail_cons] at hapart
    rw [ReadBefore, hpq.lexeme_eq, hpq.token_eq]
    cases hsame with
    | nil => exact ⟨hlast _ p rfl hscan, trivial⟩
    | @cons p₂ q₂ ps qs hpq₂ hsame =>
      rw [List.forall₂_cons] at hapart
      refine ⟨hscan.congr ?_, ih hread (fun afterOperand p hp => ?_) hapart.2⟩
      · rw [List.flatMap_cons (x := q₂), List.append_assoc]
        exact looksLike_text hread hpq₂ hapart.1 _
      · exact hlast afterOperand p (by rwa [List.getLast?_cons_cons])

/-- Whether the last of some pieces ends an operand. -/
def endsOperand (afterOperand : Bool) (ps : List Piece) : Bool :=
  ps.foldl (fun _ p => p.token.endsOperand) afterOperand

/-- Pieces are read, each as its token, and then what stands behind them. -/
theorem ReadBefore.lexFrom_eq (h : ReadBefore rest afterOperand ps) (position : Nat) :
    lexFrom position afterOperand (ps.flatMap text ++ rest) =
      (lexFrom (position + byteLength (ps.flatMap text)) (endsOperand afterOperand ps) rest).map
        (located position ps ++ ·) := by
  induction ps generalizing position afterOperand with
  | nil =>
    show lexFrom position afterOperand rest = (lexFrom position afterOperand rest).map _
    rcases lexFrom position afterOperand rest with _ | _ <;> rfl
  | cons p ps ih =>
    obtain ⟨hscan, hread⟩ := h
    rw [List.flatMap_cons, List.append_assoc, text, List.append_assoc, lexFrom_space p.blank,
      hscan.lexFrom_eq, ih hread, byteLength_append, byteLength_append, located, text,
      byteLength_append]
    simp only [Nat.add_assoc]
    show _ = (lexFrom _ (endsOperand p.token.endsOperand ps) rest).map _
    rcases lexFrom _ (endsOperand p.token.endsOperand ps) rest with _ | _ <;> rfl

end Pieces

/-! ## The pieces of a text -/

/-- A text consists of pieces and white space behind them, and the tokens stand where the pieces
have them. -/
structure LayOut (pieces : List Piece) (last : List Char) (text : String) (tokens : List Located) :
    Prop where
  text_eq : text.toList = pieces.flatMap Piece.text ++ last
  blank : ∀ c ∈ last, Text.isSpace c = true
  located_eq : located 0 pieces = tokens

section Unique

variable {p q : Piece} {ps qs : List Piece} {d : Char} {ds lexeme last last' : List Char}
  {position : Nat}

/-- Only a number is spelled by a text and a longer one, and what is longer is no white space. -/
theorem isSpace_eq_false_of_isSpelledBy {token : Token} (h : token.IsSpelledBy lexeme)
    (h' : token.IsSpelledBy (lexeme ++ d :: ds)) : Text.isSpace d = false := by
  have hlonger : (lexeme ++ d :: ds).length ≠ lexeme.length := by simp
  cases token with
  | number value =>
    obtain ⟨n, hn, -⟩ := h'
    exact isSpace_eq_false_of_unsignedNumber? hn d (by simp)
  | literal text =>
    obtain ⟨quote, -, -, rfl⟩ := h
    obtain ⟨quote', -, -, hquote'⟩ := h'
    refine absurd ?_ hlonger
    rw [hquote']
    simp [between]
  | symbol _ | name _ | «variable» _ | function _ | nodeType _ | axis _ =>
    exact absurd (congrArg List.length (h'.trans h.symm)) hlonger

theorem eq_of_byteLength_eq {front front' rest rest' : List Char}
    (h : front ++ rest = front' ++ rest') (hbytes : byteLength front = byteLength front') :
    front = front' ∧ rest = rest' := by
  have hnil : ∀ {more : List Char} {n : Nat}, n = n + byteLength more → more = [] := by
    intro more n hmore
    by_contra hne
    have := byteLength_pos hne
    omega
  obtain ⟨more, rfl, rfl⟩ | ⟨more, rfl, rfl⟩ := List.append_eq_append_iff.mp h
  · rw [byteLength_append] at hbytes
    simp [hnil hbytes]
  · rw [byteLength_append] at hbytes
    simp [hnil hbytes.symm]

/-- Pieces do not begin before others with the same positions, unless with white space. -/
theorem not_before {start start' : Nat} {more : List Char} (hd : Text.isSpace d = false)
    (hstart : start < start') (htext : ps.flatMap text ++ last = d :: more)
    (hlast : ∀ c ∈ last, Text.isSpace c = true) (hlocated : located start ps = located start' qs) :
    False := by
  have hspace : Text.isSpace d = true := by
    cases ps with
    | nil => exact hlast d (by rw [show last = d :: more from htext]; exact List.mem_cons_self)
    | cons p ps =>
      cases qs with
      | nil => cases hlocated
      | cons q qs =>
        have hposition : start + byteLength p.gap = start' + byteLength q.gap :=
          congrArg Located.position (List.cons.inj hlocated).1
        cases hgap : p.gap with
        | nil =>
          rw [hgap, byteLength_nil] at hposition
          omega
        | cons c cs =>
          rw [List.flatMap_cons, text, hgap] at htext
          obtain rfl := (List.cons.inj htext).1
          exact p.blank c (hgap ▸ List.mem_cons_self)
  rw [hd] at hspace
  cases hspace

/-- A piece is not shorter than another one in its place, what follows being pieces in the places of
others too. -/
theorem not_shorter {more : List Char} (hgap : p.gap = q.gap) (htoken : p.token = q.token)
    (hlexeme : q.lexeme = p.lexeme ++ d :: ds) (htext : ps.flatMap text ++ last = d :: ds ++ more)
    (hlast : ∀ c ∈ last, Text.isSpace c = true)
    (hlocated : located (position + byteLength p.text) ps =
      located (position + byteLength q.text) qs) : False := by
  have hspelled := q.spelled
  rw [hlexeme, ← htoken] at hspelled
  have hd := isSpace_eq_false_of_isSpelledBy p.spelled hspelled
  have hpos := byteLength_pos (List.cons_ne_nil d ds)
  refine not_before hd ?_ htext hlast hlocated
  rw [text, text, hgap, hlexeme, byteLength_append, byteLength_append, byteLength_append]
  omega

/-- The pieces of a text are known from where its tokens stand. -/
theorem eq_of_located_eq (htext : ps.flatMap text ++ last = qs.flatMap text ++ last')
    (hlast : ∀ c ∈ last, Text.isSpace c = true) (hlast' : ∀ c ∈ last', Text.isSpace c = true)
    (hlocated : located position ps = located position qs) : ps = qs ∧ last = last' := by
  induction ps generalizing qs position with
  | nil =>
    cases qs with
    | nil => exact ⟨rfl, htext⟩
    | cons => cases hlocated
  | cons p ps ih =>
    cases qs with
    | nil => cases hlocated
    | cons q qs =>
      obtain ⟨hfirst, hrest⟩ := List.cons.inj hlocated
      obtain ⟨htoken, hposition⟩ := Located.mk.inj hfirst
      rw [List.flatMap_cons, List.flatMap_cons, text, text, List.append_assoc, List.append_assoc,
        List.append_assoc, List.append_assoc] at htext
      obtain ⟨hgap, htext⟩ := eq_of_byteLength_eq htext (Nat.add_left_cancel hposition)
      have hlexeme : p.lexeme = q.lexeme := by
        obtain ⟨more, hmore, hbehind⟩ | ⟨more, hmore, hbehind⟩ := List.append_eq_append_iff.mp htext
        · cases more with
          | nil => rw [hmore, List.append_nil]
          | cons d ds => exact (not_shorter hgap htoken hmore hbehind hlast hrest).elim
        · cases more with
          | nil => rw [hmore, List.append_nil]
          | cons d ds =>
            exact (not_shorter hgap.symm htoken.symm hmore hbehind hlast' hrest.symm).elim
      rw [text, text, hgap, hlexeme] at hrest
      obtain ⟨rfl, rfl⟩ := ih (List.append_cancel_left (hlexeme ▸ htext)) hrest
      obtain ⟨gap, lexeme, token, _, _, _⟩ := p
      obtain ⟨gap', lexeme', token', _, _, _⟩ := q
      subst hgap hlexeme htoken
      exact ⟨rfl, rfl⟩

end Unique

/-- Every text that is read has its pieces, each of which is read where it stands. -/
theorem exists_layOut {text : String} {tokens : List Located} (h : tokenize text = .ok tokens) :
    ∃ pieces last, LayOut pieces last text tokens ∧ ReadBefore last false pieces := by
  obtain ⟨pieces, last, htext, hlast, hlocated, hread⟩ := exists_pieces h
  exact ⟨pieces, last, ⟨htext, hlast, hlocated⟩, hread⟩

theorem LayOut.readBefore {pieces : List Piece} {last : List Char} {text : String}
    {tokens : List Located} (h : LayOut pieces last text tokens) (ht : tokenize text = .ok tokens) :
    ReadBefore last false pieces := by
  obtain ⟨pieces', last', h', hread⟩ := exists_layOut ht
  obtain ⟨rfl, rfl⟩ := eq_of_located_eq (h.text_eq.symm.trans h'.text_eq) h.blank h'.blank
    (h.located_eq.trans h'.located_eq.symm)
  exact hread

/-- Pieces are read as their tokens, and white space behind them as nothing. -/
theorem ReadBefore.lexFrom_last {pieces : List Piece} {last : List Char} {afterOperand : Bool}
    (h : ReadBefore last afterOperand pieces) (hlast : ∀ c ∈ last, Text.isSpace c = true)
    (position : Nat) :
    lexFrom position afterOperand (pieces.flatMap text ++ last) =
      .ok (located position pieces) := by
  have hnone : ∀ position afterOperand, lexFrom position afterOperand (last ++ []) = .ok [] :=
    fun position afterOperand => (lexFrom_space hlast position).trans (by rw [lexFrom])
  rw [List.append_nil] at hnone
  rw [h.lexFrom_eq, hnone]
  exact congrArg Except.ok (List.append_nil _)

theorem ReadBefore.tokenize_eq {pieces : List Piece} {last : List Char}
    (h : ReadBefore last false pieces) (hlast : ∀ c ∈ last, Text.isSpace c = true) :
    tokenize (String.ofList (pieces.flatMap Piece.text ++ last)) = .ok (located 0 pieces) := by
  rw [tokenize, String.toList_ofList, h.lexFrom_last hlast]

/-- Before white space or the end every token is read as it is before other white space. -/
theorem ReadBefore.respace_last {ps qs : List Piece} {last last' : List Char}
    (h : ReadBefore last false ps) (hr : Respaced ps qs)
    (hlast : ∀ c ∈ last, Text.isSpace c = true) (hlast' : ∀ c ∈ last', Text.isSpace c = true) :
    ReadBefore last' false qs := by
  refine h.respace hr fun afterOperand p _ hscan => hscan.congr ⟨.inl fun c hc => ?_, ?_⟩
  · exact hlast' c (List.mem_of_mem_head? hc)
  · rw [List.dropWhile_eq_nil_iff.mpr hlast, List.dropWhile_eq_nil_iff.mpr hlast']
    trivial

end Piece

/-! ## Where a query starts -/

theorem isBlank_eq_false_of_spelling {symbol : Symbol} {c : Char} {cs : List Char}
    (h : symbol.spelling.toList = c :: cs) : Text.isBlank c = false := by
  cases symbol
  all_goals
    obtain rfl : _ = c := (List.cons.inj h).1
    decide

section First

variable {afterOperand : Bool} {c : Char} {cs rest last : List Char} {token : Token}
  {pieces : List Piece}

/-- No token begins with a blank. -/
theorem isBlank_eq_false_of_scans (h : Scans afterOperand (c :: cs) rest token) :
    Text.isBlank c = false := by
  obtain ⟨_, _, ⟨⟩, -, s, hs, hfront, -⟩ := h
  rw [Bool.eq_false_iff]
  intro hblank
  obtain ⟨symbol, -, hspelling⟩ | ⟨rfl | rfl, -⟩ | ⟨rfl, -⟩ | ⟨hbegin, -⟩ | ⟨hname, -⟩ |
    ⟨rfl, -⟩ := scan_cases hs
  · rw [isBlank_eq_false_of_spelling (hspelling.symm.trans hfront)] at hblank
    cases hblank
  · exact absurd hblank (by decide)
  · exact absurd hblank (by decide)
  · exact absurd hblank (by decide)
  · rcases hbegin.digit_or_point with hdigit | rfl
    · rw [Text.isAsciiDigit_of_isBlank hblank] at hdigit
      cases hdigit
    · exact absurd hblank (by decide)
  · have hc : c ≠ '_' := by
      rintro rfl
      exact absurd hblank (by decide)
    rw [beginsName, Text.isAlphabetic_of_isBlank hblank, Bool.false_or, beq_iff_eq] at hname
    exact hc hname
  · exact absurd hblank (by decide)

/-- A token that begins with a slash is two of them, or it is one and no other one comes next. -/
theorem slash_of_scans (h : Scans afterOperand ('/' :: cs) rest token) :
    cs = ['/'] ∨ cs = [] ∧ rest.head? ≠ some '/' := by
  obtain ⟨_, _, ⟨⟩, -, s, hs, hfront, -⟩ := h
  by_cases hnext : (cs ++ rest).head? = some '/'
  · obtain ⟨ds, hds⟩ := List.head?_eq_some_iff.mp hnext
    refine .inl ?_
    have htwo : ∀ {input} {s : Scan ('/' :: input)}, scan afterOperand '/' input = .ok s →
        input = '/' :: ds → s.front = ['/', '/'] := by
      rintro _ s hs rfl
      cases hs
      rfl
    exact (List.cons.inj (hfront.symm.trans (htwo hs hds))).2
  · have hother : ∀ d ∈ (cs ++ rest).head?, (d == '/') = false :=
      fun d hd => beq_eq_false_iff_ne.mpr fun he => hnext (he ▸ hd)
    have hone : scan afterOperand '/' (cs ++ rest) = .ok (.one '/' (cs ++ rest) (.symbol .slash)) :=
      scan_shortSymbol (by decide) hother
    obtain rfl := Except.ok.inj (hone.symm.trans hs)
    obtain rfl := (List.cons.inj hfront).2
    exact .inr ⟨rfl, hnext⟩

/-- A query starts where it is asked if its first token begins with a point or is `//`. -/
theorem origin_of_readBefore (h : Piece.ReadBefore last false pieces)
    (hlast : ∀ c ∈ last, Text.isSpace c = true) :
    Origin.of (String.ofList (pieces.flatMap Piece.text ++ last)) = .here ↔
      ∃ p ∈ pieces.head?, p.lexeme.head? = some '.' ∨ p.lexeme = ['/', '/'] := by
  rw [Origin.of, String.toList_ofList]
  cases pieces with
  | nil =>
    have hnone : last.dropWhile Text.isBlank = [] :=
      List.dropWhile_eq_nil_iff.mpr fun c hc => Text.isBlank_of_isSpace (hlast c hc)
    simp [hnone]
  | cons p ps =>
    obtain ⟨c, cs, hlexeme, -⟩ := id h.1
    have hscan := h.1
    rw [hlexeme] at hscan
    have hfirst : ((p :: ps).flatMap Piece.text ++ last).dropWhile Text.isBlank =
        c :: (cs ++ (ps.flatMap Piece.text ++ last)) := by
      rw [List.flatMap_cons, Piece.text, hlexeme, List.append_assoc, List.append_assoc,
        List.dropWhile_append_of_pos fun d hd => Text.isBlank_of_isSpace (p.blank d hd)]
      exact List.dropWhile_cons_of_neg (Bool.eq_false_iff.mp (isBlank_eq_false_of_scans hscan))
    rw [hfirst]
    simp only [List.head?_cons, Option.mem_def, Option.some.injEq, exists_eq_left', hlexeme]
    by_cases hpoint : c = '.'
    · subst hpoint
      simp
    by_cases hslash : c = '/'
    · subst hslash
      obtain rfl | ⟨rfl, hnext⟩ := slash_of_scans hscan
      · simp
      · rw [List.nil_append]
        generalize ps.flatMap Piece.text ++ last = text at hnext
        cases text with
        | nil => simp
        | cons d ds =>
          have hd : d ≠ '/' := fun he => hnext (congrArg some he)
          simp [hd]
    · simp [hpoint, hslash]

theorem origin_eq_of_iff {o o' : Origin} (h : o = .here ↔ o' = .here) : o = o' := by
  cases o <;> cases o' <;> simp_all

end First

/-! ## The tree of an expression -/

theorem map_erase_steps {ss ss' : List Step}
    (h : List.Forall₂ (Step.Alike fun e e' => e'.erase = e.erase) ss ss') :
    ss'.map Step.erase = ss.map Step.erase := by
  refine map_eq_of_forall₂ (h.imp fun s s' hs => ?_)
  obtain ⟨axis, test, hes⟩ := hs
  rw [Step.erase, Step.erase, map_eq_of_forall₂ hes]

/-- Expressions are the same up to the positions of variables if their parts are. -/
theorem congruence_erase : Expr.Congruence fun e e' => e'.erase = e.erase where
  number _ := rfl
  literal _ := rfl
  anyVariable _ _ _ := by rw [Expr.erase, Expr.erase]
  binary _ _ _ _ _ hl hr := by rw [Expr.erase, Expr.erase, hl, hr]
  negate he := by rw [Expr.erase, Expr.erase, he]
  call _ _ _ hes := by rw [Expr.erase, Expr.erase, map_eq_of_forall₂ hes]
  union hl hr := by rw [Expr.erase, Expr.erase, hl, hr]
  path _ _ _ hss := by rw [Expr.erase, Expr.erase, map_erase_steps hss]
  filter he hes hss := by
    rw [Expr.erase, Expr.erase, he, map_eq_of_forall₂ hes, map_erase_steps hss]

namespace Parser

theorem exchanges_nothing {alike : Expr → Expr → Prop} (h : Expr.Congruence alike) :
    Exchanges (fun _ _ => False) alike where
  congruence := h
  begins := nofun
  reads := nofun

theorem Matched.behind {swaps : List Token → List Token → Prop}
    {tokens tokens' rest rest' : List Located}
    (h : tokens'.map (·.token) = tokens.map (·.token)) (hrest : Matched swaps rest rest') :
    Matched swaps (tokens ++ rest) (tokens' ++ rest') := by
  induction tokens generalizing tokens' with
  | nil =>
    rw [List.map_nil, List.map_eq_nil_iff] at h
    rw [h]
    exact hrest
  | cons t tokens ih =>
    obtain ⟨t', tokens', rfl, ht, htokens⟩ := List.map_eq_cons_iff.mp h
    obtain ⟨token, position⟩ := t
    obtain ⟨token', position'⟩ := t'
    obtain rfl : token' = token := ht
    exact .cons token' position position' (ih htokens)

theorem matched_of_map_eq {swaps : List Token → List Token → Prop} {tokens tokens' : List Located}
    (h : tokens'.map (·.token) = tokens.map (·.token)) : Matched swaps tokens tokens' := by
  have hmatched : Matched swaps (tokens ++ []) (tokens' ++ []) := .behind h .nil
  rwa [List.append_nil, List.append_nil] at hmatched

end Parser

/-- White space between tokens does not matter.  Every text that is read consists of the spellings
of its tokens with white space around them.  Wherever there is white space between two of them, let
there be some, and anywhere else let there be any or none.  Then the text is read as the same
tokens, each where its spelling stands now.  The same expression is made of them, up to the
positions of variables, or the same fault is found in them, and a query starts at the same node: at
the one that it is asked of if the first token begins with a point or is `//`. -/
theorem respaced_reads_alike {text : String} {tokens : List Located}
    (h : tokenize text = .ok tokens) :
    (∃ pieces last, Piece.LayOut pieces last text tokens) ∧
    ∀ pieces last, Piece.LayOut pieces last text tokens →
      ∀ respaced last', Piece.Respaced pieces respaced → (∀ c ∈ last', Text.isSpace c = true) →
        let text' := String.ofList (respaced.flatMap Piece.text ++ last')
        tokenize text' = .ok (Piece.located 0 respaced) ∧
        (Piece.located 0 respaced).map (·.token) = tokens.map (·.token) ∧
        (∀ e, Expr.parse text = .ok e →
          ∃ e', Expr.parse text' = .ok e' ∧ e'.erase = e.erase) ∧
        (∀ e, Expr.parse text = .error e →
          ∃ e', Expr.parse text' = .error e' ∧ e'.fault = e.fault) ∧
        Origin.of text' = Origin.of text ∧
        (Origin.of text = .here ↔
          ∃ p ∈ pieces.head?, p.lexeme.head? = some '.' ∨ p.lexeme = ['/', '/']) := by
  refine ⟨(Piece.exists_layOut h).imp fun _ => Exists.imp fun _ => And.left, ?_⟩
  intro pieces last hlay respaced last' hr hlast' text'
  have hread := hlay.readBefore h
  have hread' := hread.respace_last hr hlay.blank hlast'
  have htokens' : tokenize text' = .ok (Piece.located 0 respaced) := hread'.tokenize_eq hlast'
  have hsame : (Piece.located 0 respaced).map (·.token) = tokens.map (·.token) := by
    rw [← hlay.located_eq, Piece.map_token_located, Piece.map_token_located,
      Piece.map_token_eq hr.same]
  have hparse : Expr.parse text = Expr.ofTokens tokens text.utf8ByteSize := by
    rw [Expr.parse, h]
    rfl
  have hparse' : Expr.parse text' =
      Expr.ofTokens (Piece.located 0 respaced) text'.utf8ByteSize := by
    rw [Expr.parse, htokens']
    rfl
  obtain ⟨hok, herror⟩ := Expr.ofTokens_congr (Parser.exchanges_nothing congruence_erase)
    (Parser.matched_of_map_eq hsame) text.utf8ByteSize text'.utf8ByteSize
  have horigin := origin_of_readBefore hread hlay.blank
  have horigin' := origin_of_readBefore hread' hlast'
  rw [← hlay.text_eq, String.ofList_toList] at horigin
  have hfirst := Piece.exists_head?_iff
    (P := fun lexeme => lexeme.head? = some '.' ∨ lexeme = ['/', '/']) hr.same
  refine ⟨htokens', hsame, hparse ▸ hparse' ▸ hok, ?_, ?_, horigin⟩
  · rw [hparse, hparse']
    intro e he
    exact (herror e he).resolve_left nofun
  · exact origin_eq_of_iff ((horigin'.trans hfirst).trans horigin.symm)

theorem respaced_reads_alike_child :
    let axis := fun (gap : List Char) (hgap : gap.all Text.isSpace = true) =>
      Piece.mk gap "child".toList (.axis "child") (List.all_eq_true.mp hgap) rfl (by decide)
    let colons := fun (gap : List Char) (hgap : gap.all Text.isSpace = true) =>
      Piece.mk gap "::".toList (.symbol .colonColon) (List.all_eq_true.mp hgap) rfl (by decide)
    let name := fun (gap : List Char) (hgap : gap.all Text.isSpace = true) =>
      Piece.mk gap "a".toList (.name "a") (List.all_eq_true.mp hgap) rfl (by decide)
    let pieces := [axis [] rfl, colons [' '] rfl, name [] rfl]
    let respaced := [axis ['\n'] rfl, colons ['\t', ' '] rfl, name [' '] rfl]
    let tokens := [⟨.axis "child", 0⟩, ⟨.symbol .colonColon, 6⟩, ⟨.name "a", 8⟩]
    let e := Expr.path false [.mk .child (.name "a") []]
    tokenize "child ::a" = .ok tokens ∧ Piece.LayOut pieces [] "child ::a" tokens ∧
      Piece.Respaced pieces respaced ∧ Expr.parse "child ::a" = .ok e ∧
      tokenize "\nchild\t :: a\r" = .ok (Piece.located 0 respaced) ∧
      (∃ e', Expr.parse "\nchild\t :: a\r" = .ok e' ∧ e'.erase = e.erase) ∧
      Origin.of "\nchild\t :: a\r" = Origin.of "child ::a" := by
  intro axis colons name pieces respaced tokens e
  have htokens : tokenize "child ::a" = .ok tokens := by cbv
  have hlay : Piece.LayOut pieces [] "child ::a" tokens := ⟨rfl, List.forall_mem_nil _, rfl⟩
  have hr : Piece.Respaced pieces respaced := by
    refine ⟨.cons ⟨rfl, rfl⟩ (.cons ⟨rfl, rfl⟩ (.cons ⟨rfl, rfl⟩ .nil)), ?_⟩
    exact .cons (fun _ => List.cons_ne_nil _ _) (.cons (fun _ => List.cons_ne_nil _ _) .nil)
  have hparse : Expr.parse "child ::a" = .ok e := by cbv
  obtain ⟨htokens', -, hok, -, horigin, -⟩ :=
    (respaced_reads_alike htokens).2 pieces [] hlay respaced ['\r'] hr (by simp [Text.isSpace])
  exact ⟨htokens, hlay, hr, hparse, htokens', hok e hparse, horigin⟩

end HtmlQuery
