import HtmlQuery.Proofs.Query.Bytes
import HtmlQuery.Proofs.Query.Lexing

/-!
# What a token owes to the text behind it

A token is as long as it can be, and what kind of a name a name is hangs on the next character that
is not white space.  So the text behind a token matters, but little of it does.  `LooksLike` says
that two texts are alike in what a token behind which they stand can see of them, or that the second
one begins with white space where the first does not, and `Scans.congr` says that the token is the
same behind which they stand.

White space may so be put between any two tokens, and none that stands there may be taken away:
`1 .` is a number and a point, and `1.` is a number.
-/

namespace HtmlQuery

/-! ## Texts that look alike -/

/-- Two texts begin with the same character, and after a colon with the same two, or both are
empty. -/
def BeginAlike : List Char → List Char → Prop
  | [], [] => True
  | c :: cs, d :: ds => c = d ∧ (c = ':' → cs.head? = ds.head?)
  | _, _ => False

/-- A text is empty or begins with white space. -/
def Pauses (text : List Char) : Prop :=
  ∀ c ∈ text.head?, Text.isSpace c = true

/-- A token before `rest` sees nothing else if `rest'` stands there. -/
structure LooksLike (rest rest' : List Char) : Prop where
  /-- The same comes next, or the second text pauses. -/
  near : Pauses rest' ∨ BeginAlike rest rest'
  /-- Behind white space the same comes next. -/
  far : BeginAlike (rest.dropWhile Text.isSpace) (rest'.dropWhile Text.isSpace)

section Characters

variable {rest rest' front : List Char} {p : Char → Bool}

theorem BeginAlike.refl (text : List Char) : BeginAlike text text := by
  cases text with
  | nil => trivial
  | cons => exact ⟨rfl, fun _ => rfl⟩

theorem BeginAlike.head?_eq (h : BeginAlike rest rest') : rest.head? = rest'.head? := by
  cases rest <;> cases rest'
  · rfl
  · exact h.elim
  · exact h.elim
  · exact congrArg some h.1

theorem ne_of_isSpace {c d : Char} (h : Text.isSpace c = true) (hd : Text.isSpace d = false) :
    (c == d) = false := by
  rw [beq_eq_false_iff_ne]
  rintro rfl
  rw [h] at hd
  cases hd

/-- What does not come next does not come next in a text that looks alike, white space apart. -/
theorem LooksLike.not_next (h : LooksLike rest rest')
    (hp : ∀ c, Text.isSpace c = true → p c = false) (hrest : ∀ c ∈ rest.head?, p c = false) :
    ∀ c ∈ rest'.head?, p c = false := by
  intro c hc
  rcases h.near with hpause | halike
  · exact hp c (hpause c hc)
  · exact hrest c (halike.head?_eq ▸ hc)

/-- A character that does not come next does not come next in a text that looks alike. -/
theorem LooksLike.not_next_beq {d : Char} (h : LooksLike rest rest') (hd : Text.isSpace d = false)
    (hrest : ∀ ds, rest = d :: ds → False) : ∀ c ∈ rest'.head?, (c == d) = false := by
  refine h.not_next (p := (· == d)) (fun _ hc => ne_of_isSpace hc hd) fun c hc => ?_
  obtain ⟨ds, hds⟩ := List.head?_eq_some_iff.mp hc
  rw [beq_eq_false_iff_ne]
  rintro rfl
  exact hrest ds hds

theorem takeWhile_append_of_not_next (hin : ∀ c ∈ front, p c = true)
    (hrest : ∀ c ∈ rest.head?, p c = false) :
    (front ++ rest).takeWhile p = front ∧ (front ++ rest).dropWhile p = rest := by
  rw [List.takeWhile_append_of_pos hin, List.dropWhile_append_of_pos hin]
  cases rest with
  | nil => simp
  | cons c cs =>
    have hc : ¬p c = true := Bool.eq_false_iff.mp (hrest c rfl)
    simp [List.takeWhile_cons_of_neg hc, List.dropWhile_cons_of_neg hc]

theorem not_next_dropWhile (p : Char → Bool) (input : List Char) :
    ∀ c ∈ (input.dropWhile p).head?, p c = false := by
  intro c hc
  have hhead := List.head?_dropWhile_not p input
  rw [Option.mem_def.mp hc] at hhead
  simpa using hhead

theorem continuesName_of_isSpace {c : Char} (h : Text.isSpace c = true) :
    continuesName c = false := by
  simp only [Text.isSpace, Bool.or_eq_true, beq_iff_eq] at h
  rcases h with ((rfl | rfl) | rfl) | rfl <;> decide

theorem isAsciiDigit_of_isSpace {c : Char} (h : Text.isSpace c = true) :
    Text.isAsciiDigit c = false := by
  simp only [Text.isSpace, Bool.or_eq_true, beq_iff_eq] at h
  rcases h with ((rfl | rfl) | rfl) | rfl <;> decide

end Characters

/-! ## Cuts -/

/-- What is cut off a text is cut off its own front if a text that looks like what is left stands
behind it. -/
def Keeps (cut : (input : List Char) → Cut input) : Prop :=
  ∀ input rest', LooksLike (cut input).rest rest' →
    (cut ((cut input).front ++ rest')).front = (cut input).front

section Cuts

variable {p : Char → Bool} {tail : (input : List Char) → Cut input} {input rest' : List Char}

theorem Cut.rest_eq_of_front_eq {front rest : List Char} {cut : Cut (front ++ rest)}
    (h : cut.front = front) : cut.rest = rest :=
  List.append_cancel_left (h ▸ cut.append_eq)

theorem keeps_cutWhile (hp : ∀ c, Text.isSpace c = true → p c = false) : Keeps (cutWhile p) :=
  fun input _ h => (takeWhile_append_of_not_next (fun _ hc => List.mem_takeWhile_imp hc)
    (h.not_next hp (not_next_dropWhile p input))).1

/-- A longest front and then something that begins with none of its characters, both cut off
again. -/
theorem takeWhile_and_tail {front : List Char} (hp : ∀ c, Text.isSpace c = true → p c = false)
    (ht : Keeps tail) (hbegin : ∀ input, ∀ c ∈ (tail input).front.head?, p c = false)
    (hfront : (tail (input.dropWhile p)).front = front)
    (h : LooksLike (tail (input.dropWhile p)).rest rest') :
    (input.takeWhile p ++ (front ++ rest')).takeWhile p = input.takeWhile p ∧
      (input.takeWhile p ++ (front ++ rest')).dropWhile p = front ++ rest' ∧
      (tail (front ++ rest')).front = front := by
  have hnext : ∀ c ∈ (front ++ rest').head?, p c = false := by
    cases front with
    | nil =>
      -- Nothing more was cut off, so what is left is what the longest front left.
      have hrest : (tail (input.dropWhile p)).rest = input.dropWhile p := by
        have happend := (tail (input.dropWhile p)).append_eq
        rwa [hfront, List.nil_append] at happend
      rw [hrest] at h
      exact h.not_next hp (not_next_dropWhile p input)
    | cons c cs =>
      rintro _ ⟨⟩
      exact hbegin (input.dropWhile p) c (by rw [hfront]; rfl)
  obtain ⟨htake, hdrop⟩ := takeWhile_append_of_not_next
    (fun _ hc => List.mem_takeWhile_imp (p := p) (l := input) hc) hnext
  exact ⟨htake, hdrop, hfront ▸ ht _ _ h⟩

theorem continuesName_of_beginsName {c : Char} (h : beginsName c = true) :
    continuesName c = true := by
  rw [continuesName]
  rcases Nat.lt_or_ge c.toNat 0x80 with hlt | hge
  · rw [beginsName, Text.isAlphabetic, if_pos hlt, Bool.or_eq_true] at h
    rcases h with h | h
    · simp [Char.isAlphanum, h]
    · simp [h]
  · rw [decide_eq_true hge, Bool.or_true]

theorem continuesName_of_beginsLocalName {c : Char} (h : beginsLocalName c = true) :
    continuesName c = true := by
  simp only [beginsLocalName, continuesName, Char.isAlphanum, Bool.or_eq_true] at h ⊢
  tauto

/-- A text that looks alike begins with no colon and character of a class either. -/
theorem LooksLike.not_behind_colon {rest rest' : List Char} {q : Char → Bool}
    (h : LooksLike rest rest') (hrest : ∀ d ds, rest = ':' :: d :: ds → q d = false) :
    ∀ d ds, rest' = ':' :: d :: ds → q d = false := by
  rintro d ds rfl
  rcases h.near with hpause | halike
  · exact absurd (hpause ':' rfl) (by decide)
  · match rest with
    | [] => exact halike.elim
    | c :: cs =>
      obtain ⟨rfl, hcs⟩ := halike
      obtain ⟨es, rfl⟩ := List.head?_eq_some_iff.mp (hcs rfl)
      exact hrest d es rfl

theorem cutLocalName_of_begins {d : Char} (hd : beginsLocalName d = true) (ds : List Char) :
    (cutLocalName (':' :: d :: ds)).front = ':' :: d :: ds.takeWhile continuesName ∧
      (cutLocalName (':' :: d :: ds)).rest = ds.dropWhile continuesName := by
  have hc := continuesName_of_beginsLocalName hd
  rw [cutLocalName, if_pos hd]
  exact ⟨congrArg (List.cons ':') (List.takeWhile_cons_of_pos hc), List.dropWhile_cons_of_pos hc⟩

theorem cutLocalName_front_of_not
    (h : ∀ d ds, input = ':' :: d :: ds → beginsLocalName d = false) :
    (cutLocalName input).front = [] := by
  unfold cutLocalName
  split
  next d ds =>
    rw [if_neg (Bool.eq_false_iff.mp (h d ds rfl))]
    rfl
  next => rfl

theorem Cut.rest_eq_of_front_eq_nil {cut : Cut input} (h : cut.front = []) : cut.rest = input := by
  have happend := cut.append_eq
  rwa [h, List.nil_append] at happend

/-- Either a part of a name comes behind a colon, or nothing is cut off. -/
theorem cutLocalName_cases (input : List Char) :
    (∃ d ds, input = ':' :: d :: ds ∧ beginsLocalName d = true) ∨
      ∀ d ds, input = ':' :: d :: ds → beginsLocalName d = false := by
  by_cases h : ∃ d ds, input = ':' :: d :: ds ∧ beginsLocalName d = true
  · exact .inl h
  · exact .inr fun d ds hinput => Bool.eq_false_iff.mpr fun hd => h ⟨d, ds, hinput, hd⟩

theorem keeps_cutLocalName : Keeps cutLocalName := by
  intro input rest' h
  obtain ⟨d, ds, rfl, hd⟩ | hnot := cutLocalName_cases input
  · rw [(cutLocalName_of_begins hd ds).2] at h
    rw [(cutLocalName_of_begins hd ds).1, List.cons_append, List.cons_append,
      (cutLocalName_of_begins hd _).1]
    have hkeeps := keeps_cutWhile (fun _ => continuesName_of_isSpace) ds rest' h
    exact congrArg (fun front => ':' :: d :: front) hkeeps
  · have hfront := cutLocalName_front_of_not hnot
    rw [Cut.rest_eq_of_front_eq_nil hfront] at h
    rw [hfront, List.nil_append, cutLocalName_front_of_not (h.not_behind_colon hnot)]

theorem cutLocalNameOrStar_of_ne (h : ∀ cs, input ≠ ':' :: '*' :: cs) :
    cutLocalNameOrStar input = cutLocalName input := by
  unfold cutLocalNameOrStar
  split
  next => exact absurd rfl (h _)
  next => rfl

theorem keeps_cutLocalNameOrStar : Keeps cutLocalNameOrStar := by
  intro input rest' h
  by_cases hstar : ∃ cs, input = ':' :: '*' :: cs
  · obtain ⟨cs, rfl⟩ := hstar
    rfl
  · have hne : ∀ cs, input ≠ ':' :: '*' :: cs := not_exists.mp hstar
    rw [cutLocalNameOrStar_of_ne hne] at h ⊢
    rw [cutLocalNameOrStar_of_ne]
    · exact keeps_cutLocalName input rest' h
    obtain ⟨d, ds, rfl, hd⟩ | hlocal := cutLocalName_cases input
    · rw [(cutLocalName_of_begins hd ds).1]
      rintro _ ⟨⟩
      exact hne ds rfl
    · have hfront := cutLocalName_front_of_not hlocal
      rw [Cut.rest_eq_of_front_eq_nil hfront] at h
      have hother := h.not_behind_colon (q := (· == '*')) fun d ds hinput =>
        beq_eq_false_iff_ne.mpr fun hd => hne ds (hd ▸ hinput)
      rw [hfront, List.nil_append]
      rintro cs rfl
      exact absurd (hother '*' cs rfl) (by decide)

theorem cutFraction_of_ne_point (h : input.head? ≠ some '.') : (cutFraction input).front = [] := by
  unfold cutFraction
  split
  next => exact absurd rfl h
  next => rfl

theorem keeps_cutFraction : Keeps cutFraction := by
  intro input rest' h
  by_cases hpoint : input.head? = some '.'
  · obtain ⟨ds, rfl⟩ := List.head?_eq_some_iff.mp hpoint
    have hkeeps := keeps_cutWhile (fun _ => isAsciiDigit_of_isSpace) ds rest' h
    exact congrArg (List.cons '.') hkeeps
  · have hfront := cutFraction_of_ne_point hpoint
    rw [Cut.rest_eq_of_front_eq_nil hfront] at h
    have hother := h.not_next_beq (d := '.') rfl fun ds hds => hpoint (by rw [hds]; rfl)
    rw [hfront, List.nil_append]
    exact cutFraction_of_ne_point fun he => absurd (hother '.' he) (by decide)

theorem cutName_front : (cutName tail input).front =
    input.takeWhile continuesName ++ (tail (input.dropWhile continuesName)).front :=
  rfl

theorem keeps_cutName (ht : Keeps tail)
    (hbegin : ∀ input, ∀ c ∈ (tail input).front.head?, continuesName c = false) :
    Keeps (cutName tail) := by
  intro input rest' h
  obtain ⟨htake, hdrop, htail⟩ :=
    takeWhile_and_tail (fun _ => continuesName_of_isSpace) ht hbegin rfl h
  rw [cutName_front, cutName_front, List.append_assoc, htake, hdrop, htail]

theorem continuesName_cutLocalName_front (input : List Char) :
    ∀ c ∈ (cutLocalName input).front.head?, continuesName c = false := by
  obtain ⟨d, ds, rfl, hd⟩ | hnot := cutLocalName_cases input
  · rw [(cutLocalName_of_begins hd ds).1]
    rintro _ ⟨⟩
    decide
  · rw [cutLocalName_front_of_not hnot]
    nofun

theorem continuesName_cutLocalNameOrStar_front (input : List Char) :
    ∀ c ∈ (cutLocalNameOrStar input).front.head?, continuesName c = false := by
  unfold cutLocalNameOrStar
  split
  · rintro _ ⟨⟩
    decide
  · exact continuesName_cutLocalName_front _

end Cuts

/-! ## Tokens -/

/-- A token is read from `front` where `rest` stands behind it. -/
def Scans (afterOperand : Bool) (front rest : List Char) (token : Token) : Prop :=
  ∃ c cs, front = c :: cs ∧ Text.isSpace c = false ∧
    ∃ s : Scan (c :: (cs ++ rest)), scan afterOperand c (cs ++ rest) = .ok s ∧
      s.front = front ∧ s.token = token

section Tokens

variable {afterOperand : Bool} {c : Char} {cs front rest rest' : List Char} {token : Token}

/-- Every token is read from what it takes of the text. -/
theorem scans_of_scan {s : Scan (c :: cs)} (hc : Text.isSpace c = false)
    (h : scan afterOperand c cs = .ok s) : Scans afterOperand s.front s.rest s.token := by
  obtain ⟨⟨front, rest, happend⟩, token, hne⟩ := s
  cases front with
  | nil => exact absurd rfl hne
  | cons d ds =>
    obtain ⟨rfl, rfl⟩ := List.cons.inj happend
    exact ⟨d, ds, rfl, hc, _, h, rfl, rfl⟩

/-- What comes next decides what kind of a name a name is. -/
theorem classifyName_congr {name : String}
    (h : BeginAlike (rest.dropWhile Text.isSpace) (rest'.dropWhile Text.isSpace)) :
    classifyName afterOperand name rest = classifyName afterOperand name rest' := by
  unfold classifyName
  split
  · rfl
  · generalize rest.dropWhile Text.isSpace = next, rest'.dropWhile Text.isSpace = next' at h
    match next, next' with
    | [], [] => rfl
    | [], _ :: _ | _ :: _, [] => exact h.elim
    | c :: cs, d :: ds =>
      obtain ⟨rfl, hcolon⟩ := h
      by_cases hparen : c = '('
      · subst hparen
        rfl
      by_cases hc : c = ':'
      · subst hc
        have hhead := hcolon rfl
        match cs, ds with
        | [], [] => rfl
        | d :: _, _ :: _ =>
          obtain rfl := Option.some.inj hhead
          by_cases hd : d = ':'
          · subst hd
            rfl
          · simp [hd]
      · simp [hparen, hc]

theorem scanName_congr (h : LooksLike (scanName afterOperand c cs).rest rest') :
    ∃ ds, (scanName afterOperand c cs).front = c :: ds ∧
      (scanName afterOperand c (ds ++ rest')).front = c :: ds ∧
      (scanName afterOperand c (ds ++ rest')).token = (scanName afterOperand c cs).token := by
  let cut := cutName cutLocalNameOrStar
  have hkeeps : (cut ((cut cs).front ++ rest')).front = (cut cs).front :=
    keeps_cutName keeps_cutLocalNameOrStar continuesName_cutLocalNameOrStar_front cs rest' h
  have hrest := Cut.rest_eq_of_front_eq hkeeps
  refine ⟨(cutName cutLocalNameOrStar cs).front, rfl, congrArg (List.cons c) hkeeps, ?_⟩
  show classifyName _ (String.ofList (c :: _)) _ = classifyName _ (String.ofList (c :: _)) _
  rw [hkeeps]
  show classifyName _ _ (cutName cutLocalNameOrStar _).rest = _
  rw [hrest]
  exact (classifyName_congr h.far).symm

/-- A number that begins with a digit. -/
theorem scanNumber_of_ne (hc : (c == '.') = false) (cs : List Char) :
    (scanNumber c cs).front = c :: (cs.takeWhile Text.isAsciiDigit ++
        (cutFraction (cs.dropWhile Text.isAsciiDigit)).front) ∧
      (scanNumber c cs).rest = (cutFraction (cs.dropWhile Text.isAsciiDigit)).rest ∧
      (scanNumber c cs).token = .number (numberOf (c :: cs.takeWhile Text.isAsciiDigit)
        (cutFraction (cs.dropWhile Text.isAsciiDigit)).front) := by
  unfold scanNumber
  rw [if_neg (Bool.eq_false_iff.mp hc)]
  exact ⟨rfl, rfl, rfl⟩

theorem isAsciiDigit_cutFraction_front (input : List Char) :
    ∀ c ∈ (cutFraction input).front.head?, Text.isAsciiDigit c = false := by
  unfold cutFraction
  split
  · rintro _ ⟨⟩
    decide
  · nofun

theorem scanNumber_congr (h : LooksLike (scanNumber c cs).rest rest') :
    ∃ ds, (scanNumber c cs).front = c :: ds ∧
      (scanNumber c (ds ++ rest')).front = c :: ds ∧
      (scanNumber c (ds ++ rest')).token = (scanNumber c cs).token := by
  cases hc : c == '.' with
  | true =>
    obtain rfl := beq_iff_eq.mp hc
    have hkeeps := keeps_cutWhile (fun _ => isAsciiDigit_of_isSpace) cs rest' h
    refine ⟨cs.takeWhile Text.isAsciiDigit, rfl, congrArg (List.cons '.') hkeeps, ?_⟩
    exact congrArg (fun front => Token.number (numberOf [] ('.' :: front))) hkeeps
  | false =>
    obtain ⟨hfront, hrest, htoken⟩ := scanNumber_of_ne hc cs
    rw [hrest] at h
    obtain ⟨htake, hdrop, hfraction⟩ := takeWhile_and_tail (fun _ => isAsciiDigit_of_isSpace)
      keeps_cutFraction isAsciiDigit_cutFraction_front rfl h
    refine ⟨_, hfront, ?_⟩
    obtain ⟨hfront', -, htoken'⟩ := scanNumber_of_ne hc (cs.takeWhile Text.isAsciiDigit ++
      (cutFraction (cs.dropWhile Text.isAsciiDigit)).front ++ rest')
    rw [hfront', htoken', htoken, List.append_assoc, htake, hdrop, hfraction]
    exact ⟨rfl, rfl⟩

/-- The symbols that are read where their second character does not come next: the first character,
the second one, and the symbol. -/
def shortSymbols : List (Char × Char × Symbol) :=
  [('/', '/', .slash), ('<', '=', .less), ('>', '=', .greater)]

theorem scan_shortSymbol {second : Char} {symbol : Symbol} (h : (c, second, symbol) ∈ shortSymbols)
    (hnext : ∀ d ∈ rest.head?, (d == second) = false) :
    scan afterOperand c rest = .ok (.one c rest (.symbol symbol)) := by
  simp only [shortSymbols, List.mem_cons, Prod.mk.injEq, List.not_mem_nil, or_false] at h
  match rest with
  | [] => rcases h with ⟨rfl, rfl, rfl⟩ | ⟨rfl, rfl, rfl⟩ | ⟨rfl, rfl, rfl⟩ <;> rfl
  | d :: ds =>
    have hd := hnext d rfl
    rw [beq_eq_false_iff_ne] at hd
    rcases h with ⟨rfl, rfl, rfl⟩ | ⟨rfl, rfl, rfl⟩ | ⟨rfl, rfl, rfl⟩
    all_goals
      unfold scan
      simp [singleSymbol?, hd]
      rfl

/-- A number that begins with a digit. -/
theorem scan_of_isAsciiDigit (hc : Text.isAsciiDigit c = true) :
    scan afterOperand c cs = .ok (scanNumber c cs) := by
  have hsingle : singleSymbol? c = none := by
    unfold singleSymbol?
    split
    case h_11 => rfl
    all_goals exact absurd hc (by decide)
  have hquote : (c == '"' || c == '\'') = false := by
    rw [Bool.or_eq_false_iff, beq_eq_false_iff_ne, beq_eq_false_iff_ne]
    refine ⟨?_, ?_⟩ <;> rintro rfl <;> exact absurd hc (by decide)
  have hdollar : (c == '$') = false := by
    rw [beq_eq_false_iff_ne]
    rintro rfl
    exact absurd hc (by decide)
  unfold scan
  simp [hsingle, hquote, hdollar, hc]

theorem scan_point {d : Char} {ds : List Char} (hd : Text.isAsciiDigit d = true) :
    scan afterOperand '.' (d :: ds) = .ok (scanNumber '.' (d :: ds)) := by
  have hne : d ≠ '.' := by
    rintro rfl
    exact absurd hd (by decide)
  unfold scan
  simp [singleSymbol?, hd]
  exact fun _ hname => absurd hname (by decide)

theorem scan_dot (hpoint : ∀ d ∈ rest.head?, (d == '.') = false)
    (hdigit : ∀ d ∈ rest.head?, Text.isAsciiDigit d = false) :
    scan afterOperand '.' rest = .ok (.one '.' rest (.symbol .dot)) := by
  match rest with
  | [] => rfl
  | d :: ds =>
    have hd := hpoint d rfl
    rw [beq_eq_false_iff_ne] at hd
    unfold scan
    simp [singleSymbol?, hdigit d rfl]
    rfl

/-- A variable, its name being one that can begin. -/
theorem scanVariable_of_beginsName {d : Char} (hd : beginsName d = true) (ds : List Char) :
    ∃ s : Scan ('$' :: d :: ds), scanVariable '$' (d :: ds) = .ok s ∧
      s.front = '$' :: (cutName cutLocalName (d :: ds)).front ∧
      s.rest = (cutName cutLocalName (d :: ds)).rest ∧
      s.token = .variable (String.ofList (cutName cutLocalName (d :: ds)).front) := by
  unfold scanVariable
  simp only [hd, if_true]
  exact ⟨_, rfl, rfl, rfl, rfl⟩

theorem scanVariable_congr {s : Scan ('$' :: cs)} (hs : scanVariable '$' cs = .ok s)
    (h : LooksLike s.rest rest') : ∃ ds, s.front = '$' :: ds ∧
      ∃ s' : Scan ('$' :: (ds ++ rest')), scanVariable '$' (ds ++ rest') = .ok s' ∧
        s'.front = s.front ∧ s'.token = s.token := by
  match cs with
  | [] => cases hs
  | d :: ds =>
    cases hd : beginsName d with
    | false =>
      rw [scanVariable, if_neg (Bool.eq_false_iff.mp hd)] at hs
      cases hs
    | true =>
      obtain ⟨s, hs', hfront, hrest, htoken⟩ := scanVariable_of_beginsName hd ds
      obtain rfl := Except.ok.inj (hs'.symm.trans hs)
      rw [hrest] at h
      have hkeeps := keeps_cutName keeps_cutLocalName continuesName_cutLocalName_front _ _ h
      obtain ⟨es, hes⟩ : ∃ es, (cutName cutLocalName (d :: ds)).front = d :: es := by
        rw [cutName_front, List.takeWhile_cons_of_pos (continuesName_of_beginsName hd)]
        exact ⟨_, rfl⟩
      rw [hes] at hfront htoken hkeeps
      obtain ⟨s', hs', hfront', -, htoken'⟩ := scanVariable_of_beginsName hd (es ++ rest')
      have hname : (cutName cutLocalName (d :: (es ++ rest'))).front = d :: es := hkeeps
      rw [hname] at hfront' htoken'
      exact ⟨d :: es, hfront, s', hs', hfront'.trans hfront.symm, htoken'.trans htoken.symm⟩

theorem scanLiteral_congr {quote : Char} {s : Scan (quote :: cs)}
    (hs : scanLiteral quote cs = .ok s) (rest' : List Char) : ∃ ds, s.front = quote :: ds ∧
      ∃ s' : Scan (quote :: (ds ++ rest')), scanLiteral quote (ds ++ rest') = .ok s' ∧
        s'.front = s.front ∧ s'.token = s.token := by
  obtain ⟨text, ht, hfront, htoken⟩ := front_of_scanLiteral hs
  obtain ⟨s', hs', hfront', htoken'⟩ := scanLiteral_append ht rest'
  have happend : text ++ [quote] ++ rest' = text ++ quote :: rest' := by simp
  refine ⟨text ++ [quote], hfront, ?_⟩
  rw [happend]
  exact ⟨s', hs', hfront'.trans hfront.symm, htoken'.trans htoken.symm⟩

/-- A token is read from the same characters if the text behind it looks the same. -/
theorem Scan.congr {s : Scan (c :: cs)} (hs : scan afterOperand c cs = .ok s)
    (h : LooksLike s.rest rest') : ∃ ds, s.front = c :: ds ∧
      ∃ s' : Scan (c :: (ds ++ rest')), scan afterOperand c (ds ++ rest') = .ok s' ∧
        s'.front = s.front ∧ s'.token = s.token := by
  unfold scan at hs
  split at hs
  next symbol hsymbol =>
    cases hs
    exact ⟨[], rfl, _, scan_of_singleSymbol? hsymbol, rfl, rfl⟩
  split at hs
  next hquote =>
    obtain ⟨ds, hfront, s', hs', hsame⟩ := scanLiteral_congr hs rest'
    exact ⟨ds, hfront, s', (scan_quote (by simpa using hquote)).trans hs', hsame⟩
  next hquote =>
  split at hs
  next hdollar =>
    obtain rfl := beq_iff_eq.mp hdollar
    exact scanVariable_congr hs h
  next hdollar =>
  split at hs
  next hdigit =>
    cases hs
    obtain ⟨ds, hfront, hsame⟩ := scanNumber_congr h
    exact ⟨ds, hfront, _, scan_of_isAsciiDigit hdigit, hsame.1.trans hfront.symm, hsame.2⟩
  split at hs
  next hname =>
    cases hs
    obtain ⟨ds, hfront, hsame⟩ := scanName_congr h
    exact ⟨ds, hfront, _, scan_of_beginsName hname, hsame.1.trans hfront.symm, hsame.2⟩
  split at hs
  case h_13 d ds hpoint _ _ _ =>
    split at hs
    next hdigit =>
      cases hs
      obtain ⟨es, hfront, hsame⟩ := scanNumber_congr h
      obtain ⟨fs, rfl⟩ : ∃ fs, es = d :: fs := by
        rw [← (List.cons.inj hfront).2]
        exact ⟨_, List.takeWhile_cons_of_pos hdigit⟩
      exact ⟨_, hfront, _, scan_point hdigit, hsame.1.trans hfront.symm, hsame.2⟩
    next hdigit =>
      cases hs
      refine ⟨[], rfl, _, scan_dot (h.not_next_beq rfl ?_) ?_, rfl, rfl⟩
      · rintro _ ⟨⟩
        exact hpoint rfl
      · refine h.not_next (fun _ => isAsciiDigit_of_isSpace) ?_
        rintro _ ⟨⟩
        exact Bool.eq_false_iff.mpr hdigit
  all_goals cases hs
  case h_1 => exact ⟨[], rfl, .one _ _ _, rfl, rfl, rfl⟩
  case h_3 hnext | h_5 hnext | h_7 hnext =>
    exact ⟨[], rfl, _, scan_shortSymbol (by decide) (h.not_next_beq rfl hnext), rfl, rfl⟩
  case h_14 hpoint hnext =>
    refine ⟨[], rfl, _, scan_dot (h.not_next_beq rfl hpoint) ?_, rfl, rfl⟩
    refine h.not_next (fun _ => isAsciiDigit_of_isSpace) fun d hd => ?_
    obtain ⟨ds, hds⟩ := List.head?_eq_some_iff.mp hd
    exact (hnext d ds hds).elim
  all_goals exact ⟨[_], rfl, .two _ _ _ _, rfl, rfl, rfl⟩

theorem Scans.congr (h : Scans afterOperand front rest token) (hr : LooksLike rest rest') :
    Scans afterOperand front rest' token := by
  obtain ⟨c, cs, rfl, hc, s, hs, hfront, rfl⟩ := h
  have hrest : s.rest = rest := @Cut.rest_eq_of_front_eq (c :: cs) rest s.toCut hfront
  obtain ⟨ds, hds, hsame⟩ := Scan.congr hs (hrest ▸ hr)
  obtain rfl := (List.cons.inj (hfront.symm.trans hds)).2
  exact ⟨c, cs, rfl, hc, hfront ▸ hsame⟩

theorem scan_colon {s : Scan (':' :: cs)} (h : scan afterOperand ':' cs = .ok s) :
    s.front = [':', ':'] := by
  match cs with
  | [] => cases h
  | d :: ds =>
    by_cases hd : d = ':'
    · subst hd
      cases h
      rfl
    · unfold scan at h
      simp [singleSymbol?, hd] at h
      cases h

/-- Two texts that begin with the same token begin alike. -/
theorem Scans.beginAlike (h : Scans afterOperand front rest token) (text text' : List Char) :
    BeginAlike (front ++ text) (front ++ text') := by
  obtain ⟨c, cs, rfl, -, s, hs, hfront, -⟩ := h
  refine ⟨rfl, ?_⟩
  rintro rfl
  rw [scan_colon hs] at hfront
  obtain rfl := (List.cons.inj hfront).2
  rfl

/-- A token comes first, and then those of what it leaves. -/
theorem Scans.lexFrom_eq (h : Scans afterOperand front rest token) (position : Nat) :
    lexFrom position afterOperand (front ++ rest) =
      (lexFrom (position + byteLength front) token.endsOperand rest).map
        (⟨token, position⟩ :: ·) := by
  obtain ⟨c, cs, rfl, hc, s, hs, hfront, rfl⟩ := h
  have hrest : s.rest = rest := @Cut.rest_eq_of_front_eq (c :: cs) rest s.toCut hfront
  rw [List.cons_append, lexFrom, if_neg (Bool.eq_false_iff.mp hc), hs]
  simp only [hrest, hfront]
  rcases lexFrom (position + byteLength (c :: cs)) s.token.endsOperand rest with _ | _ <;> rfl

/-- White space comes to nothing. -/
theorem lexFrom_space {gap : List Char} (h : ∀ c ∈ gap, Text.isSpace c = true) (position : Nat) :
    lexFrom position afterOperand (gap ++ rest) =
      lexFrom (position + byteLength gap) afterOperand rest := by
  induction gap generalizing position with
  | nil => rfl
  | cons c cs ih =>
    obtain ⟨hc, hcs⟩ := List.forall_mem_cons.mp h
    rw [List.cons_append, lexFrom, if_pos hc, ih hcs, byteLength_cons, Nat.add_assoc]

end Tokens

end HtmlQuery
