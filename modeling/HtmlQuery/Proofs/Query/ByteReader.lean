import HtmlQuery.Proofs.Query.Spelling

/-!
# Reading byte by byte

`readBytes` reads the tokens of an expression with a cursor on its bytes.  It compares single bytes,
also ahead of the cursor, jumps over runs of bytes, and goes by whole characters inside names only.
What a token carries is cut out of the expression between two bytes.  There is no result if such a
cut goes through a character, or if a token takes no byte and the cursor stands still.

Neither happens (`readBytes_eq`): the result is there for every text, and it is that of `tokenize`.
There is one lemma for each part of the reader.  Each says that from the front of some characters
the part comes to where the part of `scan` with the same task comes.
-/

namespace HtmlQuery

namespace ByteReader

/-! ## The reader -/

section Reader

variable (text : String)

/-- The end of a run of characters of names. -/
def skipName (i : Nat) : Option Nat :=
  if i < text.utf8ByteSize then do
    let c ← charAt? text i
    if continuesName c then skipName (i + c.utf8Size) else some i
  else some i
termination_by text.utf8ByteSize - i
decreasing_by
  have := c.utf8Size_pos
  omega

/-- Whether a name begins at a place. -/
def nameBeginsAt (i : Nat) : Option Bool :=
  if i < text.utf8ByteSize then (charAt? text i).map beginsName else some false

/-- The end of a name.  After a colon it may go on with another part, or end with `*`. -/
def nameEnd (star : Bool) (i : Nat) : Option Nat := do
  let stop ← skipName text i
  if byte? text stop == some ':' then
    if star && byte? text (stop + 1) == some '*' then some (stop + 2)
    else if (byte? text (stop + 1)).any beginsLocalName then skipName text (stop + 1)
    else some stop
  else some stop

/-- What is read at a place: a token and the place behind it, or an error.  There may be none. -/
abbrev Reading :=
  Option (Except QueryError (Token × Nat))

/-- Two characters if the second one is there, else the first one alone. -/
def pairAt (second : Char) (double single : Symbol) (i : Nat) : Token × Nat :=
  if byte? text (i + 1) == some second then (.symbol double, i + 2) else (.symbol single, i + 1)

/-- A literal. -/
def literalAt (quote : Char) (i : Nat) : Reading :=
  let stop := skipBytes text (· != quote) (i + 1)
  match byte? text stop with
  | some _ => (slice? text (i + 1) stop).map fun body => .ok (.literal body, stop + 1)
  | none => some (.error ⟨.unterminatedLiteral, i⟩)

/-- A dollar sign and a name. -/
def variableAt (i : Nat) : Reading := do
  if ← nameBeginsAt text (i + 1) then
    let stop ← nameEnd text false (i + 1)
    let name ← slice? text (i + 1) stop
    return .ok (.variable name, stop)
  else return .error ⟨.missingVariableName, i + 1⟩

/-- The end of digits, and of a point and the digits behind it if there is one. -/
def numberEnd (i : Nat) : Nat :=
  let whole := skipBytes text Text.isAsciiDigit i
  if byte? text whole == some '.' then skipBytes text Text.isAsciiDigit (whole + 1) else whole

/-- A number. -/
def numberAt (i : Nat) : Reading := do
  let stop := numberEnd text i
  let digits ← slice? text i stop
  let value ← unsignedNumber? digits.toList
  return .ok (.number value.toFloat, stop)

/-- What a name is, by what stands behind the place where it ends. -/
def classifyAt (name : String) (stop : Nat) : Option Token :=
  match byte? text (skipBytes text Text.isSpace stop) with
  | some '(' => some (if nodeTypes.contains name then .nodeType name else .function name)
  | some ':' => do
    let rest ← slice? text stop text.utf8ByteSize
    match rest.toList.dropWhile Text.isAsciiBlank with
    | ':' :: ':' :: _ => return .axis name
    | _ => return .name name
  | _ => some (.name name)

/-- A name and what it is. -/
def nameAt (afterOperand : Bool) (i : Nat) : Reading := do
  let stop ← nameEnd text true i
  let name ← slice? text i stop
  match afterOperand, operatorName? name with
  | true, some operator => return .ok (.symbol operator, stop)
  | _, _ => (classifyAt text name stop).map fun token => .ok (token, stop)

/-- The token that begins with a byte. -/
def tokenAt (afterOperand : Bool) (i : Nat) (b : Char) : Reading :=
  match singleSymbol? b with
  | some symbol => some (.ok (.symbol symbol, i + 1))
  | none =>
    match b with
    | '*' => some (.ok (if afterOperand then .symbol .multiply else .name "*", i + 1))
    | '/' => some (.ok (pairAt text '/' .doubleSlash .slash i))
    | '<' => some (.ok (pairAt text '=' .lessEqual .less i))
    | '>' => some (.ok (pairAt text '=' .greaterEqual .greater i))
    | '!' =>
      if byte? text (i + 1) == some '=' then some (.ok (.symbol .notEqual, i + 2))
      else some (.error ⟨.loneExclamation, i⟩)
    | ':' =>
      if byte? text (i + 1) == some ':' then some (.ok (.symbol .colonColon, i + 2))
      else some (.error ⟨.loneColon, i⟩)
    | '.' =>
      if byte? text (i + 1) == some '.' then some (.ok (.symbol .dotDot, i + 2))
      else if (byte? text (i + 1)).any Text.isAsciiDigit then numberAt text i
      else some (.ok (.symbol .dot, i + 1))
    | '"' => literalAt text '"' i
    | '\'' => literalAt text '\'' i
    | '$' => variableAt text i
    | _ => do
      if Text.isAsciiDigit b then numberAt text i
      else if ← nameBeginsAt text i then nameAt text afterOperand i
      else
        let c ← charAt? text i
        return .error ⟨.unexpectedCharacter c, i⟩

/-- The tokens from a place on. -/
def readFrom (afterOperand : Bool) (i : Nat) : Option (Except QueryError (List Located)) :=
  let start := skipBytes text Text.isSpace i
  match _h : byte? text start with
  | none => some (.ok [])
  | some b =>
    (tokenAt text afterOperand start b).bind fun
      | .error e => some (.error e)
      | .ok (token, stop) =>
        if start < stop then
          (readFrom token.endsOperand stop).map (·.map (⟨token, start⟩ :: ·))
        else none
termination_by text.utf8ByteSize - i
decreasing_by
  have hlt := lt_utf8ByteSize_of_byte? _h
  have hle : i ≤ start := Nat.le_add_right _ _
  omega

end Reader

/-! ## Names -/

theorem beginsLocalName_of_le {c : Char} (hc : 0x80 ≤ c.toNat) : beginsLocalName c = true := by
  rw [beginsLocalName, decide_eq_true hc, Bool.or_true]

theorem coarse_beginsLocalName : Coarse beginsLocalName :=
  coarse_of_eq fun _ hc => beginsLocalName_of_le hc

theorem coarse_singleSymbol? : Coarse singleSymbol? :=
  coarse_of_eq fun _ hc => singleSymbol?_of_le hc

section Names

variable {text : String} {front rest : List Char}

/-- The cursor goes by whole characters, so it comes to the end of the name. -/
theorem skipName_eq (h : text.toList = front ++ rest) :
    skipName text (byteLength front) =
      some (byteLength (front ++ rest.takeWhile continuesName)) := by
  induction rest generalizing front with
  | nil => rw [skipName, if_neg (not_byteLength_lt h), List.takeWhile_nil, List.append_nil]
  | cons c cs ih =>
    rw [skipName, if_pos (byteLength_front_lt h), charAt?_eq h]
    show (if continuesName c then _ else _) = _
    rw [List.takeWhile_cons]
    split
    · rw [← byteLength_concat, ih (toList_eq_concat h), List.append_assoc]
      rfl
    · rw [List.append_nil]

theorem nameBeginsAt_eq (h : text.toList = front ++ rest) :
    nameBeginsAt text (byteLength front) = some (rest.head?.any beginsName) := by
  cases rest with
  | nil =>
    rw [nameBeginsAt, if_neg (not_byteLength_lt h)]
    rfl
  | cons c cs =>
    rw [nameBeginsAt, if_pos (byteLength_front_lt h), charAt?_eq h]
    rfl

/-- The part of a name after its first part, with or without a star for it. -/
def cutTail (star : Bool) : (input : List Char) → Cut input :=
  if star then cutLocalNameOrStar else cutLocalName

theorem cutTail_of_ne_colon {star : Bool} {input : List Char} (h : input.head? ≠ some ':') :
    (cutTail star input).front = [] := by
  have hlocal : (cutLocalName input).front = [] := by
    unfold cutLocalName
    split
    next => exact absurd rfl h
    next => rfl
  cases star with
  | false => exact hlocal
  | true =>
    show (cutLocalNameOrStar input).front = []
    rw [cutLocalNameOrStar_of_ne, hlocal]
    rintro cs rfl
    exact h rfl

theorem cutTail_colon {star : Bool} {cs : List Char} :
    (cutTail star (':' :: cs)).front =
      if star && cs.head? == some '*' then [':', '*']
      else if cs.head?.any beginsLocalName then ':' :: cs.takeWhile continuesName
      else [] := by
  have hlocal : (cutLocalName (':' :: cs)).front =
      if cs.head?.any beginsLocalName then ':' :: cs.takeWhile continuesName else [] := by
    cases cs with
    | nil => rfl
    | cons d ds =>
      show (if beginsLocalName d then _ else _ : Cut (':' :: d :: ds)).front = _
      rw [List.head?_cons, Option.any_some]
      split <;> rfl
  cases star with
  | false => exact hlocal
  | true =>
    rw [Bool.true_and, ← hlocal]
    show (cutLocalNameOrStar (':' :: cs)).front = _
    split
    next hstar =>
      obtain ⟨ds, rfl⟩ := List.head?_eq_some_iff.mp (beq_iff_eq.mp hstar)
      rfl
    next hstar =>
      rw [cutLocalNameOrStar_of_ne]
      rintro ds he
      obtain rfl := (List.cons.inj he).2
      exact hstar rfl

theorem nameEnd_eq (star : Bool) (h : text.toList = front ++ rest) :
    nameEnd text star (byteLength front) =
      some (byteLength (front ++ (cutName (cutTail star) rest).front)) := by
  have hcut : (cutName (cutTail star) rest).front = rest.takeWhile continuesName ++
      (cutTail star (rest.dropWhile continuesName)).front := rfl
  have hfirst : text.toList =
      front ++ rest.takeWhile continuesName ++ rest.dropWhile continuesName :=
    toList_eq_cut (cutWhile continuesName rest) h
  rw [nameEnd, skipName_eq h, hcut, ← List.append_assoc]
  generalize front ++ rest.takeWhile continuesName = first at hfirst
  generalize rest.dropWhile continuesName = after at hfirst
  show (if byte? text (byteLength first) == some ':' then _ else _) = _
  rw [byte?_beq (by decide) hfirst]
  by_cases hcolon : after.head? = some ':'
  · obtain ⟨cs, rfl⟩ := List.head?_eq_some_iff.mp hcolon
    have hlast := toList_eq_concat hfirst
    have hbyte : byteLength first + 1 = byteLength (first ++ [':']) :=
      (byteLength_concat_of_lt (by decide) first).symm
    rw [if_pos (beq_iff_eq.mpr hcolon), hbyte, byte?_beq (by decide) hlast,
      byte?_any coarse_beginsLocalName hlast, skipName_eq hlast, cutTail_colon]
    split
    next hstar =>
      have htwo : byteLength first + 2 = byteLength (first ++ [':', '*']) := by
        rw [byteLength_append]
        rfl
      rw [htwo]
    split
    · rw [List.append_assoc]
      rfl
    · rw [List.append_nil]
  · rw [if_neg (by simpa using hcolon), cutTail_of_ne_colon hcolon, List.append_nil]

end Names

/-! ## Tokens -/

/-- What a scan at a place comes to. -/
def outcome {input : List Char} (position : Nat) :
    Except ScanError (Scan input) → Except QueryError (Token × Nat)
  | .error e => .error ⟨e.fault, position + e.offset⟩
  | .ok s => .ok (s.token, position + byteLength s.front)

section Tokens

variable {text : String} {front cs : List Char} {c : Char} {afterOperand : Bool}

theorem outcome_scanLiteral (quote : Char) (cs : List Char) (position : Nat) :
    outcome position (scanLiteral quote cs) =
      match cs.dropWhile (· != quote) with
      | [] => .error ⟨.unterminatedLiteral, position⟩
      | close :: _ => .ok (.literal (String.ofList (cs.takeWhile (· != quote))),
          position + byteLength (quote :: cs.takeWhile (· != quote) ++ [close])) := by
  unfold scanLiteral
  dsimp only
  split
  next hrest =>
    rw [show cs.dropWhile (· != quote) = [] from hrest]
    rfl
  next close rest hrest =>
    rw [show cs.dropWhile (· != quote) = close :: rest from hrest]
    rfl

theorem literalAt_eq {quote : Char} (hq : quote.toNat < 0x80)
    (h : text.toList = front ++ quote :: cs) :
    literalAt text quote (byteLength front) =
      some (outcome (byteLength front) (scanLiteral quote cs)) := by
  have hbody := toList_eq_concat h
  have hcut : text.toList =
      front ++ [quote] ++ cs.takeWhile (· != quote) ++ cs.dropWhile (· != quote) :=
    toList_eq_cut (cutWhile (· != quote) cs) hbody
  rw [literalAt, ← byteLength_concat_of_lt hq front, skipBytes_eq (coarse_bne hq) hbody,
    byte?_eq hcut, slice?_eq hcut, outcome_scanLiteral]
  cases hrest : cs.dropWhile (· != quote) with
  | nil => rfl
  | cons close rest =>
    obtain rfl := eq_of_dropWhile_bne hrest
    have hstop : byteLength (front ++ [close] ++ cs.takeWhile (· != close)) + 1 =
        byteLength front + byteLength (close :: cs.takeWhile (· != close) ++ [close]) := by
      rw [← byteLength_concat_of_lt hq, ← byteLength_append, List.append_assoc, List.append_assoc]
      rfl
    rw [hstop]
    rfl

theorem variableAt_eq (h : text.toList = front ++ '$' :: cs) :
    variableAt text (byteLength front) =
      some (outcome (byteLength front) (scanVariable '$' cs)) := by
  have hname := toList_eq_concat h
  have hstart : byteLength front + 1 = byteLength (front ++ ['$']) :=
    (byteLength_concat_of_lt (by decide) front).symm
  rw [variableAt, hstart, nameBeginsAt_eq hname]
  show (if cs.head?.any beginsName = true then _ else _) = _
  cases cs with
  | nil =>
    rw [← hstart]
    rfl
  | cons d ds =>
    rw [scanVariable, List.head?_cons, Option.any_some]
    split
    next =>
      have hcut := toList_eq_cut (cutName cutLocalName (d :: ds)) hname
      rw [nameEnd_eq false hname]
      show (slice? text _ (byteLength (_ ++ (cutName cutLocalName (d :: ds)).front))).bind _ = _
      rw [slice?_eq hcut, List.append_assoc, byteLength_append]
      rfl
    next =>
      rw [← hstart]
      rfl

theorem numberEnd_eq (hc : BeginsNumber c cs) (h : text.toList = front ++ c :: cs) :
    numberEnd text (byteLength front) = byteLength (front ++ (scanNumber c cs).front) := by
  have hwhole : text.toList = front ++ (c :: cs).takeWhile Text.isAsciiDigit ++
      (c :: cs).dropWhile Text.isAsciiDigit :=
    toList_eq_cut (cutWhile Text.isAsciiDigit (c :: cs)) h
  rw [numberEnd, skipBytes_eq coarse_isAsciiDigit h, byte?_beq (by decide) hwhole,
    hc.front_scanNumber, ← List.append_assoc]
  generalize front ++ (c :: cs).takeWhile Text.isAsciiDigit = whole at hwhole
  generalize (c :: cs).dropWhile Text.isAsciiDigit = after at hwhole
  split
  next hpoint =>
    obtain ⟨ds, rfl⟩ := List.head?_eq_some_iff.mp (beq_iff_eq.mp hpoint)
    have hfraction := toList_eq_concat hwhole
    have hbyte : byteLength whole + 1 = byteLength (whole ++ ['.']) :=
      (byteLength_concat_of_lt (by decide) whole).symm
    rw [hbyte, skipBytes_eq coarse_isAsciiDigit hfraction, List.append_assoc]
    rfl
  next hpoint =>
    rw [cutFraction_of_ne_point (by simpa using hpoint), List.append_nil]

/-- Digits with at most one point among them have a value. -/
theorem numberAt_eq (hc : BeginsNumber c cs) (h : text.toList = front ++ c :: cs) :
    numberAt text (byteLength front) =
      some (outcome (byteLength front) (.ok (scanNumber c cs))) := by
  have hcut := toList_eq_cut (scanNumber c cs).toCut h
  obtain ⟨n, hn, htoken⟩ := hc.unsignedNumber?_scanNumber
  rw [numberAt, numberEnd_eq hc h, slice?_eq hcut]
  show (unsignedNumber? (String.ofList (scanNumber c cs).front).toList).bind _ = _
  rw [String.toList_ofList, hn, outcome, htoken, byteLength_append]
  rfl

theorem dropWhile_isAsciiBlank {rest ds : List Char} (h : rest.dropWhile Text.isSpace = ':' :: ds) :
    rest.dropWhile Text.isAsciiBlank = ':' :: ds := by
  induction rest with
  | nil => cases h
  | cons c cs ih =>
    rw [List.dropWhile_cons] at h
    split at h
    next hc =>
      rw [List.dropWhile_cons_of_pos (by rw [Text.isAsciiBlank, hc, Bool.true_or])]
      exact ih h
    next =>
      obtain ⟨rfl, rfl⟩ := List.cons.inj h
      rfl

theorem classifyName_paren {name : String} {rest : List Char}
    (h : rest.dropWhile Text.isSpace = '(' :: cs) :
    classifyName false name rest =
      if nodeTypes.contains name then .nodeType name else .function name := by
  unfold classifyName
  rw [h]
  rfl

theorem classifyName_colons {name : String} {rest : List Char}
    (h : rest.dropWhile Text.isSpace = ':' :: ':' :: cs) :
    classifyName false name rest = .axis name := by
  unfold classifyName
  rw [h]
  rfl

theorem classifyName_of_ne {name : String} {rest : List Char}
    (hparen : ∀ cs, rest.dropWhile Text.isSpace ≠ '(' :: cs)
    (hcolons : ∀ cs, rest.dropWhile Text.isSpace ≠ ':' :: ':' :: cs) :
    classifyName false name rest = .name name := by
  unfold classifyName
  split
  next => contradiction
  split
  next h => exact absurd h (hparen _)
  next h => exact absurd h (hcolons _)
  next => rfl

theorem classifyAt_eq (name : String) {rest : List Char} (h : text.toList = front ++ rest) :
    classifyAt text name (byteLength front) = some (classifyName false name rest) := by
  have hcut : text.toList = front ++ rest.takeWhile Text.isSpace ++ rest.dropWhile Text.isSpace :=
    toList_eq_cut (cutWhile Text.isSpace rest) h
  have hslice := @slice?_eq text front [] rest (by rw [h, List.append_nil])
  rw [← h, byteLength_toList] at hslice
  rw [classifyAt, skipBytes_eq coarse_isSpace h, byte?_eq hcut]
  cases hrest : rest.dropWhile Text.isSpace with
  | nil =>
    rw [classifyName_of_ne (by simp [hrest]) (by simp [hrest])]
    rfl
  | cons d ds =>
    rw [List.head?_cons, Option.map_some]
    by_cases hparen : d = '('
    · subst hparen
      rw [classifyName_paren hrest]
      rfl
    by_cases hcolon : d = ':'
    · subst hcolon
      show (slice? text (byteLength front) text.utf8ByteSize).bind _ = _
      rw [hslice, Option.bind_some, String.toList_ofList, dropWhile_isAsciiBlank hrest]
      by_cases hnext : ds.head? = some ':'
      · obtain ⟨es, rfl⟩ := List.head?_eq_some_iff.mp hnext
        rw [classifyName_colons hrest]
        rfl
      · have hsingle : ∀ es, ':' :: ds ≠ ':' :: ':' :: es := by
          rintro es he
          obtain rfl := (List.cons.inj he).2
          exact hnext rfl
        rw [classifyName_of_ne (by simp [hrest]) (hrest ▸ hsingle)]
        split
        next es he => exact absurd he (hsingle es)
        next => rfl
    · rw [classifyName_of_ne (by simp [hrest, hparen]) (by simp [hrest, hcolon])]
      split
      next he => exact absurd (Option.some.inj he) (firstByte_ne (by decide) hparen)
      next he => exact absurd (Option.some.inj he) (firstByte_ne (by decide) hcolon)
      next => rfl

theorem nameAt_eq (hc : beginsName c = true) (h : text.toList = front ++ c :: cs) :
    nameAt text afterOperand (byteLength front) =
      some (outcome (byteLength front) (.ok (scanName afterOperand c cs))) := by
  have hfront : (scanName afterOperand c cs).front = (cutName (cutTail true) (c :: cs)).front := by
    show c :: (cs.takeWhile continuesName ++
      (cutLocalNameOrStar (cs.dropWhile continuesName)).front) = _
    show _ = (c :: cs).takeWhile continuesName ++
      (cutLocalNameOrStar ((c :: cs).dropWhile continuesName)).front
    rw [List.takeWhile_cons_of_pos (continuesName_of_beginsName hc),
      List.dropWhile_cons_of_pos (continuesName_of_beginsName hc)]
    rfl
  have htoken : (scanName afterOperand c cs).token = classifyName afterOperand
      (String.ofList (scanName afterOperand c cs).front) (scanName afterOperand c cs).rest := rfl
  have hcut := toList_eq_cut (scanName afterOperand c cs).toCut h
  rw [nameAt, nameEnd_eq true h, ← hfront, outcome, htoken, ← byteLength_append]
  generalize (scanName afterOperand c cs).front = name at hcut
  generalize (scanName afterOperand c cs).rest = rest at hcut
  show (slice? text (byteLength front) (byteLength (front ++ name))).bind _ = _
  rw [slice?_eq hcut, Option.bind_some, classifyAt_eq (String.ofList name) hcut]
  cases afterOperand with
  | false => rfl
  | true =>
    unfold classifyName
    cases operatorName? (String.ofList name) <;> rfl

/-! ## Any token -/

/-- The characters that `tokenAt` looks for one by one. -/
def tokenStarts : List Char :=
  ['*', '/', '<', '>', '!', ':', '.', '"', '\'', '$']

theorem not_mem_tokenStarts {p : Char → Bool} (hp : tokenStarts.any p = false) (hc : p c = true) :
    c ∉ tokenStarts := by
  intro hmem
  exact Bool.false_ne_true (hp.symm.trans (List.any_eq_true.mpr ⟨c, hmem, hc⟩))

/-- Where none of these stands there is a number, a name or no token. -/
theorem tokenAt_of_not_mem {b : Char} {i : Nat} (hnone : singleSymbol? b = none)
    (hb : b ∉ tokenStarts) :
    tokenAt text afterOperand i b =
      if Text.isAsciiDigit b then numberAt text i
      else (nameBeginsAt text i).bind fun begins =>
        if begins then nameAt text afterOperand i
        else (charAt? text i).map fun c => .error ⟨.unexpectedCharacter c, i⟩ := by
  unfold tokenAt
  rw [hnone]
  dsimp only
  split
  case h_11 =>
    split
    · rfl
    · congr 1
      funext begins
      split
      · rfl
      · cases charAt? text i <;> rfl
  all_goals exact absurd (by decide) hb

theorem tokenAt_firstByte_of_not_mem (hnone : singleSymbol? c = none) (hc : c ∉ tokenStarts)
    (h : text.toList = front ++ c :: cs) :
    tokenAt text afterOperand (byteLength front) (firstByte c) =
      if Text.isAsciiDigit c then numberAt text (byteLength front)
      else if beginsName c then nameAt text afterOperand (byteLength front)
      else some (.error ⟨.unexpectedCharacter c, byteLength front⟩) := by
  have hnone' : singleSymbol? (firstByte c) = none := by
    rw [coarse_singleSymbol?.firstByte, hnone]
  have hc' : firstByte c ∉ tokenStarts := by
    simp only [tokenStarts, List.mem_cons, List.not_mem_nil, or_false, not_or] at hc ⊢
    refine ⟨?_, ?_, ?_, ?_, ?_, ?_, ?_, ?_, ?_, ?_⟩
    all_goals exact firstByte_ne (by decide) (by simp only [hc, not_false_eq_true, ne_eq])
  rw [tokenAt_of_not_mem hnone' hc', coarse_isAsciiDigit.firstByte, nameBeginsAt_eq h, charAt?_eq h]
  rfl

/-- A point on its own, two points, or a number. -/
theorem tokenAt_point (h : text.toList = front ++ '.' :: cs) (hne : ∀ ds, cs = '.' :: ds → False) :
    tokenAt text afterOperand (byteLength front) '.' =
      if cs.head?.any Text.isAsciiDigit then numberAt text (byteLength front)
      else some (.ok (.symbol .dot, byteLength front + 1)) := by
  have hany : (byte? text (byteLength front + 1)).any Text.isAsciiDigit =
      cs.head?.any Text.isAsciiDigit := by
    rw [← byteLength_concat_of_lt (by decide : '.'.toNat < 0x80) front]
    exact byte?_any coarse_isAsciiDigit (toList_eq_concat h)
  rw [← hany]
  exact ite_byte?_of_ne (by decide) (by decide) hne h

theorem tokenAt_of_singleSymbol? {symbol : Symbol} (hs : singleSymbol? c = some symbol) :
    tokenAt text afterOperand (byteLength front) (firstByte c) =
      some (outcome (byteLength front) (.ok (Scan.one c cs (.symbol symbol)))) := by
  have hascii : c.toNat < 0x80 := by
    by_contra hge
    rw [singleSymbol?_of_le (Nat.le_of_not_lt hge)] at hs
    cases hs
  unfold tokenAt
  rw [firstByte_of_lt hascii, hs, ← byteLength_concat_of_lt hascii, byteLength_append]
  rfl

/-- By bytes and by characters the same token is read. -/
theorem tokenAt_eq (h : text.toList = front ++ c :: cs) :
    tokenAt text afterOperand (byteLength front) (firstByte c) =
      some (outcome (byteLength front) (scan afterOperand c cs)) := by
  unfold scan
  split
  next symbol hsymbol => exact tokenAt_of_singleSymbol? hsymbol
  next hnone =>
  split
  next hquote =>
    rw [Bool.or_eq_true, beq_iff_eq, beq_iff_eq] at hquote
    rcases hquote with rfl | rfl
    · exact literalAt_eq (by decide) h
    · exact literalAt_eq (by decide) h
  next hquote =>
  split
  next hdollar =>
    obtain rfl := beq_iff_eq.mp hdollar
    exact variableAt_eq h
  next hdollar =>
  split
  next hdigit =>
    have hc : c ∉ tokenStarts := not_mem_tokenStarts (p := Text.isAsciiDigit) (by decide) hdigit
    rw [tokenAt_firstByte_of_not_mem hnone hc h, if_pos hdigit, numberAt_eq (.digit hdigit) h]
  next hdigit =>
  split
  next hname =>
    have hc : c ∉ tokenStarts := not_mem_tokenStarts (p := beginsName) (by decide) hname
    rw [tokenAt_firstByte_of_not_mem hnone hc h, if_neg hdigit, if_pos hname, nameAt_eq hname h]
  next hname =>
  split
  case h_1 => exact congrArg some (by cases afterOperand <;> rfl)
  case h_2 | h_4 | h_6 =>
    exact congrArg (fun t : Token × Nat => (some (.ok t) : Reading))
      (ite_byte?_of_next (by decide) (by decide) h)
  case h_3 hne | h_5 hne | h_7 hne =>
    exact congrArg (fun t : Token × Nat => (some (.ok t) : Reading))
      (ite_byte?_of_ne (by decide) (by decide) hne h)
  case h_8 | h_10 | h_12 => exact ite_byte?_of_next (by decide) (by decide) h
  case h_9 hne | h_11 hne => exact ite_byte?_of_ne (by decide) (by decide) hne h
  case h_13 d ds hne =>
    refine (tokenAt_point h fun _ he => hne (List.cons.inj he).1).trans ?_
    rw [List.head?_cons, Option.any_some]
    split
    next hd => exact numberAt_eq (.point hd) h
    next => rfl
  case h_14 hne hnil =>
    refine (tokenAt_point h hne).trans ?_
    cases cs with
    | nil => rfl
    | cons d ds => exact absurd rfl (hnil d ds)
  case h_15 hstar hslash hless hgreater hexclamation hcolon hpoint _ _ _ _ _ _ _ =>
    have hc : c ∉ tokenStarts := by
      rw [Bool.or_eq_true, beq_iff_eq, beq_iff_eq, not_or] at hquote
      rw [beq_iff_eq] at hdollar
      simp only [tokenStarts, List.mem_cons, List.not_mem_nil, or_false, not_or]
      exact ⟨hstar, hslash, hless, hgreater, hexclamation, hcolon, hpoint, hquote.1, hquote.2,
        hdollar⟩
    rw [tokenAt_firstByte_of_not_mem hnone hc h, if_neg hdigit, if_neg hname]
    rfl

end Tokens

/-! ## All tokens -/

section Run

variable {text : String} {afterOperand : Bool} {i j : Nat}

theorem readFrom_of_none (h : byte? text (skipBytes text Text.isSpace i) = none) :
    readFrom text afterOperand i = some (.ok []) := by
  rw [readFrom]
  split
  next => rfl
  next b hb => cases h.symm.trans hb

theorem readFrom_of_some {b : Char} (h : byte? text (skipBytes text Text.isSpace i) = some b) :
    readFrom text afterOperand i =
      (tokenAt text afterOperand (skipBytes text Text.isSpace i) b).bind fun
        | .error e => some (.error e)
        | .ok (token, stop) =>
          if skipBytes text Text.isSpace i < stop then
            (readFrom text token.endsOperand stop).map
              (·.map (⟨token, skipBytes text Text.isSpace i⟩ :: ·))
          else none := by
  rw [readFrom]
  split
  next hb => cases h.symm.trans hb
  next b' hb =>
    obtain rfl := Option.some.inj (h.symm.trans hb)
    rfl

/-- What is read depends on where the next token begins. -/
theorem readFrom_congr (h : skipBytes text Text.isSpace i = skipBytes text Text.isSpace j) :
    readFrom text afterOperand i = readFrom text afterOperand j := by
  cases hi : byte? text (skipBytes text Text.isSpace i) with
  | none => rw [readFrom_of_none hi, readFrom_of_none (h ▸ hi)]
  | some b => rw [readFrom_of_some hi, readFrom_of_some (h ▸ hi), h]

/-- The token at a character that is not white space, and what follows it. -/
theorem readFrom_token {front cs : List Char} {c : Char} (hc : Text.isSpace c = false)
    (h : text.toList = front ++ c :: cs) :
    readFrom text afterOperand (byteLength front) =
      match scan afterOperand c cs with
      | .error e => some (.error ⟨e.fault, byteLength front + e.offset⟩)
      | .ok s =>
        (readFrom text s.token.endsOperand (byteLength front + byteLength s.front)).map
          (·.map (⟨s.token, byteLength front⟩ :: ·)) := by
  have hstart : skipBytes text Text.isSpace (byteLength front) = byteLength front := by
    rw [skipBytes_eq coarse_isSpace h, List.takeWhile_cons_of_neg (by simp [hc]), List.append_nil]
  have hbyte : byte? text (skipBytes text Text.isSpace (byteLength front)) =
      some (firstByte c) := by
    rw [hstart, byte?_eq h]
    rfl
  rw [readFrom_of_some hbyte, hstart, tokenAt_eq h, Option.bind_some]
  cases scan afterOperand c cs with
  | error e => rfl
  | ok s =>
    have hadvance := byteLength_pos s.front_ne_nil
    exact if_pos (by omega)

/-- By bytes and by characters the same tokens are read, from any place between characters. -/
theorem readFrom_eq {front input : List Char} (h : text.toList = front ++ input) :
    readFrom text afterOperand (byteLength front) =
      some (lexFrom (byteLength front) afterOperand input) := by
  generalize hposition : byteLength front = position
  fun_induction lexFrom position afterOperand input generalizing front with
  | case1 position afterOperand =>
    subst hposition
    refine readFrom_of_none ?_
    rw [skipBytes_eq coarse_isSpace h, List.takeWhile_nil, List.append_nil, byte?_eq h]
    rfl
  | case2 position afterOperand c cs hc ih =>
    subst hposition
    have hnext := toList_eq_concat h
    rw [← ih hnext (byteLength_concat front c), ← byteLength_concat]
    refine readFrom_congr ?_
    rw [skipBytes_eq coarse_isSpace h, skipBytes_eq coarse_isSpace hnext,
      List.takeWhile_cons_of_pos hc, List.append_assoc]
    rfl
  | case3 position afterOperand c cs hc e he =>
    subst hposition
    rw [readFrom_token (by simpa using hc) h, he]
  | case4 position afterOperand c cs hc s hs e he ih =>
    subst hposition
    rw [readFrom_token (by simpa using hc) h, hs]
    dsimp only
    rw [ih (toList_eq_cut s.toCut h) (byteLength_append _ _), he]
    rfl
  | case5 position afterOperand c cs hc s hs tokens htokens ih =>
    subst hposition
    rw [readFrom_token (by simpa using hc) h, hs]
    dsimp only
    rw [ih (toList_eq_cut s.toCut h) (byteLength_append _ _), htokens]
    rfl

end Run

end ByteReader

/-- The tokens of an expression, read byte by byte. -/
def readBytes (expression : String) : Option (Except QueryError (List Located)) :=
  ByteReader.readFrom expression false 0

/-- Reading byte by byte always comes to a result, and to that of `tokenize`. -/
theorem readBytes_eq (expression : String) :
    readBytes expression = some (tokenize expression) :=
  @ByteReader.readFrom_eq expression false [] _ (List.nil_append _).symm

/-! ## Nothing is lost -/

/-- Reading tokens loses nothing.  If an expression can be read, then it is the spellings of its
tokens, in order, with white space before each and behind the last one.  A token is placed at the
byte at which its spelling begins, so the places ascend, and each is that of a character.  Whether
it can be read or not, a cursor on its bytes comes to the same result: it never stands still, and
nothing is ever cut through a character. -/
theorem tokenize_lossless (expression : String) :
    (∀ tokens, tokenize expression = .ok tokens →
      (∃ (pieces : List Piece) (last : List Char),
        expression.toList = pieces.flatMap Piece.text ++ last ∧
          (∀ c ∈ last, Text.isSpace c = true) ∧ Piece.located 0 pieces = tokens) ∧
      tokens.Pairwise (fun s t => s.position < t.position) ∧
      ∀ t ∈ tokens, t.position < expression.utf8ByteSize ∧
        (⟨t.position⟩ : String.Pos.Raw).IsValid expression) ∧
    readBytes expression = some (tokenize expression) := by
  refine ⟨fun tokens h => ?_, readBytes_eq expression⟩
  obtain ⟨pieces, last, htext, hlast, hlocated, -⟩ := exists_pieces h
  exact ⟨⟨pieces, last, htext, hlast, hlocated⟩, hlocated ▸ Piece.pairwise_located 0 pieces,
    fun t ht => position_of_mem_tokenize h ht⟩

/-- Characters of two and three bytes, in a name, in a literal and behind a colon. -/
theorem tokenize_lossless_accents :
    let expression := "\tné | 'ß' * $n:日"
    let tokens : List Located := [⟨.name "né", 1⟩, ⟨.symbol .pipe, 5⟩, ⟨.literal "ß", 7⟩,
      ⟨.symbol .multiply, 12⟩, ⟨.variable "n:日", 14⟩]
    tokenize expression = .ok tokens ∧ readBytes expression = some (.ok tokens) ∧
      (∃ (pieces : List Piece) (last : List Char),
        expression.toList = pieces.flatMap Piece.text ++ last ∧
          (∀ c ∈ last, Text.isSpace c = true) ∧ Piece.located 0 pieces = tokens) ∧
      (⟨14⟩ : String.Pos.Raw).IsValid expression := by
  intro expression tokens
  have htokens : tokenize expression = .ok tokens := by cbv
  obtain ⟨hlossless, hbytes⟩ := tokenize_lossless expression
  obtain ⟨hpieces, -, hplaces⟩ := hlossless tokens htokens
  exact ⟨htokens, htokens ▸ hbytes, hpieces,
    (hplaces ⟨.variable "n:日", 14⟩ (by simp [tokens])).2⟩

end HtmlQuery
