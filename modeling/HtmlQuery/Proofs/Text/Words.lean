import HtmlQuery.Proofs.Text.Blank
import HtmlQuery.Query.Evaluation

/-!
# The words of a text

`Runs p s words` says what the words of a text are: its maximal runs of characters outside a class.
Every text has one list of words and no other, the one that `wordsBy` gives (`runs_iff`).

Trimming and squeezing gives the words with single spaces between them (`Runs.squeezeBy_trimBy`).
The words of what is joined are the same words again (`Runs.joinWords`), and so are those of what is
trimmed (`Runs.trimBy`).  Hence both ways to normalise blanks are the same function of two classes
of blanks, and `white_space_normalised` puts together what that means for a text.
-/

namespace HtmlQuery.Text

/-- The maximal runs of characters outside a class, in order.  In front of a run there are blanks
only, and behind it there is a blank or nothing. -/
inductive Runs (p : Char → Bool) : List Char → List (List Char) → Prop where
  /-- Blanks alone have no word among them. -/
  | blanks {gap : List Char} (hgap : ∀ c ∈ gap, p c = true) : Runs p gap []
  /-- Blanks, a word, and what follows it. -/
  | run {gap word rest : List Char} {words : List (List Char)} (hgap : ∀ c ∈ gap, p c = true)
      (hne : word ≠ []) (hword : ∀ c ∈ word, p c = false) (hrest : ∀ c ∈ rest.head?, p c = true)
      (h : Runs p rest words) : Runs p (gap ++ (word ++ rest)) (word :: words)

variable {p q : Char → Bool} {s gap word rest : List Char} {words : List (List Char)}

/-! ## Every text has its words -/

theorem Runs.cons_blank {c : Char} (hc : p c = true) (h : Runs p s words) :
    Runs p (c :: s) words := by
  cases h with
  | blanks hgap => exact .blanks (List.forall_mem_cons.mpr ⟨hc, hgap⟩)
  | @run gap word rest words hgap hne hword hrest h =>
    show Runs p ((c :: gap) ++ (word ++ rest)) (word :: words)
    exact .run (List.forall_mem_cons.mpr ⟨hc, hgap⟩) hne hword hrest h

/-- A word at the front. -/
theorem Runs.front (hne : word ≠ []) (hword : ∀ c ∈ word, p c = false)
    (hrest : ∀ c ∈ rest.head?, p c = true) (h : Runs p rest words) :
    Runs p (word ++ rest) (word :: words) := by
  show Runs p ([] ++ (word ++ rest)) (word :: words)
  exact .run (List.forall_mem_nil _) hne hword hrest h

/-- A character that is no blank goes to the word behind it, or it is a word of its own. -/
theorem Runs.exists_cons_letter {c : Char} (hc : p c = false) (h : Runs p s words) :
    ∃ words', Runs p (c :: s) words' := by
  by_cases hs : ∀ d ∈ s.head?, p d = true
  · exact ⟨_, .front (List.cons_ne_nil c []) (by simpa using hc) hs h⟩
  cases h with
  | @blanks gap hgap =>
    exact absurd (fun d hd => hgap d (List.mem_of_mem_head? hd)) hs
  | @run gap word rest words hgap hne hword hrest h =>
    cases gap with
    | nil =>
      exact ⟨_, .front (List.cons_ne_nil c word) (List.forall_mem_cons.mpr ⟨hc, hword⟩) hrest h⟩
    | cons d gap =>
      refine absurd (fun d' hd' => ?_) hs
      obtain rfl : d = d' := by simpa using hd'
      exact hgap d List.mem_cons_self

theorem exists_runs (p : Char → Bool) (s : List Char) : ∃ words, Runs p s words := by
  induction s with
  | nil => exact ⟨[], .blanks (by simp)⟩
  | cons c s ih =>
    obtain ⟨words, h⟩ := ih
    cases hc : p c with
    | true => exact ⟨words, h.cons_blank hc⟩
    | false => exact h.exists_cons_letter hc

/-! ## The words are those that `wordsBy` gives -/

theorem wordsBy_append_of_blanks (hgap : ∀ c ∈ gap, p c = true) (s : List Char) :
    wordsBy p (gap ++ s) = wordsBy p s := by
  induction gap with
  | nil => rfl
  | cons c gap ih =>
    rw [List.forall_mem_cons] at hgap
    rw [← ih hgap.2]
    simp [wordsBy, splitBy, hgap.1]

/-- What stands before a cut is put in front of the first piece. -/
theorem splitBy_append {piece : List Char} {pieces : List (List Char)}
    (hword : ∀ c ∈ word, p c = false) (h : splitBy p rest = piece :: pieces) :
    splitBy p (word ++ rest) = (word ++ piece) :: pieces := by
  induction word with
  | nil => exact h
  | cons c word ih =>
    rw [List.forall_mem_cons] at hword
    simp [splitBy, hword.1, ih hword.2]

theorem exists_splitBy_eq_nil_cons (hrest : ∀ c ∈ rest.head?, p c = true) :
    ∃ pieces, splitBy p rest = [] :: pieces := by
  cases rest with
  | nil => exact ⟨[], rfl⟩
  | cons c rest =>
    have hc : p c = true := hrest c rfl
    exact ⟨splitBy p rest, by simp [splitBy, hc]⟩

theorem Runs.wordsBy_eq (h : Runs p s words) : wordsBy p s = words := by
  induction h with
  | @blanks gap hgap =>
    have hall := wordsBy_append_of_blanks hgap []
    rw [List.append_nil] at hall
    rw [hall]
    rfl
  | @run gap word rest words hgap hne hword hrest h ih =>
    obtain ⟨pieces, hpieces⟩ := exists_splitBy_eq_nil_cons hrest
    rw [wordsBy_append_of_blanks hgap, ← ih, wordsBy, splitBy_append hword hpieces, wordsBy,
      hpieces]
    simp [hne]

theorem runs_iff : Runs p s words ↔ words = wordsBy p s := by
  constructor
  · intro h
    exact h.wordsBy_eq.symm
  · rintro rfl
    obtain ⟨words, h⟩ := exists_runs p s
    rwa [h.wordsBy_eq]

/-! ## What has the same words -/

/-- What counts is which characters of the text are blanks. -/
theorem Runs.congr (h : Runs p s words) (hpq : ∀ c ∈ s, p c = q c) : Runs q s words := by
  induction h with
  | blanks hgap =>
    refine .blanks fun c hc => ?_
    rw [← hpq c hc]
    exact hgap c hc
  | @run gap word rest words hgap hne hword hrest h ih =>
    simp only [List.forall_mem_append] at hpq
    obtain ⟨hpqgap, hpqword, hpqrest⟩ := hpq
    refine .run (fun c hc => ?_) hne (fun c hc => ?_) (fun c hc => ?_) (ih hpqrest)
    · rw [← hpqgap c hc]
      exact hgap c hc
    · rw [← hpqword c hc]
      exact hword c hc
    · rw [← hpqrest c (List.mem_of_mem_head? hc)]
      exact hrest c hc

theorem dropEndBy_of_blanks (hgap : ∀ c ∈ gap, p c = true) : dropEndBy p gap = [] := by
  simpa [dropEndBy] using hgap

theorem trimBy_of_blanks (hgap : ∀ c ∈ gap, p c = true) : trimBy p gap = [] :=
  dropEndBy_of_blanks fun c hc => hgap c (List.dropWhile_subset p hc)

/-- Dropping the blanks at the end changes nothing up to the end of a word. -/
theorem dropEndBy_append_word (hne : word ≠ []) (hword : ∀ c ∈ word, p c = false)
    (gap rest : List Char) :
    dropEndBy p (gap ++ (word ++ rest)) = gap ++ (word ++ dropEndBy p rest) := by
  have hlast : ∀ c ∈ (gap ++ word).getLast?, p c = false := by
    intro c hc
    rw [List.getLast?_append_of_ne_nil gap hne] at hc
    exact hword c (List.mem_of_getLast? hc)
  rw [← List.append_assoc, dropEndBy_append hlast, List.append_assoc]

theorem Runs.dropEndBy (h : Runs p s words) : Runs p (dropEndBy p s) words := by
  induction h with
  | blanks hgap =>
    rw [dropEndBy_of_blanks hgap]
    exact .blanks (by simp)
  | @run gap word rest words hgap hne hword hrest h ih =>
    rw [dropEndBy_append_word hne hword]
    exact .run hgap hne hword (fun c hc => hrest c (mem_head?_of_dropEndBy hc)) ih

theorem Runs.trimBy (h : Runs p s words) : Runs p (trimBy p s) words := by
  cases h with
  | blanks hgap =>
    rw [trimBy_of_blanks hgap]
    exact .blanks (by simp)
  | @run gap word rest words hgap hne hword hrest h =>
    rw [trimBy_append (List.all_eq_true.mpr hgap) hword hne]
    exact .front hne hword (fun c hc => hrest c (mem_head?_of_dropEndBy hc)) h.dropEndBy

/-! ## Words with spaces between them -/

/-- Behind the first of several pieces each one has a separator before it. -/
theorem intercalate_cons_eq {α : Type} (separator first : List α) (others : List (List α)) :
    separator.intercalate (first :: others) = first ++ others.flatMap (separator ++ ·) := by
  induction others generalizing first with
  | nil => rw [List.intercalate_singleton, List.flatMap_nil, List.append_nil]
  | cons next others ih =>
    rw [List.intercalate_cons_cons, ih, List.flatMap_cons, List.append_assoc, List.append_assoc]

theorem isBlank_head_spaced (hspace : p ' ' = true) (words : List (List Char)) :
    ∀ c ∈ (words.flatMap ([' '] ++ ·)).head?, p c = true := by
  intro c hc
  cases words with
  | nil => simp at hc
  | cons next words =>
    obtain rfl : ' ' = c := by simpa using hc
    exact hspace

/-- A space before each word. -/
theorem Runs.spaced (hspace : p ' ' = true) (h : Runs p s words) :
    Runs p (words.flatMap ([' '] ++ ·)) words := by
  induction h with
  | blanks => exact .blanks (by simp)
  | @run gap word rest words hgap hne hword hrest h ih =>
    rw [List.flatMap_cons, List.append_assoc]
    exact .run (by simpa using hspace) hne hword (isBlank_head_spaced hspace words) ih

/-- Joining the words of a text gives a text with the same words. -/
theorem Runs.joinWords (hspace : p ' ' = true) (h : Runs p s words) :
    Runs p (joinWords words) words := by
  cases h with
  | blanks => exact .blanks (by simp [Text.joinWords])
  | @run gap word rest words hgap hne hword hrest h =>
    rw [Text.joinWords, intercalate_cons_eq]
    exact .front hne hword (isBlank_head_spaced hspace words) (h.spaced hspace)

/-! ## Trimming and squeezing -/

theorem squeezeFrom_word (hne : word ≠ []) (hword : ∀ c ∈ word, p c = false) (inRun : Bool)
    (s : List Char) : squeezeFrom p inRun (word ++ s) = word ++ squeezeFrom p false s := by
  induction word generalizing inRun with
  | nil => contradiction
  | cons c word ih =>
    rw [List.forall_mem_cons] at hword
    cases word with
    | nil => simp [squeezeFrom, hword.1]
    | cons d word =>
      rw [List.cons_append, squeezeFrom, hword.1]
      simpa using ih (by simp) hword.2 false

/-- A run of blanks that has been written already. -/
theorem squeezeFrom_blanks (hgap : ∀ c ∈ gap, p c = true) (s : List Char) :
    squeezeFrom p true (gap ++ s) = squeezeFrom p true s := by
  induction gap with
  | nil => rfl
  | cons c gap ih =>
    rw [List.forall_mem_cons] at hgap
    simp [squeezeFrom, hgap.1, ih hgap.2]

/-- Behind a word one space is written for the blanks before every further word. -/
theorem Runs.squeezeFrom_dropEndBy (hs : ∀ c ∈ s.head?, p c = true) (h : Runs p s words) :
    squeezeFrom p false (Text.dropEndBy p s) = words.flatMap ([' '] ++ ·) := by
  induction h with
  | blanks hgap =>
    rw [dropEndBy_of_blanks hgap]
    rfl
  | @run gap word rest words hgap hne hword hrest h ih =>
    rw [dropEndBy_append_word hne hword, List.flatMap_cons, ← ih hrest]
    cases gap with
    | nil =>
      obtain ⟨c, word, rfl⟩ := List.exists_cons_of_ne_nil hne
      have hblank := hs c rfl
      rw [hword c List.mem_cons_self] at hblank
      contradiction
    | cons c gap =>
      rw [List.forall_mem_cons] at hgap
      rw [List.cons_append, squeezeFrom, hgap.1]
      simp [squeezeFrom_blanks hgap.2, squeezeFrom_word hne hword]

/-- Trimming and squeezing writes the words with single spaces between them. -/
theorem Runs.squeezeBy_trimBy (h : Runs p s words) :
    squeezeBy p (Text.trimBy p s) = Text.joinWords words := by
  cases h with
  | blanks hgap =>
    rw [trimBy_of_blanks hgap]
    rfl
  | @run gap word rest words hgap hne hword hrest h =>
    rw [trimBy_append (List.all_eq_true.mpr hgap) hword hne, squeezeBy,
      squeezeFrom_word hne hword, h.squeezeFrom_dropEndBy hrest, Text.joinWords,
      intercalate_cons_eq]

/-! ## Both ways to normalise blanks -/

theorem Runs.collapse_eq {text : String} (h : Runs isBlank text.toList words) :
    collapse text = String.ofList (Text.joinWords words) :=
  congrArg String.ofList h.squeezeBy_trimBy

theorem Runs.normalizeSpace_eq {text : String} (h : Runs isSpace text.toList words) :
    normalizeSpace text = String.ofList (Text.joinWords words) := by
  rw [normalizeSpace, h.wordsBy_eq]

/-- Collapsing blanks joins the words between the blanks of Unicode by single spaces, and
`normalize-space` those between the four characters of white space in expressions.  Either one
changes nothing the second time, blanks at the ends make no difference, and the two agree wherever
there are no blanks but those four. -/
theorem white_space_normalised (text : String) :
    (∃ words, (∀ found, Runs isBlank text.toList found ↔ found = words) ∧
      collapse text = String.ofList (joinWords words)) ∧
    collapse (collapse text) = collapse text ∧
    collapse (trim text) = collapse text ∧
    (∃ words, (∀ found, Runs isSpace text.toList found ↔ found = words) ∧
      normalizeSpace text = String.ofList (joinWords words) ∧
      ∀ focus, Function.normalizeSpace.apply focus [.string text] =
        .ok (.string (String.ofList (joinWords words)))) ∧
    normalizeSpace (normalizeSpace text) = normalizeSpace text ∧
    ((∀ c ∈ text.toList, isBlank c = true → isSpace c = true) →
      normalizeSpace text = collapse text) := by
  have hblank : Runs isBlank text.toList (wordsBy isBlank text.toList) := runs_iff.mpr rfl
  have hspace : Runs isSpace text.toList (wordsBy isSpace text.toList) := runs_iff.mpr rfl
  refine ⟨⟨_, fun _ => runs_iff, hblank.collapse_eq⟩, ?_, ?_,
    ⟨_, fun _ => runs_iff, hspace.normalizeSpace_eq, fun focus => ?_⟩, ?_, fun hagree => ?_⟩
  · have hagain := hblank.joinWords rfl
    rw [← String.toList_ofList (l := joinWords _), ← hblank.collapse_eq] at hagain
    rw [hagain.collapse_eq, ← hblank.collapse_eq]
  · have htrimmed := hblank.trimBy
    rw [← String.toList_ofList (l := Text.trimBy _ _)] at htrimmed
    rw [trim, htrimmed.collapse_eq, hblank.collapse_eq]
  · rw [← hspace.normalizeSpace_eq]
    rfl
  · have hagain := hspace.joinWords rfl
    rw [← String.toList_ofList (l := joinWords _), ← hspace.normalizeSpace_eq] at hagain
    rw [hagain.normalizeSpace_eq, ← hspace.normalizeSpace_eq]
  · have hsame : ∀ c ∈ text.toList, isBlank c = isSpace c := fun c hc =>
      Bool.eq_iff_iff.mpr ⟨hagree c hc, isBlank_of_isSpace⟩
    rw [(hblank.congr hsame).normalizeSpace_eq, hblank.collapse_eq]

/-- Lines with indentation. -/
theorem white_space_normalised_lines :
    (∀ c ∈ "\t one\r\n  two ".toList, isBlank c = true → isSpace c = true) ∧
      normalizeSpace "\t one\r\n  two " = collapse "\t one\r\n  two " ∧
      collapse "\t one\r\n  two " = "one two" := by
  have hagree : ∀ c ∈ "\t one\r\n  two ".toList, isBlank c = true → isSpace c = true := by
    simp [isBlank, isSpace]
  obtain ⟨-, -, -, -, -, h⟩ := white_space_normalised "\t one\r\n  two "
  exact ⟨hagree, h hagree, by decide⟩

/-- A no-break space is a blank of Unicode only. -/
example : collapse "1\u00A0000" = "1 000" ∧ normalizeSpace "1\u00A0000" = "1\u00A0000" := by decide

end HtmlQuery.Text
