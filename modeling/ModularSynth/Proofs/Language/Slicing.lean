import Mathlib.Data.List.TakeWhile
import Mathlib.Data.String.Basic
import ModularSynth.Language.TextReader
import ModularSynth.Proofs.Language.Cut

/-!
# Looking at a text through its bytes

A reader that has read some characters of a text is determined by them (`TextReader.having`): its
offset is the number of their bytes, so it stands at the boundary of a character, and each step that
it makes is a step over the list of the characters that are left. The loops of the reader take what
the spans of a chunk take, so a token of the reader is the chunk at the front of the text
(`TextReader.token_having`) and a call is a step of a cursor (`TextReader.exists_nextToken_having`).
-/

namespace ModularSynth

theorem head?_ne_of_other {c : Char} {cs : List Char} (other : ∀ rest, cs = c :: rest → False) :
    cs.head? ≠ some c := by
  intro first
  obtain ⟨rest, same⟩ := List.head?_eq_some_iff.mp first
  exact other rest same

namespace TextReader

open String (utf8Len)

/-- The reader of a text that has read these characters. -/
def having (text : String) (read : List Char) : TextReader where
  source := text
  offset := ⟨utf8Len read⟩
  line := (Position.following read).line
  column := (Position.following read).column

variable {text : String} {read rest : List Char}

theorem position_having : (having text read).position = .following read := rfl

section Characters

theorem past_having (c : Char) : (having text read).past c = having text (read ++ [c]) := by
  have place : Position.following (read ++ [c]) = (Position.following read).advance c := by
    rw [← Position.following_append]
    rfl
  have offset : (⟨utf8Len read⟩ : String.Pos.Raw) + c = ⟨utf8Len (read ++ [c])⟩ := by
    rw [String.utf8Len_append]
    simp [String.Pos.Raw.ext_iff]
  unfold past having
  rw [place, offset]
  by_cases feed : c = '\n'
  · simp [feed, Position.advance]
  · simp [feed, Position.advance]

variable (split : text.toList = read ++ rest)

include split

theorem isValid_having : (having text read).offset.IsValid (having text read).source := by
  apply String.Pos.Raw.isValid_iff_exists_append.mpr
  refine ⟨String.ofList read, String.ofList rest, ?_, ?_⟩
  · rw [← String.ofList_append, ← split, String.ofList_toList]
    rfl
  · exact (String.rawEndPos_ofList read).symm

theorem characterAt_having (reader : TextReader) (source : reader.source = text) :
    reader.characterAt ⟨utf8Len read⟩ = rest.head? := by
  have text_eq : text = String.ofList (read ++ rest) := by rw [← split, String.ofList_toList]
  unfold characterAt
  rw [source, text_eq, String.get_of_valid, String.rawEndPos_ofList, String.utf8Len_append]
  cases rest with
  | nil => simp [String.Pos.Raw.lt_iff]
  | cons c rest =>
    have width := c.utf8Size_pos
    rw [if_pos]
    · rfl
    · simp [String.Pos.Raw.lt_iff, width]

theorem peek_having : (having text read).peek = some rest.head? := by
  unfold peek
  rw [if_pos (isValid_having split)]
  exact congrArg some (characterAt_having split _ rfl)

end Characters

theorem peekSecond_having {c : Char} (split : text.toList = read ++ c :: rest) :
    (having text read).peekSecond = some rest.head? := by
  have split' : text.toList = (read ++ [c]) ++ rest := by rw [split, List.append_assoc]; rfl
  have second : ((having text read).offset + c) = (having text (read ++ [c])).offset :=
    congrArg TextReader.offset (past_having c)
  simp only [peekSecond, peek_having split, bind, Option.bind_some, List.head?_cons]
  rw [second]
  exact congrArg some (characterAt_having split' _ rfl)

theorem bump_having {c : Char} (split : text.toList = read ++ c :: rest) :
    (having text read).bump = some (some c, having text (read ++ [c])) := by
  simp only [bump, peek_having split, bind, Option.bind_some, List.head?_cons, past_having]
  rfl

/-! ### Runs of characters -/

section Runs

variable {wanted : TextReader → String → Char → Option Bool} {literal : List Char} {c : Char}

theorem takeWhile_having_nil (split : text.toList = read ++ []) :
    (having text read).takeWhile wanted (String.ofList literal) =
      some (String.ofList literal, having text read) := by
  rw [takeWhile, peek_having split]
  rfl

variable (split : text.toList = read ++ c :: rest)

include split

theorem split_cons : text.toList = read ++ [c] ++ rest := by
  rw [split, List.append_assoc, List.singleton_append]

theorem takeWhile_having_of_wanted
    (wants : wanted (having text read) (String.ofList literal) c = some true) :
    (having text read).takeWhile wanted (String.ofList literal) =
      (having text (read ++ [c])).takeWhile wanted (String.ofList (literal ++ [c])) := by
  rw [takeWhile, peek_having split, List.head?_cons]
  simp only [wants, past_having]
  rw [String.ofList_append, String.push_eq_append, String.singleton_eq_ofList]

theorem takeWhile_having_of_unwanted
    (unwanted : wanted (having text read) (String.ofList literal) c = some false) :
    (having text read).takeWhile wanted (String.ofList literal) =
      some (String.ofList literal, having text read) := by
  rw [takeWhile, peek_having split, List.head?_cons]
  simp only [unwanted]

end Runs

/-- A run of a class is taken if the characters that are wanted are those of the class. What has to
be known of the literal for that is kept as it grows. -/
theorem takeWhile_having_of_class {wanted : TextReader → String → Char → Option Bool}
    {p : Char → Bool} (kept : List Char → Prop)
    (grows : ∀ literal c, kept literal → kept (literal ++ [c]))
    (agrees : ∀ reader literal c, kept literal →
      wanted reader (String.ofList literal) c = some (p c))
    {literal : List Char} (holds : kept literal) (split : text.toList = read ++ rest) :
    (having text read).takeWhile wanted (String.ofList literal) =
      some (String.ofList (literal ++ rest.takeWhile p),
        having text (read ++ rest.takeWhile p)) := by
  induction rest generalizing read literal with
  | nil =>
    rw [takeWhile_having_nil split, List.takeWhile_nil, List.append_nil, List.append_nil]
  | cons c rest ih =>
    have wants := agrees (having text read) literal c holds
    cases inside : p c with
    | true =>
      rw [inside] at wants
      rw [takeWhile_having_of_wanted split wants, ih (grows literal c holds) (split_cons split),
        List.takeWhile_cons_of_pos inside, List.append_assoc, List.append_assoc]
      rfl
    | false =>
      rw [inside] at wants
      rw [takeWhile_having_of_unwanted split wants,
        List.takeWhile_cons_of_neg (Bool.eq_false_iff.mp inside), List.append_nil,
        List.append_nil]

/-- Characters of a class, whatever has been read of the literal. -/
theorem takeWhile_class_having (p : Char → Bool) (split : text.toList = read ++ rest) :
    (having text read).takeWhile (fun _ _ c => some (p c)) "" =
      some (String.ofList (rest.takeWhile p), having text (read ++ rest.takeWhile p)) :=
  takeWhile_having_of_class (fun _ => True) (fun _ _ _ => trivial) (fun _ _ _ _ => rfl) trivial split

theorem takeWhile_namePart_having (literal : List Char) (split : text.toList = read ++ rest) :
    (having text read).takeWhile namePart (String.ofList literal) =
      some (String.ofList (literal ++ (spanIdentifier rest).1),
        having text (read ++ (spanIdentifier rest).1)) := by
  induction rest generalizing read literal with
  | nil =>
    rw [takeWhile_having_nil split, spanIdentifier, List.append_nil, List.append_nil]
  | cons c rest ih =>
    have part : namePart (having text read) (String.ofList literal) c =
        some (!decide ((c = '-' ∧ rest.head? = some '>') ∨ continuesIdentifier c = false)) := by
      unfold namePart
      by_cases hyphen : c = '-'
      · subst hyphen
        rw [if_pos rfl, peekSecond_having split]
        simp [continuesIdentifier]
      · simp [hyphen, continuesIdentifier]
    by_cases ends : (c = '-' ∧ rest.head? = some '>') ∨ continuesIdentifier c = false
    · rw [decide_eq_true ends] at part
      rw [takeWhile_having_of_unwanted split part, spanIdentifier, if_pos ends,
        List.append_nil, List.append_nil]
    · rw [decide_eq_false ends] at part
      rw [takeWhile_having_of_wanted split part, ih _ (split_cons split), spanIdentifier,
        if_neg ends, List.append_assoc, List.append_assoc]
      rfl

/-- After a point in a number, digits are taken and no other point. -/
theorem takeWhile_numberPart_of_point {literal : List Char} (point : '.' ∈ literal)
    (split : text.toList = read ++ rest) :
    (having text read).takeWhile numberPart (String.ofList literal) =
      some (String.ofList (literal ++ rest.takeWhile Numeral.isDigit),
        having text (read ++ rest.takeWhile Numeral.isDigit)) := by
  apply takeWhile_having_of_class ('.' ∈ ·) _ _ point split
  · exact fun _ _ point => List.mem_append_left _ point
  · intro reader literal c point
    by_cases again : c = '.'
    · subst again
      simp [numberPart, point, Numeral.isDigit]
    · simp [numberPart, again]

end TextReader

namespace Chunk

variable {first cs : List Char} {c : Char}

theorem readNumber_cons_of_digit (digit : Numeral.isDigit c = true) :
    readNumber first (c :: cs) = readNumber (first ++ [c]) cs := by
  simp only [readNumber, List.takeWhile_cons_of_pos digit, List.dropWhile_cons_of_pos digit,
    List.append_assoc, List.singleton_append]

theorem used_readNumber_point :
    (readNumber first ('.' :: cs)).used = first ++ '.' :: cs.takeWhile Numeral.isDigit := by
  have point : Numeral.isDigit '.' ≠ true := by decide
  simp only [readNumber, List.takeWhile_cons_of_neg point, List.dropWhile_cons_of_neg point,
    List.append_nil]
  split
  · rfl
  · rfl

theorem used_readNumber_of_other (other : c ≠ '.') (digit : Numeral.isDigit c = false) :
    (readNumber first (c :: cs)).used = first := by
  have digit := Bool.eq_false_iff.mp digit
  simp only [readNumber, List.takeWhile_cons_of_neg digit, List.dropWhile_cons_of_neg digit]
  split
  next same => exact absurd (List.cons.inj same).1 other
  next => rw [List.append_nil]

/-- A number is malformed if a point comes right after it. -/
theorem content_readNumber (first cs : List Char) :
    (readNumber first cs).content =
      if (readNumber first cs).rest.head? = some '.' then
        .error (.malformedNumber (String.ofList (readNumber first cs).used))
      else .ok (.number (String.ofList (readNumber first cs).used)) := by
  fun_cases readNumber first cs with
  | case1 => rfl
  | case2 _ _ _ _ other => exact (if_neg (head?_ne_of_other other)).symm
  | case3 _ other => exact (if_neg (head?_ne_of_other other)).symm

/-- The item that is read with a chunk after these characters. -/
def item (chunk : Chunk) (before : List Char) : LexItem :=
  match chunk.content with
  | .ok lexeme => .ok ⟨lexeme, .following before⟩
  | .error fault =>
    .error ⟨fault, fault.place (.following before) (.following (before ++ chunk.used))⟩

end Chunk

theorem Cursor.next_of_chunk {cursor : Cursor} {before cs : List Char} {c : Char}
    (skipped : cursor.skipGap = ⟨c :: cs, .following before⟩) :
    cursor.next = (some ((Chunk.read c cs).item before),
      ⟨(Chunk.read c cs).rest, .following (before ++ (Chunk.read c cs).used)⟩) := by
  unfold Cursor.next Chunk.item
  rw [skipped]
  simp only [advance, Position.following_append]
  cases (Chunk.read c cs).content with
  | _ => rfl

namespace TextReader

open String (utf8Len)

variable {text : String} {read rest : List Char}

theorem takeWhile_numberPart_having {first : List Char} (no_point : '.' ∉ first)
    (split : text.toList = read ++ first ++ rest) :
    (having text (read ++ first)).takeWhile numberPart (String.ofList first) =
      some (String.ofList (Chunk.readNumber first rest).used,
        having text (read ++ (Chunk.readNumber first rest).used)) := by
  induction rest generalizing first with
  | nil =>
    rw [takeWhile_having_nil split]
    simp [Chunk.readNumber]
  | cons c rest ih =>
    have split' := split_cons split
    by_cases point : c = '.'
    · subst point
      have part : numberPart (having text (read ++ first)) (String.ofList first) '.' =
          some true := by
        simp [numberPart, no_point]
      rw [takeWhile_having_of_wanted split part,
        takeWhile_numberPart_of_point (by simp) split', Chunk.used_readNumber_point]
      simp
    · have part : numberPart (having text (read ++ first)) (String.ofList first) c =
          some (Numeral.isDigit c) := by
        simp [numberPart, point]
      cases digit : Numeral.isDigit c with
      | true =>
        rw [digit] at part
        rw [List.append_assoc read] at split'
        have no_point' : '.' ∉ first ++ [c] := by
          simp [no_point, Ne.symm point]
        rw [takeWhile_having_of_wanted split part, List.append_assoc,
          ih no_point' split', Chunk.readNumber_cons_of_digit digit]
      | false =>
        rw [digit] at part
        rw [takeWhile_having_of_unwanted split part, Chunk.used_readNumber_of_other point digit]

/-! ### Tokens -/

/-- What a call comes to that reads a chunk. -/
def yields (text : String) (read : List Char) (chunk : Chunk) : Outcome :=
  some ((chunk.item read).map some, having text (read ++ chunk.used))

theorem number_having {first : Char} (no_point : first ≠ '.')
    (split : text.toList = read ++ first :: rest) :
    (having text (read ++ [first])).number first (.following read) =
      yields text read (Chunk.readNumber [first] rest) := by
  have taken := takeWhile_numberPart_having
    (fun same => no_point (List.mem_singleton.mp same).symm) (split_cons split)
  have nothing_lost := Chunk.readNumber_used_append_rest [first] rest
  have content := Chunk.content_readNumber [first] rest
  generalize Chunk.readNumber [first] rest = chunk at taken nothing_lost content
  have ahead : (having text (read ++ chunk.used)).peek = some chunk.rest.head? :=
    peek_having (by rw [split, List.append_assoc, nothing_lost]; rfl)
  unfold number yields Chunk.item
  rw [String.singleton_eq_ofList, taken, content]
  by_cases point : chunk.rest.head? = some '.'
  · simp only [bind, Option.bind_some, ahead, point, if_true]
    rfl
  · simp only [bind, Option.bind_some, ahead, if_neg point]
    rfl

theorem quoted_having (split : text.toList = read ++ '"' :: rest) :
    (having text (read ++ ['"'])).quoted (.following read) =
      yields text read (Chunk.readText rest) := by
  have taken := takeWhile_class_having (!endsText ·) (split_cons split)
  have run_split : text.toList = read ++ ['"'] ++ rest.takeWhile (!endsText ·) ++
      rest.dropWhile (!endsText ·) := by
    rw [split_cons split, List.append_assoc _ (rest.takeWhile _), List.takeWhile_append_dropWhile]
  have ahead := peek_having run_split
  rw [quoted, taken]
  fun_cases Chunk.readText rest with
  | case1 run after closes =>
    rw [closes] at run_split ahead
    have joined : read ++ ['"'] ++ run ++ ['"'] = read ++ ('"' :: run ++ ['"']) := by simp
    simp only [bind, Option.bind_some, ahead, List.head?_cons, bump_having run_split]
    rw [joined]
    rfl
  | case2 run other =>
    have unclosed := head?_ne_of_other other
    have joined : read ++ ['"'] ++ run = read ++ '"' :: run := by simp
    simp only [bind, Option.bind_some, ahead]
    rw [joined]
    rfl

theorem identifier_having {first : Char} (split : text.toList = read ++ first :: rest) :
    (having text (read ++ [first])).identifier first (.following read) =
      yields text read (Chunk.readIdentifier first rest) := by
  rw [identifier, String.singleton_eq_ofList, takeWhile_namePart_having [first] (split_cons split),
    List.append_assoc]
  rfl

theorem hyphen_having (split : text.toList = read ++ '-' :: rest) :
    (having text (read ++ ['-'])).hyphen (.following read) =
      yields text read (Chunk.readHyphen rest) := by
  have ahead := peek_having (split_cons split)
  rw [hyphen, ahead]
  fun_cases Chunk.readHyphen rest with
  | case1 after =>
    have joined : read ++ ['-'] ++ ['>'] = read ++ ['-', '>'] := by simp
    simp only [bind, Option.bind_some, List.head?_cons, bump_having (split_cons split)]
    rw [joined]
    rfl
  | case2 c cs not_arrow digit =>
    simp only [bind, Option.bind_some, List.head?_cons, if_pos digit]
    exact number_having (by decide) split
  | case3 c cs not_arrow digit =>
    simp only [bind, Option.bind_some, List.head?_cons, if_neg digit]
    rfl
  | case4 => rfl

theorem token_having {c : Char} (split : text.toList = read ++ c :: rest) :
    (having text (read ++ [c])).token c (.following read) =
      yields text read (Chunk.read c rest) := by
  unfold token
  fun_cases Chunk.read c rest with
  | case1 lexeme symbol =>
    rw [symbol]
    rfl
  | case2 symbol hyphen =>
    subst hyphen
    exact hyphen_having split
  | case3 symbol _ quote =>
    subst quote
    exact quoted_having split
  | case4 symbol not_hyphen not_quote digit =>
    have no_point : c ≠ '.' := by
      rintro rfl
      exact absurd digit (by decide)
    simp only [symbol, if_neg not_hyphen, if_neg not_quote, if_pos digit]
    exact number_having no_point split
  | case5 symbol not_hyphen not_quote not_digit begins =>
    simp only [symbol, if_neg not_hyphen, if_neg not_quote, if_neg not_digit, if_pos begins]
    exact identifier_having split
  | case6 symbol not_hyphen not_quote not_digit stray =>
    simp only [symbol, if_neg not_hyphen, if_neg not_quote, if_neg not_digit, if_neg stray]
    rfl

theorem bump_having_nil (split : text.toList = read ++ []) :
    (having text read).bump = some (none, having text read) := by
  rw [bump, peek_having split]
  rfl

theorem nextToken_of_bump {reader first later : TextReader} {c? : Option Char}
    (skipped : reader.skipWhitespace = some first) (bumped : first.bump = some (c?, later)) :
    reader.nextToken =
      c?.elim (some (.ok none, later)) fun c => later.token c first.position := by
  rw [nextToken, skipped, Option.bind_eq_bind, Option.bind_some, bumped]
  cases c? with
  | none => rfl
  | some c => rfl

/-- What a call returns that finds this item, or none. -/
def returns : Option LexItem → Except LexError (Option Token)
  | none => .ok none
  | some item => item.map some

/-- A call takes what the next step of a cursor takes, and returns what it finds. That is nothing
when white space is left and nothing else. -/
theorem exists_nextToken_having (split : text.toList = read ++ rest) :
    ∃ item? used left, rest = used ++ left ∧
      Cursor.next ⟨rest, .following read⟩ = (item?, ⟨left, .following (read ++ used)⟩) ∧
      (having text read).nextToken = some (returns item?, having text (read ++ used)) ∧
      (item? = none ↔ ∀ c ∈ rest, isGap c = true) := by
  have gap_split : text.toList = read ++ rest.takeWhile isGap ++ rest.dropWhile isGap := by
    rw [split, List.append_assoc, List.takeWhile_append_dropWhile]
  have whole := List.takeWhile_append_dropWhile (p := isGap) (l := rest)
  have blank := List.dropWhile_eq_nil_iff (p := isGap) (l := rest)
  have skipped : (having text read).skipWhitespace =
      some (having text (read ++ rest.takeWhile isGap)) := by
    rw [skipWhitespace, takeWhile_class_having isGap split]
    rfl
  have skipped' : Cursor.skipGap ⟨rest, .following read⟩ =
      ⟨rest.dropWhile isGap, .following (read ++ rest.takeWhile isGap)⟩ := by
    rw [← Position.following_append]
    rfl
  generalize rest.takeWhile isGap = gap at gap_split whole skipped skipped'
  generalize rest.dropWhile isGap = after at gap_split whole blank skipped'
  cases after with
  | nil =>
    refine ⟨none, gap, [], whole.symm, ?_, ?_, ⟨fun _ => blank.mp rfl, fun _ => rfl⟩⟩
    · rw [List.append_nil] at whole
      rw [Cursor.next_of_gap (blank.mp rfl), whole]
    · exact nextToken_of_bump skipped (bump_having_nil gap_split)
  | cons c cs =>
    have nothing_lost := Chunk.used_append_rest c cs
    have read_next := Cursor.next_of_chunk skipped'
    have token := token_having gap_split
    generalize Chunk.read c cs = chunk at token nothing_lost read_next
    refine ⟨some (chunk.item (read ++ gap)), gap ++ chunk.used, chunk.rest, ?_, ?_, ?_,
      ⟨nofun, fun all => nomatch blank.mpr all⟩⟩
    · rw [List.append_assoc, nothing_lost, whole]
    · rw [read_next, List.append_assoc]
    · rw [nextToken_of_bump skipped (bump_having gap_split), Option.elim_some, position_having,
        token, yields, List.append_assoc]
      rfl

end TextReader

end ModularSynth
