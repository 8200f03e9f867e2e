import Mathlib.Data.List.Chain
import ModularSynth.Proofs.Language.Cut

/-!
# Writing tokens

Lexemes of any shape, written with any white space around them, are read back as they are
(`tokens_written`). White space can be left out between most lexemes; it is needed only between
those that would cling to each other (`Lexeme.clings`). The scanner decides with one character of
lookahead, and with two at a hyphen, so what stands after a lexeme matters through its first two
characters only (`Lexeme.EndsBefore`).
-/

namespace ModularSynth

/-! ### Characters that continue nothing -/

theorem continuesIdentifier_eq_false_of_isGap {c : Char} (gap : isGap c = true) :
    continuesIdentifier c = false := by
  have blank := ((Bool.and_eq_true _ _).mp gap).1
  have not_underscore : c ≠ '_' := by
    rintro rfl
    revert gap
    decide
  have not_hyphen : c ≠ '-' := by
    rintro rfl
    revert gap
    decide
  simp [continuesIdentifier, Text.isAlphanumeric_eq_false_of_isBlank blank, not_underscore,
    not_hyphen]

theorem isDigit_eq_false_of_isGap {c : Char} (gap : isGap c = true) :
    Numeral.isDigit c = false := by
  rw [Bool.eq_false_iff]
  intro digit
  have mark := List.mem_append_right tokenMarks (mem_digitMarks_of_isDigit digit)
  rw [(classes_of_mark c mark).2] at gap
  cases gap

namespace Lexeme

/-! ### Lexemes next to each other -/

/-- Whether two lexemes would not be told apart if the second stood right after the first. -/
def clings : Lexeme → Lexeme → Bool
  | identifier _, identifier _ => true
  | identifier _, number _ => true
  | number _, number digits => digits.toList.head? != some '-'
  | _, _ => false

variable {lexeme next : Lexeme}

/-- Every lexeme ends at the end of the text. -/
theorem endsBefore_nil (lexeme : Lexeme) : lexeme.EndsBefore [] := by
  cases lexeme with
  | identifier name => exact ⟨nofun, nofun⟩
  | number digits => exact nofun
  | _ => trivial

/-- Every lexeme ends at white space. -/
theorem endsBefore_gap {c : Char} (lexeme : Lexeme) (gap : isGap c = true) (rest : List Char) :
    lexeme.EndsBefore (c :: rest) := by
  cases lexeme with
  | identifier name =>
    constructor
    · intro d first continues
      cases first
      rw [continuesIdentifier_eq_false_of_isGap gap] at continues
      cases continues
    · intro _ begins
      cases begins
      revert gap
      decide
  | number digits =>
    intro d first
    cases first
    refine ⟨isDigit_eq_false_of_isGap gap, ?_⟩
    rintro rfl
    revert gap
    decide
  | _ => trivial

/-- A lexeme ends where one begins that does not cling to it. -/
theorem endsBefore_spelling (loose : lexeme.clings next = false) (shaped : next.Shaped)
    (rest : List Char) : lexeme.EndsBefore (next.spelling ++ rest) := by
  cases lexeme with
  | identifier name =>
    cases next with
    | identifier other => cases loose
    | number digits => cases loose
    | arrow =>
      refine ⟨?_, nofun⟩
      intro c first _
      cases first
      exact ⟨rfl, rfl⟩
    | _ =>
      refine ⟨?_, nofun⟩
      intro c first continues
      cases first
      exact absurd continues (by decide)
  | number digits =>
    intro c first
    cases next with
    | identifier other =>
      obtain ⟨initial, tail, spelt, letter, -⟩ := shaped
      rw [spelling_identifier, spelt] at first
      cases first
      refine ⟨(initial_of_beginsIdentifier letter).not_digit, ?_⟩
      rintro rfl
      revert letter
      decide
    | number others =>
      have hyphen : others.toList.head? = some '-' := by simpa [clings] using loose
      rw [spelling_number, List.head?_append, hyphen] at first
      cases first
      decide
    | _ =>
      cases first
      decide
  | _ => trivial

end Lexeme

/-! ### Written lexemes -/

/-- A lexeme and the white space before it. -/
structure Spaced where
  gap : List Char
  lexeme : Lexeme

/-- Some lexemes, each after its gap, and what comes after the last one. -/
def written : List Spaced → List Char → List Char
  | [], last => last
  | piece :: rest, last => piece.gap ++ piece.lexeme.spelling ++ written rest last

/-- The tokens that lexemes are when they are written after some characters. -/
def placed (before : List Char) : List Spaced → List Token
  | [] => []
  | piece :: rest =>
    ⟨piece.lexeme, .following (before ++ piece.gap)⟩ ::
      placed (before ++ piece.gap ++ piece.lexeme.spelling) rest

theorem map_lexeme_placed (before : List Char) (pieces : List Spaced) :
    (placed before pieces).map (·.lexeme) = pieces.map (·.lexeme) := by
  induction pieces generalizing before with
  | nil => rfl
  | cons piece rest ih => rw [placed, List.map_cons, List.map_cons, ih]

/-- Lexemes of the right shapes with white space around them, and at least some where they would
cling to each other. -/
structure Separated (pieces : List Spaced) (last : List Char) : Prop where
  shaped : ∀ piece ∈ pieces, piece.lexeme.Shaped
  blank : ∀ piece ∈ pieces, ∀ c ∈ piece.gap, isGap c = true
  blank_last : ∀ c ∈ last, isGap c = true
  apart : pieces.IsChain fun piece next => piece.lexeme.clings next.lexeme = true → next.gap ≠ []

namespace Separated

variable {piece : Spaced} {rest : List Spaced} {last : List Char}

theorem tail (separated : Separated (piece :: rest) last) : Separated rest last where
  shaped := (List.forall_mem_cons.mp separated.shaped).2
  blank := (List.forall_mem_cons.mp separated.blank).2
  blank_last := separated.blank_last
  apart := separated.apart.tail

/-- In separated lexemes each one ends before what comes next. -/
theorem endsBefore (separated : Separated (piece :: rest) last) :
    piece.lexeme.EndsBefore (written rest last) := by
  cases rest with
  | nil =>
    cases last with
    | nil => exact piece.lexeme.endsBefore_nil
    | cons c last =>
      exact piece.lexeme.endsBefore_gap (separated.blank_last c List.mem_cons_self) last
  | cons next rest =>
    rw [written, List.append_assoc]
    cases space : next.gap with
    | nil =>
      have loose : piece.lexeme.clings next.lexeme = false := by
        rw [Bool.eq_false_iff]
        intro clings
        exact (List.isChain_cons_cons.mp separated.apart).1 clings space
      exact Lexeme.endsBefore_spelling loose
        (separated.shaped next (List.mem_cons_of_mem _ List.mem_cons_self)) _
    | cons c gap =>
      have blank := separated.blank next (List.mem_cons_of_mem _ List.mem_cons_self)
      rw [space] at blank
      exact piece.lexeme.endsBefore_gap (blank c List.mem_cons_self) _

/-- What is written is cut where it was put together. -/
theorem cut {pieces : List Spaced} (separated : Separated pieces last) (before : List Char) :
    Cut before (written pieces last) ((placed before pieces).map .ok) := by
  induction pieces generalizing before with
  | nil => exact .finish separated.blank_last
  | cons piece rest ih =>
    exact .token (separated.blank piece List.mem_cons_self)
      (separated.shaped piece List.mem_cons_self) separated.endsBefore (ih separated.tail _)

end Separated

/-- Lexemes that are written with white space where they would cling, and anywhere else, are read
back, each where it stands, without an error. -/
theorem tokens_written {pieces : List Spaced} {last : List Char}
    (separated : Separated pieces last) :
    tokens (String.ofList (written pieces last)) = (placed [] pieces).map .ok ∧
      (placed [] pieces).map (·.lexeme) = pieces.map (·.lexeme) := by
  have cut := separated.cut []
  have scanned := Cursor.scan_of_cut cut
  refine ⟨?_, map_lexeme_placed [] pieces⟩
  unfold tokens Cursor.ofString
  rw [String.toList_ofList]
  exact scanned

/-- Lexemes that touch wherever they can. -/
def cramped : List Spaced :=
  [⟨[], .identifier "a-"⟩, ⟨[], .arrow⟩, ⟨[], .identifier "ß"⟩, ⟨['\u3000'], .number "1"⟩,
    ⟨[], .number "-2."⟩, ⟨[], .identifier "x"⟩, ⟨[], .quoted "-\t>"⟩, ⟨[], .number "007"⟩,
    ⟨[], .newline⟩]

theorem cramped_written :
    Separated cramped ['\r'] ∧
      String.ofList (written cramped ['\r']) = "a-->ß\u30001-2.x\"-\t>\"007\n\r" ∧
      tokens (String.ofList (written cramped ['\r'])) = (placed [] cramped).map .ok ∧
        (placed [] cramped).map (·.lexeme) = cramped.map (·.lexeme) := by
  -- Decided over the lists: deciding the quantifiers themselves would run through all characters.
  have separated : Separated cramped ['\r'] := by
    refine ⟨?_, ?_, List.forall_mem_singleton.mpr (by decide), by decide⟩
    · intro piece member
      simp only [cramped, List.mem_cons, List.not_mem_nil, or_false] at member
      rcases member with rfl | rfl | rfl | rfl | rfl | rfl | rfl | rfl | rfl
      · exact ⟨'a', ['-'], rfl, by decide, List.all_iff_forall_prop.mp (by decide)⟩
      · trivial
      · exact ⟨'ß', [], rfl, by decide, List.forall_mem_nil _⟩
      · exact Or.inl (.positive (by decide) (List.all_iff_forall_prop.mp (by decide)))
      · have pointed : Numeral.Pointed (['-', '2'] ++ '.' :: []) :=
          .intro (.negative (by decide) (List.all_iff_forall_prop.mp (by decide)))
            (List.forall_mem_nil _)
        exact Or.inr pointed
      · exact ⟨'x', [], rfl, by decide, List.forall_mem_nil _⟩
      · have inside : ∀ c ∈ "-\t>".toList, endsText c = false :=
          List.all_iff_forall_prop.mp (by decide)
        exact inside
      · exact Or.inl (.positive (by decide) (List.all_iff_forall_prop.mp (by decide)))
      · trivial
    · have blank : cramped.all (·.gap.all isGap) = true := by decide
      simpa only [List.all_eq_true] using blank
  exact ⟨separated, by decide, tokens_written separated⟩

end ModularSynth
