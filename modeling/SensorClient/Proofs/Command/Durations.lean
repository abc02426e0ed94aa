import Mathlib.Data.List.Induction
import SensorClient.Command.Target

/-!
# The texts that give a length of time

Blanks around it aside, a length of time is a numeral with the ending of a unit right behind it. The
one ending is the end of the other, so the longer is looked for first, and no other split of the
text leaves a numeral, because a numeral ends in a digit. A numeral is read if its number has 64
bits, and no time at all is not a length of time. Whatever else a text may be, it is a mistake of
whoever wrote it.

## Main definitions

* `Denotes`: decimal digits and the number that they denote
* `Numeral`: the same with a plus sign before the digits, or without
* `Duration.Spells`: a text spells so many of a unit
* `Duration.Malformed`: the ways to miss a length of time by a little

## Main results

* `Duration.spells_iff`: what a text spells is found in the one place where it is looked for
* `Duration.Spells.unique`: a text does not spell two things
* `Duration.wanted_iff_spelled`: the texts that give a length of time, and which they give
-/

namespace SensorClient

/-! ## Numerals -/

/-- Decimal digits, at least one, and the number that they denote. -/
inductive Denotes : List Char → Nat → Prop
  | single {d : Nat} (small : d < 10) : Denotes [d.digitChar] d
  | snoc {digits : List Char} {n d : Nat} (before : Denotes digits n) (small : d < 10) :
      Denotes (digits ++ [d.digitChar]) (10 * n + d)

/-- Every digit is the one of a number below ten. -/
theorem exists_digitChar {c : Char} (digit : c.isDigit = true) :
    ∃ d < 10, d.digitChar = c ∧ c.toNat - 48 = d := by
  obtain ⟨low, high⟩ := Char.isDigit_iff_toNat.mp digit
  have least : '0'.toNat = 48 := rfl
  have greatest : '9'.toNat = 57 := rfl
  have small : c.toNat - 48 < 10 := by omega
  refine ⟨c.toNat - 48, small, ?_, rfl⟩
  apply Char.toNat_inj.mp
  rw [Nat.toNat_digitChar_of_lt_ten small]
  omega

theorem Json.digitsValue_concat (digits : List Char) (c : Char) :
    Json.digitsValue (digits ++ [c]) = 10 * Json.digitsValue digits + (c.toNat - 48) := by
  simp [Json.digitsValue]

/-- Digits denote the number that they are read as. -/
theorem denotes_iff {text : List Char} {n : Nat} :
    Denotes text n ↔ text ≠ [] ∧ (∀ c ∈ text, c.isDigit = true) ∧ Json.digitsValue text = n := by
  constructor
  · intro denotes
    induction denotes with
    | single small =>
      refine ⟨List.cons_ne_nil _ _, ?_, ?_⟩
      · simpa [Nat.isDigit_digitChar] using small
      · simp [Json.digitsValue, Nat.toNat_digitChar_sub_48_of_lt_ten small]
    | snoc before small ih =>
      obtain ⟨-, digits, value⟩ := ih
      refine ⟨List.append_ne_nil_of_right_ne_nil _ (List.cons_ne_nil _ _), ?_, ?_⟩
      · intro c mem
        rcases List.mem_append.mp mem with mem | mem
        · exact digits c mem
        · rw [List.mem_singleton.mp mem]
          simpa [Nat.isDigit_digitChar] using small
      · rw [Json.digitsValue_concat, value, Nat.toNat_digitChar_sub_48_of_lt_ten small]
  · rintro ⟨nonempty, digits, rfl⟩
    -- The induction takes the last digit off, as reading goes from the first to the last.
    induction text using List.reverseRecOn with
    | nil => exact absurd rfl nonempty
    | append_singleton front c ih =>
      obtain ⟨d, small, rfl, value⟩ := exists_digitChar (digits c (by simp))
      rw [Json.digitsValue_concat, value]
      by_cases first : front = []
      · subst first
        rw [show 10 * Json.digitsValue [] + d = d from Nat.zero_add d]
        exact .single small
      · refine .snoc (ih first ?_) small
        intro c mem
        exact digits c (List.mem_append_left _ mem)

/-- The digits that a number is written with denote it. -/
theorem denotes_toString (n : Nat) : Denotes (toString n).toList n := by
  have written : (toString n).toList = Nat.toDigits 10 n := Nat.toList_repr
  rw [written, denotes_iff]
  refine ⟨Nat.toDigits_ne_nil, ?_, Nat.ofDigitChars_toDigits (by decide) (by decide)⟩
  intro c mem
  exact Nat.isDigit_of_mem_toDigits (by decide) (by decide) mem

/-- Decimal digits with a plus sign before them, or without. -/
def Numeral (text : List Char) (n : Nat) : Prop :=
  ∃ sign digits, text = sign ++ digits ∧ (sign = [] ∨ sign = ['+']) ∧ Denotes digits n

namespace Numeral

variable {text rest : List Char} {n : Nat}

/-- Without a sign there are the digits alone. -/
theorem unsigned_iff (unsigned : ∀ rest, text ≠ '+' :: rest) : Numeral text n ↔ Denotes text n := by
  constructor
  · rintro ⟨sign, digits, rfl, rfl | rfl, denotes⟩
    · exact denotes
    · exact absurd rfl (unsigned digits)
  · intro denotes
    exact ⟨[], text, rfl, .inl rfl, denotes⟩

/-- Behind a sign there are digits, because the sign is none. -/
theorem signed_iff : Numeral ('+' :: rest) n ↔ Denotes rest n := by
  constructor
  · rintro ⟨sign, digits, split, rfl | rfl, denotes⟩
    · obtain ⟨-, isDigit, -⟩ := denotes_iff.mp denotes
      have signed : '+' ∈ digits := by
        rw [← List.nil_append digits, ← split]
        exact List.mem_cons_self
      exact absurd (isDigit '+' signed) (by decide)
    · cases split
      exact denotes
  · intro denotes
    exact ⟨['+'], rest, rfl, .inr rfl, denotes⟩

/-- A numeral is a plus sign before digits, or digits alone. -/
theorem mem (numeral : Numeral text n) : ∀ c ∈ text, c = '+' ∨ c.isDigit = true := by
  obtain ⟨sign, digits, rfl, signs, denotes⟩ := numeral
  obtain ⟨-, isDigit, -⟩ := denotes_iff.mp denotes
  intro c mem
  rcases List.mem_append.mp mem with mem | mem
  · rcases signs with rfl | rfl
    · cases mem
    · exact .inl (List.mem_singleton.mp mem)
  · exact .inr (isDigit c mem)

/-- A numeral ends in a digit. -/
theorem last (numeral : Numeral text n) : ∃ front c, text = front ++ [c] ∧ c.isDigit = true := by
  obtain ⟨sign, digits, rfl, -, denotes⟩ := numeral
  cases denotes with
  | single small =>
    exact ⟨sign, _, rfl, by simpa [Nat.isDigit_digitChar] using small⟩
  | snoc before small =>
    exact ⟨sign ++ _, _, (List.append_assoc ..).symm,
      by simpa [Nat.isDigit_digitChar] using small⟩

/-- A numeral does not denote two numbers. -/
theorem unique {m : Nat} (one : Numeral text n) (other : Numeral text m) : n = m := by
  have same : ∀ {digits}, Denotes digits n → Denotes digits m → n = m := by
    intro digits denotes denotes'
    obtain ⟨-, -, value⟩ := denotes_iff.mp denotes
    obtain ⟨-, -, value'⟩ := denotes_iff.mp denotes'
    exact value.symm.trans value'
  by_cases signed : ∃ rest, text = '+' :: rest
  · obtain ⟨rest, rfl⟩ := signed
    exact same (signed_iff.mp one) (signed_iff.mp other)
  · have unsigned : ∀ rest, text ≠ '+' :: rest := not_exists.mp signed
    exact same ((unsigned_iff unsigned).mp one) ((unsigned_iff unsigned).mp other)

end Numeral

theorem Json.literalWord?_eq_some_iff {limit : Nat} {literal : List Char} {n : Nat} :
    Json.literalWord? limit literal = some n ↔ Denotes literal n ∧ n < limit := by
  rw [denotes_iff, ← List.all_eq_true]
  unfold Json.literalWord?
  split
  · next holds =>
    obtain ⟨nonempty, digits, below⟩ := holds
    rw [Option.some.injEq]
    constructor
    · rintro rfl
      exact ⟨⟨nonempty, digits, rfl⟩, below⟩
    · rintro ⟨⟨-, -, value⟩, -⟩
      exact value
  · next fails =>
    refine iff_of_false nofun ?_
    rintro ⟨⟨nonempty, digits, rfl⟩, below⟩
    exact fails ⟨nonempty, digits, below⟩

/-- What is read is a numeral whose number has 64 bits. -/
theorem Duration.readCount?_eq_some_iff {text : List Char} {n : Nat} :
    readCount? text = some n ↔ Numeral text n ∧ n < UInt64.size := by
  unfold readCount?
  split
  · rw [Json.literalWord?_eq_some_iff, Numeral.signed_iff]
  · next unsigned => rw [Json.literalWord?_eq_some_iff, Numeral.unsigned_iff unsigned]

/-! ## Units -/

namespace TimeUnit

/-- The endings that stand for a unit. Seconds need none. -/
def endings : TimeUnit → List (List Char)
  | milliseconds => [milliseconds.text]
  | seconds => [seconds.text, []]

theorem text_mem_endings (unit : TimeUnit) : unit.text ∈ unit.endings := by
  cases unit <;> exact List.mem_cons_self

/-- An ending is made of two letters. -/
theorem mem_of_mem_endings {unit : TimeUnit} {ending : List Char} (stands : ending ∈ unit.endings)
    {c : Char} (mem : c ∈ ending) : c = 'm' ∨ c = 's' := by
  cases unit with
  | milliseconds =>
    obtain rfl := List.mem_singleton.mp stands
    simpa [text] using mem
  | seconds =>
    rcases List.mem_cons.mp stands with rfl | stands
    · exact .inr (List.mem_singleton.mp mem)
    · obtain rfl := List.mem_singleton.mp stands
      cases mem

/-- There is no digit in an ending. -/
theorem not_isDigit_of_mem_endings {unit : TimeUnit} {ending : List Char}
    (stands : ending ∈ unit.endings) {c : Char} (mem : c ∈ ending) : ¬ c.isDigit = true := by
  rcases mem_of_mem_endings stands mem with rfl | rfl
  · decide
  · decide

end TimeUnit

namespace Duration

/-- Of a text nothing is lost, and what is taken off its end stands for the unit. -/
theorem splitUnit_joins (text : List Char) :
    ∃ ending ∈ (splitUnit text).2.endings, text = (splitUnit text).1 ++ ending := by
  unfold splitUnit
  split
  · next rest reversed =>
    refine ⟨['m', 's'], List.mem_singleton_self _, ?_⟩
    simpa using congrArg List.reverse reversed
  · next rest _ reversed =>
    refine ⟨['s'], List.mem_cons_self, ?_⟩
    simpa using congrArg List.reverse reversed
  · exact ⟨[], List.mem_cons_of_mem _ (List.mem_singleton_self _), (List.append_nil text).symm⟩

/-- The ending behind a digit is taken for what it stands for. -/
theorem splitUnit_append {front : List Char} {c : Char} (digit : c.isDigit = true)
    {unit : TimeUnit} {ending : List Char} (stands : ending ∈ unit.endings) :
    splitUnit (front ++ [c] ++ ending) = (front ++ [c], unit) := by
  -- No digit is a letter of an ending, so no more is taken off than the ending.
  have other {letter : Char} (nonDigit : letter.isDigit = false) : c ≠ letter := by
    rintro rfl
    rw [digit] at nonDigit
    cases nonDigit
  have notM : c ≠ 'm' := other rfl
  have notS : c ≠ 's' := other rfl
  cases unit with
  | milliseconds =>
    obtain rfl := List.mem_singleton.mp stands
    simp [splitUnit, TimeUnit.text]
  | seconds =>
    rcases List.mem_cons.mp stands with rfl | stands
    · simp [splitUnit, TimeUnit.text, notM]
    · obtain rfl := List.mem_singleton.mp stands
      simp [splitUnit, notS]

/-- A text spells so many of a unit: a numeral with an ending of the unit right behind it. -/
def Spells (text : List Char) (unit : TimeUnit) (count : Nat) : Prop :=
  ∃ numeral ending, text = numeral ++ ending ∧ Numeral numeral count ∧ ending ∈ unit.endings

/-- What a text spells is found in the one place where it is looked for. -/
theorem spells_iff {text : List Char} {unit : TimeUnit} {count : Nat} :
    Spells text unit count ↔
      (splitUnit text).2 = unit ∧ Numeral (splitUnit text).1 count := by
  constructor
  · rintro ⟨numeral, ending, rfl, counts, stands⟩
    obtain ⟨front, c, rfl, digit⟩ := counts.last
    rw [splitUnit_append digit stands]
    exact ⟨rfl, counts⟩
  · rintro ⟨rfl, counts⟩
    obtain ⟨ending, stands, joined⟩ := splitUnit_joins text
    exact ⟨_, ending, joined, counts, stands⟩

namespace Spells

variable {text : List Char} {unit : TimeUnit} {count : Nat}

/-- A text does not spell two things. -/
theorem unique (spells : Spells text unit count) {unit' : TimeUnit} {count' : Nat}
    (other : Spells text unit' count') : unit = unit' ∧ count = count' := by
  obtain ⟨same, numeral⟩ := spells_iff.mp spells
  obtain ⟨same', numeral'⟩ := spells_iff.mp other
  exact ⟨same.symm.trans same', numeral.unique numeral'⟩

/-- There is a digit in a text that spells anything. -/
theorem exists_isDigit (spells : Spells text unit count) : ∃ c ∈ text, c.isDigit = true := by
  obtain ⟨numeral, ending, rfl, counts, -⟩ := spells
  obtain ⟨front, c, rfl, digit⟩ := counts.last
  exact ⟨c, by simp, digit⟩

/-- A text that spells anything has few characters to choose from. -/
theorem mem (spells : Spells text unit count) :
    ∀ c ∈ text, c = '+' ∨ c.isDigit = true ∨ c = 'm' ∨ c = 's' := by
  obtain ⟨numeral, ending, rfl, counts, stands⟩ := spells
  intro c mem
  rcases List.mem_append.mp mem with mem | mem
  · rcases counts.mem c mem with plus | digit
    · exact .inl plus
    · exact .inr (.inl digit)
  · exact .inr (.inr (TimeUnit.mem_of_mem_endings stands mem))

/-- A text that spells anything has no blanks in it. -/
theorem solid (spells : Spells text unit count) : ∀ c ∈ text, Text.isBlank c = false := by
  have blankless : ∀ d < 10, Text.isBlank d.digitChar = false := by decide
  intro c mem
  rcases spells.mem c mem with rfl | digit | rfl | rfl
  · decide
  · obtain ⟨d, small, rfl, -⟩ := exists_digitChar digit
    exact blankless d small
  · decide
  · decide

end Spells

end Duration

/-! ## Blanks -/

namespace Text

/-- Of blanks before a text without any, the text is what is left. -/
theorem dropWhile_isBlank {before own rest : List Char} (leading : ∀ c ∈ before, isBlank c = true)
    (nonempty : own ≠ []) (solid : ∀ c ∈ own, isBlank c = false) :
    (before ++ (own ++ rest)).dropWhile isBlank = own ++ rest := by
  rw [List.dropWhile_append_of_pos leading]
  obtain ⟨c, own, rfl⟩ := List.exists_cons_of_ne_nil nonempty
  apply List.dropWhile_cons_of_neg
  simp [solid c List.mem_cons_self]

/-- From a text without blanks only the blanks around it are taken off. -/
theorem strip_around {before body after : List Char} (leading : ∀ c ∈ before, isBlank c = true)
    (nonempty : body ≠ []) (solid : ∀ c ∈ body, isBlank c = false)
    (trailing : ∀ c ∈ after, isBlank c = true) : strip (before ++ body ++ after) = body := by
  have backwards : (after.reverse ++ (body.reverse ++ [])).dropWhile isBlank = body.reverse ++ [] :=
    dropWhile_isBlank (by simpa using trailing) (by simpa using nonempty) (by simpa using solid)
  unfold strip
  rw [List.append_assoc, dropWhile_isBlank leading nonempty solid, List.reverse_append]
  rw [List.append_nil] at backwards
  rw [backwards, List.reverse_reverse]

end Text

/-! ## Lengths of time -/

namespace Duration

/-- A text without blanks around it gives a length of time: it spells so many of a unit, and the
number is not zero and has 64 bits. -/
def Gives (text : List Char) (d : Duration) : Prop :=
  ∃ unit count, Spells text unit count ∧ 1 ≤ count ∧ count < UInt64.size ∧ d = unit.times count

/-- A text is read as the length of time that it gives without the blanks around it. -/
theorem readChars_eq_ok_iff {text : List Char} {d : Duration} :
    readChars text = .ok d ↔ Gives (Text.strip text) d := by
  unfold readChars
  dsimp only
  split
  · next empty =>
    refine iff_of_false nofun ?_
    rintro ⟨unit, count, spells, -⟩
    obtain ⟨c, mem, -⟩ := spells.exists_isDigit
    rw [empty] at mem
    cases mem
  · constructor
    · intro given
      split at given
      · cases given
      · cases given
      · next count nonzero read =>
        cases given
        obtain ⟨numeral, small⟩ := readCount?_eq_some_iff.mp read
        exact ⟨_, count, spells_iff.mpr ⟨rfl, numeral⟩, Nat.one_le_iff_ne_zero.mpr nonzero, small,
          rfl⟩
    · rintro ⟨unit, count, spells, positive, small, rfl⟩
      obtain ⟨rfl, numeral⟩ := spells_iff.mp spells
      rw [readCount?_eq_some_iff.mpr ⟨numeral, small⟩]
      cases count with
      | zero => cases positive
      | succ count => rfl

theorem wanted_eq_ok_iff {text : String} {d : Duration} :
    wanted text = .ok d ↔ Gives (Text.strip text.toList) d := by
  rw [← readChars_eq_ok_iff]
  change (readChars text.toList).mapError _ = _ ↔ _
  cases readChars text.toList <;> simp [Except.mapError]

/-- A text that gives no length of time is a mistake of whoever wrote it. -/
theorem wanted_refused {text : String} (refused : ∀ d, ¬ Gives (Text.strip text.toList) d) :
    ∃ failure, wanted text = .error failure ∧ failure.exit = .usage := by
  change ∃ failure, (readChars text.toList).mapError _ = _ ∧ _
  cases given : readChars text.toList with
  | error fault => exact ⟨fault.failure, rfl, rfl⟩
  | ok d => exact absurd (readChars_eq_ok_iff.mp given) (refused d)

/-- A length of time that is written out is what the text gives, whatever blanks are around it. -/
theorem wanted_written {unit : TimeUnit} {ending : List Char} (stands : ending ∈ unit.endings)
    {count : Nat} (positive : 1 ≤ count) (small : count < UInt64.size) {before after : List Char}
    (leading : ∀ c ∈ before, Text.isBlank c = true)
    (trailing : ∀ c ∈ after, Text.isBlank c = true) :
    wanted (String.ofList (before ++ ((toString count).toList ++ ending) ++ after)) =
      .ok (unit.times count) := by
  have numeral : Numeral (toString count).toList count :=
    ⟨[], _, rfl, .inl rfl, denotes_toString count⟩
  have spells : Spells ((toString count).toList ++ ending) unit count :=
    ⟨_, ending, rfl, numeral, stands⟩
  obtain ⟨c, mem, -⟩ := spells.exists_isDigit
  rw [wanted_eq_ok_iff, String.toList_ofList,
    Text.strip_around leading (List.ne_nil_of_mem mem) spells.solid trailing]
  exact ⟨unit, count, spells, positive, small, rfl⟩

/-- The ways to miss a length of time by a little: a unit alone, a plus sign without digits, a minus
sign, nothing but zeros, two units, and a number of more than 64 bits. -/
inductive Malformed : List Char → Prop
  | bare (unit : TimeUnit) : Malformed unit.text
  | sign {unit : TimeUnit} {ending : List Char} (stands : ending ∈ unit.endings) :
      Malformed ('+' :: ending)
  | negative (rest : List Char) : Malformed ('-' :: rest)
  | zero {text : List Char} {unit : TimeUnit} (spells : Spells text unit 0) : Malformed text
  | doubled (body : List Char) (unit unit' : TimeUnit) : Malformed (body ++ unit.text ++ unit'.text)
  | overflowing {text : List Char} {unit : TimeUnit} {count : Nat}
      (spells : Spells text unit count) (large : UInt64.size ≤ count) : Malformed text

theorem Malformed.not_gives {text : List Char} (malformed : Malformed text) (d : Duration) :
    ¬ Gives text d := by
  rintro ⟨unit, count, spells, positive, small, rfl⟩
  cases malformed with
  | bare other =>
    obtain ⟨c, mem, digit⟩ := spells.exists_isDigit
    exact TimeUnit.not_isDigit_of_mem_endings other.text_mem_endings mem digit
  | sign stands =>
    obtain ⟨c, mem, digit⟩ := spells.exists_isDigit
    rcases List.mem_cons.mp mem with rfl | mem
    · exact absurd digit (by decide)
    · exact TimeUnit.not_isDigit_of_mem_endings stands mem digit
  | negative rest => exact absurd (spells.mem '-' List.mem_cons_self) (by decide)
  | zero nothing =>
    obtain ⟨-, rfl⟩ := nothing.unique spells
    cases positive
  | doubled body first second =>
    -- The second unit is taken off, and what is left does not end in a digit.
    have left : (splitUnit (body ++ first.text ++ second.text)).1 = body ++ first.text := by
      cases first <;> cases second <;> simp [splitUnit, TimeUnit.text]
    have mem : 's' ∈ body ++ first.text := by cases first <;> simp [TimeUnit.text]
    obtain ⟨-, numeral⟩ := spells_iff.mp spells
    rw [left] at numeral
    exact absurd (numeral.mem 's' mem) (by decide)
  | overflowing much large =>
    obtain ⟨-, rfl⟩ := much.unique spells
    exact absurd small (Nat.not_lt.mpr large)

/-- The texts that give a length of time, and which they give. Without the blanks around it, such a
text is a numeral with the ending of a unit right behind it, whose number is not zero and has 64
bits, and it gives so many of the unit. Any other text is a mistake of whoever wrote it, and so are
those that miss by a little. What is written out is read back. -/
theorem wanted_iff_spelled :
    (∀ text d, wanted text = .ok d ↔ Gives (Text.strip text.toList) d) ∧
      (∀ text, (∀ d, ¬ Gives (Text.strip text.toList) d) →
        ∃ failure, wanted text = .error failure ∧ failure.exit = .usage) ∧
      (∀ text, Malformed (Text.strip text.toList) →
        ∃ failure, wanted text = .error failure ∧ failure.exit = .usage) ∧
      ∀ (unit : TimeUnit), ∀ ending ∈ unit.endings, ∀ count, 1 ≤ count → count < UInt64.size →
        ∀ before after, (∀ c ∈ before, Text.isBlank c = true) →
          (∀ c ∈ after, Text.isBlank c = true) →
          wanted (String.ofList (before ++ ((toString count).toList ++ ending) ++ after)) =
            .ok (unit.times count) := by
  refine ⟨?_, ?_, ?_, ?_⟩
  · intro text d
    exact wanted_eq_ok_iff
  · intro text refused
    exact wanted_refused refused
  · intro text malformed
    exact wanted_refused malformed.not_gives
  · intro unit ending stands count positive small before after leading trailing
    exact wanted_written stands positive small leading trailing

/-- The longest length of time in milliseconds is read back, two units are none, and neither is a
word. -/
theorem wanted_iff_spelled_longest :
    wanted " 18446744073709551615ms\n" = .ok (.ofMilliseconds 18446744073709551615) ∧
      (∃ failure, wanted "5sms" = .error failure ∧ failure.exit = .usage) ∧
      ∃ failure, wanted "soon" = .error failure ∧ failure.exit = .usage := by
  obtain ⟨-, refused, malformed, written⟩ := wanted_iff_spelled
  refine ⟨?_, ?_, ?_⟩
  · exact written .milliseconds _ (TimeUnit.text_mem_endings _) 18446744073709551615 (by decide)
      (by decide) [' '] ['\n'] (List.forall_mem_singleton.mpr rfl) (List.forall_mem_singleton.mpr rfl)
  · exact malformed "5sms" (.doubled ['5'] .seconds .milliseconds)
  · apply refused "soon"
    rintro d ⟨unit, count, spells, -⟩
    exact absurd (spells.mem 'o' (by decide)) (by decide)

end Duration

end SensorClient
