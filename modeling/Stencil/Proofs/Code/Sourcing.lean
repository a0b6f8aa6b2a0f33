import Stencil.Proofs.Code.Globals
import Stencil.Proofs.Run
import Stencil.Proofs.Text.Utf8

/-!
# Reading comparisons

Generated code is read by its own rules, here those of an expression that
compares: operands with `==` between them. An operand is a name, an integer
literal of any of the four bases, perhaps with a minus before it, or a string
literal with one quote or three on each side and perhaps a letter before them.
What a literal stands for is left open; only where it ends matters.

Line ends are made uniform first (`readComparison?`). Then one lexeme after the
other is taken off the text, each as long as it can be. Whatever is taken stands
at the front (`lexeme_front`), and an operand that is read as a whole is read
the same in front of a space (`lexeme_atom`).
-/

namespace Stencil.Code.Comparison

/-- A character of names and numbers. Beyond ASCII all are taken for letters. -/
def inWord (c : Char) : Bool := c.isAlphanum || c == '_' || 0x80 ≤ c.toNat

/-- A quote. -/
def isQuote (c : Char) : Bool := c == '"' || c == '\''

/-- A blank between lexemes. -/
def isGap (c : Char) : Bool := c == ' ' || c == '\t' || c.toNat == 0xC

/-- The letters that may stand before the quotes of a text. -/
def quoteLetters : List Char := ['r', 'R', 'u', 'U']

/-- What a string literal starts with: a letter or none, a quote, and what is behind it. -/
def opening? : List Char → Option (List Char × Char × List Char)
  | [] => none
  | c :: rest =>
    if isQuote c then some ([], c, rest)
    else if quoteLetters.contains c then match rest with
      | [] => none
      | d :: rest => if isQuote d then some ([c], d, rest) else none
    else none

/-- A string literal from behind its opening quotes up to its closing ones, which are as many, and
what is behind it. A backslash takes the next character with it. Without three quotes no line ends
in it. -/
def closing? (quote : Char) (marks : Nat) : List Char → Option (List Char × List Char)
  | [] => none
  | '\\' :: c :: rest => (closing? quote marks rest).map fun found =>
    ('\\' :: c :: found.1, found.2)
  | c :: rest =>
    if (List.replicate marks quote).isPrefixOf (c :: rest) then
      some (List.replicate marks quote, (c :: rest).drop marks)
    else if marks = 1 ∧ c = '\n' then none
    else (closing? quote marks rest).map fun found => (c :: found.1, found.2)

/-- How many quotes a string literal has on each side, by what is behind the first. -/
def marksOf (quote : Char) (rest : List Char) : Nat :=
  if (List.replicate 2 quote).isPrefixOf rest then 3 else 1

/-- A string literal at the front of a text, and what is behind it. -/
def string? (cs : List Char) : Option (List Char × List Char) := do
  let (letters, quote, rest) ← opening? cs
  let marks := marksOf quote rest
  let (body, behind) ← closing? quote marks (rest.drop (marks - 1))
  return (letters ++ List.replicate marks quote ++ body, behind)

/-- Digits of a base, single underscores between them. -/
def isGrouped (base : Nat) (cs : List Char) : Bool :=
  (Decimal.spanGroups? base true cs).any fun read => read.2.isEmpty

/-- The letters that mark a base. -/
def baseLetters : List (Char × Nat) :=
  [('b', 2), ('B', 2), ('o', 8), ('O', 8), ('x', 16), ('X', 16)]

/-- An integer without a sign: zeros, or a number of one of the bases. A decimal number does not
start with a zero, and an underscore may stand behind the mark of another base. -/
def isInteger : List Char → Bool
  | '0' :: c :: rest => match baseLetters.lookup c with
    | some base => isGrouped base rest || (rest.head? == some '_' && isGrouped base rest.tail)
    | none => isGrouped 1 ('0' :: c :: rest)
  | cs => isGrouped 10 cs

/-- A word that something can be bound to. -/
def isIdentifier : List Char → Bool
  | [] => false
  | first :: rest => !first.isDigit && !reservedWords.contains (String.ofList (first :: rest))

/-- The word at the front of a text if it is accepted, and what is behind it. -/
def word? (accepts : List Char → Bool) (cs : List Char) : Option (List Char × List Char) :=
  if accepts (cs.takeWhile inWord) then some (cs.takeWhile inWord, cs.dropWhile inWord) else none

/-- An integer literal at the front of a text, perhaps with a minus, and what is behind it. -/
def number? : List Char → Option (List Char × List Char)
  | '-' :: rest => (word? isInteger rest).map fun found => ('-' :: found.1, found.2)
  | cs => word? isInteger cs

/-- An operand of a comparison, by its text. -/
inductive Atom where
  | name (text : String)
  | literal (text : String)
deriving DecidableEq, Repr

/-- How an operand is written. -/
def Atom.written : Atom → String
  | .name text | .literal text => text

/-- What comparisons are written with. -/
inductive Lexeme where
  | atom (atom : Atom)
  | equals
deriving DecidableEq, Repr

/-- The lexeme at the front of a text, and what is behind it. -/
def lexeme? (cs : List Char) : Option (Lexeme × List Char) :=
  match (string? cs).or (number? cs), word? isIdentifier cs, cs with
  | some (text, rest), _, _ => some (.atom (.literal (String.ofList text)), rest)
  | none, some (text, rest), _ => some (.atom (.name (String.ofList text)), rest)
  | none, none, '=' :: '=' :: rest => some (.equals, rest)
  | none, none, _ => none

/-! ## What is taken stands at the front -/

variable {cs text behind body rest letters : List Char} {quote : Char} {marks : Nat}

/-- What a string literal starts with stands at the front. -/
theorem opening_front (read : opening? cs = some (letters, quote, rest)) :
    cs = letters ++ quote :: rest ∧ isQuote quote = true := by
  cases cs with
  | nil => cases read
  | cons c tail =>
    rw [opening?.eq_def] at read
    dsimp only at read
    split at read
    · rename_i isMark
      cases read
      exact ⟨rfl, isMark⟩
    split at read
    · cases tail with
      | nil => cases read
      | cons d tail =>
        dsimp only at read
        split at read
        · rename_i isMark
          cases read
          exact ⟨rfl, isMark⟩
        · cases read
    · cases read

/-- Quotes at the front are what is behind them cut off. -/
theorem marks_front (found : (List.replicate marks quote).isPrefixOf cs = true) :
    ∃ rest, cs = List.replicate marks quote ++ rest ∧ cs.drop marks = rest := by
  obtain ⟨rest, rfl⟩ := List.isPrefixOf_iff_prefix.mp found
  exact ⟨rest, rfl, List.drop_left' List.length_replicate⟩

/-- What is read up to the closing quotes stands at the front. -/
theorem closing_front (read : closing? quote marks cs = some (body, behind)) :
    cs = body ++ behind := by
  fun_induction closing? quote marks cs generalizing body behind with
  | case1 => cases read
  | case2 c rest inductionHypothesis =>
    obtain ⟨⟨inner, last⟩, found, is⟩ := Option.map_eq_some_iff.mp read
    cases is
    exact congrArg ('\\' :: c :: ·) (inductionHypothesis found)
  | case3 c rest _ closes =>
    obtain ⟨last, whole, cut⟩ := marks_front closes
    cases read
    rw [cut]
    exact whole
  | case4 => cases read
  | case5 c rest _ _ _ inductionHypothesis =>
    obtain ⟨⟨inner, last⟩, found, is⟩ := Option.map_eq_some_iff.mp read
    cases is
    exact congrArg (c :: ·) (inductionHypothesis found)

/-- The quotes that a string literal opens with stand at the front. -/
theorem marks_of_front (quote : Char) (rest : List Char) :
    List.replicate (marksOf quote rest) quote ++ rest.drop (marksOf quote rest - 1) =
      quote :: rest := by
  unfold marksOf
  split
  · rename_i long
    obtain ⟨inner, rfl, cut⟩ := marks_front long
    rw [cut]
    rfl
  · rfl

/-- A string literal stands at the front. -/
theorem string_front (read : string? cs = some (text, behind)) : cs = text ++ behind := by
  simp only [string?, Option.bind_eq_bind, Option.bind_eq_some_iff] at read
  obtain ⟨⟨letters, quote, rest⟩, opened, ⟨body, last⟩, closed, is⟩ := read
  cases is
  obtain ⟨rfl, _⟩ := opening_front opened
  rw [List.append_assoc, List.append_assoc, ← closing_front closed, marks_of_front]

/-- A string literal has a character. -/
theorem string_nonempty (read : string? cs = some (text, behind)) : text ≠ [] := by
  simp only [string?, Option.bind_eq_bind, Option.bind_eq_some_iff] at read
  obtain ⟨⟨letters, quote, rest⟩, opened, ⟨body, last⟩, closed, is⟩ := read
  cases is
  unfold marksOf
  split <;> simp

/-- A word stands at the front. -/
theorem word_front {accepts : List Char → Bool} (proper : accepts [] = false)
    (read : word? accepts cs = some (text, behind)) : cs = text ++ behind ∧ text ≠ [] := by
  unfold word? at read
  split at read
  · rename_i accepted
    cases read
    refine ⟨List.takeWhile_append_dropWhile.symm, ?_⟩
    intro empty
    rw [empty, proper] at accepted
    cases accepted
  · cases read

/-- A number stands at the front. -/
theorem number_front (read : number? cs = some (text, behind)) :
    cs = text ++ behind ∧ text ≠ [] := by
  unfold number? at read
  split at read
  · obtain ⟨⟨digits, last⟩, found, is⟩ := Option.map_eq_some_iff.mp read
    cases is
    exact ⟨congrArg ('-' :: ·) (word_front rfl found).1, List.cons_ne_nil _ _⟩
  · exact word_front rfl read

/-- Taking a lexeme off a text leaves less of it. -/
theorem lexeme_shorter {lexeme : Lexeme} (read : lexeme? cs = some (lexeme, behind)) :
    behind.length < cs.length := by
  have shorter {text : List Char} (front : cs = text ++ behind) (nonempty : text ≠ []) :
      behind.length < cs.length := by
    have some := List.length_pos_iff.mpr nonempty
    rw [front, List.length_append]
    omega
  unfold lexeme? at read
  split at read
  · rename_i found
    cases read
    rcases Option.or_eq_some_iff.mp found with string | ⟨_, number⟩
    · exact shorter (string_front string) (string_nonempty string)
    · exact shorter (number_front number).1 (number_front number).2
  · rename_i found
    cases read
    exact shorter (word_front rfl found).1 (word_front rfl found).2
  · cases read
    exact @shorter ['=', '='] rfl (List.cons_ne_nil _ _)
  · cases read

/-! ## Whole comparisons -/

/-- The lexemes of a text. -/
def lexemes? (cs : List Char) : Option (List Lexeme) :=
  match cs with
  | [] => some []
  | c :: rest =>
    if isGap c then lexemes? rest
    else match _read : lexeme? (c :: rest) with
      | none => none
      | some (lexeme, behind) => (lexemes? behind).map (lexeme :: ·)
termination_by cs.length
decreasing_by
  · exact Nat.lt_succ_self rest.length
  · exact lexeme_shorter _read

/-- A comparison of lexemes: operands with the sign between them, one at least. -/
def chain? : List Lexeme → Option (Atom × List Atom)
  | [.atom atom] => some (atom, [])
  | .atom atom :: .equals :: rest => (chain? rest).map fun found => (atom, found.1 :: found.2)
  | _ => none

/-- The operands of the comparison that a text is read as. -/
def readComparison? (text : String) : Option (Atom × List Atom) :=
  (lexemes? (Text.universalNewlines text.toList)).bind chain?

/-! ## Lexemes end where they end -/

/-- A character that could go on with an operand. -/
def goesOn (c : Char) : Bool := inWord c || isQuote c

/-- What stops an operand stops a word. -/
theorem stops_word (stops : Stops goesOn rest) : Stops inWord rest := by
  intro c first
  have outside := stops c first
  rw [goesOn, Bool.or_eq_false_iff] at outside
  exact outside.1

/-- What stops an operand starts with no quote. -/
theorem stops_quote (stops : Stops goesOn rest) : Stops isQuote rest := by
  intro c first
  have outside := stops c first
  rw [goesOn, Bool.or_eq_false_iff] at outside
  exact outside.2

/-- What a string literal starts with is the same whatever is behind it. -/
theorem opening_apart (read : opening? cs = some (letters, quote, rest)) (more : List Char) :
    opening? (cs ++ more) = some (letters, quote, rest ++ more) := by
  cases cs with
  | nil => cases read
  | cons c tail =>
    rw [opening?.eq_def] at read
    rw [List.cons_append, opening?.eq_def]
    dsimp only at read ⊢
    split at read
    · rename_i isMark
      cases read
      rw [if_pos isMark]
    rename_i plain
    rw [if_neg plain]
    split at read
    · rename_i letter
      rw [if_pos letter]
      cases tail with
      | nil => cases read
      | cons d tail =>
        dsimp only at read
        split at read
        · rename_i isMark
          cases read
          exact if_pos isMark
        · cases read
    · cases read

/-- Quotes are found at the front whatever stops the text. -/
theorem marks_apart (isMark : isQuote quote = true) {more : List Char}
    (stops : Stops isQuote more) (marks : Nat) (cs : List Char) :
    (List.replicate marks quote).isPrefixOf (cs ++ more) =
      (List.replicate marks quote).isPrefixOf cs := by
  induction marks generalizing cs with
  | zero => rfl
  | succ marks inductionHypothesis =>
    cases cs with
    | nil =>
      cases more with
      | nil => rfl
      | cons c more =>
        have other : (quote == c) = false := by
          rw [beq_eq_false_iff_ne]
          rintro rfl
          rw [(stops_cons _ _ _).mp stops] at isMark
          cases isMark
        rw [List.replicate_succ, List.nil_append, List.isPrefixOf_cons_cons, other, Bool.false_and]
        rfl
    | cons c cs =>
      rw [List.replicate_succ, List.cons_append, List.isPrefixOf, List.isPrefixOf,
        inductionHypothesis]

/-- Behind a character that is no backslash a string literal goes on, unless it closes there. -/
theorem closing_plain {c : Char} (other : c ≠ '\\') (rest : List Char) :
    closing? quote marks (c :: rest) =
      if (List.replicate marks quote).isPrefixOf (c :: rest) then
        some (List.replicate marks quote, (c :: rest).drop marks)
      else if marks = 1 ∧ c = '\n' then none
      else (closing? quote marks rest).map fun found => (c :: found.1, found.2) := by
  rw [closing?]
  intro d tail same
  exact absurd same other

/-- The body of a string literal ends where it ends, whatever stops it. The recursion is that of
looking for the end: what stops it is seen only where the quotes run out, and there more text starts
with no quote. -/
theorem closing_apart (isMark : isQuote quote = true) (some : 0 < marks) {more : List Char}
    (stops : Stops isQuote more) (read : closing? quote marks cs = .some (body, behind)) :
    closing? quote marks (cs ++ more) = .some (body, behind ++ more) := by
  have same := marks_apart isMark stops marks
  fun_induction closing? quote marks cs generalizing body behind with
  | case1 => cases read
  | case2 c rest inductionHypothesis =>
    obtain ⟨⟨inner, last⟩, found, is⟩ := Option.map_eq_some_iff.mp read
    cases is
    rw [List.cons_append, List.cons_append, closing?, inductionHypothesis found]
    rfl
  | case3 c rest other closes =>
    have bare : c ≠ '\\' := by
      rintro rfl
      obtain ⟨fewer, rfl⟩ : ∃ fewer, marks = fewer + 1 := ⟨marks - 1, by omega⟩
      rw [List.replicate_succ, List.isPrefixOf_cons_cons, Bool.and_eq_true, beq_iff_eq] at closes
      rw [closes.1] at isMark
      cases isMark
    obtain ⟨last, whole, cut⟩ := marks_front closes
    cases read
    rw [cut, List.cons_append, closing_plain bare, ← List.cons_append, same, if_pos closes, whole,
      List.append_assoc, List.drop_left' List.length_replicate]
  | case4 => cases read
  | case5 c rest other goes inside inductionHypothesis =>
    obtain ⟨⟨inner, last⟩, found, is⟩ := Option.map_eq_some_iff.mp read
    cases is
    have bare : c ≠ '\\' := by
      rintro rfl
      cases rest with
      | nil => cases found
      | cons d tail => exact other d tail rfl rfl
    rw [List.cons_append, closing_plain bare, ← List.cons_append, same, if_neg goes, if_neg inside,
      inductionHypothesis found]
    rfl

/-- A string literal is the same whatever stops it. -/
theorem string_apart (read : string? cs = some (text, behind)) {more : List Char}
    (stops : Stops isQuote more) : string? (cs ++ more) = some (text, behind ++ more) := by
  simp only [string?, Option.bind_eq_bind, Option.bind_eq_some_iff] at read
  obtain ⟨⟨letters, quote, rest⟩, opened, ⟨body, last⟩, closed, is⟩ := read
  cases is
  obtain ⟨_, isMark⟩ := opening_front opened
  have same : marksOf quote (rest ++ more) = marksOf quote rest := by
    unfold marksOf
    rw [marks_apart isMark stops]
  have positive : 0 < marksOf quote rest := by
    unfold marksOf
    split <;> decide
  have inner : (rest ++ more).drop (marksOf quote rest - 1) =
      rest.drop (marksOf quote rest - 1) ++ more := by
    unfold marksOf
    split
    · rename_i long
      obtain ⟨inner, rfl, cut⟩ := marks_front long
      rw [cut, List.append_assoc, List.drop_left' List.length_replicate]
    · rfl
  have closedApart := closing_apart isMark positive stops closed
  rw [← inner] at closedApart
  simp only [string?, opening_apart opened, same, closedApart, Option.bind_eq_bind,
    Option.bind_some]
  rfl

/-- No quote is in a word. -/
theorem word_no_quote {c : Char} (inside : inWord c = true) : isQuote c = false := by
  cases mark : isQuote c with
  | false => rfl
  | true =>
    rw [isQuote, Bool.or_eq_true, beq_iff_eq, beq_iff_eq] at mark
    rcases mark with rfl | rfl
    · cases inside
    · cases inside

/-- The letters before quotes are in words. -/
theorem letter_in_word {c : Char} (letter : quoteLetters.contains c = true) : inWord c = true := by
  have all : quoteLetters.all inWord = true := by decide
  exact List.all_eq_true.mp all c (List.contains_iff_mem.mp letter)

/-- A word and what stops it start with no quote. -/
theorem word_unquoted (inside : ∀ c ∈ text, inWord c = true) (stops : Stops goesOn rest) :
    Stops isQuote (text ++ rest) := by
  cases text with
  | nil => exact stops_quote stops
  | cons c text =>
    rw [List.cons_append, stops_cons]
    exact word_no_quote (inside c List.mem_cons_self)

/-- No string literal starts where no quote comes, not even behind a letter. -/
theorem opening_none (plain : Stops isQuote cs)
    (apart : ∀ c tail, cs = c :: tail → quoteLetters.contains c = true → Stops isQuote tail) :
    opening? cs = none := by
  cases cs with
  | nil => rfl
  | cons c tail =>
    rw [opening?.eq_def]
    dsimp only
    rw [(stops_cons _ _ _).mp plain, if_neg Bool.false_ne_true]
    split
    · rename_i letter
      have unquoted := apart c tail rfl letter
      cases tail with
      | nil => rfl
      | cons d tail =>
        dsimp only
        rw [(stops_cons _ _ _).mp unquoted, if_neg Bool.false_ne_true]
    · rfl

/-- A word is no string literal where it is stopped. -/
theorem string_word (inside : ∀ c ∈ text, inWord c = true) (stops : Stops goesOn rest) :
    string? (text ++ rest) = none := by
  have closed : opening? (text ++ rest) = none := by
    apply opening_none (word_unquoted inside stops)
    intro c tail is letter
    cases text with
    | nil =>
      have outside := stops_word stops c (congrArg List.head? is)
      rw [letter_in_word letter] at outside
      cases outside
    | cons d text =>
      cases is
      exact word_unquoted (fun item member => inside item (List.mem_cons_of_mem _ member)) stops
  rw [string?, closed]
  rfl

/-- A word that is read as a whole is read whatever stops it. -/
theorem word_apart {accepts : List Char → Bool} (whole : word? accepts text = some (text, [])) :
    accepts text = true ∧ (∀ c ∈ text, inWord c = true) ∧
      ∀ rest, Stops goesOn rest → ∀ other : List Char → Bool,
        word? other (text ++ rest) = if other text then some (text, rest) else none := by
  unfold word? at whole
  split at whole
  · rename_i accepted
    obtain ⟨same, _⟩ := Prod.mk.inj (Option.some.inj whole)
    have inside : ∀ c ∈ text, inWord c = true := by
      rw [← same]
      exact run_inside inWord text
    rw [same] at accepted
    refine ⟨accepted, inside, ?_⟩
    intro rest stops other
    obtain ⟨taken, left⟩ := run_of_stops text rest inside (stops_word stops)
    rw [word?, taken, left]
  · cases whole

/-- A digit of base ten is a decimal digit. -/
theorem decimal_digit {c : Char} {value : Nat} (digit : Decimal.digitIn? 10 c = some value) :
    c.isDigit = true := by
  rw [Decimal.digitIn?, Option.filter_eq_some_iff, decide_eq_true_eq] at digit
  obtain ⟨known, small⟩ := digit
  rw [Decimal.baseValue?] at known
  split at known
  · rename_i inside
    rw [Char.isDigit, Bool.and_eq_true, decide_eq_true_eq, decide_eq_true_eq]
    exact inside
  split at known
  · rename_i inside
    have low : 97 ≤ c.toNat := inside.1
    cases known
    omega
  split at known
  · rename_i inside
    have low : 65 ≤ c.toNat := inside.1
    cases known
    omega
  · cases known

/-- An integer starts with a digit. -/
theorem integer_digit {c : Char} (whole : isInteger (c :: rest) = true) : c.isDigit = true := by
  unfold isInteger at whole
  split at whole
  · rename_i same
    cases same
    rfl
  · rw [isGrouped, Decimal.spanGroups?] at whole
    split at whole
    · cases whole
    split at whole
    · rename_i value digit
      exact decimal_digit digit
    · cases whole

/-- A name is no integer. -/
theorem identifier_no_integer (accepted : isIdentifier text = true) :
    isInteger text = false := by
  cases text with
  | nil => cases accepted
  | cons first rest =>
    rw [isIdentifier, Bool.and_eq_true, Bool.not_eq_true'] at accepted
    rw [Bool.eq_false_iff]
    intro number
    rw [integer_digit number] at accepted
    cases accepted.1

/-- No minus is in front of a word. -/
theorem number_word (inside : ∀ c ∈ text, inWord c = true) (nonempty : text ≠ [])
    (rest : List Char) : number? (text ++ rest) = word? isInteger (text ++ rest) := by
  cases text with
  | nil => exact absurd rfl nonempty
  | cons c text =>
    rw [List.cons_append, number?]
    intro tail same
    cases same
    exact absurd (inside '-' List.mem_cons_self) (by decide)

/-- An operand that is read as a whole. -/
def Atom.Whole : Atom → Prop
  | .name text => word? isIdentifier text.toList = some (text.toList, [])
  | .literal text => string? text.toList = some (text.toList, []) ∨
    number? text.toList = some (text.toList, [])

instance : DecidablePred Atom.Whole
  | .name text => inferInstanceAs
    (Decidable (word? isIdentifier text.toList = some (text.toList, [])))
  | .literal text => inferInstanceAs
    (Decidable (string? text.toList = some (text.toList, []) ∨
      number? text.toList = some (text.toList, [])))

/-- A number that is read as a whole is read whatever stops it, and is no string literal. -/
theorem number_apart (whole : number? text = some (text, [])) (stops : Stops goesOn rest) :
    string? (text ++ rest) = none ∧ number? (text ++ rest) = some (text, rest) := by
  unfold number? at whole
  split at whole
  · rename_i digits
    obtain ⟨⟨taken, last⟩, found, is⟩ := Option.map_eq_some_iff.mp whole
    cases is
    obtain ⟨accepted, _, read⟩ := word_apart found
    constructor
    · rfl
    · rw [List.cons_append, number?, read rest stops isInteger, if_pos accepted]
      rfl
  · obtain ⟨accepted, inside, read⟩ := word_apart whole
    constructor
    · exact string_word inside stops
    · rw [number_word inside (word_front rfl whole).2, read rest stops isInteger, if_pos accepted]

/-- An operand that is read as a whole is read whatever stops it. -/
theorem lexeme_atom {atom : Atom} (whole : atom.Whole) (stops : Stops goesOn rest) :
    lexeme? (atom.written.toList ++ rest) = some (.atom atom, rest) := by
  cases atom with
  | name written =>
    obtain ⟨accepted, inside, read⟩ := word_apart whole
    have noNumber : number? (written.toList ++ rest) = none := by
      rw [number_word inside (word_front rfl whole).2, read rest stops isInteger,
        identifier_no_integer accepted, if_neg Bool.false_ne_true]
    have noLiteral : (string? (written.toList ++ rest)).or (number? (written.toList ++ rest)) =
        none := by
      rw [string_word inside stops, noNumber]
      rfl
    unfold lexeme?
    rw [Atom.written, noLiteral, read rest stops isIdentifier, if_pos accepted]
    dsimp only
    rw [String.ofList_toList]
  | literal written =>
    have read : (string? (written.toList ++ rest)).or (number? (written.toList ++ rest)) =
        some (written.toList, rest) := by
      rcases whole with string | number
      · rw [string_apart string (stops_quote stops)]
        rfl
      · rw [(number_apart number stops).1, (number_apart number stops).2]
        rfl
    unfold lexeme?
    rw [Atom.written, read]
    dsimp only
    rw [String.ofList_toList]

example : (Atom.literal "u'it\\'s == that'").Whole ∧ (Atom.literal "-0x_fF").Whole := by decide

example : ¬(Atom.literal "007").Whole ∧ ¬(Atom.name "if").Whole := by decide

/-! ## The lexemes of a comparison -/

/-- Blanks are skipped. -/
theorem lexemes_gap {c : Char} (gap : isGap c = true) (rest : List Char) :
    lexemes? (c :: rest) = lexemes? rest := by
  rw [lexemes?, if_pos gap]

/-- No lexeme starts with a blank. -/
theorem lexeme_no_gap {c : Char} {lexeme : Lexeme}
    (read : lexeme? (c :: rest) = some (lexeme, behind)) : isGap c = false := by
  cases gap : isGap c with
  | false => rfl
  | true =>
    rw [isGap, Bool.or_eq_true, Bool.or_eq_true, beq_iff_eq, beq_iff_eq, beq_iff_eq] at gap
    rcases gap with (rfl | rfl) | feed
    · cases read
    · cases read
    · have is : c = '\x0c' := Char.toNat_inj.mp feed
      subst is
      cases read

/-- The lexeme at the front comes first. -/
theorem lexemes_first {lexeme : Lexeme} (read : lexeme? cs = some (lexeme, behind)) :
    lexemes? cs = (lexemes? behind).map (lexeme :: ·) := by
  cases cs with
  | nil => cases read
  | cons c rest =>
    rw [lexemes?, if_neg (by rw [lexeme_no_gap read]; exact Bool.false_ne_true)]
    split
    · rename_i missing
      rw [missing] at read
      cases read
    · rename_i found
      rw [found] at read
      cases read
      rfl

/-- The lexemes of a comparison of operands. -/
def spread (first : Atom) (others : List Atom) : List Lexeme :=
  .atom first :: others.flatMap fun other => [.equals, .atom other]

/-- Two comparisons with the sign between them are one. -/
theorem spread_append (first second : Atom) (others more : List Atom) :
    spread first others ++ .equals :: spread second more =
      spread first (others ++ second :: more) := by
  simp [spread]

/-- The operands of a comparison are those it was spread from. -/
theorem chain_spread (first : Atom) (others : List Atom) :
    chain? (spread first others) = some (first, others) := by
  induction others generalizing first with
  | nil => rfl
  | cons other others inductionHypothesis =>
    have next := inductionHypothesis other
    rw [spread] at next
    rw [spread, List.flatMap_cons, List.cons_append, List.cons_append, List.nil_append, chain?,
      next]
    rfl

end Stencil.Code.Comparison
