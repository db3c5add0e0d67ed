import Mathlib.Computability.Language
import Mathlib.Data.Set.Finite.List
import Reckoner.Proofs.Token.Written

/-!
The rules that a text is cut into tokens by.

A text is read from left to right. Where reading stands, the first rule of a list is taken
that matches what follows, with its longest match: blanks and comments are skipped, then come
decimals, integers, keywords, names, signs of two characters and signs of one. Where no rule
matches, the next character is reported.

* `Lexer.Rule`, `Lexer.Rule.language`: the rules in their order, and what they match;
* `Lexer.Rule.token?`: the token that a match spells;
* `Lexer.Rule.Applies`: the first rule that matches, with its longest match;
* `Lexer.ByRules`: what a text is read as by the rules;
* `Lexer.exists_byRules`: every text is read as something.
-/

namespace Reckoner

namespace Lexer

/-! ### Classes of characters -/

/-- Space, tab, carriage return, newline and form feed. -/
def blankClass : Set Char := {' ', '\t', '\r', '\n', '\x0c'}

/-- The digits `[0-9]`. -/
def digitClass : Set Char := Set.Icc '0' '9'

/-- The letters and the underscore, `[A-Za-z_]`. -/
def wordClass : Set Char := Set.Icc 'A' 'Z' ∪ Set.Icc 'a' 'z' ∪ {'_'}

variable {c : Char}

lemma mem_blankClass : c ∈ blankClass ↔ isBlank c = true := by
  simp [blankClass, isBlank, or_assoc]

lemma mem_digitClass : c ∈ digitClass ↔ c.isDigit = true := by
  simp [digitClass, Char.isDigit, Set.mem_Icc, Char.le_def]

lemma mem_wordClass : c ∈ wordClass ↔ isWordChar c = true := by
  simp [wordClass, isWordChar, Char.isAlpha, Char.isUpper, Char.isLower, Set.mem_Icc,
    Char.le_def, or_comm]

/-! ### Languages -/

/-- The texts of one or more characters of a class. -/
def stretch (s : Set Char) : Language Char := {w | w ≠ [] ∧ ∀ c ∈ w, c ∈ s}

/-- The texts without a newline. -/
def restOfLine : Language Char := {w | '\n' ∉ w}

/-- A minus sign that may be missing. -/
def optionalMinus : Language Char := {[], ['-']}

/-- The spellings of a table of tokens. -/
def spellings (table : List (String × Token)) : Language Char :=
  {w | ∃ entry ∈ table, entry.1.toList = w}

/-- The keywords. -/
def keywords : List (String × Token) :=
  [("sqrt", .function .sqrt), ("exp", .function .exp), ("log", .function .log)]

/-- The signs of two characters. -/
def longSigns : List (String × Token) :=
  [("**", .operator .pow), ("==", .operator .equal), ("!=", .operator .notEqual),
    (">=", .operator .greaterOrEqual), ("<=", .operator .lessOrEqual)]

/-- The signs of one character. -/
def shortSigns : List (String × Token) :=
  [("*", .operator .mul), ("=", .assign), (">", .operator .greater), ("<", .operator .less),
    ("+", .operator .add), ("-", .operator .sub), ("/", .operator .div), ("(", .lparen),
    (")", .rparen)]

/-- The rules, in the order in which they are tried. -/
inductive Rule where
  | blank
  | comment
  | decimal
  | integer
  | keyword
  | name
  | longSign
  | shortSign
deriving DecidableEq

namespace Rule

/-- The place of a rule in their order. -/
def rank : Rule → ℕ
  | blank => 0
  | comment => 1
  | decimal => 2
  | integer => 3
  | keyword => 4
  | name => 5
  | longSign => 6
  | shortSign => 7

/-- What a rule matches. -/
def language : Rule → Language Char
  | blank => stretch blankClass
  | comment => {['#']} * restOfLine
  | decimal => optionalMinus * stretch digitClass * {['.']} * stretch digitClass
  | integer => optionalMinus * stretch digitClass
  | keyword => spellings keywords
  | name => stretch wordClass
  | longSign => spellings longSigns
  | shortSign => spellings shortSigns

/-- Whether the matches of a rule are skipped. -/
def isTrivia : Rule → Bool
  | blank | comment => true
  | _ => false

end Rule

/-! ### What a match spells -/

/-- The number that digits spell, of which there has to be at least one. -/
def naturalOf? (text : List Char) : Option ℕ :=
  if text ≠ [] ∧ text.all Char.isDigit = true then some (Nat.ofDigitChars 10 text 0) else none

/-- The integer that a text spells: digits, and a minus sign before them if it is negative. -/
def integerOf? : List Char → Option ℤ
  | '-' :: text => (naturalOf? text).map fun n => -n
  | text => (naturalOf? text).map fun n => n

/-- The decimal that a text spells: the integer without the point, at a scale of as many
places as there are characters after the point. -/
def decimalOf? (text : List Char) : Option Decimal :=
  let whole := text.takeWhile (· ≠ '.')
  let fraction := (text.dropWhile (· ≠ '.')).tail
  (integerOf? (whole ++ fraction)).map fun n => ⟨n, .ofNat fraction.length⟩

/-- The token that a match of a rule spells, if it spells one. -/
def Rule.token? : Rule → List Char → Option Token
  | blank, _ | comment, _ => none
  | decimal, m => (decimalOf? m).map .decimal
  | integer, m => (integerOf? m).map .int
  | keyword, m => keywords.lookup (String.ofList m)
  | name, m => some (.ident (String.ofList m))
  | longSign, m => longSigns.lookup (String.ofList m)
  | shortSign, m => shortSigns.lookup (String.ofList m)

/-! ### Reading by rules -/

/-- The bytes that characters take together. -/
def byteCount (cs : List Char) : ℕ := (cs.map Char.utf8Size).sum

/-- Where reading stands: what has been read before, and whether it ended with a keyword. -/
structure Place where
  before : List Char
  afterKeyword : Bool

namespace Place

/-- The start of a text. -/
def start : Place := ⟨[], false⟩

/-- How many bytes have been read. -/
def position (p : Place) : ℕ := byteCount p.before

/-- The stretch of the source that `m` takes here. -/
def span (p : Place) (m : List Char) : Span :=
  .ofBytes p.position (p.position + byteCount m)

/-- The place after a match of a rule. -/
def after (p : Place) (r : Rule) (m : List Char) : Place := ⟨p.before ++ m, r = .keyword⟩

/-- A word starts here, or a keyword has just been read. -/
def StartsWord (p : Place) : Prop :=
  p.afterKeyword = true ∨ ∀ c ∈ p.before.getLast?, c ∉ wordClass

end Place

/-- At a place a rule matches the front `m` of the text. Keywords are matched only where a
word starts, and after another keyword. -/
structure Rule.Matches (r : Rule) (p : Place) (text m : List Char) : Prop where
  mem : m ∈ r.language
  isPrefix : m <+: text
  allowed : r = .keyword → p.StartsWord

/-- **The rule that is taken**: the first one that matches, with its longest match. -/
structure Rule.Applies (r : Rule) (p : Place) (text m rest : List Char) : Prop where
  split : text = m ++ rest
  isMatch : r.Matches p text m
  longest : ∀ m', r.Matches p text m' → m'.length ≤ m.length
  first : ∀ r' : Rule, r'.rank < r.rank → ∀ m', ¬ r'.Matches p text m'

/-- **Reading by the rules.** `ByRules p text result`: from the place `p` on, the text is read
as `result`, lexemes up to the end of the input or an error. -/
inductive ByRules : Place → List Char → Except LexicalError (List Lexeme) → Prop
  | ended (p : Place) : ByRules p [] (.ok [⟨.eof, .point (.ofNat p.position)⟩])
  | skipped {p : Place} {r : Rule} {text m rest : List Char}
      {result : Except LexicalError (List Lexeme)} (h : r.Applies p text m rest)
      (htrivia : r.isTrivia = true) (hrest : ByRules (p.after r m) rest result) :
      ByRules p text result
  | taken {p : Place} {r : Rule} {text m rest : List Char} {t : Token}
      {result : Except LexicalError (List Lexeme)} (h : r.Applies p text m rest)
      (htoken : r.token? m = some t) (hrest : ByRules (p.after r m) rest result) :
      ByRules p text (result.map (⟨t, p.span m⟩ :: ·))
  | malformed {p : Place} {r : Rule} {text m rest : List Char} (h : r.Applies p text m rest)
      (htrivia : r.isTrivia = false) (htoken : r.token? m = none) :
      ByRules p text (.error ⟨.malformedNumber, p.span m⟩)
  | unrecognized {p : Place} {c : Char} {rest : List Char}
      (h : ∀ (r : Rule) (m : List Char), ¬ r.Matches p (c :: rest) m) :
      ByRules p (c :: rest) (.error ⟨.unrecognized c, p.span [c]⟩)

/-! ### Members of the languages -/

section Members

variable {m : List Char}

lemma mem_stretch {s : Set Char} : m ∈ stretch s ↔ m ≠ [] ∧ ∀ c ∈ m, c ∈ s := Iff.rfl

lemma mem_optionalMinus : m ∈ optionalMinus ↔ m = [] ∨ m = ['-'] := Iff.rfl

lemma mem_comment : m ∈ Rule.comment.language ↔ ∃ w, '\n' ∉ w ∧ m = '#' :: w := by
  rw [Rule.language, Language.mem_mul]
  constructor
  · rintro ⟨_, rfl, w, hw, rfl⟩
    exact ⟨w, hw, rfl⟩
  · rintro ⟨w, hw, rfl⟩
    exact ⟨['#'], rfl, w, hw, rfl⟩

lemma mem_integer : m ∈ Rule.integer.language ↔
    ∃ s ∈ optionalMinus, ∃ ds ∈ stretch digitClass, m = s ++ ds := by
  rw [Rule.language, Language.mem_mul]
  simp only [eq_comm]

lemma mem_decimal : m ∈ Rule.decimal.language ↔
    ∃ s ∈ optionalMinus, ∃ ds ∈ stretch digitClass, ∃ fs ∈ stretch digitClass,
      m = s ++ (ds ++ '.' :: fs) := by
  simp only [Rule.language, Language.mem_mul]
  constructor
  · rintro ⟨_, ⟨_, ⟨s, hs, ds, hds, rfl⟩, _, rfl, rfl⟩, fs, hfs, rfl⟩
    exact ⟨s, hs, ds, hds, fs, hfs, by simp⟩
  · rintro ⟨s, hs, ds, hds, fs, hfs, rfl⟩
    exact ⟨_, ⟨_, ⟨s, hs, ds, hds, rfl⟩, ['.'], rfl, rfl⟩, fs, hfs, by simp⟩

/-- No rule matches nothing. -/
lemma Rule.ne_nil_of_mem {r : Rule} (h : m ∈ r.language) : m ≠ [] := by
  cases r with
  | blank | name => exact h.1
  | comment =>
      obtain ⟨w, -, rfl⟩ := mem_comment.mp h
      simp
  | decimal =>
      obtain ⟨s, -, ds, -, fs, -, rfl⟩ := mem_decimal.mp h
      simp
  | integer =>
      obtain ⟨s, -, ds, hds, rfl⟩ := mem_integer.mp h
      simp [hds.1]
  | keyword | longSign | shortSign =>
      obtain ⟨entry, hentry, rfl⟩ := h
      revert entry
      decide

end Members

/-! ### Every text is read -/

/-- Where a rule matches, a rule is taken. -/
lemma exists_applies {p : Place} {text : List Char}
    (h : ∃ (r : Rule) (m : List Char), r.Matches p text m) :
    ∃ (r : Rule) (m rest : List Char), r.Applies p text m rest := by
  classical
  -- The first of the rules that match, and then the longest of its matches.
  have hrank : ∃ n, ∃ r : Rule, r.rank = n ∧ ∃ m, r.Matches p text m := by
    obtain ⟨r, hr⟩ := h
    exact ⟨r.rank, r, rfl, hr⟩
  obtain ⟨r, hr, m, hm⟩ := Nat.find_spec hrank
  have hfinite : {m | r.Matches p text m}.Finite :=
    (List.finite_toSet text.inits).subset fun m hm => (List.mem_inits m text).mpr hm.isPrefix
  obtain ⟨m, hm, hlongest⟩ := Set.exists_max_image _ List.length hfinite ⟨m, hm⟩
  obtain ⟨rest, hrest⟩ := hm.isPrefix
  refine ⟨r, m, rest, hrest.symm, hm, hlongest, ?_⟩
  intro r' hr' m' hm'
  exact Nat.find_min hrank (hr ▸ hr') ⟨r', rfl, m', hm'⟩

lemma Rule.Applies.length_lt {r : Rule} {p : Place} {text m rest : List Char}
    (h : r.Applies p text m rest) : rest.length < text.length := by
  have hm := List.length_pos_of_ne_nil (ne_nil_of_mem h.isMatch.mem)
  rw [h.split, List.length_append]
  omega

/-- **Every text is read** as something by the rules. -/
theorem exists_byRules (p : Place) (text : List Char) : ∃ result, ByRules p text result := by
  by_cases hmatch : ∃ (r : Rule) (m : List Char), r.Matches p text m
  · obtain ⟨r, m, rest, h⟩ := exists_applies hmatch
    have hlength := h.length_lt
    obtain ⟨result, hrest⟩ := exists_byRules (p.after r m) rest
    cases htrivia : r.isTrivia with
    | true => exact ⟨result, .skipped h htrivia hrest⟩
    | false =>
        cases htoken : r.token? m with
        | none => exact ⟨_, .malformed h htrivia htoken⟩
        | some t => exact ⟨_, .taken h htoken hrest⟩
  · simp only [not_exists] at hmatch
    cases text with
    | nil => exact ⟨_, .ended p⟩
    | cons c rest => exact ⟨_, .unrecognized hmatch⟩
termination_by text.length

end Lexer

end Reckoner
