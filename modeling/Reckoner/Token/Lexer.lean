import Reckoner.Message
import Reckoner.Text.Escaped
import Reckoner.Token.Basic

/-!
From source text to tokens.

Between tokens stand blanks and comments. At each place the longest token that
the characters allow is read; a word is cut into the keywords it starts with and
one name for what is left. The first character that starts no token ends the
reading. The bytes that have been read are counted, and the places of tokens and
errors are these numbers as words of 32 bits.

* `LexicalCause`: what can be wrong with a text;
* `Lexer.skipTrivia`: past blanks and comments;
* `Lexer.splitWord`: the tokens of a word;
* `Lexer.scan`: the tokens at the front of a text, their lengths and what
  follows them;
* `Lexer.items`: all tokens, the last one being the end of input or an error;
* `tokenize`: the tokens of a text, or its lexical error;
* `Lexer`: the items read one by one, the last of them again and again.
-/

namespace Reckoner

/-! ### Lexical errors -/

/-- What can be wrong with a text. -/
inductive LexicalCause where
  | unrecognized (c : Char)
  | malformedNumber
deriving DecidableEq

/-- A lexical error and the place where reading stopped. -/
abbrev LexicalError : Type := Located LexicalCause

/-- The message of a lexical error. -/
def LexicalCause.details : LexicalCause → Details
  | unrecognized c =>
    ⟨"Unrecognized character",
      ["`" ++ Text.escaped c ++ "` is not part of any token"]⟩
  | malformedNumber => ⟨"Malformed number literal", []⟩

namespace Lexer

/-! ### Trivia -/

/-- Whether a character may stand between tokens. -/
def isBlank (c : Char) : Bool :=
  c == ' ' || c == '\t' || c == '\r' || c == '\n' || c == '\x0c'

/-- Skips blanks and comments from byte `pos` on. A comment starts with `#` and
runs up to the next newline. -/
def skipTrivia (inComment : Bool) (pos : Nat) : List Char → Nat × List Char
  | [] => (pos, [])
  | c :: cs =>
    if inComment && c != '\n' then skipTrivia true (pos + c.utf8Size) cs
    else if isBlank c then skipTrivia false (pos + c.utf8Size) cs
    else if c == '#' then skipTrivia true (pos + c.utf8Size) cs
    else (pos, c :: cs)

/-! ### Words and numbers -/

/-- Whether a character may stand in a word. -/
def isWordChar (c : Char) : Bool := c.isAlpha || c == '_'

/-- The keyword that a word starts with, and the rest of the word. -/
def keyword? : List Char → Option (RealFunction × List Char)
  | 's' :: 'q' :: 'r' :: 't' :: rest => some (.sqrt, rest)
  | 'e' :: 'x' :: 'p' :: rest => some (.exp, rest)
  | 'l' :: 'o' :: 'g' :: rest => some (.log, rest)
  | _ => none

/-- What follows a keyword is shorter than the word. -/
theorem keyword?_length {word rest : List Char} {f : RealFunction}
    (h : keyword? word = some (f, rest)) : rest.length < word.length := by
  unfold keyword? at h
  split at h <;> simp at h <;> obtain ⟨_, rfl⟩ := h <;>
    simp only [List.length_cons] <;> omega

/-- A token and how many bytes it takes. -/
abbrev SizedToken : Type := Token × Nat

/-- The tokens of a word: the keywords it starts with, one after the other, and
a name for the rest. -/
def splitWord (word : List Char) : List SizedToken :=
  match h : keyword? word with
  | some (f, rest) =>
    have : rest.length < word.length := keyword?_length h
    (.function f, f.name.length) :: splitWord rest
  | none =>
    if word.isEmpty then []
    else [(.ident (String.ofList word), word.length)]
termination_by word.length

/-- Reads the digits of a number whose sign has been read. There is a fraction
only if a digit follows the point. -/
def scanNumber (negative : Bool) (cs : List Char) : SizedToken × List Char :=
  let sign := if negative then 1 else 0
  let whole := cs.takeWhile Char.isDigit
  let rest := cs.dropWhile Char.isDigit
  match rest with
  | '.' :: c :: more =>
    if c.isDigit then
      let fraction := (c :: more).takeWhile Char.isDigit
      ((.decimal (.ofDigits negative whole fraction),
          sign + whole.length + 1 + fraction.length),
        (c :: more).dropWhile Char.isDigit)
    else ((.int (Decimal.ofDigits negative whole []).unscaled,
        sign + whole.length), rest)
  | _ => ((.int (Decimal.ofDigits negative whole []).unscaled,
      sign + whole.length), rest)

/-! ### Signs -/

/-- The sign at the front of a text: two characters are tried before one. -/
def sign? : List Char → Option (SizedToken × List Char)
  | '*' :: '*' :: cs => some ((.operator .pow, 2), cs)
  | '=' :: '=' :: cs => some ((.operator .equal, 2), cs)
  | '>' :: '=' :: cs => some ((.operator .greaterOrEqual, 2), cs)
  | '<' :: '=' :: cs => some ((.operator .lessOrEqual, 2), cs)
  | '!' :: '=' :: cs => some ((.operator .notEqual, 2), cs)
  | '+' :: cs => some ((.operator .add, 1), cs)
  | '-' :: cs => some ((.operator .sub, 1), cs)
  | '*' :: cs => some ((.operator .mul, 1), cs)
  | '/' :: cs => some ((.operator .div, 1), cs)
  | '(' :: cs => some ((.lparen, 1), cs)
  | ')' :: cs => some ((.rparen, 1), cs)
  | '=' :: cs => some ((.assign, 1), cs)
  | '>' :: cs => some ((.operator .greater, 1), cs)
  | '<' :: cs => some ((.operator .less, 1), cs)
  | _ => none

/-! ### Scanning -/

/-- Whether a text starts with a minus sign and a digit. -/
def startsNegative : List Char → Bool
  | '-' :: c :: _ => c.isDigit
  | _ => false

/-- The tokens at the front of a text that does not start with trivia, and what
follows them; none if its first character starts no token. Only a word may be
more than one token. -/
def scan (cs : List Char) : Option (List SizedToken × List Char) :=
  match cs with
  | [] => none
  | c :: rest =>
    if c.isDigit then
      let (piece, after) := scanNumber false cs
      some ([piece], after)
    else if startsNegative cs then
      let (piece, after) := scanNumber true rest
      some ([piece], after)
    else if isWordChar c then
      some (splitWord (cs.takeWhile isWordChar), cs.dropWhile isWordChar)
    else
      (sign? cs).map fun (piece, after) => ([piece], after)

/-! ### What is left gets shorter -/

/-- Characters that are dropped do not make a text longer. -/
theorem length_dropWhile_le (p : Char → Bool) (cs : List Char) :
    (cs.dropWhile p).length ≤ cs.length :=
  (List.dropWhile_sublist p).length_le

/-- Trivia that is skipped does not make a text longer. -/
theorem skipTrivia_length (inComment : Bool) (pos : Nat) (cs : List Char) :
    (skipTrivia inComment pos cs).2.length ≤ cs.length := by
  induction cs generalizing inComment pos with
  | nil => simp [skipTrivia]
  | cons c cs ih =>
    simp only [skipTrivia]
    split
    · exact Nat.le_succ_of_le (ih _ _)
    · split
      · exact Nat.le_succ_of_le (ih _ _)
      · split
        · exact Nat.le_succ_of_le (ih _ _)
        · exact Nat.le_refl _

/-- What follows a number is no longer than what follows its first digits. -/
theorem scanNumber_length (negative : Bool) (cs : List Char) :
    (scanNumber negative cs).2.length ≤ (cs.dropWhile Char.isDigit).length := by
  simp only [scanNumber]
  split
  · next c more h =>
    split
    · have := length_dropWhile_le Char.isDigit (c :: more)
      rw [h, List.length_cons]
      exact Nat.le_succ_of_le this
    · exact Nat.le_refl _
  · exact Nat.le_refl _

/-- A sign uses up at least one character. -/
theorem sign?_length {cs after : List Char} {piece : SizedToken}
    (h : sign? cs = some (piece, after)) : after.length < cs.length := by
  unfold sign? at h
  split at h <;> simp at h <;> obtain ⟨_, rfl⟩ := h <;>
    simp only [List.length_cons] <;> omega

/-- A scan uses up at least one character. -/
theorem scan_length {cs after : List Char} {pieces : List SizedToken}
    (h : scan cs = some (pieces, after)) : after.length < cs.length := by
  cases cs with
  | nil => simp [scan] at h
  | cons c rest =>
    simp only [scan] at h
    split at h
    · next hd =>
      simp only [Option.some.injEq, Prod.mk.injEq] at h
      have h₁ := scanNumber_length false (c :: rest)
      have h₂ := length_dropWhile_le Char.isDigit rest
      rw [List.dropWhile_cons_of_pos hd, h.2] at h₁
      simp only [List.length_cons]
      omega
    · split at h
      · simp only [Option.some.injEq, Prod.mk.injEq] at h
        have h₁ := scanNumber_length true rest
        have h₂ := length_dropWhile_le Char.isDigit rest
        rw [h.2] at h₁
        simp only [List.length_cons]
        omega
      · split at h
        · next hw =>
          simp only [Option.some.injEq, Prod.mk.injEq] at h
          have h₁ := length_dropWhile_le isWordChar rest
          rw [List.dropWhile_cons_of_pos hw] at h
          rw [← h.2]
          simp only [List.length_cons]
          omega
        · simp only [Option.map_eq_some_iff] at h
          obtain ⟨⟨piece, rest'⟩, hs, hp⟩ := h
          simp only [Prod.mk.injEq] at hp
          rw [← hp.2]
          exact sign?_length hs

/-! ### All tokens of a text -/

/-- What the lexer delivers: a token, or the error that ends the reading. -/
abbrev Item : Type := Except LexicalError Lexeme

/-- Places pieces one after the other from byte `pos` on, in words of 32 bits. -/
def place (pos : Nat) : List SizedToken → List Lexeme
  | [] => []
  | (token, length) :: more =>
    ⟨token, .ofBytes pos (pos + length)⟩ :: place (pos + length) more

/-- The bytes that pieces take together. -/
def extent : List SizedToken → Nat
  | [] => 0
  | (_, size) :: pieces => size + extent pieces

/-- The items of the text `cs` that starts at byte `pos`. -/
def itemsFrom (pos : Nat) (cs : List Char) : List Item :=
  match h : skipTrivia false pos cs with
  | (start, []) => [.ok ⟨.eof, .point (.ofNat start)⟩]
  | (start, c :: rest) =>
    match hs : scan (c :: rest) with
    | none =>
      [.error ⟨.unrecognized c, .ofBytes start (start + c.utf8Size)⟩]
    | some (pieces, after) =>
      have : after.length < cs.length := by
        have h₁ := skipTrivia_length false pos cs
        have h₂ := scan_length hs
        rw [h] at h₁
        exact Nat.lt_of_lt_of_le h₂ h₁
      (place start pieces).map Except.ok ++
        itemsFrom (start + extent pieces) after
termination_by cs.length

/-- The items of a source text. The last of them, and only the last, is the end
of the input or an error. -/
def items (src : String) : List Item := itemsFrom 0 src.toList

end Lexer

/-- The tokens of a source text with the end of the input, or its lexical
error. -/
def tokenize (src : String) : Except LexicalError (List Lexeme) :=
  (Lexer.items src).mapM id

/-! ### Reading one by one -/

/-- A lexer that has read a part of its text. -/
structure Lexer where
  ahead : List Lexer.Item
  finished : Bool

namespace Lexer

/-- A lexer at the start of a source text. -/
def ofSource (src : String) : Lexer := ⟨items src, false⟩

/-- Whether no token can follow an item. -/
def Item.isLast : Item → Bool
  | .ok lexeme => lexeme.token == .eof
  | .error _ => true

/-- The next item. At the end the lexer stays where it is, so the last item
comes again and again. -/
def step (lexer : Lexer) : Option Item × Lexer :=
  match lexer.ahead with
  | [] => (none, lexer)
  | [item] => (some item, lexer)
  | item :: more => (some item, { lexer with ahead := more })

/-- The next item, or none once the last one has been delivered here. -/
def next (lexer : Lexer) : Option Item × Lexer :=
  if lexer.finished then (none, lexer)
  else
    match lexer.step with
    | (none, after) => (none, after)
    | (some item, after) =>
      (some item, { after with finished := Item.isLast item })

end Lexer

end Reckoner
