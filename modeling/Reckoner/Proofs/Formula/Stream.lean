import Reckoner.Proofs.Formula.Grammar
import Reckoner.Proofs.Step
import Reckoner.Proofs.Token.Items
import Reckoner.Formula.Parser

/-!
A parser in front of a stream of lexemes.

While a line is read the state of the parser says three things only: the lexemes not yet
taken, the lexical error that cuts the stream short if there is one, and the depth.
`Parser.facing` is the state that says them.

* `Parse.on_skip_bind`, `Parse.on_tooDeep` and their kin: what the steps of the parser give;
* `Parser.facing`, `Parser.shifted_facing`, `Parser.ofItems_eq_facing`: the states of a
  run;
* `Parser.expect_on_iff`, `Parser.number_on_alone` and its kin: single tokens and numbers.
-/

namespace Reckoner

/-- Tokens that are no decimals are the same only if they are equal. -/
lemma Token.same_iff {s t : Token} (h : ∀ value, t ≠ .decimal value) :
    s.same t = true ↔ s = t := by
  cases t with
  | decimal value => exact absurd rfl (h value)
  | _ => cases s <;> simp [same]

/-! ### Steps of the parser -/

namespace Parse

open Step

variable {α β : Type}

@[simp] lemma on_skip_bind (f : Unit → Parse β) (p : Parser) :
    on (Parser.skip >>= f) p = on (f ()) p.shifted := rfl

@[simp] lemma on_openLevel_bind (f : Unit → Parse β) (p : Parser) :
    on (Parser.openLevel >>= f) p = on (f ()) { p with depth := p.depth + 1 } := rfl

@[simp] lemma on_fail (cause : ParseCause) (span : Span) (p : Parser) :
    on (Parser.fail cause span : Parse α) p = (.error ⟨cause, span⟩, p) := rfl

/-- At the limit a step fails at the token in view. -/
lemma on_tooDeep (p : Parser) :
    on (Parser.tooDeep : Parse α) p
      = (.error ⟨.nestingTooDeep p.maxDepth, p.here⟩, { p with depth := p.depth + 1 }) := rfl

end Parse

namespace Parser

open Step Parse

/-! ### The states of a run -/

/-- The state in front of the lexemes `ls`, after which the stream ends or is cut short by
an error. The parser has met the error once at most one lexeme stands before it. -/
def facing (ls : List Lexeme) (cut : Option LexicalError) (maxDepth depth : ℕ) : Parser where
  current := ls.head?
  ahead := ls.tail.head?
  rest := (ls.drop 2).map .ok ++ if 2 ≤ ls.length then (cut.map Except.error).toList else []
  lexicalErrors := if 2 ≤ ls.length then [] else cut.toList
  maxDepth := maxDepth
  depth := depth

variable {cut : Option LexicalError} {D d : ℕ} {ls : List Lexeme}

@[simp] lemma facing_current : (facing ls cut D d).current = ls.head? := rfl

@[simp] lemma facing_ahead : (facing ls cut D d).ahead = ls.tail.head? := rfl

lemma facing_lexicalErrors :
    (facing ls cut D d).lexicalErrors = if 2 ≤ ls.length then [] else cut.toList := rfl

/-- Moving on takes one lexeme. -/
@[simp] lemma shifted_facing (l : Lexeme) (ls : List Lexeme) :
    (facing (l :: ls) cut D d).shifted = facing ls cut D d := by
  match ls with
  | [] => rfl
  | [a] => cases cut <;> rfl
  | a :: b :: ls => cases ls <;> rfl

/-- A parser starts in front of the whole stream. -/
lemma ofItems_eq_facing (ls : List Lexeme) (cut : Option LexicalError) (D : ℕ) :
    ofItems (Lexer.stream ls cut) D = facing ls cut D 0 := by
  match ls with
  | [] => cases cut <;> rfl
  | [a] => cases cut <;> rfl
  | a :: b :: ls => cases ls <;> rfl

/-- Without an error the state tells the lexemes that are left. -/
lemma eq_of_facing_eq {ms : List Lexeme} {d' : ℕ} (h : facing ls none D d = facing ms none D d') :
    ls = ms := by
  injection h with hcurrent hahead hrest
  have hdrop : ls.drop 2 = ms.drop 2 := by
    have hok : Function.Injective (Except.ok : Lexeme → Lexer.Item) := fun _ _ => Except.ok.inj
    refine List.map_injective_iff.mpr hok ?_
    simpa using hrest
  rcases ls with _ | ⟨a, _ | ⟨b, ls⟩⟩ <;> rcases ms with _ | ⟨a', _ | ⟨b', ms⟩⟩ <;> simp_all

/-! ### Single tokens -/

lemma failWanting_on {α : Type} (wanted : List Wanted) (p : Parser) :
    ∃ e, on (failWanting wanted : Parse α) p = (.error e, p) := by
  simp only [failWanting, on_get_bind]
  split
  · exact ⟨_, rfl⟩
  · exact ⟨_, rfl⟩
  · exact ⟨_, rfl⟩

/-- Taking a token succeeds where it stands, and only there. -/
lemma expect_on_iff {t : Token} (ht : ∀ value, t ≠ .decimal value) {span : Span} {q : Parser} :
    on (expect t) (facing ls cut D d) = (.ok span, q)
      ↔ ∃ ms, ls = ⟨t, span⟩ :: ms ∧ q = facing ms cut D d := by
  obtain ⟨e, he⟩ := failWanting_on (α := Span) [.token t] (facing ls cut D d)
  cases ls with
  | nil =>
      rw [show on (expect t) (facing [] cut D d) = (.error e, facing [] cut D d) from he]
      simp
  | cons l ms =>
      have hon : on (expect t) (facing (l :: ms) cut D d)
          = if l.token.same t then (.ok l.span, facing ms cut D d)
            else on (failWanting [.token t]) (facing (l :: ms) cut D d) := by
        rw [← shifted_facing l ms]
        show on (if l.token.same t then _ else _) _ = _
        split <;> rfl
      rw [hon]
      split
      · next hsame =>
        obtain rfl := (Token.same_iff ht).mp hsame
        cases l
        simp [eq_comm, and_comm]
      · next hsame =>
        rw [he]
        simp only [Prod.mk.injEq, reduceCtorEq, false_and, false_iff, List.cons.injEq,
          not_exists, not_and]
        rintro ms ⟨rfl, -⟩
        exact absurd ((Token.same_iff ht).mpr rfl) hsame

lemma expect_on {t : Token} (ht : ∀ value, t ≠ .decimal value) (span : Span)
    (ls : List Lexeme) :
    on (expect t) (facing (⟨t, span⟩ :: ls) cut D d) = (.ok span, facing ls cut D d) :=
  (expect_on_iff ht).mpr ⟨ls, rfl, rfl⟩

/-! ### Numbers and what follows them -/

/-- No name stands first. -/
def NoName (ls : List Lexeme) : Prop := ∀ l ∈ ls.head?, ∀ name, l.token ≠ .ident name

/-- No integer stands first. -/
def NoInteger (ls : List Lexeme) : Prop := ∀ l ∈ ls.head?, ∀ value, l.token ≠ .int value

lemma number_on_standardForm (value : Literal) (span eSpan : Span) (exponent : ℤ)
    (exponentSpan : Span) :
    on (number value span)
        (facing (⟨.ident "e", eSpan⟩ :: ⟨.int exponent, exponentSpan⟩ :: ls) cut D d)
      = (.ok (.combine .mul (.literal value span)
          (.combine .pow (.literal (.int 10) eSpan) (.literal (.int exponent) exponentSpan))),
        facing ls cut D d) := by
  simp only [number, on_get_bind, facing_current, facing_ahead, List.head?_cons, List.tail_cons,
    on_skip_bind, shifted_facing, on_pure]

lemma number_on_multiple (value : Literal) (span : Span) {name : String} (nameSpan : Span)
    (h : name ≠ "e" ∨ NoInteger ls) :
    on (number value span) (facing (⟨.ident name, nameSpan⟩ :: ls) cut D d)
      = (.ok (.combine .mul (.literal value span) (.var name nameSpan)),
        facing ls cut D d) := by
  simp only [number, on_get_bind, facing_current, facing_ahead, List.head?_cons, List.tail_cons]
  split
  · next hc ha =>
    simp only [Option.some.injEq, Lexeme.mk.injEq, Token.ident.injEq] at hc
    exact absurd rfl ((h.resolve_left (not_not.mpr hc.1)) _ ha _)
  · next hc _ =>
    simp only [Option.some.injEq, Lexeme.mk.injEq, Token.ident.injEq] at hc
    obtain ⟨rfl, rfl⟩ := hc
    simp only [on_skip_bind, shifted_facing, on_pure]
  · next hc _ => exact absurd rfl (hc _ _)

lemma number_on_alone (value : Literal) (span : Span) (h : NoName ls) :
    on (number value span) (facing ls cut D d)
      = (.ok (.literal value span), facing ls cut D d) := by
  simp only [number, on_get_bind, facing_current, facing_ahead]
  split
  · next hc _ => exact absurd rfl (h _ hc _)
  · next hc _ => exact absurd rfl (h _ hc _)
  · rfl

end Parser

end Reckoner
