import Reckoner.Proofs.Formula.Built

/-!
How far ahead the parser looks.

The parser has two lexemes in view. While two are left, no step of it has seen what follows
them, so a line that fails there fails alike whatever follows. In front of an error of the
lexer this decides which error is reported.

* `Parser.Moves`, `Parser.Forward`: steps that move on by some lexemes;
* `Parser.Forward.bind`, `Parser.forward_get_bind` and their kin: steps of such steps;
* `Parser.Built.forward`: the parser is such a step;
* `FailsEarly`, `parseItems_cut`: what is reported of a stream that an error cuts short.
-/

namespace Reckoner

namespace Parser

open Step Parse

variable {α β : Type} {cut : Option LexicalError} {D d : ℕ} {ls : List Lexeme}

/-! ### Steps that move on -/

/-- In front of the lexemes `ls` a step moves on to `ms`. It has seen nothing that follows
two lexemes that are left, and does not report errors of the lexer. -/
structure Moves (x : Parse α) (ls : List Lexeme) (cut : Option LexicalError) (D d : ℕ)
    (result : Except ParseError α) (ms : List Lexeme) (d' : ℕ) : Prop where
  on_facing : on x (facing ls cut D d) = (result, facing ms cut D d')
  suffix : ms <:+ ls
  not_lexical : ∀ e span, result ≠ .error ⟨.lexical e, span⟩
  on_longer : 2 ≤ ms.length → ∀ ns cut',
    on x (facing (ls ++ ns) cut' D d) = (result, facing (ms ++ ns) cut' D d')

/-- A step moves on, whatever it stands in front of. -/
def Forward (x : Parse α) : Prop :=
  ∀ ls cut D d, ∃ result ms d', Moves x ls cut D d result ms d'

lemma forward_pure (a : α) : Forward (pure a : Parse α) := fun ls _ _ d =>
  ⟨.ok a, ls, d, rfl, List.suffix_rfl, by simp, fun _ _ _ => rfl⟩

lemma forward_fail {cause : ParseCause} (h : ∀ e, cause ≠ .lexical e) (span : Span) :
    Forward (fail cause span : Parse α) := fun ls _ _ d =>
  ⟨.error ⟨cause, span⟩, ls, d, rfl, List.suffix_rfl, by simpa using h, fun _ _ _ => rfl⟩

lemma forward_skip : Forward skip := by
  intro ls cut D d
  cases ls with
  | nil =>
      refine ⟨.ok (), [], d, ?_, List.suffix_rfl, by simp, by simp⟩
      cases cut <;> rfl
  | cons l ls =>
      refine ⟨.ok (), ls, d, ?_, List.suffix_cons l ls, by simp, fun _ ns cut' => ?_⟩
      · exact congrArg (Prod.mk _) (shifted_facing l ls)
      · exact congrArg (Prod.mk _) (shifted_facing l (ls ++ ns))

/-- Opening and closing levels does not move. -/
lemma forward_modify (g : ℕ → ℕ) :
    Forward (modify fun p => { p with depth := g p.depth } : Parse Unit) := fun ls _ _ d =>
  ⟨.ok (), ls, g d, rfl, List.suffix_rfl, by simp, fun _ _ _ => rfl⟩

lemma Forward.bind {x : Parse α} {f : α → Parse β} (hx : Forward x) (hf : ∀ a, Forward (f a)) :
    Forward (x >>= f) := by
  intro ls cut D d
  obtain ⟨error | a, ms, d', hms⟩ := hx ls cut D d
  · refine ⟨.error error, ms, d', on_bind_of_error hms.on_facing f, hms.suffix, ?_, ?_⟩
    · rintro e span ⟨⟩
      exact hms.not_lexical e span rfl
    · intro hlength ns cut'
      exact on_bind_of_error (hms.on_longer hlength ns cut') f
  · obtain ⟨result, ks, d'', hks⟩ := hf a ms cut D d'
    refine ⟨result, ks, d'', ?_, hks.suffix.trans hms.suffix, hks.not_lexical, ?_⟩
    · rw [on_bind_of_ok hms.on_facing, hks.on_facing]
    · intro hlength ns cut'
      have hlonger : 2 ≤ ms.length := hlength.trans hks.suffix.length_le
      rw [on_bind_of_ok (hms.on_longer hlonger ns cut'), hks.on_longer hlength ns cut']

/-- The two lexemes in view are the same whatever follows them. -/
lemma facing_append (hls : 2 ≤ ls.length) (ns : List Lexeme) (cut cut' : Option LexicalError)
    (D d : ℕ) :
    ∃ rest errors, facing (ls ++ ns) cut' D d
      = { facing ls cut D d with rest := rest, lexicalErrors := errors } := by
  match ls with
  | [] | [_] => simp at hls
  | a :: b :: ls => exact ⟨_, _, rfl⟩

/-- A step may look at the two lexemes in view and at the levels that are open. -/
lemma forward_get_bind {f : Parser → Parse β} (hf : ∀ p, Forward (f p))
    (hview : ∀ p rest errors, f { p with rest := rest, lexicalErrors := errors } = f p) :
    Forward (get >>= f) := by
  intro ls cut D d
  obtain ⟨result, ms, d', hms⟩ := hf (facing ls cut D d) ls cut D d
  refine ⟨result, ms, d', hms.on_facing, hms.suffix, hms.not_lexical, fun hlength ns cut' => ?_⟩
  obtain ⟨rest, errors, hfacing⟩ :=
    facing_append (hlength.trans hms.suffix.length_le) ns cut cut' D d
  rw [on_get_bind, hfacing, hview, ← hfacing]
  exact hms.on_longer hlength ns cut'

/-- **The parser moves on** lexeme by lexeme, and looks no further than two of them ahead. -/
lemma Built.forward {x : Parse α} (h : Built (fun _ => True) x) : Forward x := by
  induction h with
  | done a => exact forward_pure a
  | failed hcause _ => exact forward_fail hcause _
  | moved => exact forward_skip
  | levelled g => exact forward_modify g
  | next _ _ ihx ihf => exact ihx.bind ihf
  | looked _ hview ih => exact forward_get_bind (fun p => ih p trivial) hview

end Parser

/-! ### Streams that an error cuts short -/

open Reckoner.Parser

/-- After the lexemes `ls` a line fails with this error, whatever the lexer delivers next. -/
def FailsEarly (ls : List Lexeme) (D : ℕ) (error : ParseError) : Prop :=
  ∀ ms cut, parseItems (Lexer.stream (ls ++ ms) cut) D = .error error

/-- A stream without an end of the input is no line. -/
lemma line_ne_ok {ls : List Lexeme} (hls : ∀ l ∈ ls, l.token ≠ .eof) {cut : Option LexicalError}
    {D : ℕ} {t : Formula} {q : Parser} : Step.on line (facing ls cut D 0) ≠ (.ok t, q) := by
  intro h
  obtain ⟨s, ms, -, -, rfl, -⟩ := line_reads h
  obtain ⟨ending, ns, hns⟩ := s.exists_ending
  exact hls ⟨.eof, ending⟩ (by simp [hns]) rfl

/-- **A stream that is cut short** does not become a tree. The error of the lexer is reported,
unless the lexemes before it are enough for another error. -/
theorem parseItems_cut {ls : List Lexeme} (hls : ∀ l ∈ ls, l.token ≠ .eof) (e : LexicalError)
    (D : ℕ) :
    (parseItems (Lexer.stream ls (some e)) D = .error ⟨.lexical e, e.span⟩
        ∧ ∀ error, ¬ FailsEarly ls D error)
      ∨ ∃ error, (∀ e', error.cause ≠ .lexical e') ∧ FailsEarly ls D error := by
  obtain ⟨result, ms, d, hms⟩ := built_line.forward ls (some e) D 0
  by_cases hlength : 2 ≤ ms.length
  · right
    obtain error | t := result
    · refine ⟨error, fun e' he' => hms.not_lexical e' error.span (by rw [← he']), ?_⟩
      intro ns cut
      have hrest : 2 ≤ (ms ++ ns).length := by
        rw [List.length_append]
        omega
      rw [parseItems_stream, hms.on_longer hlength ns cut, facing_lexicalErrors, if_pos hrest]
    · exact absurd hms.on_facing (line_ne_ok hls)
  · left
    have hcut : parseItems (Lexer.stream ls (some e)) D = .error ⟨.lexical e, e.span⟩ := by
      rw [parseItems_stream, hms.on_facing, facing_lexicalErrors, if_neg hlength]
      rfl
    refine ⟨hcut, fun error hearly => ?_⟩
    -- Without the error of the lexer something else would be reported.
    obtain rfl : error = ⟨.lexical e, e.span⟩ := by
      have herror := hearly [] (some e)
      rw [List.append_nil, hcut] at herror
      exact (Except.error.inj herror).symm
    obtain ⟨result', ms', d', hms'⟩ := built_line.forward ls none D 0
    have hnone := hearly [] none
    rw [List.append_nil, parseItems_stream, hms'.on_facing, facing_lexicalErrors] at hnone
    exact hms'.not_lexical e e.span (by simpa using hnone)

end Reckoner
