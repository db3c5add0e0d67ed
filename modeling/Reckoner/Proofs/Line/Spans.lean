import Reckoner.Proofs.Formula.Spans
import Reckoner.Proofs.Line.Run

/-!
What is reported of a line can be shown in it.

Reading a line blames a token or the place at which reading stopped, and evaluating its tree blames
a part of the tree. Warnings are given at the place of an assignment. All of these places can be cut
out of the line as it is read.

* `Formula.keeps_eval`: the places that an evaluation blames and warns at;
* `Fault.Placed`, `Line.placed_of_tokens`, `Line.placed_of_tree`, `Line.placed_of_run`: the
  faults of a line;
* `Line.placed`: all that is reported of a line.
-/

namespace Reckoner

open Step

/-! ### Evaluation -/

section Evaluation

variable {P : Span → Prop} {span : Span}

/-- The warnings of an evaluation are given at places in `P`. -/
def Evaluation.WarnsAt (P : Span → Prop) (e : Evaluation) : Prop := ∀ w ∈ e.overwrites, P w.span

lemma Evaluation.keeps_blame (h : P span) (result : Except EvalCause Value) :
    Keeps (WarnsAt P) (fun e => P e.span) (blame span result) := by
  cases result with
  | ok v => exact keeps_pure v
  | error cause => exact keeps_throw h

lemma Evaluation.keeps_lookUp (h : P span) (name : String) :
    Keeps (WarnsAt P) (fun e => P e.span) (lookUp name span) := by
  refine keeps_get_bind fun e _ => ?_
  split
  · exact keeps_pure _
  · exact keeps_throw h

lemma Evaluation.keeps_assign (h : P span) (name : String) (v : Value) :
    Keeps (WarnsAt P) (fun e => P e.span) (assign name v span) := by
  refine (keeps_modify fun e he => ?_).bind fun _ => keeps_pure _
  rw [WarnsAt]
  split
  · exact List.forall_mem_append.mpr ⟨he, List.forall_mem_singleton.mpr h⟩
  · exact he

/-- **What an evaluation blames** is a part of the tree, and so is what it warns at. -/
lemma Formula.keeps_eval {t : Formula} (h : ∀ s ∈ t.spans, P s) (precision : UInt64) :
    Keeps (Evaluation.WarnsAt P) (fun e => P e.span) (t.eval precision) := by
  induction t with
  | literal value span => exact keeps_pure _
  | var name span => exact Evaluation.keeps_lookUp (List.forall_mem_singleton.mp h) name
  | binary op left right span ihl ihr =>
      obtain ⟨hspan, hparts⟩ := List.forall_mem_cons.mp h
      obtain ⟨hl, hr⟩ := List.forall_mem_append.mp hparts
      exact (ihl hl).bind fun _ => (ihr hr).bind fun _ => Evaluation.keeps_blame hspan _
  | call f argument span ih =>
      obtain ⟨hspan, hargument⟩ := List.forall_mem_cons.mp h
      exact (ih hargument).bind fun _ => Evaluation.keeps_blame hspan _
  | assign name value span ih =>
      obtain ⟨hspan, hvalue⟩ := List.forall_mem_cons.mp h
      exact (ih hvalue).bind fun v => Evaluation.keeps_assign hspan name v
  | empty => exact keeps_pure _

end Evaluation

/-! ### Faults -/

/-- A fault that can be shown in its source. -/
structure Fault.Placed (source : String) (fault : Fault) : Prop where
  source_eq : fault.source = source
  span_cuts : fault.span.Cuts source
  shownSpan_cuts : fault.shownSpan.Cuts source

lemma Fault.placed_ofParse {source : String} {e : ParseError}
    (hsize : source.utf8ByteSize < 2 ^ 32) (hspan : e.span.Cuts source)
    (hlexical : ∀ e', e.cause = .lexical e' → e'.span.Cuts source) :
    (ofParse source e).Placed source := by
  rw [ofParse]
  split
  · next e' hcause => exact ⟨rfl, hlexical e' hcause, hlexical e' hcause⟩
  · refine ⟨rfl, hspan, ?_⟩
    rw [shownSpan]
    split
    · exact Span.cuts_end hsize
    · exact hspan

namespace Line

variable {settings : Settings} {line : String} {user : UserId} {env : Environment} {fault : Fault}

section Short

variable (hsize : (prepare line).utf8ByteSize < 2 ^ 32)

include hsize

lemma placed_of_tokens (h : tokens line = .error fault) : fault.Placed (prepare line) := by
  obtain ⟨e, htokens, rfl⟩ := tokens_eq_error.mp h
  obtain ⟨hitems, -⟩ := Lexer.items_of_error htokens
  have hitem : .error e ∈ Lexer.items (prepare line) := by simp [hitems, Lexer.stream]
  have hcuts := (Lexer.arranged_items hsize).cuts _ hitem
  exact ⟨rfl, hcuts, hcuts⟩

lemma placed_of_tree (h : tree settings line = .error fault) : fault.Placed (prepare line) := by
  rw [tree] at h
  rcases hparse : parse (prepare line) settings.maxDepth with e | t
  · rw [hparse] at h
    obtain rfl := Except.error.inj h
    obtain ⟨hspan, hlexical⟩ := parse_blames hsize hparse
    exact Fault.placed_ofParse hsize hspan hlexical
  · simp [hparse, Except.mapError] at h

/-- Evaluating the tree of a line blames and warns at places in the line. -/
lemma keeps_eval_of_tree {t : Formula} (h : tree settings line = .ok t) :
    Keeps (Evaluation.WarnsAt (Span.Cuts (prepare line))) (fun e => e.span.Cuts (prepare line))
      (t.eval settings.precision) :=
  Formula.keeps_eval (spans_cut_of_parse hsize (tree_eq_ok.mp h)) _

lemma placed_of_run (h : (run settings line user env).outcome = .error fault) :
    fault.Placed (prepare line) := by
  rcases htree : tree settings line with fault' | t
  · rw [run_of_fault htree] at h
    obtain rfl := Except.error.inj h
    exact placed_of_tree hsize htree
  · obtain ⟨-, hblames⟩ :=
      keeps_eval_of_tree hsize htree (.start (env.tableOf user)) (by rintro w ⟨⟩)
    have houtcome : (((on (t.eval settings.precision) (.start (env.tableOf user))).1.mapError
        (Fault.eval (prepare line))).map Output.ofValue) = .error fault := by
      rwa [run_of_tree htree] at h
    rcases hresult : (on (t.eval settings.precision) (.start (env.tableOf user))).1 with e | v
    · rw [hresult] at houtcome
      obtain rfl := Except.error.inj houtcome
      exact ⟨rfl, hblames e hresult, hblames e hresult⟩
    · simp [hresult, Except.mapError, Except.map] at houtcome

/-- The warnings of a line stand in it. -/
lemma warnings_cut : ∀ w ∈ (run settings line user env).warnings,
    w.source = prepare line ∧ w.overwrite.span.Cuts (prepare line) := by
  rcases htree : tree settings line with fault | t
  · simp [run_of_fault htree]
  · obtain ⟨hwarns, -⟩ :=
      keeps_eval_of_tree hsize htree (.start (env.tableOf user)) (by rintro w ⟨⟩)
    rw [run_of_tree htree]
    exact List.forall_mem_map.mpr fun w hw => ⟨rfl, hwarns w hw⟩

end Short

/-- **Whatever is reported of a line can be shown in it.** A line that is shorter than `2 ^ 32`
bytes when it is read may fail to have tokens, or a tree, or an output. The fault names the line as
it is read, and its place can be cut out of the line; so can the places of all warnings. -/
theorem placed (settings : Settings) (line : String) (user : UserId) (env : Environment)
    (hsize : (prepare line).utf8ByteSize < 2 ^ 32) :
    (∀ fault, tokens line = .error fault ∨ tree settings line = .error fault
        ∨ (run settings line user env).outcome = .error fault →
      fault.Placed (prepare line))
    ∧ ∀ w ∈ (run settings line user env).warnings, w.source = prepare line
        ∧ w.overwrite.span.Cuts (prepare line) := by
  refine ⟨fun fault h => ?_, warnings_cut hsize⟩
  obtain h | h | h := h
  · exact placed_of_tokens hsize h
  · exact placed_of_tree hsize h
  · exact placed_of_run hsize h

/-- The line `1 + é` takes six bytes, and its last character, of two bytes, is reported. -/
theorem placed_accent :
    (prepare "1 + é").utf8ByteSize < 2 ^ 32
      ∧ tokens "1 + é" = .error (.lexical "1 + é" ⟨.unrecognized 'é', ⟨4, 6⟩⟩)
      ∧ (⟨4, 6⟩ : Span).Cuts (prepare "1 + é") := by
  have hsize : (prepare "1 + é").utf8ByteSize < 2 ^ 32 := by decide
  have htokens : tokens "1 + é" = .error (.lexical "1 + é" ⟨.unrecognized 'é', ⟨4, 6⟩⟩) := by cbv
  have hplaced := (placed .standard "1 + é" (.id 7) .empty hsize).1 _ (.inl htokens)
  exact ⟨hsize, htokens, hplaced.span_cuts⟩

end Line

end Reckoner
