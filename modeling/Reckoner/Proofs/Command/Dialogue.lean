import Reckoner.Command.Run
import Reckoner.Proofs.Line.Isolation

/-!
Dialogues and calculations.

A dialogue reads lines and a calculation is given expressions, but both run them one after the
other for one user, in the environment that the one before has left. The dialogue answers every
line with what the calculation writes for it, and both report the same.

* `readingsOfBytes_utf8`, `readings_entered`: the lines that are read back from a text of lines;
* `Answer.printed`, `Answer.replied`, `Answer.reports`: what is written for an answer;
* `answers`: the answers to lines that one user enters;
* `continueFrom_lines`, `Calculation.foldl_add`: the dialogue and the calculation, from any state;
* `dialogue_calculation`: the two agree.
-/

namespace Reckoner

/-! ### Bytes of lines -/

lemma newlineByte_notMem {c : Char} (hc : c ≠ '\n') : newlineByte ∉ String.utf8EncodeChar c := by
  have hval : c.val.toNat ≠ 10 := by
    intro h
    exact hc (Char.ext (UInt32.toNat_inj.mp h))
  have hbyte (n : ℕ) (h : n % 256 ≠ 10) : newlineByte ≠ UInt8.ofNat n := by
    intro heq
    have := congrArg UInt8.toNat heq
    rw [UInt8.toNat_ofNat'] at this
    exact h this.symm
  simp only [String.utf8EncodeChar]
  split
  · simp only [List.mem_singleton]
    exact hbyte _ (by omega)
  · split
    · simp only [List.mem_cons, List.not_mem_nil, or_false, not_or]
      exact ⟨hbyte _ (by omega), hbyte _ (by omega)⟩
    · split
      · simp only [List.mem_cons, List.not_mem_nil, or_false, not_or]
        exact ⟨hbyte _ (by omega), hbyte _ (by omega), hbyte _ (by omega)⟩
      · simp only [List.mem_cons, List.not_mem_nil, or_false, not_or]
        exact ⟨hbyte _ (by omega), hbyte _ (by omega), hbyte _ (by omega), hbyte _ (by omega)⟩

/-- Bytes without a newline belong to the line that is being read. -/
lemma byteLinesAfter_append {bs : List UInt8} (h : newlineByte ∉ bs) (read more : List UInt8) :
    byteLinesAfter read (bs ++ more) = byteLinesAfter (bs.reverse ++ read) more := by
  induction bs generalizing read with
  | nil => rfl
  | cons b bs ih =>
      rw [List.mem_cons, not_or] at h
      rw [List.cons_append, byteLinesAfter, if_neg (Ne.symm h.1), ih h.2, List.reverse_cons,
        List.append_assoc]
      rfl

/-- The bytes of a text. -/
def utf8 (cs : List Char) : List UInt8 := cs.flatMap String.utf8EncodeChar

@[simp] lemma utf8_nil : utf8 [] = [] := rfl

lemma utf8_append (cs ds : List Char) : utf8 (cs ++ ds) = utf8 cs ++ utf8 ds :=
  List.flatMap_append

lemma utf8_ne_nil {cs : List Char} (h : cs ≠ []) : utf8 cs ≠ [] := by
  obtain ⟨c, cs, rfl⟩ := List.exists_cons_of_ne_nil h
  intro hnil
  have hc : String.utf8EncodeChar c = [] := (List.append_eq_nil_iff.mp hnil).1
  exact String.utf8EncodeChar_ne_nil hc

/-- Lines end at the same places in a text and in its bytes. -/
lemma byteLinesAfter_utf8 (read cs : List Char) :
    byteLinesAfter (utf8 read.reverse).reverse (utf8 cs) = (linesAfter read cs).map utf8 := by
  induction cs generalizing read with
  | nil =>
      obtain rfl | hread := eq_or_ne read []
      · rfl
      · have hbytes : utf8 read.reverse ≠ [] := utf8_ne_nil (by simpa using hread)
        rw [utf8_nil, byteLinesAfter, linesAfter, if_neg (by simpa using hbytes),
          if_neg (by simpa using hread), List.reverse_reverse]
        rfl
  | cons c cs ih =>
      have hbytes : utf8 (c :: cs) = String.utf8EncodeChar c ++ utf8 cs := List.flatMap_cons
      have hread : utf8 (c :: read).reverse = utf8 read.reverse ++ String.utf8EncodeChar c := by
        rw [List.reverse_cons, utf8_append]
        exact congrArg _ (List.append_nil _)
      rw [linesAfter, hbytes]
      split
      · next hc =>
        subst hc
        rw [List.map_cons, ← ih, hread]
        show byteLinesAfter _ (newlineByte :: utf8 cs) = _
        rw [byteLinesAfter, if_pos rfl, List.reverse_cons, List.reverse_reverse]
        rfl
      · next hc =>
        rw [byteLinesAfter_append (newlineByte_notMem hc), ← ih, hread, List.reverse_append]

lemma ofBytes_utf8 (cs : List Char) :
    Reading.ofBytes ⟨(utf8 cs).toArray⟩ = .line (String.ofList (chopped cs)) := by
  have hbytes : (⟨(utf8 cs).toArray⟩ : ByteArray) = (String.ofList cs).toByteArray := by
    rw [String.toByteArray_ofList, List.utf8Encode]
    exact (ByteArray.ext List.data_toByteArray).symm
  have hread (s : String) : String.fromUTF8? s.toByteArray = some s := by
    rw [String.fromUTF8?, dif_pos s.isValidUTF8]
    rfl
  rw [Reading.ofBytes, hbytes, hread]
  simp only [String.toList_ofList]

/-- **The bytes of a text** are read like the text. -/
lemma readingsOfBytes_utf8 (input : String) :
    readingsOfBytes input.toUTF8.data.toList = readings input := by
  have hbytes : input.toUTF8.data.toList = utf8 input.toList := by
    rw [String.toUTF8, ← input.ofList_toList, String.toByteArray_ofList, List.utf8Encode,
      List.data_toByteArray, List.toList_toArray, String.toList_ofList]
    rfl
  have hlines := byteLinesAfter_utf8 [] input.toList
  rw [readingsOfBytes, hbytes, readings]
  rw [List.reverse_nil, utf8_nil, List.reverse_nil] at hlines
  rw [hlines, List.map_map]
  refine List.map_congr_left fun l _ => ?_
  exact ofBytes_utf8 l

/-! ### Lines of text -/

/-- A text that is read as one line: nothing in it ends the line, and its end is not taken for a
part of the ending. -/
structure IsLineText (line : String) : Prop where
  no_newline : '\n' ∉ line.toList
  no_return : line.toList.getLast? ≠ some '\r'

instance (line : String) : Decidable (IsLineText line) :=
  decidable_of_iff ('\n' ∉ line.toList ∧ line.toList.getLast? ≠ some '\r')
    ⟨fun h => ⟨h.1, h.2⟩, fun h => ⟨h.no_newline, h.no_return⟩⟩

/-- The text of lines that are entered one after the other. -/
def entered (lines : List String) : String := String.join (lines.map (· ++ "\n"))

lemma linesAfter_append {l : List Char} (h : '\n' ∉ l) (read cs : List Char) :
    linesAfter read (l ++ cs) = linesAfter (l.reverse ++ read) cs := by
  induction l generalizing read with
  | nil => rfl
  | cons c l ih =>
      rw [List.mem_cons, not_or] at h
      rw [List.cons_append, linesAfter, if_neg (Ne.symm h.1), ih h.2, List.reverse_cons,
        List.append_assoc]
      rfl

/-- Of a line only the newline is cut off, unless a carriage return stands before it. -/
lemma chopped_newline {l : List Char} (h : l.getLast? ≠ some '\r') : chopped (l ++ ['\n']) = l := by
  rw [List.getLast?_eq_head?_reverse] at h
  cases hl : l.reverse with
  | nil =>
      obtain rfl : l = [] := List.reverse_eq_nil_iff.mp hl
      rfl
  | cons c cs =>
      have hc : c ≠ '\r' := by
        rintro rfl
        exact h (by rw [hl]; rfl)
      have hlast : cs.reverse ++ [c] = l := by
        rw [← List.reverse_cons, ← hl, List.reverse_reverse]
      simp [chopped, hl, hc, hlast]

/-- **Lines that are entered** are read back as they are. -/
lemma readings_entered {lines : List String} (h : ∀ line ∈ lines, IsLineText line) :
    readings (entered lines) = lines.map .line := by
  have hlines : linesAfter [] (entered lines).toList = lines.map (·.toList ++ ['\n']) := by
    induction lines with
    | nil => rfl
    | cons line lines ih =>
        have hline := (h line List.mem_cons_self).no_newline
        have hentered : (entered (line :: lines)).toList
            = line.toList ++ '\n' :: (entered lines).toList := by
          simp [entered]
        rw [hentered, linesAfter_append hline, linesAfter, if_pos rfl,
          ih fun l hl => h l (List.mem_cons_of_mem _ hl)]
        simp
  rw [readings, hlines, List.map_map]
  refine List.map_congr_left fun line hmem => ?_
  rw [Function.comp_apply, chopped_newline (h line hmem).no_return, String.ofList_toList]

/-! ### Answers -/

namespace Answer

/-- Whether a line has failed. -/
def failed (a : Answer) : Bool :=
  match a.outcome with
  | .ok _ => false
  | .error _ => true

/-- What a calculation writes for a line. -/
def printed (a : Answer) : String :=
  match a.outcome with
  | .ok output => output.text ++ "\n"
  | .error _ => ""

/-- What a dialogue writes for a line: the same, but no blank line. -/
def replied (a : Answer) : String := if a.printed = "\n" then "" else a.printed

/-- The warnings of a line, and its failure. -/
def reports (a : Answer) : Markup :=
  a.warnings.flatMap Warning.report ++
    match a.outcome with
    | .ok _ => []
    | .error fault => fault.report

end Answer

section Commands

variable {user : UserId} {settings : Settings}

/-- The answers to lines of one user. -/
def answers (settings : Settings) (user : UserId) (env : Environment) (lines : List String) :
    List Answer :=
  (session settings env (lines.map (Entry.mk user))).1

lemma lineUnlessEmpty_eq (s : String) :
    lineUnlessEmpty s = if s ++ "\n" = "\n" then "" else s ++ "\n" := by
  have hblank : s ++ "\n" = "\n" ↔ s.isEmpty = true := by
    rw [String.isEmpty_iff]
    exact @String.append_left_inj s "" "\n"
  rw [lineUnlessEmpty]
  simp only [hblank]

/-- The dialogue replies to a line that does not end it. -/
lemma reply_calculationDialogue {line : String}
    (hline : String.ofList (Text.trimmed line.toList) ≠ exitCommand) (env : Environment) :
    let entered := Entry.enter settings env ⟨user, line⟩
    (calculationDialogue user settings).reply env line
      = .answer entered.1.replied entered.1.reports entered.2 := by
  cases houtcome : (Line.run settings line user env).outcome with
  | ok output =>
      simp [calculationDialogue, hline, Entry.enter, houtcome, Line.Result.reports, Answer.reports,
        Answer.replied, Answer.printed, lineUnlessEmpty_eq]
  | error fault =>
      simp [calculationDialogue, hline, Entry.enter, houtcome, Line.Result.reports, Answer.reports,
        Answer.replied, Answer.printed]

/-- **The dialogue**, from any environment on. -/
lemma continueFrom_lines {lines : List String}
    (h : ∀ line ∈ lines, String.ofList (Text.trimmed line.toList) ≠ exitCommand)
    (env : Environment) :
    (calculationDialogue user settings).continueFrom env (lines.map .line)
      = ⟨0, String.join ((answers settings user env lines).map (Dialogue.prompt ++ ·.replied))
            ++ Dialogue.prompt,
          (answers settings user env lines).flatMap Answer.reports⟩ := by
  induction lines generalizing env with
  | nil => simp [Dialogue.continueFrom, answers, session]
  | cons line lines ih =>
      have hline := h line List.mem_cons_self
      rw [List.map_cons, Dialogue.continueFrom, reply_calculationDialogue hline]
      simp only [ih fun l hl => h l (List.mem_cons_of_mem _ hl), Outcome.andThen]
      simp [answers, session, String.append_assoc]

/-- What a calculation adds for an expression. -/
lemma Calculation.add_eq (c : Calculation) (expression : String) :
    let entered := Entry.enter settings c.environment ⟨user, expression⟩
    c.add user settings expression
      = ⟨entered.2, c.failed + entered.1.failed.toNat, c.out ++ entered.1.printed,
          c.err ++ entered.1.reports⟩ := by
  cases houtcome : (Line.run settings expression user c.environment).outcome with
  | ok output =>
      simp [Calculation.add, Entry.enter, houtcome, Line.Result.reports, Answer.reports,
        Answer.failed, Answer.printed]
  | error fault =>
      simp [Calculation.add, Entry.enter, houtcome, Line.Result.reports, Answer.reports,
        Answer.failed, Answer.printed]

/-- **The calculation**, from what it has come to so far. -/
lemma Calculation.foldl_add (lines : List String) (c : Calculation) :
    lines.foldl (.add user settings) c
      = ⟨(session settings c.environment (lines.map (Entry.mk user))).2,
          c.failed + (answers settings user c.environment lines).countP Answer.failed,
          c.out ++ String.join ((answers settings user c.environment lines).map Answer.printed),
          c.err ++ (answers settings user c.environment lines).flatMap Answer.reports⟩ := by
  induction lines generalizing c with
  | nil => simp [answers, session]
  | cons line lines ih =>
      have hcount (b : Bool) (m n : ℕ) : m + b.toNat + n = m + (n + if b then 1 else 0) := by
        cases b <;> simp [Nat.add_comm, Nat.add_left_comm]
      rw [List.foldl_cons, ih, Calculation.add_eq]
      simp only [answers, List.map_cons, session, List.flatMap_cons, String.join_cons,
        List.countP_cons, String.append_assoc, List.append_assoc, hcount]

/-- **A dialogue and a calculation agree.** For lines none of which ends the dialogue, both write
the same for each line and report the same, except that the dialogue writes a prompt before every
line and leaves out what would be a blank line. The dialogue succeeds, and the calculation fails if
one of the lines has failed. -/
theorem dialogue_calculation {lines : List String} (htext : ∀ line ∈ lines, IsLineText line)
    (hexit : ∀ line ∈ lines, String.ofList (Text.trimmed line.toList) ≠ exitCommand)
    (input : List Reading) (duration duration' : String) :
    let results := answers settings user .empty lines
    (Command.repl user settings).run (readingsOfBytes (entered lines).toUTF8.data.toList) duration
        = ⟨0, String.join (results.map (Dialogue.prompt ++ ·.replied)) ++ Dialogue.prompt,
            sessionNotice user ++ results.flatMap Answer.reports⟩
      ∧ (Command.eval user settings lines).run input duration'
        = ⟨if results.any Answer.failed then 1 else 0, String.join (results.map Answer.printed),
            results.flatMap Answer.reports
              ++ evaluatedNotice lines.length (results.countP Answer.failed) duration'⟩ := by
  intro results
  have hcode : (if results.countP Answer.failed = 0 then 0 else 1)
      = if results.any Answer.failed then 1 else 0 := by
    have hnone : results.countP Answer.failed = 0 ↔ ¬ results.any Answer.failed = true := by
      rw [List.countP_eq_zero, List.any_eq_true]
      simp only [not_exists, not_and]
    simp only [hnone, ite_not]
  constructor
  · rw [Command.run, readingsOfBytes_utf8, readings_entered htext, Dialogue.run]
    rw [show (calculationDialogue user settings).start = .empty from rfl, continueFrom_lines hexit]
    simp [Outcome.andThen, results]
  · rw [Command.run, calculate, Calculation.foldl_add, Command.evalOutcome, ← hcode]
    simp only [Calculation.start, Nat.zero_add, String.empty_append, List.nil_append, results]

/-- A value, a line that fails, and a value that the first line has left. -/
theorem dialogue_calculation_failure :
    let lines := ["x = 2", " x / 0", "x + 1 "]
    let results := answers .standard .anonymous .empty lines
    (∀ line ∈ lines, IsLineText line)
      ∧ (∀ line ∈ lines, String.ofList (Text.trimmed line.toList) ≠ exitCommand)
      ∧ (Command.repl .anonymous .standard).run
            (readingsOfBytes (entered lines).toUTF8.data.toList) "0.00s"
          = ⟨0, String.join (results.map (Dialogue.prompt ++ ·.replied)) ++ Dialogue.prompt,
              sessionNotice .anonymous ++ results.flatMap Answer.reports⟩
      ∧ (Command.eval .anonymous .standard lines).run [] "0.00s"
          = ⟨if results.any Answer.failed then 1 else 0, String.join (results.map Answer.printed),
              results.flatMap Answer.reports
                ++ evaluatedNotice lines.length (results.countP Answer.failed) "0.00s"⟩ := by
  intro lines results
  have htext : ∀ line ∈ lines, IsLineText line := by
    decide +kernel
  have hexit : ∀ line ∈ lines, String.ofList (Text.trimmed line.toList) ≠ exitCommand := by
    decide +kernel
  exact ⟨htext, hexit, dialogue_calculation htext hexit [] "0.00s" "0.00s"⟩

end Commands

end Reckoner
