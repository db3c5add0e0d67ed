import Reckoner.Proofs.Token.Spaced

/-!
What the tokens of a text can be.

Names are words that start with no keyword, and each of them is read back as this one name.
A decimal has at least one place, and no more places than its text has characters.

* `Lexer.isName_iff`: the characters of a name;
* `Lexer.tokenize_name`: a name is read back;
* `Lexer.Written`, `Lexer.written_of_tokenize`: the names and decimals of a text;
* `Lexer.HasPlace`, `Lexer.hasPlace_of_tokenize`: its decimals have at least one place.
-/

namespace Reckoner

namespace Lexer

/-! ### Names -/

lemma keyword?_eq_none_iff {word : List Char} :
    keyword? word = none ↔ ∀ f : RealFunction, ¬ f.name.toList <+: word := by
  constructor
  · intro h f hprefix
    obtain ⟨rest, rfl⟩ := hprefix
    cases f <;> simp [RealFunction.name, keyword?] at h
  · intro h
    unfold keyword?
    split
    · exact absurd ⟨_, rfl⟩ (h .sqrt)
    · exact absurd ⟨_, rfl⟩ (h .exp)
    · exact absurd ⟨_, rfl⟩ (h .log)
    · rfl

/-- The characters of a name are letters and underscores, and they start with no keyword. -/
lemma isName_iff {name : String} :
    IsName name ↔ name ≠ "" ∧ (∀ c ∈ name.toList, c.isAlpha = true ∨ c = '_')
      ∧ ∀ f : RealFunction, ¬ f.name.toList <+: name.toList := by
  simp [IsName, isWordChar, keyword?_eq_none_iff]

lemma IsName.isWordChar {name : String} (h : IsName name) :
    ∀ c ∈ name.toList, isWordChar c = true :=
  List.all_eq_true.mp h.2.1

/-- A sign that stands in no word stands in no name. -/
lemma IsName.not_mem {name : String} (h : IsName name) {c : Char}
    (hc : Lexer.isWordChar c = false) : c ∉ name.toList := by
  intro hmem
  simp [h.isWordChar c hmem] at hc

/-- A name is read back as the one token of its text. -/
lemma tokenize_name {name : String} (h : IsName name) :
    ∃ span ending, tokenize name = .ok [⟨.ident name, span⟩, ⟨.eof, ending⟩] := by
  obtain ⟨ls, htokenize, htokens⟩ :=
    tokenize_spaced (List.forall_mem_singleton.mpr (readsBack_ident h))
  obtain ⟨span, ms, rfl, hms⟩ := tokensOf_eq_cons.mp htokens
  obtain ⟨ending, ns, rfl, hns⟩ := tokensOf_eq_cons.mp hms
  obtain rfl := tokensOf_eq_nil.mp hns
  refine ⟨span, ending, ?_⟩
  rwa [spaced, Token.literal, String.ofList_toList] at htokenize

/-! ### Tokens of a text -/

/-- What the tokens of a text of `n` characters can be. -/
def Written (n : ℕ) : Token → Prop
  | .ident name => IsName name
  | .decimal a => IsWritten n a
  | _ => True

lemma written_sign {n : ℕ} {cs after : List Char} {piece : SizedToken}
    (h : sign? cs = some (piece, after)) : Written n piece.1 := by
  unfold sign? at h
  split at h <;> cases h <;> trivial

/-- What holds of the end of the input and of all that is scanned in a text holds of its
tokens. -/
lemma itemsFrom_forall {P : Token → Prop} (heof : P .eof) (pos : ℕ) (cs : List Char)
    (hscan : ∀ cs' pieces after, cs'.length ≤ cs.length → scan cs' = some (pieces, after) →
      ∀ piece ∈ pieces, P piece.1) :
    ∀ l, .ok l ∈ itemsFrom pos cs → P l.token := by
  induction pos, cs using itemsFrom_induction with
  | ended pos cs start h =>
      intro l hl
      rw [itemsFrom_ended h] at hl
      obtain rfl : l = ⟨.eof, .point (.ofNat start)⟩ := by simpa using hl
      exact heof
  | unrecognized pos cs start c rest h hs =>
      intro l hl
      simp [itemsFrom_unrecognized h hs] at hl
  | scanned pos cs start c rest pieces after h hs ih =>
      intro l hl
      have hrest : (c :: rest).length ≤ cs.length := by
        have hlength := skipTrivia_length false pos cs
        rwa [h] at hlength
      have hafter := scan_length hs
      rw [itemsFrom_scanned h hs, List.mem_append] at hl
      obtain hl | hl := hl
      · exact place_forall start (hscan _ _ _ hrest hs) l (by simpa using hl)
      · exact ih (fun cs' pieces' after' hle => hscan cs' pieces' after' (by omega)) l hl

lemma itemsFrom_written (pos : ℕ) (cs : List Char) :
    ∀ l, .ok l ∈ itemsFrom pos cs → Written cs.length l.token := by
  refine itemsFrom_forall trivial pos cs fun cs' pieces after hle hs => ?_
  exact scan_forall (fun _ => trivial) (fun _ _ fs _ hfs => ⟨fs.length, hfs.trans hle, rfl⟩)
    (fun _ => trivial) (fun _ hname => hname) (fun _ _ hsign => written_sign hsign) hs

/-- A decimal that is written in a text has at least one place. -/
def HasPlace (n : ℕ) (a : Decimal) : Prop :=
  ∃ places, 0 < places ∧ places ≤ n ∧ a.scale = .ofNat places

lemma sign?_ne_decimal {cs after : List Char} {piece : SizedToken} (a : Decimal)
    (h : sign? cs = some (piece, after)) : piece.1 ≠ .decimal a := by
  unfold sign? at h
  split at h <;> cases h <;> simp

lemma itemsFrom_hasPlace (pos : ℕ) (cs : List Char) :
    ∀ l, .ok l ∈ itemsFrom pos cs → ∀ a, l.token = .decimal a → HasPlace cs.length a := by
  intro l hl a
  refine itemsFrom_forall (P := fun t => t = .decimal a → HasPlace cs.length a) (by simp)
    pos cs (fun cs' pieces after hle hs => ?_) l hl
  refine scan_forall (P := fun t => t = .decimal a → HasPlace cs.length a) (by simp) ?_ (by simp)
    (by simp) ?_ hs
  · rintro negative ds fs hfs hlength ⟨⟩
    exact ⟨fs.length, List.length_pos_of_ne_nil hfs, hlength.trans hle, rfl⟩
  · intro piece after hsign ha
    exact absurd ha (sign?_ne_decimal a hsign)

lemma exists_item {src : String} {ls : List Lexeme} (h : tokenize src = .ok ls) {t : Token}
    (ht : t ∈ tokensOf ls) : ∃ l, .ok l ∈ itemsFrom 0 src.toList ∧ l.token = t := by
  obtain ⟨l, hl, rfl⟩ := List.mem_map.mp ht
  refine ⟨l, ?_, rfl⟩
  show .ok l ∈ items src
  rw [items_of_tokenize h, stream]
  simpa using hl

/-- **The tokens of a text** are written in it: its names start with no keyword, and its
decimals have no more places than the text has characters. -/
theorem written_of_tokenize {src : String} {ls : List Lexeme} (h : tokenize src = .ok ls) :
    ∀ t ∈ tokensOf ls, Written src.toList.length t := by
  intro t ht
  obtain ⟨l, hl, rfl⟩ := exists_item h ht
  exact itemsFrom_written 0 src.toList l hl

/-- The decimals of a text have at least one place. -/
theorem hasPlace_of_tokenize {src : String} {ls : List Lexeme} (h : tokenize src = .ok ls)
    {a : Decimal} (ha : .decimal a ∈ tokensOf ls) : HasPlace src.toList.length a := by
  obtain ⟨l, hl, htoken⟩ := exists_item h ha
  exact itemsFrom_hasPlace 0 src.toList l hl a htoken

end Lexer

end Reckoner
