import Mathlib.Data.List.TakeWhile
import TitleScript.Script.Token

/-!
# What the scanner can return

The scanner decides by looking at one construct at a time, so two facts say all about it. Whatever
it returns is well formed: names are names, quoted text holds no quote, and a fault is about some
source. And a well formed token without a fault is what its own spelling is read as, whatever
comes after it, so a source is known token by token.

## Main definitions

* `Token.WellFormed`, `Token.IsFaulty` — what the scanner guarantees of a token
* `Token.tokens`, `Token.withPositions` — the tokens of a source, and where they begin

## Main results

* `Token.scan_eq` — positions are counted from the spellings
* `Token.wellFormed_of_mem_tokens` — every token of a source is well formed
* `Token.tokens_spelling_append` — a token without a fault is read back from its spelling
* `Token.scan_append` — the tokens of a source behind another
-/

namespace TitleScript

namespace Token

/-! ### Tokens without their positions -/

/-- The tokens of a source. -/
def tokens : List Char → List Token
  | [] => []
  | c :: cs => (read c cs).1 :: tokens (read c cs).2
termination_by cs => cs.length
decreasing_by exact length_read_lt c cs

@[simp] theorem tokens_nil : tokens [] = [] := by rw [tokens]

theorem tokens_cons (c : Char) (cs : List Char) :
    tokens (c :: cs) = (read c cs).1 :: tokens (read c cs).2 := by rw [tokens]

/-- Tokens with the byte positions of their spellings, the first of which begins at `position`. -/
def withPositions (position : Nat) : List Token → List (Nat × Token)
  | [] => []
  | t :: ts => (position, t) :: withPositions (position + Text.byteLength t.spelling) ts

@[simp] theorem map_snd_withPositions (position : Nat) (ts : List Token) :
    (withPositions position ts).map (·.2) = ts := by
  induction ts generalizing position with
  | nil => rfl
  | cons t ts ih => simp [withPositions, ih]

theorem withPositions_append (position : Nat) (ts us : List Token) :
    withPositions position (ts ++ us)
      = withPositions position ts
        ++ withPositions (position + Text.byteLength (ts.flatMap spelling)) us := by
  induction ts generalizing position with
  | nil => rfl
  | cons t ts ih => simp [withPositions, ih, Nat.add_assoc]

/-- Tokens that begin further on are further on by as much. -/
theorem withPositions_add (offset position : Nat) (ts : List Token) :
    withPositions (offset + position) ts
      = (withPositions position ts).map fun x => (offset + x.1, x.2) := by
  induction ts generalizing position with
  | nil => rfl
  | cons t ts ih => simp only [withPositions, List.map_cons, Nat.add_assoc, ih]

theorem scanFrom_eq (position : Nat) (done : List (Nat × Token)) (cs : List Char) :
    scanFrom position done cs = done.reverse ++ withPositions position (tokens cs) := by
  fun_induction scanFrom position done cs with
  | case1 position done => simp [withPositions]
  | case2 position done c cs ih => simp [ih, tokens_cons, withPositions]

/-- **The positions of tokens are counted from their spellings.** -/
theorem scan_eq (cs : List Char) : scan cs = withPositions 0 (tokens cs) := by
  simp [scan, scanFrom_eq]

theorem flatMap_spelling_tokens (cs : List Char) : (tokens cs).flatMap spelling = cs := by
  fun_induction tokens cs with
  | case1 => rfl
  | case2 c cs ih => rw [List.flatMap_cons, ih, spelling_read]

/-! ### Well formed tokens -/

/-- Whether the token is a construct that went wrong. -/
def IsFaulty : Token → Prop
  | faulty _ _ => True
  | _ => False

/-- What the scanner guarantees of a token. That a call is not closed is no fault of its
beginning, so no token has this cause. What a fault is about is the beginning of the source read
for it. -/
def WellFormed : Token → Prop
  | plain c => isStructural c = false
  | quoted text => text = ['"'] ∨ text ≠ [] ∧ '"' ∉ text
  | field name | fieldList name => isReferenceable (String.ofList name)
  | callStart name => isCallable (String.ofList name)
  | faulty cause source =>
    source ≠ [] ∧ cause ≠ .unterminatedCall ∧ excerpt cause source <+: source
  | escaped _ | groupStart | groupEnd => True

theorem isReferenceable_ofList_iff {name : List Char} :
    isReferenceable (String.ofList name) ↔ isFieldName name ∧ ∀ c ∈ name, isFieldChar c := by
  simp [isReferenceable]

theorem wellFormed_quoted_toList {text : String} :
    (quoted text.toList).WellFormed ↔ text = "\"" ∨ text ≠ "" ∧ '"' ∉ text.toList := by
  show text.toList = "\"".toList ∨ text.toList ≠ "".toList ∧ _ ↔ _
  rw [String.toList_inj, Ne, String.toList_inj]

/-- Text without a quote is spelled between quotes. -/
theorem spelling_quoted {text : List Char} (h : '"' ∉ text) :
    (quoted text).spelling = '"' :: text ++ ['"'] := by
  have htext : text ≠ ['"'] := by
    rintro rfl
    exact h List.mem_cons_self
  rw [spelling, if_neg htext]

theorem isCallable_ofList_iff {name : List Char} :
    isCallable (String.ofList name) ↔ name ≠ [] ∧ ∀ c ∈ name, isNameChar c := by
  simp [isCallable]

theorem excerpt_of_ne {cause : Fault.Cause} (h : cause ≠ .unterminatedQuote)
    (source : List Char) : excerpt cause source = source :=
  if_neg h

theorem excerpt_ne_nil (cause : Fault.Cause) {source : List Char} (h : source ≠ []) :
    excerpt cause source ≠ [] := by
  rw [excerpt]
  split
  · exact List.cons_ne_nil _ _
  · exact h

theorem wellFormed_faulty {cause : Fault.Cause} {source : List Char} (h : source ≠ [])
    (hcall : cause ≠ .unterminatedCall) (hquote : cause ≠ .unterminatedQuote) :
    (faulty cause source).WellFormed :=
  ⟨h, hcall, by simp only [excerpt_of_ne hquote, List.prefix_rfl]⟩

theorem wellFormed_ofFieldText {text : List Char} (h : ∀ c ∈ text, isFieldChar c) :
    (ofFieldText text).WellFormed := by
  rw [ofFieldText]
  split
  · exact wellFormed_faulty (by simp) (by decide) (by decide)
  · split
    · next name hname =>
      split
      · next hfield =>
        refine isReferenceable_ofList_iff.2 ⟨hfield, fun c hc => h c ?_⟩
        simp [eq_of_insideAngles? hname, hc]
      · exact wellFormed_faulty (by simp) (by decide) (by decide)
    · split
      · next hfield => exact isReferenceable_ofList_iff.2 ⟨hfield, h⟩
      · exact wellFormed_faulty (by simp) (by decide) (by decide)

theorem wellFormed_readField (cs : List Char) : (readField cs).1.WellFormed := by
  rw [readField]
  split
  · exact wellFormed_ofFieldText fun c hc => List.all_eq_true.1 List.all_takeWhile c hc
  · exact wellFormed_faulty (by simp) (by decide) (by decide)

theorem wellFormed_readCallStart (cs : List Char) : (readCallStart cs).1.WellFormed := by
  rw [readCallStart]
  split
  · exact wellFormed_faulty (by simp) (by decide) (by decide)
  · next hne =>
    split
    · exact isCallable_ofList_iff.2 ⟨hne, List.all_eq_true.1 List.all_takeWhile⟩
    · exact wellFormed_faulty (by simp) (by decide) (by decide)

theorem wellFormed_readQuoted (cs : List Char) : (readQuoted cs).1.WellFormed := by
  have hfree : '"' ∉ cs.takeWhile (· != '"') := fun h => by
    simpa using List.all_eq_true.1 (List.all_takeWhile (p := (· != '"'))) _ h
  unfold readQuoted
  split
  · exact .inl rfl
  · next hcs =>
    split
    · refine .inr ⟨fun hnil => ?_, hfree⟩
      -- without text between the quotes the first branch would have been taken
      cases cs with
      | nil => simp_all
      | cons c cs =>
        have hc : c = '"' := by simpa [List.takeWhile_cons] using hnil
        exact hcs cs (by rw [hc])
    · -- the fault is about the quote that begins the text
      exact ⟨List.cons_ne_nil _ _, by decide, cs, rfl⟩

theorem wellFormed_read (c : Char) (cs : List Char) : (read c cs).1.WellFormed := by
  unfold read
  split
  · exact wellFormed_readField cs
  · exact wellFormed_readCallStart cs
  · exact wellFormed_readQuoted cs
  · cases cs with
    | nil => exact wellFormed_faulty (by simp) (by decide) (by decide)
    | cons c cs => trivial
  · trivial
  · trivial
  · simp_all [WellFormed, isStructural]

/-- **Every token of a source is well formed.** -/
theorem wellFormed_of_mem_tokens {cs : List Char} {t : Token} (h : t ∈ tokens cs) :
    t.WellFormed := by
  fun_induction tokens cs with
  | case1 => simp at h
  | case2 c cs ih =>
    rcases List.mem_cons.1 h with rfl | h
    · exact wellFormed_read c cs
    · exact ih h

/-! ### Reading a spelling -/

theorem insideAngles?_eq_none {text : List Char} (h : '<' ∉ text) : insideAngles? text = none := by
  unfold insideAngles?
  split
  · simp at h
  · rfl

theorem insideAngles?_angles (name : List Char) :
    insideAngles? ('<' :: name ++ ['>']) = some name := by
  simp [insideAngles?]

theorem isFieldChar_angles {name : List Char} (h : ∀ c ∈ name, isFieldChar c) :
    ∀ c ∈ '<' :: name ++ ['>'], isFieldChar c := by
  intro c hc
  rcases (by simpa using hc : c = '<' ∨ c ∈ name ∨ c = '>') with rfl | hc | rfl
  · decide
  · exact h c hc
  · decide

theorem not_mem_of_isFieldName {name : List Char} (h : isFieldName name) :
    '<' ∉ name ∧ '>' ∉ name := by
  simp only [isFieldName, Bool.and_eq_true, Bool.not_eq_true', List.contains_eq_mem,
    decide_eq_false_iff_not] at h
  exact ⟨h.1.2, h.2⟩

theorem ne_nil_of_isFieldName {name : List Char} (h : isFieldName name) : name ≠ [] := by
  rintro rfl
  simp [isFieldName] at h

theorem readField_append {text : List Char} (h : ∀ c ∈ text, isFieldChar c) (rest : List Char) :
    readField (text ++ '%' :: rest) = (ofFieldText text, rest) := by
  have hend : isFieldChar '%' = false := by decide
  simp [readField, List.takeWhile_append_of_pos h, List.dropWhile_append_of_pos h, hend]

theorem ofFieldText_name {name : List Char} (h : isFieldName name) :
    ofFieldText name = field name := by
  simp [ofFieldText, ne_nil_of_isFieldName h, insideAngles?_eq_none (not_mem_of_isFieldName h).1, h]

theorem ofFieldText_angles {name : List Char} (h : isFieldName name) :
    ofFieldText ('<' :: name ++ ['>']) = fieldList name := by
  rw [ofFieldText, insideAngles?_angles]
  simp [h]

theorem readCallStart_append {name : List Char} (hne : name ≠ []) (h : ∀ c ∈ name, isNameChar c)
    (rest : List Char) : readCallStart (name ++ '(' :: rest) = (callStart name, rest) := by
  have hend : isNameChar '(' = false := by decide +kernel
  simp [readCallStart, List.takeWhile_append_of_pos h, List.dropWhile_append_of_pos h, hend, hne]

theorem readQuoted_append {text : List Char} (hne : text ≠ []) (h : '"' ∉ text)
    (rest : List Char) : readQuoted (text ++ '"' :: rest) = (quoted text, rest) := by
  have hall : ∀ c ∈ text, (c != '"') = true := fun c hc => by
    simpa using fun hq : c = '"' => h (hq ▸ hc)
  obtain ⟨c, cs, rfl⟩ := List.exists_cons_of_ne_nil hne
  have hc : c ≠ '"' := by simpa using hall c (by simp)
  unfold readQuoted
  split
  · next heq => exact absurd (List.cons.inj heq).1 hc
  · rw [List.takeWhile_append_of_pos hall, List.dropWhile_append_of_pos hall]
    simp

theorem read_of_not_isStructural {c : Char} (h : isStructural c = false) (cs : List Char) :
    read c cs = (plain c, cs) := by
  simp only [isStructural, Bool.or_eq_false_iff, beq_eq_false_iff_ne] at h
  unfold read
  split <;> simp_all

/-- **A token without a fault is read back from its spelling**, whatever source comes after. -/
theorem tokens_spelling_append {t : Token} (h : t.WellFormed) (hclean : ¬t.IsFaulty)
    (rest : List Char) : tokens (t.spelling ++ rest) = t :: tokens rest := by
  cases t with
  | plain c => simp [spelling, tokens_cons, read_of_not_isStructural h]
  | escaped c => simp [spelling, tokens_cons, read, readEscaped]
  | quoted text =>
    rcases h with rfl | ⟨hne, hfree⟩
    · simp [spelling, tokens_cons, read, readQuoted]
    · simp [spelling_quoted hfree, tokens_cons, read, readQuoted_append hne hfree]
  | field name =>
    obtain ⟨hname, hchars⟩ := isReferenceable_ofList_iff.1 h
    simp [spelling, tokens_cons, read, readField_append hchars, ofFieldText_name hname]
  | fieldList name =>
    obtain ⟨hname, hchars⟩ := isReferenceable_ofList_iff.1 h
    have hread := readField_append (isFieldChar_angles hchars) rest
    rw [ofFieldText_angles hname] at hread
    simp only [List.cons_append, List.append_assoc, List.nil_append] at hread
    simp [spelling, tokens_cons, read, hread]
  | callStart name =>
    obtain ⟨hne, hchars⟩ := isCallable_ofList_iff.1 h
    simp [spelling, tokens_cons, read, readCallStart_append hne hchars]
  | groupStart => simp [spelling, tokens_cons, read]
  | groupEnd => simp [spelling, tokens_cons, read]
  | faulty cause source => exact absurd trivial hclean

/-- Tokens without a fault are read back from their spellings. -/
theorem tokens_flatMap_spelling {ts : List Token} (h : ∀ t ∈ ts, t.WellFormed ∧ ¬t.IsFaulty) :
    tokens (ts.flatMap spelling) = ts := by
  induction ts with
  | nil => simp
  | cons t ts ih =>
    obtain ⟨⟨ht, hclean⟩, hts⟩ := List.forall_mem_cons.1 h
    rw [List.flatMap_cons, tokens_spelling_append ht hclean, ih hts]

/-- Behind a source without faulty tokens, another one has the tokens that it has on its own. -/
theorem tokens_append {cs : List Char} (h : ∀ t ∈ tokens cs, ¬t.IsFaulty) (rest : List Char) :
    tokens (cs ++ rest) = tokens cs ++ tokens rest := by
  fun_induction tokens cs with
  | case1 => rfl
  | case2 c cs ih =>
    obtain ⟨hfirst, hmore⟩ := List.forall_mem_cons.1 h
    rw [← spelling_read c cs, List.append_assoc,
      tokens_spelling_append (wellFormed_read c cs) hfirst, ih hmore, List.cons_append]

/-- The tokens of a source behind one without faulty tokens are further on by its bytes. -/
theorem scan_append {cs : List Char} (h : ∀ t ∈ tokens cs, ¬t.IsFaulty) (rest : List Char) :
    scan (cs ++ rest)
      = scan cs ++ (scan rest).map fun x => (Text.byteLength cs + x.1, x.2) := by
  rw [scan_eq, scan_eq, scan_eq, tokens_append h, withPositions_append, flatMap_spelling_tokens,
    Nat.zero_add, ← withPositions_add, Nat.add_zero]

/-! ### Sources that end inside a token -/

/-- Without a second quote, all that is left of a source belongs to the first. -/
theorem tokens_unterminatedQuote {text : List Char} (h : '"' ∉ text) :
    tokens ('"' :: text) = [faulty .unterminatedQuote ('"' :: text)] := by
  have hall : ∀ c ∈ text, (c != '"') = true := fun c hc => by
    simpa using fun hq : c = '"' => h (hq ▸ hc)
  have hread : readQuoted text = (faulty .unterminatedQuote ('"' :: text), []) := by
    have hdrop : text.dropWhile (· != '"') = [] := List.dropWhile_eq_nil_iff.2 hall
    unfold readQuoted
    split
    · exact absurd List.mem_cons_self h
    · rw [hdrop]
  simp [tokens_cons, read, hread]

/-- If a source ends in the name of a field, all of it belongs to the percent sign. -/
theorem tokens_unterminatedField {text : List Char} (h : ∀ c ∈ text, isFieldChar c) :
    tokens ('%' :: text) = [faulty .unterminatedField ('%' :: text)] := by
  have hread : readField text = (faulty .unterminatedField ('%' :: text), []) := by
    have hdrop : text.dropWhile isFieldChar = [] := List.dropWhile_eq_nil_iff.2 h
    have htake : text.takeWhile isFieldChar = text := by
      simpa [hdrop] using @List.takeWhile_append_dropWhile Char isFieldChar text
    rw [readField, hdrop, htake]
  simp [tokens_cons, read, hread]

end Token

end TitleScript
