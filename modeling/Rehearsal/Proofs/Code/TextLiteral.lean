import Mathlib.Algebra.Group.Nat.Defs
import Rehearsal.Proofs.Code.DocLiteral
import Rehearsal.Text.Lines

namespace Rehearsal.Code

namespace Source

def isMark (c : Char) : Bool := c == '\x27' || c == '"'

-- What may stand between two marks: a backslash takes the character after it along, and no other
-- character is the mark.
inductive IsInside (mark : Char) : List Char → Prop where
  | nil : IsInside mark []
  | escape (c : Char) {rest : List Char} (more : IsInside mark rest) :
      IsInside mark ('\\' :: c :: rest)
  | plain {c : Char} {rest : List Char} (other : c ≠ mark) (bare : c ≠ '\\')
      (more : IsInside mark rest) : IsInside mark (c :: rest)

-- A literal on one line, and the text that it stands for.
structure Denotes (source value : List Char) : Prop where
  enclosed : ∃ mark inside, isMark mark ∧ source = mark :: inside ++ [mark] ∧
    IsInside mark inside ∧ valueFrom 0 inside = some value
  oneLine : ∀ c ∈ source, Text.isLineBreak c = false

-- The inside of a literal on one line, up to the first mark that stands alone, and what comes
-- after that. A line that ends before the mark leaves the literal open.
def closedBy? (mark : Char) : List Char → Option (List Char × List Char)
  | [] => none
  | '\\' :: c :: rest =>
      (closedBy? mark rest).map fun (inside, after) => ('\\' :: c :: inside, after)
  | c :: rest =>
      if c == mark then some ([], rest)
      else if c == '\n' || c == '\r' then none
      else (closedBy? mark rest).map fun (inside, after) => (c :: inside, after)

def opensLong : List Char → Bool
  | a :: b :: c :: _ => a == b && b == c
  | _ => false

-- The value of the literal on one line that a source starts with, and the source after it. Three
-- marks in a row open a literal of another kind.
def short? (source : List Char) : Option (List Char × List Char) :=
  match source with
  | [] => none
  | mark :: rest =>
      if isMark mark && !opensLong source then
        (closedBy? mark rest).bind fun (inside, after) => (valueFrom 0 inside).map (·, after)
      else none

theorem ne_slash_of_isMark {mark : Char} (h : isMark mark) : mark ≠ '\\' := by
  rintro rfl
  cases h

theorem closedBy?_of_isInside {mark : Char} {inside : List Char} (hmark : isMark mark)
    (h : IsInside mark inside) (hline : ∀ c ∈ inside, Text.isLineBreak c = false)
    (rest : List Char) : closedBy? mark (inside ++ mark :: rest) = some (inside, rest) := by
  induction h with
  | nil =>
      rw [List.nil_append, closedBy?, if_pos (beq_self_eq_true mark)]
      rintro c more rfl
      exact absurd rfl (ne_slash_of_isMark hmark)
  | escape c more ih =>
      simp only [List.forall_mem_cons] at hline
      rw [List.cons_append, List.cons_append, closedBy?, ih hline.2.2]
      rfl
  | @plain c inside other bare more ih =>
      simp only [List.forall_mem_cons] at hline
      have hfeed : (c == '\n' || c == '\r') = false := by
        refine Bool.or_eq_false_iff.mpr ⟨beq_eq_false_iff_ne.mpr ?_, beq_eq_false_iff_ne.mpr ?_⟩
        · rintro rfl
          exact absurd hline.1 (by decide)
        · rintro rfl
          exact absurd hline.1 (by decide)
      rw [List.cons_append, closedBy?, if_neg (by simpa using other), hfeed, ih hline.2]
      · rfl
      · rintro d tail rfl
        exact absurd rfl bare

theorem not_opensLong {mark : Char} {inside rest : List Char} (hmark : isMark mark)
    (h : IsInside mark inside) (hrest : rest.head? ≠ some mark) :
    opensLong (mark :: (inside ++ mark :: rest)) = false := by
  cases h with
  | nil =>
      cases rest with
      | nil => rfl
      | cons c more =>
          have hc : mark ≠ c := fun heq => hrest (congrArg some heq.symm)
          simp [opensLong, hc]
  | escape c more =>
      simp [opensLong, ne_slash_of_isMark hmark]
  | @plain c inside other bare more =>
      obtain _ | ⟨d, tail⟩ := inside <;> simp [opensLong, other.symm]

-- A literal is read up to its end and no further.
theorem Denotes.short? {source value rest : List Char} (h : Denotes source value)
    (hrest : ∀ c ∈ rest.head?, isMark c = false) :
    short? (source ++ rest) = some (value, rest) := by
  obtain ⟨mark, inside, hmark, rfl, hinside, hvalue⟩ := h.enclosed
  have hline : ∀ c ∈ inside, Text.isLineBreak c = false := fun c hc => h.oneLine c (by simp [hc])
  have hother : rest.head? ≠ some mark := by
    intro hhead
    rw [hrest mark hhead] at hmark
    cases hmark
  have hsource : mark :: inside ++ [mark] ++ rest = mark :: (inside ++ mark :: rest) := by simp
  rw [hsource, Source.short?, hmark, not_opensLong hmark hinside hother,
    closedBy?_of_isInside hmark hinside hline]
  simp [hvalue]

theorem valueFrom_slash (rest : List Char) :
    valueFrom 0 ('\\' :: rest) = (escape? rest).bind fun (chars, used) =>
      (valueFrom used rest).map (chars ++ ·) := rfl

theorem valueFrom_passed (passed rest : List Char) :
    valueFrom passed.length (passed ++ rest) = valueFrom 0 rest := by
  induction passed with
  | nil => rfl
  | cons c more ih => exact ih

theorem hexValue?_digitChar : ∀ d < 16, Text.hexValue? (Nat.digitChar d) = some d := by decide

theorem digitChar_bare : ∀ d < 16, isMark (Nat.digitChar d) = false ∧
    Nat.digitChar d ≠ '\\' ∧ Text.isLineBreak (Nat.digitChar d) = false := by decide

def ofHex (values : List Nat) : Nat := values.foldl (fun n d => n * 16 + d) 0

theorem exists_hexValues (n : Nat) : ∃ values : List Nat, (∀ d ∈ values, d < 16) ∧
    Nat.toDigits 16 n = values.map Nat.digitChar ∧ ofHex values = n := by
  induction n using Nat.strong_induction_on with
  | _ n ih =>
      rw [Nat.toDigits_eq_if (by decide)]
      by_cases hlow : n < 16
      · rw [if_pos hlow]
        exact ⟨[n], by simpa using hlow, rfl, by simp [ofHex]⟩
      · obtain ⟨values, hvalues, hdigits, hnumber⟩ := ih (n / 16) (by omega)
        rw [if_neg hlow, hdigits]
        refine ⟨values ++ [n % 16], ?_, by simp, ?_⟩
        · simp only [List.forall_mem_append, List.forall_mem_singleton]
          exact ⟨hvalues, Nat.mod_lt n (by decide)⟩
        · rw [ofHex, List.foldl_append, ← ofHex, hnumber]
          simp only [List.foldl_cons, List.foldl_nil]
          omega

-- Zeros in front do not change the number.
theorem exists_paddedValues (width n : Nat) : ∃ values : List Nat, (∀ d ∈ values, d < 16) ∧
    Text.hexDigits width n = values.map Nat.digitChar ∧ ofHex values = n := by
  obtain ⟨values, hvalues, hdigits, hnumber⟩ := exists_hexValues n
  have hpadded : ∀ count, ∃ padded : List Nat, (∀ d ∈ padded, d < 16) ∧
      List.replicate count '0' ++ Nat.toDigits 16 n = padded.map Nat.digitChar ∧
      ofHex padded = n := by
    intro count
    induction count with
    | zero => exact ⟨values, hvalues, hdigits, hnumber⟩
    | succ count ih =>
        obtain ⟨padded, hlow, heq, hofHex⟩ := ih
        refine ⟨0 :: padded, List.forall_mem_cons.mpr ⟨by decide, hlow⟩, ?_, hofHex⟩
        rw [List.replicate_succ, List.cons_append, heq]
        rfl
  exact hpadded _

theorem mapM_hexValue? {values : List Nat} (h : ∀ d ∈ values, d < 16) :
    (values.map Nat.digitChar).mapM Text.hexValue? = some values := by
  induction values with
  | nil => rfl
  | cons d rest ih =>
      obtain ⟨hd, hrest⟩ := List.forall_mem_cons.mp h
      rw [List.map_cons, List.mapM_cons, hexValue?_digitChar d hd, ih hrest]
      rfl

theorem codePoint?_hexDigits (width : Nat) (c : Char) :
    Text.codePoint? (Text.hexDigits width c.toNat) = some c := by
  obtain ⟨values, hvalues, hdigits, hnumber⟩ := exists_paddedValues width c.toNat
  have hcode : values.foldl (fun n d => n * 16 + d) 0 = c.toNat := hnumber
  have hvalid : c.toNat.isValidChar := c.valid
  rw [hdigits, Text.codePoint?, mapM_hexValue? hvalues]
  simp only [Option.bind_eq_bind, Option.bind_some, hcode, if_pos hvalid, Char.ofNat_toNat]

theorem length_hexDigits {width n : Nat} (hwidth : 0 < width) (h : n < 16 ^ width) :
    (Text.hexDigits width n).length = width := by
  have hlength : (Nat.toDigits 16 n).length ≤ width :=
    (Nat.length_toDigits_le_iff (by decide) hwidth).mpr h
  rw [Text.hexDigits, List.length_append, List.length_replicate]
  omega

-- A unit of a literal that stands for one character.
structure Writes (mark : Char) (written : List Char) (c : Char) : Prop where
  inside : ∀ {rest : List Char}, IsInside mark rest → IsInside mark (written ++ rest)
  oneLine : ∀ d ∈ written, Text.isLineBreak d = false
  value : ∀ rest, valueFrom 0 (written ++ rest) = (valueFrom 0 rest).map (c :: ·)

theorem writes_plain {mark c : Char} (hmark : c ≠ mark) (hslash : c ≠ '\\')
    (hline : Text.isLineBreak c = false) : Writes mark [c] c where
  inside := .plain hmark hslash
  oneLine := List.forall_mem_singleton.mpr hline
  value := valueFrom_cons hslash

theorem writes_escape {mark symbol c : Char} (hline : Text.isLineBreak symbol = false)
    (hescape : ∀ rest, escape? (symbol :: rest) = some ([c], 1)) :
    Writes mark ['\\', symbol] c where
  inside := .escape symbol
  oneLine := by simpa using ⟨by decide, hline⟩
  value rest := by
    rw [List.cons_append, List.singleton_append, valueFrom_slash, hescape]
    rfl

theorem writes_hex {mark symbol c : Char} {width : Nat} (hmark : isMark mark)
    (hline : Text.isLineBreak symbol = false) (hwidth : 0 < width) (hc : c.toNat < 16 ^ width)
    (hescape : ∀ rest : List Char, escape? (symbol :: rest) = if rest.length < width then none
      else (Text.codePoint? (rest.take width)).map fun char => ([char], width + 1)) :
    Writes mark ('\\' :: symbol :: Text.hexDigits width c.toNat) c := by
  obtain ⟨values, hvalues, hdigits, -⟩ := exists_paddedValues width c.toNat
  have hlength := length_hexDigits hwidth hc
  refine ⟨fun {rest} hrest => .escape symbol ?_, ?_, fun rest => ?_⟩
  · rw [hdigits]
    clear hdigits
    induction values with
    | nil => exact hrest
    | cons d more ih =>
        obtain ⟨hd, hmore⟩ := List.forall_mem_cons.mp hvalues
        obtain ⟨hdigit, hslash, -⟩ := digitChar_bare d hd
        refine .plain ?_ hslash (ih hmore)
        intro heq
        rw [heq, hmark] at hdigit
        cases hdigit
  · rw [List.forall_mem_cons, List.forall_mem_cons, hdigits, List.forall_mem_map]
    exact ⟨by decide, hline, fun d hd => (digitChar_bare d (hvalues d hd)).2.2⟩
  · have hpassed : valueFrom (width + 1) (symbol :: (Text.hexDigits width c.toNat ++ rest)) =
        valueFrom 0 rest := by
      have hpass := valueFrom_passed (symbol :: Text.hexDigits width c.toNat) rest
      rwa [List.length_cons, hlength] at hpass
    rw [List.cons_append, List.cons_append, valueFrom_slash, hescape, if_neg (by simp [hlength]),
      List.take_left' hlength, codePoint?_hexDigits, Option.map_some, Option.bind_some]
    dsimp only
    rw [hpassed]
    rfl

-- Characters that end a line have no glyph.
theorem isLineBreak_of_isPrintable {c : Char} (h : Text.isPrintable c) :
    Text.isLineBreak c = false := by
  have hbreaks : ['\n', '\r', '\x0b', '\x0c', '\x1c', '\x1d', '\x1e', '\x85', '\u2028',
      '\u2029'].all fun c => !Text.isPrintable c := by decide +kernel
  rw [Text.isLineBreak, decide_eq_false_iff_not]
  intro hbreak
  have hnone := List.all_eq_true.mp hbreaks c hbreak
  rw [h] at hnone
  cases hnone

theorem writes_quotedChar {mark : Char} (hmark : isMark mark) (c : Char) :
    Writes mark (Text.quotedChar mark c) c := by
  unfold Text.quotedChar
  split_ifs with hspecial htab hfeed hreturn hprintable hbyte hplane
  · have hcases : c = '\x27' ∨ c = '"' ∨ c = '\\' := by
      simp only [isMark, Bool.or_eq_true, beq_iff_eq] at hmark hspecial
      obtain rfl | rfl := hspecial
      · exact hmark.imp_right .inl
      · exact .inr (.inr rfl)
    obtain rfl | rfl | rfl := hcases <;> exact writes_escape rfl fun _ => rfl
  · rw [eq_of_beq htab]
    exact writes_escape rfl fun _ => rfl
  · rw [eq_of_beq hfeed]
    exact writes_escape rfl fun _ => rfl
  · rw [eq_of_beq hreturn]
    exact writes_escape rfl fun _ => rfl
  · rw [Bool.or_eq_true_iff, beq_iff_eq, beq_iff_eq, not_or] at hspecial
    exact writes_plain hspecial.1 hspecial.2 (isLineBreak_of_isPrintable hprintable)
  · exact writes_hex hmark rfl (by decide) hbyte fun _ => rfl
  · exact writes_hex hmark rfl (by decide) hplane fun _ => rfl
  · have hlow : c.toNat < 16 ^ 8 := Nat.lt_of_lt_of_eq c.val.toNat_lt (by decide)
    exact writes_hex hmark rfl (by decide) hlow fun _ => rfl

theorem isMark_quoteMark (text : List Char) : isMark (Text.quoteMark text) := by
  unfold Text.quoteMark
  split <;> rfl

-- Unit by unit, from the last character to the first.
theorem writes_flatMap {mark : Char} (hmark : isMark mark) (text : List Char) :
    IsInside mark (text.flatMap (Text.quotedChar mark)) ∧
      (∀ d ∈ text.flatMap (Text.quotedChar mark), Text.isLineBreak d = false) ∧
      valueFrom 0 (text.flatMap (Text.quotedChar mark)) = some text := by
  induction text with
  | nil => exact ⟨.nil, List.forall_mem_nil _, rfl⟩
  | cons c rest ih =>
      obtain ⟨hinside, hline, hvalue⟩ := ih
      have hc := writes_quotedChar hmark c
      rw [List.flatMap_cons, List.forall_mem_append, hc.value, hvalue]
      exact ⟨hc.inside hinside, ⟨hc.oneLine, hline⟩, rfl⟩

theorem denotes_quoted (text : List Char) : Denotes (Text.quoted text) text := by
  have hmark := isMark_quoteMark text
  obtain ⟨hinside, hline, hvalue⟩ := writes_flatMap hmark text
  refine ⟨⟨Text.quoteMark text, _, hmark, rfl, hinside, hvalue⟩, ?_⟩
  have hbare : Text.isLineBreak (Text.quoteMark text) = false := by
    unfold Text.quoteMark
    split <;> rfl
  rw [Text.quoted, List.forall_mem_cons, List.forall_mem_append, List.forall_mem_singleton]
  exact ⟨hbare, hline, hbare⟩

end Source

-- A text is written as a literal on one line that stands for it, also where it is the template of a
-- format. Whatever follows, unless it is a quote, the literal is read as the text and ends there.
theorem Expr.render_denotes (text : String) (arguments : List Expr) :
    ∃ source, Source.Denotes source text.toList ∧
      (Expr.literal (.text text)).render = .ok (String.ofList source) ∧
      (Expr.format text arguments).render = (Expr.renderAll arguments).map (fun given =>
        String.ofList source ++ ".format(" ++ listed given ++ ")") ∧
      ∀ rest : List Char, (∀ c ∈ rest.head?, Source.isMark c = false) →
        Source.short? (source ++ rest) = some (text.toList, rest) := by
  have hdenotes := Source.denotes_quoted text.toList
  refine ⟨Text.quoted text.toList, hdenotes, rfl, ?_, fun rest hrest => hdenotes.short? hrest⟩
  rw [Expr.render]
  cases Expr.renderAll arguments <;> rfl

end Rehearsal.Code
