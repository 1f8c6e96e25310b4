import Rehearsal.Proofs.Code.Blocks
import Rehearsal.Proofs.Numeral

namespace Rehearsal.Code

structure IsPlainName (name : String) : Prop where
  identifier : IsIdentifier name
  ending : name.toList.getLast? ≠ some '_'

namespace Expr

inductive IsLeaf : Expr → Prop where
  | var {name : String} (h : IsPlainName name) : IsLeaf (.var name)
  | field {name : String} (h : IsPlainName name) : IsLeaf (.field .this name)
  | null : IsLeaf (.literal .null)
  | bool (value : Bool) : IsLeaf (.literal (.bool value))
  | int {n : Int} (h : (Nat.repr n.natAbs).length ≤ Numeral.maxDigits) : IsLeaf (.literal (.int n))

-- Operators over leaves, nested in any way.
inductive IsOperation : Expr → Prop where
  | leaf {e : Expr} (h : e.IsLeaf) : IsOperation e
  | binary {left right : Expr} (operator : Operator) (hleft : IsOperation left)
      (hright : IsOperation right) : IsOperation (.binary left operator right)

end Expr

namespace Operation

inductive Token where
  | opening
  | closing
  | word (text : String)
  deriving DecidableEq, Repr

-- The characters that end a word.
def mark? (c : Char) : Option (List Token) :=
  if c = ' ' then some []
  else if c = '(' then some [.opening]
  else if c = ')' then some [.closing]
  else none

def flush (word : List Char) : List Token :=
  if word.isEmpty then [] else [.word (String.ofList word)]

-- The tokens of a text, where a word has begun in front of it.
def scan (word : List Char) : List Char → List Token
  | [] => flush word
  | c :: rest =>
      match mark? c with
      | some marks => flush word ++ marks ++ scan [] rest
      | none => scan (word ++ [c]) rest

-- The name that a word stands for, without the underscore that keeps it from being reserved.
def name? (word : String) : Option String :=
  if IsIdentifier word ∧ word ∉ reservedWords then
    some ((reservedWords.find? (· ++ "_" == word)).getD word)
  else none

def constants : List (String × Literal) :=
  [("None", .null), ("True", .bool true), ("False", .bool false)]

def opensNumber (word : String) : Bool :=
  word.toList.head?.any fun c => c.isDigit || c == '-'

def leaf? (word : String) : Option Expr :=
  match constants.find? (·.1 == word) with
  | some constant => some (.literal constant.2)
  | none =>
      if opensNumber word then
        (Numeral.read? word.toList).map fun n => .literal (.int n)
      else if "self.".toList.isPrefixOf word.toList then
        (name? (String.ofList (word.toList.drop "self.".length))).map (.field .this)
      else (name? word).map .var

-- What has been read inside the same parentheses: the operands that an operator follows, the last
-- one first, and the operand that none follows yet.
structure Level where
  before : List (Expr × Operator) := []
  operand : Option Expr := none

namespace Level

def put (level : Level) (e : Expr) : Option Level :=
  if level.operand.isNone then some { level with operand := some e } else none

-- A negation behind the test for identity belongs to the operator.
def negated? : Level → Option Level
  | ⟨(e, .identical) :: rest, none⟩ => some ⟨(e, .distinct) :: rest, none⟩
  | _ => none

def word (level : Level) (text : String) : Option Level :=
  match level.operand with
  | some e => (Operator.ofSymbol? text).map fun operator => ⟨(e, operator) :: level.before, none⟩
  | none => if text = "not" then level.negated? else (leaf? text).bind level.put

end Level

section Reading

-- How a language groups several operators that no parentheses part, if it allows them.
variable (chain : List (Expr × Operator) → Expr → Option Expr)

def Level.value? (level : Level) : Option Expr :=
  level.operand.bind fun last =>
    match level.before.reverse with
    | [] => some last
    | [first] => some (.binary first.1 first.2 last)
    | many => chain many last

-- Parentheses open and close a level. What a closed one is worth is an operand of the next.
def step (levels : List Level) (token : Token) : Option (List Level) :=
  match token, levels with
  | .opening, level :: outer => if level.operand.isNone then some ({} :: level :: outer) else none
  | .closing, level :: next :: outer =>
      ((level.value? chain).bind next.put).map (· :: outer)
  | .word text, level :: outer => (level.word text).map (· :: outer)
  | _, _ => none

def read? (text : String) : Option Expr :=
  ((scan [] text.toList).foldlM (step chain) [{}]).bind fun levels =>
    match levels with
    | [level] => level.value? chain
    | _ => none

end Reading

-- The words of an operator.
def words : Operator → List String
  | .distinct => ["is", "not"]
  | operator => [operator.symbol]

def enclosed (e : Expr) (inner : List Token) : List Token :=
  if e.isBinary then .opening :: inner ++ [.closing] else inner

def tokens : Expr → List Token
  | .binary left operator right =>
      enclosed left (tokens left) ++ (words operator).map .word ++ enclosed right (tokens right)
  | e => [.word e.text]

theorem scan_mark {c : Char} {marks : List Token} (word rest : List Char)
    (h : mark? c = some marks) : scan word (c :: rest) = flush word ++ marks ++ scan [] rest := by
  rw [scan, h]

theorem scan_append {front : List Char} (word rest : List Char)
    (h : ∀ c ∈ front, mark? c = none) : scan word (front ++ rest) = scan (word ++ front) rest := by
  induction front generalizing word with
  | nil => rw [List.nil_append, List.append_nil]
  | cons c front ih =>
      rw [List.forall_mem_cons] at h
      rw [List.cons_append, scan, h.1]
      dsimp only
      rw [ih (word ++ [c]) h.2, List.append_assoc, List.singleton_append]

-- A text that goes on with a new token.
def Breaks (rest : List Char) : Prop := ∀ c ∈ rest.head?, (mark? c).isSome

theorem scan_of_breaks {rest : List Char} (word : List Char) (h : Breaks rest) :
    scan word rest = flush word ++ scan [] rest := by
  cases rest with
  | nil => simp [scan, flush]
  | cons c rest =>
      obtain ⟨marks, hmarks⟩ := Option.isSome_iff_exists.mp (h c rfl)
      rw [scan_mark word rest hmarks, scan_mark [] rest hmarks, List.append_assoc]
      rfl

structure IsWord (word : String) : Prop where
  ne_empty : word ≠ ""
  chars : ∀ c ∈ word.toList, mark? c = none

theorem IsWord.scan {word : String} (h : IsWord word) {rest : List Char} (hrest : Breaks rest) :
    scan [] (word.toList ++ rest) = .word word :: scan [] rest := by
  have hflush : flush word.toList = [.word word] := by
    simp [flush, h.ne_empty]
  rw [scan_append [] rest h.chars, List.nil_append, scan_of_breaks _ hrest, hflush]
  rfl

theorem mark?_of_isNameChar {c : Char} (h : isNameChar c) : mark? c = none := by
  have hblank : c ≠ ' ' := ne_of_isNameChar h (by decide)
  have hopening : c ≠ '(' := ne_of_isNameChar h (by decide)
  have hclosing : c ≠ ')' := ne_of_isNameChar h (by decide)
  rw [mark?, if_neg hblank, if_neg hopening, if_neg hclosing]

theorem IsWord.of_isIdentifier {word : String} (h : IsIdentifier word) : IsWord word :=
  ⟨h.opens.ne_empty, fun c hc => mark?_of_isNameChar (h.chars c hc)⟩

theorem IsWord.append {front word : String} (hfront : front.toList.all fun c => (mark? c).isNone)
    (h : IsWord word) : IsWord (front ++ word) := by
  refine ⟨?_, ?_⟩
  · intro hempty
    exact h.ne_empty (String.append_eq_empty_iff.mp hempty).2
  · rw [String.toList_append, List.forall_mem_append]
    refine ⟨fun c hc => ?_, h.chars⟩
    exact Option.isNone_iff_eq_none.mp (List.all_eq_true.mp hfront c hc)

theorem isWord_repr (n : Nat) : IsWord (Nat.repr n) := by
  refine ⟨(opens_repr n).ne_empty, fun c hc => ?_⟩
  exact mark?_of_isNameChar (isNameChar_of_isDigit (isDigit_of_mem_repr hc))

end Operation

theorem safeName_not_mem (name : String) : safeName name ∉ reservedWords := by
  unfold safeName
  split_ifs with h
  · have hall : ∀ word ∈ reservedWords, word.toList.getLast? ≠ some '_' := by decide
    intro hmem
    apply hall _ hmem
    rw [String.toList_append]
    exact List.getLast?_concat
  · exact h

theorem IsIdentifier.safeName {name : String} (h : IsIdentifier name) :
    IsIdentifier (safeName name) := by
  unfold Code.safeName
  split_ifs
  · obtain ⟨c, hc, hdigit⟩ := h.head
    refine ⟨⟨c, ?_, hdigit⟩, ?_⟩
    · rw [String.toList_append, List.head?_append, Option.mem_def.mp hc]
      rfl
    · rw [String.toList_append, List.forall_mem_append]
      exact ⟨h.chars, List.all_eq_true.mp rfl⟩
  · exact h

namespace Operation

theorem name?_safeName {name : String} (h : IsPlainName name) :
    name? (safeName name) = some name := by
  have hfound : (reservedWords.find? (· ++ "_" == safeName name)).getD (safeName name) = name := by
    unfold safeName
    split_ifs with hreserved
    · cases hfind : reservedWords.find? (· ++ "_" == name ++ "_") with
      | none => exact absurd (BEq.refl _) (List.find?_eq_none.mp hfind name hreserved)
      | some other =>
          have hsame := List.find?_some hfind
          exact (String.append_left_inj "_").mp (eq_of_beq hsame)
    · have hnone : reservedWords.find? (· ++ "_" == name) = none := by
        rw [List.find?_eq_none]
        intro other _ hsame
        apply h.ending
        rw [← eq_of_beq hsame, String.toList_append]
        exact List.getLast?_concat
      rw [hnone]
      rfl
  rw [name?, if_pos ⟨h.identifier.safeName, safeName_not_mem name⟩, hfound]

theorem constants_find?_eq_none {word : String} (h : ∀ constant ∈ constants, constant.1 ≠ word) :
    constants.find? (·.1 == word) = none := by
  rw [List.find?_eq_none]
  intro constant hmem
  simpa using h constant hmem

theorem leaf?_of_isIdentifier {word : String} (h : IsIdentifier word)
    (hreserved : word ∉ reservedWords) : leaf? word = (name? word).map .var := by
  have hconstant : ∀ constant ∈ constants, constant.1 ≠ word := by
    have hall : ∀ constant ∈ constants, constant.1 ∈ reservedWords := by decide
    rintro constant hmem rfl
    exact hreserved (hall constant hmem)
  have hnumber : ¬opensNumber word := by
    obtain ⟨c, hc, hdigit⟩ := h.head
    have hsign : c ≠ '-' :=
      ne_of_isNameChar (h.chars c (List.mem_of_mem_head? hc)) (by decide)
    rw [opensNumber, Option.mem_def.mp hc]
    simp [hdigit, hsign]
  have hfield : ¬"self.".toList.isPrefixOf word.toList := by
    intro hfront
    have hmem : '.' ∈ word.toList := (List.isPrefixOf_iff_prefix.mp hfront).subset (by decide)
    exact absurd (h.chars '.' hmem) (by decide)
  rw [leaf?, constants_find?_eq_none hconstant]
  dsimp only
  rw [if_neg hnumber, if_neg hfield]

theorem leaf?_field (word : String) :
    leaf? ("self." ++ word) = (name? word).map (.field .this) := by
  have hchars : ("self." ++ word).toList = "self.".toList ++ word.toList := String.toList_append
  have hconstant : ∀ constant ∈ constants, constant.1 ≠ "self." ++ word := by
    have hall : ∀ constant ∈ constants, constant.1.toList.head? ≠ some 's' := by decide
    intro constant hmem heq
    apply hall constant hmem
    rw [heq, hchars]
    rfl
  have hnumber : ¬opensNumber ("self." ++ word) := by
    rw [opensNumber, hchars]
    exact Bool.false_ne_true
  have hfield : "self.".toList.isPrefixOf ("self.".toList ++ word.toList) :=
    List.isPrefixOf_iff_prefix.mpr (List.prefix_append _ _)
  rw [leaf?, constants_find?_eq_none hconstant]
  dsimp only
  rw [if_neg hnumber, hchars, if_pos hfield, ← String.length_toList, List.drop_left,
    String.ofList_toList]

theorem leaf?_of_number {word : String} (h : opensNumber word) :
    leaf? word = (Numeral.read? word.toList).map fun n => .literal (.int n) := by
  have hconstant : ∀ constant ∈ constants, constant.1 ≠ word := by
    have hall : ∀ constant ∈ constants, ¬opensNumber constant.1 := by decide
    rintro constant hmem rfl
    exact hall constant hmem h
  rw [leaf?, constants_find?_eq_none hconstant]
  dsimp only
  rw [if_pos h]

theorem leaf?_written {n : Int} {word : String} (h : Numeral.write? n = some word) :
    IsWord word ∧ leaf? word = some (.literal (.int n)) := by
  have hread := Numeral.read?_of_write? h
  unfold Numeral.write? at h
  dsimp only at h
  split_ifs at h
  · obtain rfl := Option.some.inj h
    have hhead : opensNumber ("-" ++ Nat.repr n.natAbs) := by
      rw [opensNumber, String.toList_append]
      rfl
    refine ⟨.append (by decide) (isWord_repr _), ?_⟩
    rw [leaf?_of_number hhead, hread]
    rfl
  · obtain rfl := Option.some.inj h
    have hhead : opensNumber (Nat.repr n.natAbs) := by
      rw [opensNumber, List.head?_eq_some_head (repr_ne_nil _), Option.any_some,
        isDigit_of_mem_repr (List.head_mem _), Bool.true_or]
    refine ⟨isWord_repr _, ?_⟩
    rw [leaf?_of_number hhead, hread]
    rfl

-- A leaf is one word, and its word is read as that leaf.
theorem leaf?_text {e : Expr} (h : e.IsLeaf) :
    e.render = .ok e.text ∧ IsWord e.text ∧ leaf? e.text = some e := by
  cases h with
  | @var name h =>
      have hname := h.identifier.safeName
      refine ⟨rfl, .of_isIdentifier hname, ?_⟩
      have hread := leaf?_of_isIdentifier hname (safeName_not_mem name)
      rwa [name?_safeName h] at hread
  | @field name h =>
      refine ⟨rfl, .append (by decide) (.of_isIdentifier h.identifier.safeName), ?_⟩
      have hread := leaf?_field (safeName name)
      rwa [name?_safeName h] at hread
  | null => exact ⟨rfl, .of_isIdentifier (by decide), rfl⟩
  | bool value => cases value <;> exact ⟨rfl, .of_isIdentifier (by decide), rfl⟩
  | @int n h =>
      obtain ⟨word, hword⟩ : ∃ word, Numeral.write? n = some word := ⟨_, if_pos h⟩
      have hrender : (Expr.literal (.int n)).render = .ok word := by
        rw [Expr.render, Literal.render, hword]
      rw [Expr.text_of_render hrender]
      exact ⟨hrender, leaf?_written hword⟩

theorem tokens_of_isLeaf {e : Expr} (h : e.IsLeaf) : tokens e = [.word e.text] := by
  cases h <;> rfl

theorem isBinary_of_isLeaf {e : Expr} (h : e.IsLeaf) : e.isBinary = false := by
  cases h <;> rfl

theorem render_binary {left right : Expr} {first second : String} (operator : Operator)
    (hleft : left.render = .ok first) (hright : right.render = .ok second) :
    (Expr.binary left operator right).render =
      .ok (operand left first ++ (" " ++ operator.symbol ++ " ") ++ operand right second) := by
  rw [Expr.render, hleft, hright]
  simp only [String.append_assoc]
  rfl

theorem scan_operator (operator : Operator) (rest : List Char) :
    scan [] ((" " ++ operator.symbol ++ " ").toList ++ rest) =
      (words operator).map .word ++ scan [] rest := by
  cases operator <;> rfl

-- The tokens of an expression are found wherever its text stands.
def IsScanned (e : Expr) : Prop :=
  ∀ rest, Breaks rest → scan [] (e.text.toList ++ rest) = tokens e ++ scan [] rest

theorem IsScanned.operand {e : Expr} (h : IsScanned e) {rest : List Char} (hrest : Breaks rest) :
    scan [] ((operand e e.text).toList ++ rest) = enclosed e (tokens e) ++ scan [] rest := by
  unfold Code.operand enclosed
  split_ifs
  · have hclosing : Breaks (')' :: rest) := by simp [Breaks, mark?]
    have hchars : ("(" ++ e.text ++ ")").toList ++ rest = '(' :: (e.text.toList ++ ')' :: rest) := by
      simp
    rw [hchars, scan_mark [] _ rfl, h _ hclosing, scan_mark [] _ rfl]
    simp [flush]
  · exact h rest hrest

-- Every text is made of whole tokens, since an operator stands between blanks and an operand ends
-- where a blank or a parenthesis follows.
theorem isScanned {e : Expr} (h : e.IsOperation) : e.render = .ok e.text ∧ IsScanned e := by
  induction h with
  | leaf h =>
      obtain ⟨hrender, hword, -⟩ := leaf?_text h
      refine ⟨hrender, fun rest hrest => ?_⟩
      rw [hword.scan hrest, tokens_of_isLeaf h, List.singleton_append]
  | @binary left right operator _ _ ihleft ihright =>
      have hrender := render_binary operator ihleft.1 ihright.1
      have htext := Expr.text_of_render hrender
      refine ⟨by rw [hrender, htext], fun rest hrest => ?_⟩
      have hbreaks : Breaks ((" " ++ operator.symbol ++ " ").toList ++
          ((operand right right.text).toList ++ rest)) := by
        simp [Breaks, mark?]
      rw [htext, String.toList_append, String.toList_append, List.append_assoc, List.append_assoc,
        ihleft.2.operand hbreaks, scan_operator, ihright.2.operand hrest, tokens]
      simp only [List.append_assoc]

section Reading

variable {chain : List (Expr × Operator) → Expr → Option Expr}

-- The tokens of an expression are read as that expression, whatever stands around them.
def IsRead (chain : List (Expr × Operator) → Expr → Option Expr) (e : Expr) : Prop :=
  ∀ outer, ∃ level, (tokens e).foldlM (step chain) ({} :: outer) = some (level :: outer) ∧
    level.value? chain = some e

theorem step_leaf {e : Expr} (h : e.IsLeaf) {before : List (Expr × Operator)}
    (outer : List Level) : step chain (⟨before, none⟩ :: outer) (.word e.text) =
      some (⟨before, some e⟩ :: outer) := by
  obtain ⟨-, -, hread⟩ := leaf?_text h
  have hnot : e.text ≠ "not" := by
    intro heq
    have hnone : leaf? "not" = none := rfl
    rw [heq, hnone] at hread
    cases hread
  rw [step, Level.word]
  dsimp only
  rw [if_neg hnot, hread]
  rfl

theorem foldlM_operator (operator : Operator) (e : Expr) (outer : List Level) :
    ((words operator).map .word).foldlM (step chain) (⟨[], some e⟩ :: outer) =
      some (⟨[(e, operator)], none⟩ :: outer) := by
  cases operator <;> rfl

theorem foldlM_operand {e : Expr} (h : e.IsOperation) (hread : IsRead chain e)
    (before : List (Expr × Operator)) (outer : List Level) :
    (enclosed e (tokens e)).foldlM (step chain) (⟨before, none⟩ :: outer) =
      some (⟨before, some e⟩ :: outer) := by
  cases h with
  | leaf h =>
      rw [enclosed, isBinary_of_isLeaf h, if_neg Bool.false_ne_true, tokens_of_isLeaf h,
        List.foldlM_cons, step_leaf h]
      rfl
  | @binary left right operator hleft hright =>
      obtain ⟨level, hrun, hvalue⟩ := hread (⟨before, none⟩ :: outer)
      have hopening : step chain (⟨before, none⟩ :: outer) .opening =
          some ({} :: ⟨before, none⟩ :: outer) := rfl
      have hclosing : step chain (level :: ⟨before, none⟩ :: outer) .closing =
          some (⟨before, some (.binary left operator right)⟩ :: outer) := by
        rw [step, hvalue]
        rfl
      have hbinary : (Expr.binary left operator right).isBinary := rfl
      rw [enclosed, if_pos hbinary, List.cons_append, List.foldlM_cons, hopening,
        Option.bind_eq_bind, Option.bind_some, List.foldlM_append, hrun, Option.bind_eq_bind,
        Option.bind_some, List.foldlM_cons, hclosing]
      rfl

-- No level ever holds two operators, so that the grouping is not asked for.
theorem isRead {e : Expr} (h : e.IsOperation) : IsRead chain e := by
  induction h with
  | @leaf e h =>
      intro outer
      refine ⟨⟨[], some e⟩, ?_, rfl⟩
      rw [tokens_of_isLeaf h, List.foldlM_cons, step_leaf h]
      rfl
  | @binary left right operator hleft hright ihleft ihright =>
      intro outer
      refine ⟨⟨[(left, operator)], some right⟩, ?_, rfl⟩
      rw [tokens, List.foldlM_append, List.foldlM_append, foldlM_operand hleft ihleft,
        Option.bind_eq_bind, Option.bind_some, foldlM_operator, Option.bind_some,
        foldlM_operand hright ihright]

theorem read?_text {e : Expr} (h : e.IsOperation) : read? chain e.text = some e := by
  obtain ⟨level, hrun, hvalue⟩ := (isRead h : IsRead chain e) []
  have hscan := (isScanned h).2 [] (by simp [Breaks])
  rw [List.append_nil] at hscan
  rw [read?, hscan]
  simp [scan, flush, hrun, hvalue]

end Reading

-- Whatever groups operators that stand side by side, the text of an operation is read as that
-- operation, and no other operation has the same text.
theorem read?_render {e : Expr} (h : e.IsOperation) :
    ∃ text, e.render = .ok text ∧ (∀ chain, read? chain text = some e) ∧
      ∀ other : Expr, other.IsOperation → other.render = .ok text → other = e := by
  refine ⟨e.text, (isScanned h).1, fun chain => read?_text h, ?_⟩
  intro other hother hrender
  have hread : read? (fun _ _ => none) other.text = some other := read?_text hother
  rw [Expr.text_of_render hrender, read?_text h] at hread
  exact (Option.some.inj hread).symm

-- An operation on both sides, a reserved name, an operator of two words and a negative number.
def comparison : Expr :=
  .binary (.binary (.var "if") .distinct (.literal .null)) .equals
    (.binary (.binary (.field .this "count") .plus (.literal (.int (-1)))) .atMost
      (.literal (.bool true)))

theorem read?_render_comparison :
    comparison.render = .ok "(if_ is not None) == ((self.count + -1) <= True)" ∧
      ∀ chain, read? chain "(if_ is not None) == ((self.count + -1) <= True)" =
        some comparison := by
  have hoperation : comparison.IsOperation :=
    .binary _ (.binary _ (.leaf (.var ⟨by decide, by decide⟩)) (.leaf .null))
      (.binary _ (.binary _ (.leaf (.field ⟨by decide, by decide⟩)) (.leaf (.int (by decide))))
        (.leaf (.bool true)))
  have hrender : comparison.render = .ok "(if_ is not None) == ((self.count + -1) <= True)" := by
    rfl
  obtain ⟨text, htext, hread, -⟩ := read?_render hoperation
  rw [hrender] at htext
  obtain rfl := Except.ok.inj htext
  exact ⟨hrender, hread⟩

end Operation

end Rehearsal.Code
