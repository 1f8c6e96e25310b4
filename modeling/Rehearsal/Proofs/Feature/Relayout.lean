import Mathlib.Logic.Relation
import Rehearsal.Proofs.Feature.Parts
import Rehearsal.Proofs.Feature.Unnumbered

namespace Rehearsal

namespace Line

def isLanguage : Line → Bool
  | .language _ => true
  | _ => false

theorem ofChars_of_blank {raw : List Char} (h : ∀ c ∈ raw, Text.isBlank c) :
    ofChars raw = .blank := by
  have htrim := Text.trim_append_blank h []
  rw [List.nil_append] at htrim
  rw [ofChars, htrim]
  rfl

theorem ofChars_of_hash {raw : List Char} (h : (Text.trimStart raw).head? = some '#') :
    ofChars raw = .comment ∨ (ofChars raw).isLanguage := by
  have hmem : '#' ∈ Text.trim raw := by
    have hstart := Text.mem_trim (by decide) (List.mem_of_mem_head? h)
    rwa [Text.trim, Text.trimStart_eq_self_iff.mpr (Text.head?_trimStart raw), ← Text.trim] at hstart
  obtain ⟨rest, hrest⟩ : Text.trim raw <+: Text.trimStart raw := List.rdropWhile_prefix _ _
  cases htrim : Text.trim raw with
  | nil => simp [htrim] at hmem
  | cons c more =>
      rw [← hrest, htrim] at h
      cases h
      rw [ofChars, htrim, ofTrimmed]
      cases language? more with
      | none => exact .inl rfl
      | some name => exact .inr rfl

end Line

namespace Document

def hasFeature (document : List (Nat × Line)) : Bool :=
  document.any fun line => line.2.isHeading (· = .feature)

-- One change of the layout of a document. Lines that say nothing come in between, or a line gets
-- other blanks around it. The line that opens a doc string keeps its own, since they say how far
-- the doc string is indented, and the language is only set before the feature.
inductive Relaid : List (List Char) → List (List Char) → Prop where
  | blank {front back : List (List Char)} {raw : List Char} (outside : openFence front = none)
      (blank : ∀ c ∈ raw, Text.isBlank c) : Relaid (front ++ back) (front ++ raw :: back)
  | comment {front back : List (List Char)} {raw : List Char} (outside : openFence front = none)
      (hash : (Text.trimStart raw).head? = some '#')
      (late : (Line.ofChars raw).isLanguage → hasFeature (Document.outside back) →
        hasFeature (Document.outside front)) :
      Relaid (front ++ back) (front ++ raw :: back)
  | line {front back : List (List Char)} {before before' core after after' : List Char}
      (outside : openFence front = none) (content : (Line.ofChars core).mark? = none)
      (blanks : ∀ c ∈ before ++ before' ++ after ++ after', Text.isBlank c) :
      Relaid (front ++ (before ++ core ++ after) :: back)
        (front ++ (before' ++ core ++ after') :: back)
  | closing {front back : List (List Char)} {before before' core after after' : List Char}
      {mark : Char} (inside : openFence front = some mark)
      (closes : Text.trim core = Fence.delimiter mark)
      (blanks : ∀ c ∈ before ++ before' ++ after ++ after', Text.isBlank c) :
      Relaid (front ++ (before ++ core ++ after) :: back)
        (front ++ (before' ++ core ++ after') :: back)

theorem partsAfter_ne_nil {before document : List (Nat × Line)} (h : hasFeature document) :
    partsAfter before document ≠ [] := by
  induction document generalizing before with
  | nil => simp [hasFeature] at h
  | cons line rest ih =>
      obtain ⟨number, line⟩ := line
      rw [hasFeature, List.any_cons, Bool.or_eq_true] at h
      rw [partsAfter]
      obtain hline | hrest := h
      · apply List.append_ne_nil_of_left_ne_nil
        cases line with
        | heading heading name =>
            have hfeature : heading = .feature := by simpa [Line.isHeading] using hline
            subst hfeature
            simp [partsOf]
        | _ => simp [Line.isHeading] at hline
      · exact List.append_ne_nil_of_right_ne_nil _ (ih hrest)

end Document

namespace Reading

open Feature (Fault)

-- Reading without line numbers.
def skim (r : Reading) (lines : List (List Char)) : Except Fault Reading :=
  lines.foldlM (fun r raw => r.next 0 raw) r

@[simp] theorem skim_nil (r : Reading) : r.skim [] = .ok r := rfl

theorem skim_cons (r : Reading) (raw : List Char) (rest : List (List Char)) :
    r.skim (raw :: rest) = (r.next 0 raw).bind (·.skim rest) := rfl

theorem skim_append (r : Reading) (front back : List (List Char)) :
    r.skim (front ++ back) = (r.skim front).bind (·.skim back) := by
  rw [skim, List.foldlM_append]
  rfl

theorem skim_unnumbered (r : Reading) (n : Nat) (lines : List (List Char)) :
    r.unnumbered.skim lines = ((r.readAll n lines).mapError Prod.fst).map unnumbered := by
  induction lines generalizing r n with
  | nil => rfl
  | cons raw rest ih =>
      rw [skim_cons, r.next_unnumbered n, readAll]
      cases r.next n raw with
      | error fault => rfl
      | ok r' => exact ih r' (n + 1)

def settled (r : Reading) : Except Fault Feature := r.finish.mapError Prod.fst

theorem settled_unnumbered (r : Reading) :
    r.unnumbered.settled = r.settled.map Feature.unnumbered := by
  obtain ⟨language, feature, tags, place, describing, fence⟩ := r
  cases fence <;> cases feature <;> rfl

theorem exists_of_skim {lines : List (List Char)} {r : Reading}
    (h : ({} : Reading).skim lines = .ok r) :
    ∃ r₀, ({} : Reading).readAll 1 lines = .ok r₀ ∧ r₀.unnumbered = r := by
  have hread := skim_unnumbered {} 1 lines
  have hstart : ({} : Reading).unnumbered = {} := rfl
  rw [hstart, h] at hread
  obtain ⟨r₀, hmap, rfl⟩ := eq_ok_of_map hread.symm
  cases hlines : ({} : Reading).readAll 1 lines with
  | error fault => simp [hlines, Except.mapError] at hmap
  | ok r₁ =>
      rw [hlines] at hmap
      cases hmap
      exact ⟨r₀, rfl, rfl⟩

theorem fence_skim {lines : List (List Char)} {r : Reading}
    (h : ({} : Reading).skim lines = .ok r) :
    r.fence.map (·.mark) = Document.openFence lines := by
  obtain ⟨r₀, hread, rfl⟩ := exists_of_skim h
  rw [← (view_readAll hread).1, unnumbered, Option.map_map]
  rfl

theorem feature_skim {lines : List (List Char)} {r : Reading}
    (h : ({} : Reading).skim lines = .ok r) (hfeature : Document.hasFeature (Document.outside lines)) :
    r.feature ≠ none := by
  obtain ⟨r₀, hread, rfl⟩ := exists_of_skim h
  intro hnone
  have hstart : r₀.feature = none := by simpa [unnumbered] using hnone
  have hview := (view_readAll hread).2
  rw [view, hstart] at hview
  exact Document.partsAfter_ne_nil hfeature (congrArg Document.View.parts hview).symm

theorem next_outside {r : Reading} (h : r.fence = none) (n : Nat) (raw : List Char) :
    r.next n raw = r.takeLine n raw (Line.ofChars raw) := by
  simp only [next, h]

-- Only the trimmed line counts, but for the line that opens a doc string and those inside of it.
theorem next_of_trim {r : Reading} {n : Nat} {raw raw' : List Char}
    (htrim : Text.trim raw' = Text.trim raw)
    (houtside : r.fence = none → (Line.ofChars raw).mark? = none)
    (hinside : ∀ fence ∈ r.fence, Text.trim raw = Fence.delimiter fence.mark) :
    r.next n raw' = r.next n raw := by
  cases hfence : r.fence with
  | some fence =>
      have hclosed := hinside fence hfence
      simp [next, hfence, Fence.isClosedBy, htrim, hclosed]
  | none =>
      have hline : Line.ofChars raw' = Line.ofChars raw := by rw [Line.ofChars, htrim, Line.ofChars]
      have hmark := houtside hfence
      rw [next_outside hfence, next_outside hfence, hline]
      cases hkind : Line.ofChars raw with
      | fence mark contentType => simp [hkind, Line.mark?] at hmark
      | _ => rfl

-- Before the feature nothing but its heading looks at the language.
theorem next_setLanguage {r : Reading} {raw : List Char} (hfeature : r.feature = none)
    (hfence : r.fence = none) (hraw : ¬ (Line.ofChars raw).isHeading (· = .feature))
    (language : String) :
    (∃ fault, r.next 0 raw = .error fault ∧ { r with language }.next 0 raw = .error fault) ∨
    ∃ r' language', r.next 0 raw = .ok r' ∧
      { r with language }.next 0 raw = .ok { r' with language := language' } ∧
      r'.feature = none ∧ r'.fence = none ∧ (Line.ofChars raw).mark? = none := by
  obtain ⟨_, _, tags, place, describing, _⟩ := r
  cases hfeature
  cases hfence
  simp only [next]
  cases hline : Line.ofChars raw with
  | blank | comment => exact .inr ⟨_, language, rfl, rfl, rfl, rfl, rfl⟩
  | language name => exact .inr ⟨_, name, rfl, rfl, rfl, rfl, rfl⟩
  | tags tokens =>
      simp only [takeLine]
      cases tagsOf 0 tokens with
      | error fault => exact .inl ⟨fault, rfl, rfl⟩
      | ok read => exact .inr ⟨_, language, rfl, rfl, rfl, rfl, rfl⟩
  | heading heading name =>
      cases heading with
      | feature => simp [hline, Line.isHeading] at hraw
      | _ => exact .inl ⟨_, rfl, rfl⟩
  | step word text => exact .inl ⟨_, rfl, rfl⟩
  | row text =>
      simp only [takeLine, takeRow]
      cases Row.cells? text <;> exact .inl ⟨_, rfl, rfl⟩
  | fence mark contentType =>
      simp only [takeLine, openFence, openStep?]
      cases place <;> exact .inl ⟨_, rfl, rfl⟩
  | text text =>
      cases describing with
      | false => exact .inl ⟨_, rfl, rfl⟩
      | true => cases place <;> exact .inr ⟨_, language, rfl, rfl, rfl, rfl, rfl⟩

theorem settled_setLanguage {r : Reading} {n : Nat} {lines : List (List Char)}
    (hfeature : r.feature = none) (hfence : r.fence = none)
    (hlines : ¬ Document.hasFeature (Document.outsideFrom n none lines)) (language : String) :
    ({ r with language }.skim lines).bind settled = (r.skim lines).bind settled := by
  induction lines generalizing r n language with
  | nil =>
      simp only [skim_nil, Except.bind, settled, finish, hfeature, hfence]
  | cons raw rest ih =>
      rw [Document.outsideFrom, if_pos rfl, List.singleton_append, Document.hasFeature,
        List.any_cons, Bool.or_eq_true, not_or] at hlines
      rw [skim_cons, skim_cons]
      obtain ⟨fault, hr, hl⟩ | ⟨r', language', hr, hl, hfeature', hfence', hmark⟩ :=
        next_setLanguage hfeature hfence hlines.1 language
      · simp only [hr, hl, Except.bind]
      · rw [hr, hl]
        have hrest := hlines.2
        rw [Document.fenceAfter, hmark] at hrest
        exact ih hfeature' hfence' hrest language'

end Reading

namespace Document

open Feature (Fault)

-- What a document says, line numbers aside.
def gist (lines : List (List Char)) : Except Fault Feature :=
  (({} : Reading).skim lines).bind Reading.settled

theorem gist_eq (lines : List (List Char)) :
    gist lines = ((Feature.ofLines lines).mapError Prod.fst).map Feature.unnumbered := by
  have hread := Reading.skim_unnumbered {} 1 lines
  have hstart : ({} : Reading).unnumbered = {} := rfl
  rw [hstart] at hread
  rw [gist, hread, Feature.ofLines]
  cases ({} : Reading).readAll 1 lines with
  | error fault => rfl
  | ok r => exact r.settled_unnumbered

-- Documents that start alike say the same if what follows does to every reading.
theorem gist_append_congr {front back back' : List (List Char)}
    (h : ∀ r, ({} : Reading).skim front = .ok r →
      (r.skim back').bind Reading.settled = (r.skim back).bind Reading.settled) :
    gist (front ++ back') = gist (front ++ back) := by
  rw [gist, gist, Reading.skim_append, Reading.skim_append]
  cases hfront : ({} : Reading).skim front with
  | error fault => rfl
  | ok r => exact h r hfront

theorem fence_of_outside {front : List (List Char)} {r : Reading}
    (h : ({} : Reading).skim front = .ok r) (houtside : openFence front = none) :
    r.fence = none := by
  have hfence := Reading.fence_skim h
  rwa [houtside, Option.map_eq_none_iff] at hfence

theorem gist_of_idle {front back : List (List Char)} {raw : List Char}
    (houtside : openFence front = none)
    (hidle : Line.ofChars raw = .blank ∨ Line.ofChars raw = .comment) :
    gist (front ++ raw :: back) = gist (front ++ back) := by
  apply gist_append_congr
  intro r hread
  have hnext : r.next 0 raw = .ok r := by
    rw [Reading.next_outside (fence_of_outside hread houtside)]
    obtain hline | hline := hidle <;> rw [hline] <;> rfl
  rw [Reading.skim_cons, hnext]
  rfl

theorem gist_of_language {front back : List (List Char)} {raw : List Char} {name : String}
    (houtside : openFence front = none) (hline : Line.ofChars raw = .language name)
    (hlate : hasFeature (outside back) → hasFeature (outside front)) :
    gist (front ++ raw :: back) = gist (front ++ back) := by
  apply gist_append_congr
  intro r hread
  have hfence := fence_of_outside hread houtside
  have hnext : r.next 0 raw =
      .ok (if r.feature.isNone then { r with language := name } else r) := by
    rw [Reading.next_outside hfence, hline]
    rfl
  rw [Reading.skim_cons, hnext]
  by_cases hfeature : r.feature = none
  · have hnone : ¬ hasFeature (outside back) :=
      fun hback => Reading.feature_skim hread (hlate hback) hfeature
    rw [if_pos (by rw [hfeature]; rfl)]
    exact Reading.settled_setLanguage hfeature hfence hnone name
  · rw [if_neg (by simpa using hfeature)]
    rfl

theorem gist_of_trim {front back : List (List Char)} {raw raw' : List Char}
    (htrim : Text.trim raw' = Text.trim raw)
    (houtside : openFence front = none → (Line.ofChars raw).mark? = none)
    (hinside : ∀ mark ∈ openFence front, Text.trim raw = Fence.delimiter mark) :
    gist (front ++ raw' :: back) = gist (front ++ raw :: back) := by
  apply gist_append_congr
  intro r hread
  have hfence := Reading.fence_skim hread
  have hnext : r.next 0 raw' = r.next 0 raw := by
    apply Reading.next_of_trim htrim
    · intro hnone
      exact houtside (by rw [← hfence, hnone, Option.map_none])
    · intro fence hsome
      exact hinside fence.mark (by rw [← hfence, hsome]; rfl)
  rw [Reading.skim_cons, Reading.skim_cons, hnext]

theorem trim_respaced {before before' after after' : List Char}
    (h : ∀ c ∈ before ++ before' ++ after ++ after', Text.isBlank c) (core : List Char) :
    Text.trim (before ++ core ++ after) = Text.trim core ∧
      Text.trim (before' ++ core ++ after') = Text.trim core := by
  simp only [List.forall_mem_append] at h
  obtain ⟨⟨⟨hbefore, hbefore'⟩, hafter⟩, hafter'⟩ := h
  constructor
  · rw [Text.trim_append_blank hafter, Text.trim_blank_append hbefore]
  · rw [Text.trim_append_blank hafter', Text.trim_blank_append hbefore']

theorem Relaid.gist_eq {lines edited : List (List Char)} (h : Relaid lines edited) :
    gist edited = gist lines := by
  cases h with
  | blank outside blank => exact gist_of_idle outside (.inl (Line.ofChars_of_blank blank))
  | @comment front back raw outside hash late =>
      obtain hcomment | hlanguage := Line.ofChars_of_hash hash
      · exact gist_of_idle outside (.inr hcomment)
      · have hlate := late hlanguage
        cases hline : Line.ofChars raw with
        | language name => exact gist_of_language outside hline hlate
        | _ => simp [hline, Line.isLanguage] at hlanguage
  | @line front back before before' core after after' outside content blanks =>
      obtain ⟨htrim, htrim'⟩ := trim_respaced blanks core
      apply gist_of_trim (htrim'.trans htrim.symm)
      · intro _
        rwa [Line.ofChars, htrim, ← Line.ofChars]
      · simp [outside]
  | @closing front back before before' core after after' mark inside closes blanks =>
      obtain ⟨htrim, htrim'⟩ := trim_respaced blanks core
      apply gist_of_trim (htrim'.trans htrim.symm)
      · simp [inside]
      · intro other hother
        rw [htrim, closes, Option.some.inj (inside.symm.trans hother)]

theorem gist_of_relaid {lines edited : List (List Char)}
    (h : Relation.ReflTransGen Relaid lines edited) : gist edited = gist lines := by
  induction h with
  | refl => rfl
  | tail _ hstep ih => rw [hstep.gist_eq, ih]

end Document

namespace Feature

-- Layout does not matter outside of doc strings. The two features differ in line numbers only, and
-- a document that is none stays so for the same reason.
theorem parse_relaid {path text edited : String}
    (h : Relation.ReflTransGen Document.Relaid (Text.lines text.toList)
      (Text.lines edited.toList)) :
    (∃ feature feature', parse path text = .ok feature ∧ parse path edited = .ok feature' ∧
      feature'.unnumbered = feature.unnumbered) ∨
    ∃ error error' message, parse path text = .error error ∧ parse path edited = .error error' ∧
      error.message = located path error.line message ∧
      error'.message = located path error'.line message := by
  have hgist := Document.gist_of_relaid h
  rw [Document.gist_eq, Document.gist_eq] at hgist
  unfold parse
  cases htext : ofLines (Text.lines text.toList) with
  | ok feature =>
      cases hedited : ofLines (Text.lines edited.toList) with
      | ok feature' =>
          rw [htext, hedited] at hgist
          have hsame : feature'.unnumbered = feature.unnumbered := Except.ok.inj hgist
          refine .inl ⟨_, _, rfl, rfl, ?_⟩
          exact congrArg (fun f : Feature => { f with path }) hsame
      | error fault' =>
          rw [htext, hedited] at hgist
          cases hgist
  | error fault =>
      cases hedited : ofLines (Text.lines edited.toList) with
      | ok feature' =>
          rw [htext, hedited] at hgist
          cases hgist
      | error fault' =>
          rw [htext, hedited] at hgist
          have hsame : fault'.1 = fault.1 := Except.error.inj hgist
          refine .inr ⟨_, _, fault.1.message, rfl, rfl, rfl, ?_⟩
          rw [ParseError.message, hsame]

def teaText : String :=
  "Feature: Tea\nScenario: Pot\nGiven water\n\"\"\"\nhot\n\"\"\"\nThen tea\n"

def airyTeaText : String :=
  "Feature: Tea\n  # language: fr\nScenario: Pot\n\tGiven water \n \n\"\"\"\nhot\n \"\"\"\nThen tea"

-- A comment after the title, blanks around a step, a gap between the step and its doc string, and
-- blanks before the line that closes it.
theorem relaid_tea :
    Relation.ReflTransGen Document.Relaid (Text.lines teaText.toList)
      (Text.lines airyTeaText.toList) := by
  let front : List String := ["Feature: Tea", "  # language: fr", "Scenario: Pot"]
  have htext : Text.lines teaText.toList = ["Feature: Tea", "Scenario: Pot", "Given water",
      "\"\"\"", "hot", "\"\"\"", "Then tea"].map String.toList := by decide +kernel
  have hairy : Text.lines airyTeaText.toList = (front ++ ["\tGiven water ", " ", "\"\"\"", "hot",
      " \"\"\"", "Then tea"]).map String.toList := by decide +kernel
  rw [htext, hairy]
  refine .head (@Document.Relaid.comment (["Feature: Tea"].map String.toList) _
    "  # language: fr".toList (by decide +kernel) (by decide +kernel) (by decide +kernel)) ?_
  refine .head (@Document.Relaid.line (front.map String.toList) _ [] ['\t'] "Given water".toList
    [] [' '] (by decide +kernel) (by decide +kernel) (List.all_eq_true.mp rfl)) ?_
  refine .head (@Document.Relaid.blank ((front ++ ["\tGiven water "]).map String.toList) _ [' ']
    (by decide +kernel) (List.all_eq_true.mp rfl)) ?_
  exact .single (@Document.Relaid.closing
    ((front ++ ["\tGiven water ", " ", "\"\"\"", "hot"]).map String.toList) _ [] [' ']
    (Fence.delimiter '"') [] [] '"' (by decide +kernel) (by decide +kernel)
    (List.all_eq_true.mp rfl))

theorem parse_relaid_tea :
    Relation.ReflTransGen Document.Relaid (Text.lines teaText.toList)
      (Text.lines airyTeaText.toList) ∧
    ∃ feature feature', parse "" teaText = .ok feature ∧ parse "" airyTeaText = .ok feature' ∧
      feature'.unnumbered = feature.unnumbered := by
  obtain hread | ⟨_, _, _, herror, -⟩ := @parse_relaid "" _ _ relaid_tea
  · exact ⟨relaid_tea, hread⟩
  · have hread : (parse "" teaText).isOk := by decide +kernel
    rw [herror] at hread
    cases hread

end Feature

end Rehearsal
