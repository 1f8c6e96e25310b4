import Mathlib.Data.List.Flatten
import Rehearsal.Proofs.Feature.Fenced
import Rehearsal.Proofs.Feature.WellFormed

namespace Rehearsal

namespace Feature

def steps (feature : Feature) : List Step := feature.elements.flatMap (·.steps)

-- The steps that stand at a line of the document. There is at most one.
def stepsAt (line : Nat) (feature : Feature) : List Step := feature.steps.filter (·.line = line)

variable {front : Feature} {e : Element} {earlier : List Step} {last step after : Step}
  {line : Nat}

theorem stepsAt_opened (h : front.CanOpen e) (line : Nat) :
    (front.opened e).stepsAt line = front.stepsAt line ++ e.steps.filter (·.line = line) := by
  simp [stepsAt, steps, elements_opened h]

-- Every other step can change as long as it keeps its line.
theorem stepsAt_changed (hfits : front.CanOpen e)
    (h : (front.opened (e.withSteps (earlier ++ [last]))).stepsAt line = [step])
    (hne : last ≠ step) (hline : after.line = last.line) :
    (front.opened (e.withSteps (earlier ++ [after]))).stepsAt line = [step] := by
  have hother : last.line ≠ line := by
    intro heq
    have hmem : last ∈ (front.opened (e.withSteps (earlier ++ [last]))).stepsAt line := by
      rw [stepsAt_opened (by simpa)]
      simp [heq]
    rw [h] at hmem
    exact hne (List.mem_singleton.mp hmem)
  rw [stepsAt_opened (by simpa)] at h ⊢
  simpa [hother, hline] using h

-- The last step is the only one at its line.
theorem stepsAt_last (hfits : front.CanOpen e)
    (hordered : (front.opened (e.withSteps (earlier ++ [last]))).lineNumbers.Pairwise (· < ·))
    (hline : after.line = last.line) :
    (front.opened (e.withSteps (earlier ++ [after]))).stepsAt last.line = [after] := by
  have hsteps : ((front.opened (e.withSteps (earlier ++ [last]))).steps.map (·.line)).Sublist
      (front.opened (e.withSteps (earlier ++ [last]))).lineNumbers := by
    rw [steps, List.map_flatMap]
    refine List.Sublist.flatMap_right _ fun element _ => ?_
    exact (List.sublist_append_left _ _).trans (List.sublist_cons_self _ _)
  have hsorted := hordered.sublist hsteps
  have hcut : (front.opened (e.withSteps (earlier ++ [last]))).steps =
      (front.steps ++ earlier) ++ [last] := by
    simp [steps, elements_opened (canOpen_withSteps.mpr hfits)]
  rw [hcut, List.map_append, List.pairwise_append] at hsorted
  have hbefore : ∀ other ∈ front.steps ++ earlier, other.line ≠ last.line := by
    intro other hother
    exact Nat.ne_of_lt (hsorted.2.2 _ (List.mem_map_of_mem hother) _ (by simp))
  rw [List.forall_mem_append] at hbefore
  have hfront : front.stepsAt last.line = [] := by simpa [stepsAt] using hbefore.1
  have hearlier : earlier.filter (·.line = last.line) = [] := by simpa using hbefore.2
  rw [stepsAt_opened (canOpen_withSteps.mpr hfits), hfront]
  simp [hearlier, hline]

end Feature

namespace Reading

open Feature (Element)

variable {n limit line : Nat} {raw : List Char} {r r' : Reading} {step : Step} {kind : Line}

-- The step at a line is known, and no doc string from before the limit is open.
structure HasStep (line limit : Nat) (step : Step) (r : Reading) : Prop where
  feature : ∃ feature, r.feature = some feature ∧ feature.stepsAt line = [step]
  fence : ∀ fence ∈ r.fence, limit < fence.start

theorem HasStep.stepsAt (h : r.HasStep line limit step) {feature : Feature}
    (hfeature : r.feature = some feature) : feature.stepsAt line = [step] := by
  obtain ⟨_, hsame, hstep⟩ := h.feature
  cases hsame.symm.trans hfeature
  exact hstep

theorem line_addToStep {cells : List String} {step after : Step}
    (h : addToStep cells step = .ok after) : after.line = step.line :=
  (parts_addToStep h 0).1

theorem LineEffect.hasStep (h : LineEffect n raw r kind r') (hr : r.HasStep line limit step)
    (hline : line ≤ limit) (hlimit : limit < n) {docString : DocString}
    (hargument : step.argument = some (.docString docString)) : r'.HasStep line limit step := by
  cases h with
  | blank | comment | tags | examplesText => exact ⟨hr.feature, hr.fence⟩
  | language => split <;> exact ⟨hr.feature, hr.fence⟩
  | feature first =>
      obtain ⟨feature, hfeature, -⟩ := hr.feature
      cases first.symm.trans hfeature
  | element present opens fits =>
      refine ⟨⟨_, rfl, ?_⟩, hr.fence⟩
      rw [Feature.stepsAt_opened fits, hr.stepsAt present]
      cases opens <;> rfl
  | @examples heading name front s present opens =>
      refine ⟨⟨_, rfl, ?_⟩, hr.fence⟩
      have hsame := hr.stepsAt present
      rw [Feature.stepsAt_opened (front.canOpen_scenario _)] at hsame ⊢
      exact hsame
  | step present fits =>
      refine ⟨⟨_, rfl, ?_⟩, hr.fence⟩
      have hsame := hr.stepsAt present
      rw [Feature.stepsAt_opened fits] at hsame
      rw [Feature.stepsAt_opened (by simpa)]
      simpa [Nat.ne_of_gt (Nat.lt_of_le_of_lt hline hlimit)] using hsame
  | @stepRow text cells front e earlier last after read present fits place examples added =>
      -- A doc string leaves no room for a table.
      have hne : last ≠ step := by
        rintro rfl
        simp [addToStep, hargument] at added
      exact ⟨⟨_, rfl, Feature.stepsAt_changed fits (hr.stepsAt present) hne (line_addToStep added)⟩,
        hr.fence⟩
  | @examplesRow text cells front s earlier last after read present =>
      refine ⟨⟨_, rfl, ?_⟩, hr.fence⟩
      have hsame := hr.stepsAt present
      rw [Feature.stepsAt_opened (front.canOpen_scenario _)] at hsame ⊢
      exact hsame
  | fence =>
      refine ⟨hr.feature, ?_⟩
      rintro _ ⟨⟩
      exact hlimit
  | featureText =>
      obtain ⟨feature, hfeature, hstep⟩ := hr.feature
      exact ⟨⟨feature.describe _, by rw [hfeature]; rfl, hstep⟩, hr.fence⟩
  | elementText present fits =>
      refine ⟨⟨_, rfl, ?_⟩, hr.fence⟩
      have hsame := hr.stepsAt present
      rw [Feature.stepsAt_opened fits] at hsame
      rw [Feature.stepsAt_opened (by simpa)]
      simpa using hsame

-- A step with a doc string stays as it is.
theorem Effect.hasStep (h : Effect n raw r r') (hr : r.HasStep line limit step)
    (hline : line ≤ limit) (hlimit : limit < n) {docString : DocString}
    (hargument : step.argument = some (.docString docString)) : r'.HasStep line limit step := by
  cases h with
  | @content fence inside =>
      refine ⟨hr.feature, ?_⟩
      rintro _ ⟨⟩
      exact hr.fence fence inside
  | @close fence front e earlier last inside closing present fits free =>
      have hne : last ≠ step := by
        rintro rfl
        cases free.symm.trans hargument
      exact ⟨⟨_, rfl, Feature.stepsAt_changed fits (hr.stepsAt present) hne rfl⟩, by simp⟩
  | line outside effect => exact effect.hasStep hr hline hlimit hargument

theorem hasStep_readAll {front lines : List (List Char)} (hr : r.HasStep line front.length step)
    (hsound : r.IsSound) (hline : line ≤ front.length) {docString : DocString}
    (hargument : step.argument = some (.docString docString))
    (h : r.readAll (front.length + 1) lines = .ok r') : r'.HasStep line front.length step := by
  let Inv (seen : List (List Char)) (r : Reading) : Prop :=
    front.length ≤ seen.length ∧ r.HasStep line front.length step
  have hstep : ∀ seen raw r r', raw ∈ lines → Inv seen r →
      Effect (seen.length + 1) raw r r' → Inv (seen ++ [raw]) r' := by
    rintro seen raw r r' - ⟨hlength, hr⟩ heffect
    exact ⟨by simp; omega, heffect.hasStep hr hline (by omega) hargument⟩
  exact (invariant_of_readAll_from hstep ⟨Nat.le_refl _, hr⟩ hsound h).1.2

-- A fault comes with one of the lines that are read.
theorem le_of_readAll_error {lines : List (List Char)} {fault : Feature.Fault} {m : Nat}
    (h : r.readAll n lines = .error (fault, m)) : n ≤ m := by
  induction lines generalizing r n with
  | nil => cases h
  | cons raw rest ih =>
      rw [readAll] at h
      split at h
      · cases h
        exact Nat.le_refl _
      · exact Nat.le_of_succ_le (ih h)

end Reading

-- A step has a blank after its word, so it does not end a doc string.
theorem Line.trim_ne_delimiter {raw : List Char} {word : StepWord} {text : String}
    (h : ofChars raw = .step word text) (mark : Char) : Text.trim raw ≠ Fence.delimiter mark := by
  intro htrim
  obtain ⟨rest, hrest, htext⟩ := Option.bind_eq_some_iff.mp (text?_of_ofTrimmed h)
  rw [List.isPrefixOf?_eq_some_iff_append_eq] at hrest
  split at htext
  · rename_i hblank
    cases rest with
    | nil => simp at hblank
    | cons c more =>
        have hmem : c ∈ Fence.delimiter mark := by simp [← htrim, ← hrest]
        have hfirst := (Text.trim_eq_self_iff.mp (Text.trim_trim raw)).1 mark (by rw [htrim]; rfl)
        have hc : c = mark := by simpa [Fence.delimiter] using hmem
        simp [hc, hfirst] at hblank
  · cases htext

namespace Reading

-- A step line is read as one unless a doc string is open.
theorem exists_step_of_next {n : Nat} {raw : List Char} {r r' : Reading} {word : StepWord}
    {text : String} (hline : Line.ofChars raw = .step word text) (hsound : r.IsSound)
    (h : r.next n raw = .ok r') (hfence : r'.fence = none) :
    ∃ (front : Feature) (e : Feature.Element), front.CanOpen e ∧ r'.place = .step ∧
      r'.feature = some (front.opened (e.withSteps (e.steps ++
        [{ keyword := some (word.word ++ " "), role := roleOf e.steps word, text := some text,
           line := n }]))) := by
  obtain ⟨heffect, -⟩ := effect_next hsound h
  cases heffect with
  | content => cases hfence
  | @close fence _ _ _ _ inside closing =>
      have hend : Text.trim raw = Fence.delimiter fence.mark := by
        simpa [Fence.isClosedBy] using closing
      exact absurd hend (Line.trim_ne_delimiter hline fence.mark)
  | line outside effect =>
      rw [hline] at effect
      cases effect with
      | step present fits => exact ⟨_, _, fits, rfl, rfl⟩

theorem isSound_of_readAll {lines : List (List Char)} {r : Reading}
    (h : ({} : Reading).readAll 1 lines = .ok r) : r.IsSound :=
  (@invariant_of_readAll r (fun _ _ => True) lines (fun _ _ _ _ _ _ _ => trivial) trivial h).2

-- A document that ends with a step has it as the last step of its last element.
theorem exists_step_of_readAll {before : List (List Char)} {raw : List Char} {r : Reading}
    {word : StepWord} {text : String} (hline : Line.ofChars raw = .step word text)
    (h : ({} : Reading).readAll 1 (before ++ [raw]) = .ok r) (hfence : r.fence = none) :
    ∃ (front : Feature) (e : Feature.Element) (step : Step),
      front.CanOpen e ∧ r.place = .step ∧
        r.feature = some (front.opened (e.withSteps (e.steps ++ [step]))) ∧
        step.line = before.length + 1 ∧ step.keyword = some (word.word ++ " ") ∧
        step.text = some text ∧ step.argument = none := by
  rw [readAll_append] at h
  cases hbefore : ({} : Reading).readAll 1 before with
  | error fault => simp [hbefore, Except.bind] at h
  | ok r₀ =>
      have hnext : r₀.next (before.length + 1) raw = .ok r := by
        simp only [hbefore, Except.bind, readAll] at h
        split at h
        · cases h
        · rename_i _ hnext
          cases h
          rwa [Nat.add_comm]
      obtain ⟨front, e, hfits, hplace, hfeature⟩ :=
        exists_step_of_next hline (isSound_of_readAll hbefore) hnext hfence
      exact ⟨front, e, _, hfits, hplace, hfeature, rfl, rfl, rfl, rfl⟩

-- The doc string stays with its step, whatever follows.
theorem hasStep_withArgument {before : List (List Char)} {raw : List Char} {r : Reading}
    {front : Feature} {e : Feature.Element} {step : Step}
    (h : ({} : Reading).readAll 1 (before ++ [raw]) = .ok r) (hfence : r.fence = none)
    (hfits : front.CanOpen e)
    (hfeature : r.feature = some (front.opened (e.withSteps (e.steps ++ [step]))))
    (argument : Argument) (limit : Nat) :
    (r.withArgument argument).HasStep step.line limit { step with argument := some argument } := by
  refine ⟨⟨_, by rw [withArgument, hfeature]; rfl, ?_⟩, by simp [withArgument, hfence]⟩
  simp only [Feature.withArgument, Feature.updateSteps_opened, Feature.Element.steps_withSteps,
    updateLast_append_singleton, Feature.Element.withSteps_withSteps]
  exact Feature.stepsAt_last hfits (Feature.pairwise_lineNumbers h hfeature) rfl

theorem readAll_attached {before : List (List Char)} {raw : List Char} {r : Reading} {d : Fenced}
    (hd : d.IsWritable) (h : ({} : Reading).readAll 1 (before ++ [raw]) = .ok r)
    (hfence : r.fence = none) (hfree : r.openStep?.any (·.argument.isNone))
    (after : List (List Char)) :
    ({} : Reading).readAll 1 (before ++ raw :: (d.lines ++ after)) =
      (r.withArgument (.docString d.docString)).readAll
        ((before ++ raw :: d.lines).length + 1) after := by
  have hcut : before ++ raw :: (d.lines ++ after) = (before ++ [raw]) ++ (d.lines ++ after) := by simp
  have hlength : 1 + (before ++ [raw]).length + d.lines.length =
      (before ++ raw :: d.lines).length + 1 := by
    simp
    omega
  rw [hcut, readAll_append, h, Except.bind, readAll_append, readAll_fenced hd hfence hfree,
    Except.bind, hlength]

end Reading

namespace Feature

theorem withArgument_path (argument : Argument) (feature : Feature) (path : String) :
    withArgument argument { feature with path } = { withArgument argument feature with path } := by
  unfold withArgument updateSteps
  split <;> rfl

-- A text that is not read has a fault on some line, or a doc string that is left open.
theorem parse_eq_error {path text : String} {error : ParseError}
    (h : parse path text = .error error) :
    ({} : Reading).readAll 1 (Text.lines text.toList) = .error (error.fault, error.line) ∨
      ∃ r, ({} : Reading).readAll 1 (Text.lines text.toList) = .ok r ∧
        ((∃ fence ∈ r.fence, error.line = fence.start) ∨ r.feature = none) := by
  unfold parse ofLines at h
  cases hread : ({} : Reading).readAll 1 (Text.lines text.toList) with
  | error fault =>
      simp only [hread, Except.bind, Except.error.injEq] at h
      subst h
      exact .inl rfl
  | ok r =>
      refine .inr ⟨r, rfl, ?_⟩
      simp only [hread, Except.bind, Reading.finish] at h
      cases hfence : r.fence with
      | some fence =>
          simp only [hfence, Except.error.injEq] at h
          subst h
          exact .inl ⟨fence, rfl, rfl⟩
      | none =>
          cases hfeature : r.feature with
          | none => exact .inr rfl
          | some feature => simp [hfence, hfeature] at h

-- A doc string that is written below a step becomes the argument of that step, with the lines and
-- the content type that were written, whatever follows. A line inside of a doc string, however it
-- is written, loses only blanks and escapes.
theorem parse_fenced {d : Fenced} (hd : d.IsWritable) {path front : String}
    {before : List (List Char)} {raw : List Char} {word : StepWord} {words : String}
    {feature : Feature} (hfront : Text.lines front.toList = before ++ [raw])
    (hraw : Line.ofChars raw = .step word words) (hparse : parse path front = .ok feature) :
    (∃ step, feature.stepsAt (before.length + 1) = [step] ∧
      step.keyword = some (word.word ++ " ") ∧ step.text = some words ∧ step.argument = none ∧
      ∀ text after, Text.lines text.toList = before ++ raw :: (d.lines ++ after) →
        (after = [] → parse path text = .ok (feature.withArgument (.docString d.docString))) ∧
        (∀ whole, parse path text = .ok whole →
          whole.stepsAt (before.length + 1) =
            [{ step with argument := some (.docString d.docString) }]) ∧
        ∀ error, parse path text = .error error →
          before.length + 1 + d.lines.length < error.line) ∧
    ∀ (r : Reading) (fence : Fence) (n : Nat) (inner : List Char), r.fence = some fence →
      Text.trim inner ≠ Fence.delimiter fence.mark →
      ∃ kept, Fence.Keeps fence.indent inner kept ∧
        r.next n inner = .ok { r with
          fence := some { fence with
            lines := fence.lines ++ [String.ofList (Text.replace
              (Fence.escapedDelimiter fence.mark) (Fence.delimiter fence.mark) kept)] } } := by
  obtain ⟨r, read, hread, hfence, hfeature, rfl⟩ := parse_eq_ok_iff.mp hparse
  rw [hfront] at hread
  obtain ⟨others, e, step, hfits, hplace, hstep, hline, hkeyword, hwords, hbare⟩ :=
    Reading.exists_step_of_readAll hraw hread hfence
  cases hfeature.symm.trans hstep
  have hfree : r.openStep?.any (·.argument.isNone) := by
    rw [Reading.openStep?_opened hplace hstep, Option.any_some, hbare]
    rfl
  have hattached := Reading.readAll_attached hd hread hfence hfree
  have hkept : ∀ after r', ({} : Reading).readAll 1 (before ++ raw :: (d.lines ++ after)) = .ok r' →
      r'.HasStep step.line (before ++ raw :: d.lines).length
        { step with argument := some (.docString d.docString) } := by
    intro after r' hread'
    rw [hattached] at hread'
    exact Reading.hasStep_readAll (Reading.hasStep_withArgument hread hfence hfits hstep _ _)
      (Reading.isSound_of_readAll (hattached [])) (by simp [hline]) rfl hread'
  rw [← hline]
  refine ⟨⟨step, stepsAt_last hfits (pairwise_lineNumbers hread hstep) rfl, hkeyword, hwords, hbare,
    ?_⟩, ?_⟩
  · intro text after htext
    refine ⟨?_, ?_, ?_⟩
    · rintro rfl
      rw [parse_eq_ok_iff, htext, hattached]
      refine ⟨_, _, rfl, hfence, by rw [Reading.withArgument, hstep]; rfl, ?_⟩
      exact withArgument_path _ _ path
    · intro whole hwhole
      obtain ⟨r', read', hread', -, hfeature', rfl⟩ := parse_eq_ok_iff.mp hwhole
      rw [htext] at hread'
      have hsteps := (hkept after r' hread').stepsAt hfeature'
      exact hsteps
    · intro error herror
      have hlimit : step.line + d.lines.length = (before ++ raw :: d.lines).length := by
        simp [hline]
        omega
      rw [hlimit]
      obtain hfault | ⟨r', hread', hopen⟩ := parse_eq_error herror
      · rw [htext, hattached] at hfault
        exact Reading.le_of_readAll_error hfault
      · rw [htext] at hread'
        obtain ⟨fence, hinside, hstart⟩ | hnone := hopen
        · rw [hstart]
          exact (hkept after r' hread').fence fence hinside
        · obtain ⟨_, hsome, -⟩ := (hkept after r' hread').feature
          cases hnone.symm.trans hsome
  · intro r fence n inner hinside hclosing
    refine ⟨_, Fence.keeps_unindented fence.indent inner, ?_⟩
    have hopen : fence.isClosedBy inner = false := by simpa [Fence.isClosedBy] using hclosing
    simp [Reading.next, hinside, hopen, Fence.push, Fence.contentLine]

def note : Feature :=
  { name := "Notes"
    scenarios := [
      { name := "Keep"
        steps := [
          { keyword := some "Given ", role := .given, text := some "a note", line := 3 }]
        line := 2 }] }

-- Its lines look like a fence, like a longer run of marks and like other parts of a document.
def noteFence : Fenced :=
  { mark := .quote
    margin := ['\t', ' ']
    contentType := some "x=\"y\""
    content := ["\"\"\"", "\"\"\"\" \\\"", "", " |@a# "].map String.toList
    closing := [' '] }

def noteText : String :=
  "Feature: Notes\nScenario: Keep\nGiven a note\n\t \"\"\"x=\"y\"\n\t \\\"\\\"\\\"\n" ++
  "\t \\\"\\\"\\\"\" \\\"\n\t \n\t  |@a# \n \"\"\"\n"

theorem parse_fenced_note :
    noteFence.IsWritable ∧
    parse "" "Feature: Notes\nScenario: Keep\nGiven a note\n" = .ok note ∧
    parse "" noteText = .ok (note.withArgument (.docString noteFence.docString)) ∧
    ∃ step ∈ note.stepsAt 3, step.text = some "a note" := by
  have hwritable : noteFence.IsWritable := by decide +kernel
  have hparse : parse "" "Feature: Notes\nScenario: Keep\nGiven a note\n" = .ok note := by
    decide +kernel
  have hfront : Text.lines "Feature: Notes\nScenario: Keep\nGiven a note\n".toList =
      ["Feature: Notes".toList, "Scenario: Keep".toList] ++ ["Given a note".toList] := by
    decide +kernel
  have hraw : Line.ofChars "Given a note".toList = .step (.role .given) "a note" := by
    decide +kernel
  have htext : Text.lines noteText.toList =
      ["Feature: Notes".toList, "Scenario: Keep".toList] ++
        "Given a note".toList :: (noteFence.lines ++ []) := by
    decide +kernel
  obtain ⟨⟨step, hstep, -, hwords, -, hattached⟩, -⟩ := parse_fenced hwritable hfront hraw hparse
  have hthird : note.stepsAt 3 = [step] := hstep
  obtain ⟨hwhole, -, -⟩ := hattached noteText [] htext
  exact ⟨hwritable, hparse, hwhole rfl, step, by simp [hthird], hwords⟩

end Feature

end Rehearsal
