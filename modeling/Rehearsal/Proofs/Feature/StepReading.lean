import Rehearsal.Proofs.Feature.Fenced

namespace Rehearsal

namespace Reading

open Layout (numberedTags numberedAll)

structure Holds (language : String) (feature : Option Feature) (tags : List Tag) (r : Reading) :
    Prop where
  language : r.language = language
  feature : r.feature = feature
  tags : r.tags = tags
  fence : r.fence = none

-- Free text describes what stands at the place.
structure Describes (place : Place) (language : String) (feature : Feature) (r : Reading) :
    Prop where
  holds : Holds language (some feature) [] r
  place : r.place = place
  describing : r.describing

variable {layout : Layout} {n : Nat} {language : String} {feature : Feature}

theorem tagsOf_eq_ok {tags : List Tag} (h : ∀ tag ∈ tags, tag.IsPrintable) :
    tagsOf n (tags.map fun tag => String.ofList ('@' :: tag.name.toList)) =
      .ok (numberedTags n tags) := by
  induction tags with
  | nil => rfl
  | cons tag rest ih =>
      have hrest := ih fun other hother => h other (List.mem_cons_of_mem tag hother)
      obtain ⟨c, name, hname⟩ := List.exists_cons_of_ne_nil (h tag (by simp)).1
      simp only [List.map_cons, tagsOf, String.toList_ofList, hname, hrest, Except.map]
      rw [← hname, String.ofList_toList]
      rfl

theorem reads_tags {tags : List Tag} (h : ∀ tag ∈ tags, tag.IsPrintable) (level : Nat)
    (x : Option Feature) :
    Reads n (Holds language x []) (layout.tagLines level tags)
      (Holds language x (numberedTags n tags)) := by
  unfold Layout.tagLines
  split_ifs with hnil
  · rw [List.isEmpty_iff] at hnil
    subst hnil
    exact .nil fun r hr => hr
  · rw [List.isEmpty_iff] at hnil
    refine .line ((Line.ofChars_indented ..).trans (Line.ofChars_tagLine hnil h)) fun r hr => ?_
    refine ⟨hr.fence, _, by rw [takeLine, tagsOf_eq_ok h]; rfl, ?_⟩
    exact ⟨hr.language, hr.feature, by simp [hr.tags], hr.fence⟩

theorem foldl_extended {lines : List String} {description : String} (hne : description ≠ "") :
    lines.foldl Feature.extended description = "\n".intercalate (description :: lines) := by
  induction lines generalizing description with
  | nil => simp
  | cons line rest ih =>
      have hstep : Feature.extended description line = description ++ "\n" ++ line := by
        simp [Feature.extended, hne]
      rw [List.foldl_cons, hstep, ih (by simp)]
      cases rest <;> simp [String.intercalate_cons_cons, String.append_assoc]

-- A description is put together from its lines.
theorem foldl_extended_describing {description : String} (h : IsDescription description) :
    ((Layout.describing description).map String.ofList).foldl Feature.extended "" = description := by
  by_cases hnil : description = ""
  · subst hnil
    rfl
  · have hlines : Layout.describing description = description.toList.splitOn '\n' := by
      simp [Layout.describing, hnil]
    obtain ⟨first, others, hsplit⟩ :=
      List.exists_cons_of_ne_nil (List.splitOn_ne_nil '\n' description.toList)
    have hfirst : String.ofList first ≠ "" := by
      intro hempty
      have hread := (h first (by simp [hlines, hsplit])).2
      rw [String.ofList_eq_empty_iff.mp hempty] at hread
      cases hread
    calc ((Layout.describing description).map String.ofList).foldl Feature.extended ""
        = (others.map String.ofList).foldl Feature.extended (String.ofList first) := by
          simp [hlines, hsplit, Feature.extended]
      _ = "\n".intercalate ((description.toList.splitOn '\n').map String.ofList) := by
          rw [foldl_extended hfirst, hsplit, List.map_cons]
      _ = description := by
          apply String.toList_inj.mp
          simp [String.toList_intercalate]

theorem reads_describing {place : Place} (withText : String → Feature)
    (hstep : ∀ (r : Reading) description line, Describes place language (withText description) r →
      r.takeText line = .ok { r with feature := some (withText (Feature.extended description line)) })
    {lines : List (List Char)}
    (h : ∀ line ∈ lines, Line.ofChars line = .text (String.ofList line)) (level : Nat)
    (description : String) :
    Reads n (Describes place language (withText description)) (lines.map (layout.indented level))
      (Describes place language
        (withText ((lines.map String.ofList).foldl Feature.extended description))) := by
  induction lines generalizing n description with
  | nil => exact .nil fun r hr => hr
  | cons line rest ih =>
      refine .cons (.line ((Line.ofChars_indented ..).trans (h line (by simp))) fun r hr => ?_)
        (ih (fun other hother => h other (List.mem_cons_of_mem line hother)) _)
      refine ⟨hr.holds.fence, _, hstep r description _ hr, ?_⟩
      exact ⟨⟨hr.holds.language, rfl, hr.holds.tags, hr.holds.fence⟩, hr.place, hr.describing⟩

-- The feature is given with what was read of the description so far.
theorem reads_description {place : Place} (withText : String → Feature)
    (hstep : ∀ (r : Reading) description line, Describes place language (withText description) r →
      r.takeText line = .ok { r with feature := some (withText (Feature.extended description line)) })
    {description : String} (h : IsDescription description) (level : Nat) :
    Reads n (Describes place language (withText "")) (layout.descriptionLines level description)
      (Describes place language (withText description)) := by
  have hreads : Reads n _ (layout.descriptionLines level description) _ :=
    reads_describing withText hstep (fun line hline => (h line hline).2) level ""
  rwa [foldl_extended_describing h] at hreads

theorem reads_featureDescription (feature : Feature) {description : String}
    (h : IsDescription description) (level : Nat) :
    Reads n (Describes .outside language { feature with description := some "" })
      (layout.descriptionLines level description)
      (Describes .outside language { feature with description := some description }) := by
  apply reads_description (fun text => { feature with description := some text }) _ h
  intro r earlier line hr
  simp [takeText, hr.describing, hr.place, hr.holds.feature, Feature.describe]

theorem reads_elementDescription (e : Feature.Element) {description : String}
    (h : IsDescription description) (level : Nat) :
    Reads n (Describes .element language (feature.opened (e.withDescription "")))
      (layout.descriptionLines level description)
      (Describes .element language (feature.opened (e.withDescription description))) := by
  apply reads_description (fun text => feature.opened (e.withDescription text)) _ h
  intro r earlier line hr
  simp [takeText, hr.describing, hr.place, hr.holds.feature, Feature.describeElement_opened]

-- Steps can follow.
structure Inside (language : String) (feature : Feature) (e : Feature.Element) (r : Reading) :
    Prop where
  holds : Holds language (some (feature.opened e)) [] r
  place : r.place = .element ∨ r.place = .step

-- The last step can have an argument.
structure AtStep (language : String) (feature : Feature) (e : Feature.Element) (r : Reading) :
    Prop where
  holds : Holds language (some (feature.opened e)) [] r
  place : r.place = .step

theorem Describes.inside {e : Feature.Element} {r : Reading}
    (h : Describes .element language (feature.opened e) r) : Inside language feature e r :=
  ⟨h.holds, .inl h.place⟩

theorem AtStep.inside {e : Feature.Element} {r : Reading} (h : AtStep language feature e r) :
    Inside language feature e r :=
  ⟨h.holds, .inr h.place⟩

variable {e : Feature.Element} {front : List Step} {step : Step}

theorem takeStep_eq {r : Reading} (hr : Inside language feature (e.withSteps front) r)
    (word : StepWord) (text : String) :
    r.takeStep n word text = .ok { r with
      feature := some (feature.opened (e.withSteps (front ++
        [{ keyword := some (word.word ++ " "), role := roleOf front word, text := some text,
           line := n }])))
      place := .step, describing := false } := by
  have hplace : (decide (r.place = .element) || decide (r.place = .step)) = true := by
    simpa using hr.place
  simp [takeStep, hr.holds.feature, hplace, Feature.updateSteps_opened,
    Feature.currentSteps_opened]

theorem reads_stepLine {earlier : List Step} (h : step.IsPrintable layout earlier)
    (hfront : front.isEmpty = earlier.isEmpty) :
    Reads n (Inside language feature (e.withSteps front))
      [layout.indented 2 (Layout.stepLine step)]
      (AtStep language feature
        (e.withSteps (front ++ [{ step with argument := none, line := n }]))) := by
  obtain ⟨word, hword, hrole⟩ := h.word
  obtain ⟨text, htext, hne, hname⟩ := h.text
  have hroles : roleOf front word = step.role := by
    rw [hrole]
    cases word <;> simp [roleOf, hfront]
  refine .line ((Line.ofChars_indented ..).trans (Line.ofChars_stepLine hword htext hne hname))
    fun r hr => ⟨hr.holds.fence, _, takeStep_eq hr word text, ?_⟩
  rw [hroles, ← hword, ← htext]
  exact ⟨⟨hr.holds.language, rfl, hr.holds.tags, hr.holds.fence⟩, rfl⟩

theorem cells?_rowLine {row : List (Option String)} (h : ∀ cell ∈ row, IsCell cell) :
    Row.cells? (Row.ofCells (row.map fun cell => (cell.getD "").toList)) =
      some (row.map (·.getD "")) := by
  have htrim : ∀ cell ∈ row.map (fun cell => (cell.getD "").toList), Text.trim cell = cell := by
    rw [List.forall_mem_map]
    intro cell hcell
    obtain ⟨text, rfl, htext, -⟩ := h cell hcell
    exact htext
  rw [Row.cells?_ofCells htrim, List.map_map]
  simp

theorem map_some_getD {row : List (Option String)} (h : ∀ cell ∈ row, IsCell cell) :
    (row.map (·.getD "")).map some = row := by
  rw [List.map_map]
  refine (List.map_congr_left fun cell hcell => ?_).trans (List.map_id row)
  obtain ⟨text, rfl, -⟩ := h cell hcell
  rfl

theorem takeRow_eq {r : Reading}
    (hr : AtStep language feature (e.withSteps (front ++ [step])) r)
    {row : List (Option String)} (hrow : ∀ cell ∈ row, IsCell cell) {after : Step}
    (hadd : addToStep (row.map (·.getD "")) step = .ok after) :
    r.takeRow (Row.ofCells (row.map fun cell => (cell.getD "").toList)) = .ok { r with
      feature := some (feature.opened (e.withSteps (front ++ [after]))), describing := false } := by
  have hlast : (feature.opened (e.withSteps (front ++ [step]))).currentSteps.getLast? =
      some step := by
    simp [Feature.currentSteps_opened]
  simp only [takeRow, cells?_rowLine hrow, hr.holds.feature, hr.place, hlast, hadd, Except.map]
  simp [Feature.updateSteps_opened]

theorem reads_row {row : List (Option String)} (hrow : ∀ cell ∈ row, IsCell cell) {after : Step}
    (hadd : addToStep (row.map (·.getD "")) step = .ok after) (level : Nat) :
    Reads n (AtStep language feature (e.withSteps (front ++ [step])))
      [layout.indented level (Layout.rowLine row)]
      (AtStep language feature (e.withSteps (front ++ [after]))) :=
  .line ((Line.ofChars_indented ..).trans (Line.ofChars_rowLine row)) fun _ hr =>
    ⟨hr.holds.fence, _, takeRow_eq hr hrow hadd,
      ⟨hr.holds.language, rfl, hr.holds.tags, hr.holds.fence⟩, hr.place⟩

theorem reads_moreRows {width : Nat} {rows more : List (List (Option String))}
    (hne : rows ≠ []) (hrows : ∀ row ∈ rows, row.length = width)
    (hmore : ∀ row ∈ more, row.length = width)
    (hcells : ∀ row ∈ more, ∀ cell ∈ row, IsCell cell) (level : Nat) :
    Reads n
      (AtStep language feature
        (e.withSteps (front ++ [{ step with argument := some (.table ⟨rows⟩) }])))
      (layout.rowLines level more)
      (AtStep language feature
        (e.withSteps (front ++ [{ step with argument := some (.table ⟨rows ++ more⟩) }]))) := by
  induction more generalizing n rows with
  | nil =>
      rw [List.append_nil]
      exact .nil fun r hr => hr
  | cons row rest ih =>
      rw [List.forall_mem_cons] at hmore hcells
      have hadd : addToStep (row.map (·.getD "")) { step with argument := some (.table ⟨rows⟩) } =
          .ok { step with argument := some (.table ⟨rows ++ [row]⟩) } := by
        obtain ⟨first, others, rfl⟩ := List.exists_cons_of_ne_nil hne
        simp [addToStep, map_some_getD hcells.1, hmore.1, hrows first (by simp)]
      have hrest := @ih (n + 1) (rows ++ [row]) (by simp)
        (by simpa [or_imp, forall_and, hmore.1] using hrows) hmore.2 hcells.2
      rw [List.append_assoc, List.singleton_append] at hrest
      exact .cons (reads_row hcells.1 hadd level) hrest

theorem reads_table (step : Step) {table : DataTable} (h : table.IsPrintable) (level : Nat) :
    Reads n
      (AtStep language feature (e.withSteps (front ++ [{ step with argument := none }])))
      (layout.rowLines level table.rows)
      (AtStep language feature
        (e.withSteps (front ++ [{ step with argument := some (.table table) }]))) := by
  obtain ⟨rows⟩ := table
  obtain ⟨hne, hwidth, hcells⟩ := h
  obtain ⟨first, more, rfl⟩ := List.exists_cons_of_ne_nil hne
  rw [List.forall_mem_cons] at hcells
  have hmore : ∀ row ∈ more, row.length = first.length := fun row hrow =>
    hwidth row (List.mem_cons_of_mem first hrow) first List.mem_cons_self
  have hadd : addToStep (first.map (·.getD "")) { step with argument := none } =
      .ok { step with argument := some (.table ⟨[first]⟩) } := by
    simp [addToStep, map_some_getD hcells.1]
  exact .cons (reads_row hcells.1 hadd level)
    (reads_moreRows (by simp) (by simp) hmore hcells.2 level)

theorem reads_docString (step : Step) {docString : DocString}
    (h : docString.IsPrintable (layout.mark docString).char) (level : Nat) :
    Reads n
      (AtStep language feature (e.withSteps (front ++ [{ step with argument := none }])))
      (layout.docStringLines level docString)
      (AtStep language feature
        (e.withSteps (front ++ [{ step with argument := some (.docString docString) }]))) := by
  obtain ⟨content, type⟩ := docString
  obtain ⟨⟨text, rfl, -, hescapes⟩, htype⟩ := h
  let d : Fenced :=
    { mark := layout.mark ⟨some text, type⟩, margin := List.replicate (level * layout.width) ' '
      contentType := type, content := text.toList.splitOn '\n'
      closing := List.replicate (level * layout.width) ' ' }
  have hd : d.IsWritable :=
    { margin := Text.isBlank_of_mem_replicate
      contentType := htype
      content := fun line hline hin => hescapes (hin.trans (Text.infix_of_mem_splitOn hline))
      closing := Text.isBlank_of_mem_replicate }
  have hcontent : "\n".intercalate ((text.toList.splitOn '\n').map String.ofList) = text := by
    apply String.toList_inj.mp
    simp [String.toList_intercalate]
  have hdocString : d.docString = ⟨some text, type⟩ := by rw [Fenced.docString, hcontent]
  intro r hr
  have hfree : r.openStep?.any (·.argument.isNone) := by
    simp [openStep?, hr.place, hr.holds.feature, Feature.currentSteps_opened]
  refine ⟨_, readAll_fenced hd hr.holds.fence hfree n,
    ⟨hr.holds.language, ?_, hr.holds.tags, hr.holds.fence⟩, hr.place⟩
  simp [withArgument, Feature.withArgument, hr.holds.feature, Feature.updateSteps_opened, hdocString]

theorem reads_argument (step : Step)
    (h : ∀ argument ∈ step.argument, argument.IsPrintable layout) (level : Nat) :
    Reads n
      (AtStep language feature (e.withSteps (front ++ [{ step with argument := none }])))
      (layout.argumentLines level step.argument)
      (AtStep language feature (e.withSteps (front ++ [step]))) := by
  obtain ⟨keyword, role, text, argument, line⟩ := step
  match argument with
  | none => exact .nil fun r hr => hr
  | some (.table table) => exact reads_table ⟨keyword, role, text, none, line⟩ (h _ rfl) level
  | some (.docString docString) =>
      exact reads_docString ⟨keyword, role, text, none, line⟩ (h _ rfl) level
  | some (.other _) => exact (h _ rfl).elim

theorem reads_step {earlier : List Step} (h : step.IsPrintable layout earlier)
    (hfront : front.isEmpty = earlier.isEmpty) :
    Reads n (Inside language feature (e.withSteps front)) (layout.stepLines step)
      (Inside language feature (e.withSteps (front ++ [{ step with line := n }]))) :=
  (reads_stepLine h hfront).cons
    ((reads_argument { step with line := n } h.argument 3).weaken fun _ hr => hr.inside)

theorem reads_steps (e : Feature.Element) {earlier steps : List Step}
    (h : StepsArePrintable layout earlier steps)
    (hfront : front.isEmpty = earlier.isEmpty) :
    Reads n (Inside language feature (e.withSteps front)) (steps.flatMap layout.stepLines)
      (Inside language feature (e.withSteps (front ++ layout.numberedSteps n steps))) := by
  induction steps generalizing n earlier front with
  | nil =>
      rw [Layout.numberedSteps, numberedAll, List.append_nil]
      exact .nil fun r hr => hr
  | cons step rest ih =>
      have hempty : (front ++ [{ step with line := n }]).isEmpty = (earlier ++ [step]).isEmpty := by
        cases front <;> cases earlier <;> rfl
      have hrest := @ih (n + (layout.stepLines step).length) _ _ h.2 hempty
      rw [List.append_assoc] at hrest
      exact (reads_step h.1 hfront).append hrest

end Reading

end Rehearsal
