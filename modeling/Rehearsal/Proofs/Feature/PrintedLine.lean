import Rehearsal.Proofs.Feature.Print

namespace Rehearsal

namespace Line

open Layout

variable (layout : Layout)

theorem ofChars_of_trimmed {line : List Char} (h : Text.trim line = line) :
    ofChars line = ofTrimmed line := by
  rw [ofChars, h]

theorem ofChars_indented (level : Nat) (line : List Char) :
    ofChars (layout.indented level line) = ofChars line := by
  rw [ofChars, indented, Text.trim_replicate_append, ofChars]

-- A line that ends with a text is trimmed if it does not start with a blank.
theorem ofChars_append {opener : List Char} (hopener : opener ≠ [])
    (hstart : Text.trimStart opener = opener) {text : String} (hne : text ≠ "")
    (htext : IsName text) : ofChars (opener ++ text.toList) = ofTrimmed (opener ++ text.toList) :=
  ofChars_of_trimmed
    (Text.trim_append hopener hstart (by simpa using hne) (Text.trimEnd_of_trim htext.trimmed))

theorem ofTrimmed_heading (h : Heading) (rest : List Char) :
    ofTrimmed (h.word.toList ++ ':' :: rest) = .heading h (String.ofList (Text.trim rest)) := by
  cases h <;> rfl

theorem ofChars_headingLine (h : Heading) {name : String} (hname : IsName name) :
    ofChars (headingLine h name) = .heading h name := by
  by_cases hnil : name = ""
  · subst hnil
    have htrim : Text.trim (headingLine h "") = headingLine h "" := by cases h <;> decide
    rw [ofChars_of_trimmed htrim]
    exact ofTrimmed_heading h []
  · have hline : headingLine h name = h.word.toList ++ [':', ' '] ++ name.toList := by
      simp [headingLine, hnil]
    have hstart : Text.trimStart (h.word.toList ++ [':', ' ']) = h.word.toList ++ [':', ' '] := by
      cases h <;> decide
    rw [hline, ofChars_append (by simp) hstart hnil hname, List.append_assoc, List.cons_append,
      ofTrimmed_heading, List.singleton_append, Text.trim_cons_space, hname.trimmed,
      String.ofList_toList]

theorem ofTrimmed_step (word : StepWord) (rest : List Char) :
    ofTrimmed (word.word.toList ++ ' ' :: rest) =
      .step word (String.ofList (Text.trim (' ' :: rest))) := by
  cases word with
  | role played => cases played <;> rfl
  | star => rfl

theorem ofChars_stepLine {step : Step} {word : StepWord} {text : String}
    (hword : step.keyword = some (word.word ++ " ")) (htext : step.text = some text)
    (hne : text ≠ "") (hname : IsName text) : ofChars (stepLine step) = .step word text := by
  have hline : stepLine step = word.word.toList ++ [' '] ++ text.toList := by
    simp [stepLine, hword, htext]
  have hstart : Text.trimStart (word.word.toList ++ [' ']) = word.word.toList ++ [' '] := by
    cases word with
    | role played => cases played <;> decide
    | star => decide
  rw [hline, ofChars_append (by simp) hstart hne hname, List.append_assoc, List.singleton_append,
    ofTrimmed_step, Text.trim_cons_space, hname.trimmed, String.ofList_toList]

theorem ofChars_tagLine {tags : List Tag} (hne : tags ≠ [])
    (h : ∀ tag ∈ tags, tag.IsPrintable) :
    ofChars (tagLine tags) = .tags (tags.map fun tag => String.ofList ('@' :: tag.name.toList)) := by
  have hwords : ∀ word ∈ tags.map (fun tag => '@' :: tag.name.toList), Text.IsToken word := by
    intro word hword
    obtain ⟨tag, htag, rfl⟩ := List.mem_map.mp hword
    refine ⟨by simp, ?_⟩
    simpa using ⟨by decide, (h tag htag).2⟩
  have hhead : ∃ rest, tagLine tags = '@' :: rest := by
    obtain ⟨first, others, rfl⟩ := List.exists_cons_of_ne_nil hne
    cases others <;> simp [tagLine]
  obtain ⟨rest, hrest⟩ := hhead
  have htokens : Text.tokens (tagLine tags) = tags.map fun tag => '@' :: tag.name.toList :=
    Text.tokens_intercalate hwords
  have htrim : Text.trim (tagLine tags) = tagLine tags := Text.trim_intercalate hwords
  rw [ofChars_of_trimmed htrim, hrest, ofTrimmed, ← hrest, htokens, List.map_map]
  rfl

theorem ofChars_rowLine (cells : List (Option String)) :
    ofChars (rowLine cells) = .row (Row.ofCells (cells.map fun cell => (cell.getD "").toList)) := by
  have htrim : Text.trim (rowLine cells) = rowLine cells := by
    rw [Text.trim_eq_self_iff, rowLine, Row.getLast?_ofCells]
    simpa using (by decide : Text.isBlank '|' = false)
  rw [ofChars_of_trimmed htrim]
  rfl

theorem ofTrimmed_delimiter (mark : Mark) (rest : List Char) :
    ofTrimmed (Fence.delimiter mark.char ++ rest) = .fence mark.char (contentType? rest) := by
  cases mark <;> rfl

theorem ofChars_delimiter (mark : Mark) {type : Option String}
    (h : ∀ text ∈ type, text ≠ "" ∧ IsName text) :
    ofChars (Fence.delimiter mark.char ++ (type.getD "").toList) = .fence mark.char type := by
  cases type with
  | none => cases mark <;> rfl
  | some text =>
      obtain ⟨hne, hname⟩ := h text rfl
      have hstart : Text.trimStart (Fence.delimiter mark.char) = Fence.delimiter mark.char := by
        cases mark <;> decide
      have htype : contentType? text.toList = some text := by
        obtain ⟨c, rest, hcons⟩ := List.exists_cons_of_ne_nil (by simpa using hne : text.toList ≠ [])
        rw [contentType?, hname.trimmed, hcons]
        simp [← hcons]
      rw [Option.getD_some, ofChars_append (by simp [Fence.delimiter]) hstart hne hname,
        ofTrimmed_delimiter, htype]

theorem language?_of_token {language : List Char} (h : Text.IsToken language) :
    language? (' ' :: ("language".toList ++ ':' :: ' ' :: language)) =
      some (String.ofList language) := by
  have hstart : Text.trimStart (' ' :: ("language".toList ++ ':' :: ' ' :: language)) =
      "language".toList ++ ':' :: ' ' :: language := rfl
  have hword : "language".toList.isPrefixOf? ("language".toList ++ ':' :: ' ' :: language) =
      some (':' :: ' ' :: language) := rfl
  have hcolon : Text.trimStart (':' :: ' ' :: language) = ':' :: ' ' :: language := rfl
  rw [language?, hstart, hword]
  simp [hcolon, Text.tokens_cons_space, Text.tokens_eq_singleton h]

theorem ofChars_languageLine {language : String} (h : Text.IsToken language.toList) :
    ofChars (languageLine language) = .language language := by
  have hne : language ≠ "" := by simpa using h.1
  have hname : IsName language := ⟨h.trim_eq, Text.isSingleLine_of_no_blank h.2⟩
  rw [languageLine, ofChars_append (by simp) (by decide) hne hname, List.cons_append,
    List.cons_append, List.append_assoc, List.cons_append, List.singleton_append, ofTrimmed,
    language?_of_token h, String.ofList_toList]
  rfl

end Line

namespace Layout

open Text (IsSingleLine)

variable {layout : Layout}

theorem isSingleLine_indented {level : Nat} {line : List Char} (h : IsSingleLine line) :
    IsSingleLine (layout.indented level line) := by
  rw [indented, Text.isSingleLine_append]
  refine ⟨fun c hc => ?_, h⟩
  rw [List.eq_of_mem_replicate hc]
  decide

theorem isSingleLine_tagLines {tags : List Tag} (h : ∀ tag ∈ tags, tag.IsPrintable) (level : Nat) :
    ∀ line ∈ layout.tagLines level tags, IsSingleLine line := by
  unfold tagLines
  split_ifs with hnil
  · simp
  · rw [List.forall_mem_singleton]
    apply isSingleLine_indented
    apply Text.isSingleLine_intercalate (by decide)
    intro word hword
    obtain ⟨tag, htag, rfl⟩ := List.mem_map.mp hword
    exact Text.isSingleLine_cons.mpr ⟨by decide, Text.isSingleLine_of_no_blank (h tag htag).2⟩

theorem isSingleLine_headingLine (heading : Heading) {name : String} (h : IsName name) :
    IsSingleLine (headingLine heading name) := by
  have hword : IsSingleLine heading.word.toList := by cases heading <;> decide
  unfold headingLine
  split_ifs <;> simp [hword, h.single] <;> decide

theorem isSingleLine_descriptionLines {description : String} (h : IsDescription description)
    (level : Nat) : ∀ line ∈ layout.descriptionLines level description, IsSingleLine line := by
  rw [descriptionLines, List.forall_mem_map]
  exact fun line hline => isSingleLine_indented (h line hline).1

theorem isSingleLine_rowLines {rows : List (List (Option String))}
    (h : ∀ row ∈ rows, ∀ cell ∈ row, IsCell cell) (level : Nat) :
    ∀ line ∈ layout.rowLines level rows, IsSingleLine line := by
  rw [rowLines, List.forall_mem_map]
  intro row hrow
  apply isSingleLine_indented
  refine Text.isSingleLine_cons.mpr ⟨by decide, Row.isSingleLine_ofCells ?_⟩
  rw [List.forall_mem_map]
  intro cell hcell
  obtain ⟨text, rfl, -, hfeeds⟩ := h row hrow cell hcell
  exact hfeeds

theorem isSingleLine_argumentLines {argument : Option Argument}
    (h : ∀ value ∈ argument, value.IsPrintable layout) (level : Nat) :
    ∀ line ∈ layout.argumentLines level argument, IsSingleLine line := by
  match argument with
  | none => simp [argumentLines]
  | some (.other _) => simp [argumentLines]
  | some (.table table) => exact isSingleLine_rowLines (h _ rfl).cells level
  | some (.docString docString) =>
      obtain ⟨⟨text, htext, hfeeds, -⟩, htype⟩ := h _ rfl
      have hmark : Text.isLineBreak (layout.mark docString).char = false := by
        cases layout.mark docString <;> decide
      have hfence : IsSingleLine (Fence.delimiter (layout.mark docString).char) := by
        simp [Fence.delimiter, hmark]
      have hopen : IsSingleLine (docString.contentType.getD "").toList := by
        cases htypes : docString.contentType with
        | none => simp
        | some type => exact (htype type htypes).2.single
      simp only [argumentLines, docStringLines, List.cons_append, List.forall_mem_cons,
        List.forall_mem_append, List.forall_mem_map]
      refine ⟨isSingleLine_indented (Text.isSingleLine_append.mpr ⟨hfence, hopen⟩), ?_,
        isSingleLine_indented hfence, by simp⟩
      intro line hline
      rw [htext, Option.getD_some] at hline
      apply isSingleLine_indented
      exact Fence.isSingleLine_escaped hmark (Text.isSingleLine_of_mem_splitOn hfeeds hline)

theorem isSingleLine_stepLines {earlier steps : List Step}
    (h : StepsArePrintable layout earlier steps) :
    ∀ line ∈ steps.flatMap layout.stepLines, IsSingleLine line := by
  induction steps generalizing earlier with
  | nil => simp
  | cons step rest ih =>
      obtain ⟨⟨⟨word, hword, -⟩, ⟨text, htext, -, hname⟩, hargument⟩, hrest⟩ := h
      have hline : IsSingleLine (stepLine step) := by
        have hopener : IsSingleLine (word.word ++ " ").toList := by
          cases word with
          | role played => cases played <;> decide
          | star => decide
        rw [stepLine, hword, htext]
        exact Text.isSingleLine_append.mpr ⟨hopener, hname.single⟩
      simp only [List.flatMap_cons, stepLines, List.cons_append, List.forall_mem_cons,
        List.forall_mem_append]
      exact ⟨isSingleLine_indented hline, isSingleLine_argumentLines hargument 3, ih hrest⟩

theorem isSingleLine_examplesLines {examples : Examples} (h : examples.IsPrintable) :
    ∀ line ∈ layout.examplesLines examples, IsSingleLine line := by
  simp only [examplesLines, List.forall_mem_append, List.forall_mem_cons]
  exact ⟨isSingleLine_tagLines h.tags 2,
    isSingleLine_indented (isSingleLine_headingLine _ h.name), isSingleLine_rowLines h.cells 3⟩

theorem isSingleLine_backgroundLines {background : Background}
    (h : background.IsPrintable layout) :
    ∀ line ∈ layout.backgroundLines background, IsSingleLine line := by
  simp only [backgroundLines, List.forall_mem_append, List.forall_mem_cons]
  exact ⟨isSingleLine_indented (isSingleLine_headingLine _ h.name),
    isSingleLine_descriptionLines h.description 2, isSingleLine_stepLines h.steps⟩

theorem isSingleLine_scenarioLines {scenario : Scenario} (h : scenario.IsPrintable layout) :
    ∀ line ∈ layout.scenarioLines scenario, IsSingleLine line := by
  simp only [scenarioLines, List.forall_mem_append, List.forall_mem_cons, List.forall_mem_flatMap]
  exact ⟨isSingleLine_tagLines h.tags 1,
    isSingleLine_indented (isSingleLine_headingLine _ h.name),
    ⟨isSingleLine_descriptionLines h.description 2,
      List.forall_mem_flatMap.mp (isSingleLine_stepLines h.steps)⟩,
    fun examples hexamples => isSingleLine_examplesLines (h.examples examples hexamples)⟩

theorem isSingleLine_featureLines {feature : Feature} (h : feature.IsPrintable layout) :
    ∀ line ∈ layout.featureLines feature, IsSingleLine line := by
  obtain ⟨language, hlanguage, htoken⟩ := h.language
  obtain ⟨description, hdescription, hdescribed⟩ := h.description
  have hfirst : IsSingleLine (languageLine language) := by
    rw [languageLine, Text.isSingleLine_append]
    exact ⟨by decide, Text.isSingleLine_of_no_blank htoken.2⟩
  simp only [featureLines, hlanguage, hdescription, Option.getD_some, List.forall_mem_append,
    List.forall_mem_cons, List.forall_mem_flatMap, Option.mem_toList]
  exact ⟨hfirst, isSingleLine_tagLines h.tags 0, isSingleLine_headingLine _ h.name,
    ⟨isSingleLine_descriptionLines hdescribed 1,
      fun background hb => isSingleLine_backgroundLines (h.background background hb)⟩,
    fun scenario hs => isSingleLine_scenarioLines (h.scenarios scenario hs)⟩

-- The lines of the document are those that were printed.
theorem lines_print {feature : Feature} (h : feature.IsPrintable layout) :
    Text.lines (layout.print feature).toList = layout.featureLines feature := by
  rw [print, String.toList_ofList, Text.lines_unlines (isSingleLine_featureLines h)]

end Layout

end Rehearsal
