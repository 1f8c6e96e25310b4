import Rehearsal.Proofs.Retry.Result

namespace Rehearsal.Retry

-- A value with what carries its tag.
structure Offer where
  kind : String
  owner : String
  value : String
  deriving DecidableEq, Repr

namespace Offer

def rejection (word : String) (o : Offer) : String :=
  "Ignoring @" ++ word ++ ":" ++ o.value ++ " on " ++ o.kind ++ " '" ++ o.owner ++
    "': value cannot be parsed"

def name (o : Offer) : String := trimmed o.value

end Offer

def valuesOf (word : String) (tags : List Tag) : List String :=
  TagName.values word (tags.map (·.name))

-- The values of the scenario in tag order, then those of its feature.
def offers (word : String) (scenario : Scenario) (feature : Option Feature) : List Offer :=
  (valuesOf word scenario.tags).map (⟨"scenario", scenario.name, ·⟩) ++
    feature.toList.flatMap fun f => (valuesOf word f.tags).map (⟨"feature", f.name, ·⟩)

def acceptedCount? (offers : List Offer) : Option Nat := offers.findSome? fun o => count? o.value

def acceptedName? (offers : List Offer) : Option String := (offers.map (·.name)).find? (· ≠ "")

def carries (word : String) (tag : Tag) : Bool := (TagName.value? word tag.name).isSome

-- Tags that differ in what is no directive, or in how the two kinds of directives are mixed.
def SameDirectives (tags others : List Tag) : Prop :=
  ∀ word ∈ [countTag, sparedTag], tags.filter (carries word) = others.filter (carries word)

def HasCount (tags : List Tag) : Prop := ∃ value ∈ valuesOf countTag tags, (count? value).isSome

def HasName (tags : List Tag) : Prop := ∃ value ∈ valuesOf sparedTag tags, trimmed value ≠ ""

def featureTags (feature : Option Feature) : List Tag := feature.toList.flatMap (·.tags)

variable {ε : Type}

-- The texts of the warnings among what was logged.
def warnings {α : Type} (run : Run ε α) : List String :=
  (run.log.filter (·.level = .warning)).map (·.text)

-- What the tags of a scenario and of its feature come to.
structure IsSettled (scenario : Scenario) (feature : Option Feature) : Prop where
  absent : (resolve scenario feature : Run ε _).result = .ok none ↔
    ∀ o ∈ offers countTag scenario feature, count? o.value = none
  found : ∀ count, acceptedCount? (offers countTag scenario feature) = some count →
    (resolve scenario feature : Run ε _).result =
      .ok (some ⟨count, acceptedName? (offers sparedTag scenario feature)⟩)
  -- Names are not looked at before there is a count.
  warned : warnings (resolve scenario feature : Run ε _) =
    ((offers countTag scenario feature).takeWhile fun o => count? o.value = none).map
        (·.rejection countTag) ++
      if (acceptedCount? (offers countTag scenario feature)).isSome then
        ((offers sparedTag scenario feature).takeWhile (·.name = "")).map (·.rejection sparedTag)
      else []
  framed : ∀ scenario' feature', SameDirectives scenario.tags scenario'.tags →
    SameDirectives (featureTags feature) (featureTags feature') →
    (resolve scenario' feature' : Run ε _).result = (resolve scenario feature).result
  -- Further tags of a scenario that has a count bring no other count, and no name unless they are
  -- the first of the scenario to have one.
  extended : ∀ more, HasCount scenario.tags →
    (∃ d name, (resolve scenario feature : Run ε _).result = .ok (some d) ∧
      (resolve { scenario with tags := scenario.tags ++ more } feature : Run ε _).result =
        .ok (some { d with spared := name })) ∧
    (HasName scenario.tags ∨ ¬HasName more →
      (resolve { scenario with tags := scenario.tags ++ more } feature : Run ε _).result =
        (resolve scenario feature).result)

theorem offers_eq_candidates (word : String) (scenario : Scenario) (feature : Option Feature) :
    offers word scenario feature = (candidates word (scopes scenario feature)).map fun value =>
      ⟨value.1.kind, value.1.owner, value.2⟩ := by
  cases feature <;> simp [offers, candidates, scopes, valuesOf, Function.comp_def]

theorem findSome?_candidates {α : Type} (read? : String → Option α) (word : String)
    (scenario : Scenario) (feature : Option Feature) :
    ((candidates word (scopes scenario feature)).findSome? fun value => read? value.2) =
      (offers word scenario feature).findSome? fun o => read? o.value := by
  rw [offers_eq_candidates, List.findSome?_map]
  rfl

theorem warnings_bind_of_ok {α β : Type} {x : Run ε α} {a : α} (h : x.result = .ok a)
    (f : α → Run ε β) : warnings (x >>= f) = warnings x ++ warnings (f a) := by
  rw [warnings, Run.log_bind_of_ok h, List.filter_append, List.map_append]
  rfl

theorem warnings_choose {α : Type} (word : String) (read? : String → Option α)
    (values : List (Scope × String)) :
    warnings (choose word read? values : Run ε (Option α)) =
      (values.takeWhile fun value => read? value.2 = none).map fun value =>
        rejection word value.1 value.2 := by
  induction values with
  | nil => rfl
  | cons first rest ih =>
      obtain ⟨scope, value⟩ := first
      cases h : read? value with
      | some a => simp [choose, h, warnings]
      | none =>
          have hwarn : warnings (choose word read? ((scope, value) :: rest) : Run ε (Option α)) =
              [rejection word scope value] ++
                warnings (choose word read? rest : Run ε (Option α)) := by
            simp only [choose, h]
            exact warnings_bind_of_ok (Run.result_warn _) _
          rw [hwarn, ih]
          simp [h]

theorem exceptionName?_eq (value : String) :
    exceptionName? value = if trimmed value = "" then none else some (trimmed value) := by
  simp [exceptionName?, String.isEmpty_iff]

theorem findSome?_exceptionName? (offers : List Offer) :
    (offers.findSome? fun o => exceptionName? o.value) = acceptedName? offers := by
  induction offers with
  | nil => rfl
  | cons o rest ih =>
      rw [List.findSome?_cons, ih, exceptionName?_eq]
      by_cases h : trimmed o.value = "" <;> simp [acceptedName?, Offer.name, h]

theorem directive?_eq (scenario : Scenario) (feature : Option Feature) :
    directive? scenario feature =
      (acceptedCount? (offers countTag scenario feature)).map fun count =>
        ⟨count, acceptedName? (offers sparedTag scenario feature)⟩ := by
  simp only [directive?, findSome?_candidates, findSome?_exceptionName?]
  rfl

theorem warnings_choose_offers {α : Type} (word : String) (read? : String → Option α)
    (scenario : Scenario) (feature : Option Feature) :
    warnings (choose word read? (candidates word (scopes scenario feature)) : Run ε (Option α)) =
      ((offers word scenario feature).takeWhile fun o => read? o.value = none).map
        (·.rejection word) := by
  rw [warnings_choose, offers_eq_candidates, List.takeWhile_map, List.map_map]
  rfl

theorem result_choose_count (scenario : Scenario) (feature : Option Feature) :
    (choose countTag count? (candidates countTag (scopes scenario feature)) : Run ε _).result =
      .ok (acceptedCount? (offers countTag scenario feature)) := by
  rw [result_choose, findSome?_candidates]
  rfl

-- The rejected counts are reported, and after an accepted one the rejected names.
theorem warnings_resolve (scenario : Scenario) (feature : Option Feature) :
    warnings (resolve scenario feature : Run ε _) =
      ((offers countTag scenario feature).takeWhile fun o => count? o.value = none).map
          (·.rejection countTag) ++
        if (acceptedCount? (offers countTag scenario feature)).isSome then
          ((offers sparedTag scenario feature).takeWhile (·.name = "")).map (·.rejection sparedTag)
        else [] := by
  have hname : ∀ o : Offer, exceptionName? o.value = none ↔ o.name = "" := by
    intro o
    rw [exceptionName?_eq, Offer.name]
    split <;> simp_all
  rw [resolve, warnings_bind_of_ok (result_choose_count scenario feature), warnings_choose_offers]
  cases acceptedCount? (offers countTag scenario feature) with
  | none => simp [warnings]
  | some count =>
      dsimp only
      rw [warnings_bind_of_ok (result_choose _ _ _), warnings_choose_offers,
        warnings_bind_of_ok (Run.result_debug _)]
      simp [hname, warnings]

-- The values without what carries them.
theorem map_value_offers (word : String) (scenario : Scenario) (feature : Option Feature) :
    (offers word scenario feature).map (·.value) =
      valuesOf word scenario.tags ++ valuesOf word (featureTags feature) := by
  cases feature <;> simp [offers, featureTags, valuesOf, TagName.values, Function.comp_def]

theorem valuesOf_filter_carries (word : String) (tags : List Tag) :
    valuesOf word (tags.filter (carries word)) = valuesOf word tags := by
  rw [valuesOf, valuesOf, TagName.values, TagName.values, List.filterMap_map, List.filterMap_map,
    List.filterMap_filter]
  apply List.filterMap_congr
  intro tag _
  rw [carries]
  cases h : TagName.value? word tag.name <;> simp [h]

theorem SameDirectives.valuesOf_eq {tags others : List Tag} (h : SameDirectives tags others)
    {word : String} (hword : word ∈ [countTag, sparedTag]) :
    valuesOf word tags = valuesOf word others := by
  rw [← valuesOf_filter_carries, h word hword, valuesOf_filter_carries]

theorem acceptedCount?_eq (offers : List Offer) :
    acceptedCount? offers = (offers.map (·.value)).findSome? count? := by
  rw [List.findSome?_map]
  rfl

theorem acceptedName?_eq (offers : List Offer) :
    acceptedName? offers = ((offers.map (·.value)).map trimmed).find? (· ≠ "") := by
  rw [acceptedName?, List.map_map]
  rfl

-- The directive follows from the values of the two words alone.
theorem directive?_congr {scenario scenario' : Scenario} {feature feature' : Option Feature}
    (h : ∀ word ∈ [countTag, sparedTag],
      valuesOf word scenario'.tags ++ valuesOf word (featureTags feature') =
        valuesOf word scenario.tags ++ valuesOf word (featureTags feature)) :
    directive? scenario' feature' = directive? scenario feature := by
  simp only [directive?_eq, acceptedCount?_eq, acceptedName?_eq, map_value_offers]
  rw [h countTag (by simp), h sparedTag (by simp)]

theorem valuesOf_append (word : String) (tags more : List Tag) :
    valuesOf word (tags ++ more) = valuesOf word tags ++ valuesOf word more := by
  simp [valuesOf, TagName.values]

theorem HasCount.isSome_findSome? {tags : List Tag} (h : HasCount tags) :
    ((valuesOf countTag tags).findSome? count?).isSome := by
  obtain ⟨value, hvalue, hsome⟩ := h
  exact List.findSome?_isSome_iff.mpr ⟨value, hvalue, hsome⟩

theorem HasCount.findSome?_append {tags : List Tag} (h : HasCount tags) (more : List String) :
    (valuesOf countTag tags ++ more).findSome? count? =
      (valuesOf countTag tags).findSome? count? := by
  rw [List.findSome?_append, Option.or_of_isSome h.isSome_findSome?]

theorem HasName.find?_append {tags : List Tag} (h : HasName tags) (more : List String) :
    ((valuesOf sparedTag tags ++ more).map trimmed).find? (· ≠ "") =
      ((valuesOf sparedTag tags).map trimmed).find? (· ≠ "") := by
  obtain ⟨value, hvalue, hname⟩ := h
  have hfound : (((valuesOf sparedTag tags).map trimmed).find? (· ≠ "")).isSome :=
    List.find?_isSome.mpr ⟨trimmed value, List.mem_map_of_mem hvalue, by simpa using hname⟩
  rw [List.map_append, List.find?_append, Option.or_of_isSome hfound]

theorem find?_append_of_not_hasName {more : List Tag} (h : ¬HasName more)
    (front back : List String) :
    ((front ++ (valuesOf sparedTag more ++ back)).map trimmed).find? (· ≠ "") =
      ((front ++ back).map trimmed).find? (· ≠ "") := by
  have hnone : ((valuesOf sparedTag more).map trimmed).find? (· ≠ "") = none := by
    rw [List.find?_eq_none, List.forall_mem_map]
    intro value hvalue
    simpa using fun hname => h ⟨value, hvalue, hname⟩
  simp only [List.map_append, List.find?_append, hnone, Option.none_or]

theorem acceptedCount?_of_hasCount {scenario : Scenario} (h : HasCount scenario.tags)
    (feature : Option Feature) (more : List Tag) :
    acceptedCount? (offers countTag { scenario with tags := scenario.tags ++ more } feature) =
      (valuesOf countTag scenario.tags).findSome? count? := by
  rw [acceptedCount?_eq, map_value_offers, valuesOf_append, List.append_assoc, h.findSome?_append]

theorem acceptedName?_append {scenario : Scenario} {more : List Tag}
    (h : HasName scenario.tags ∨ ¬HasName more) (feature : Option Feature) :
    acceptedName? (offers sparedTag { scenario with tags := scenario.tags ++ more } feature) =
      acceptedName? (offers sparedTag scenario feature) := by
  simp only [acceptedName?_eq, map_value_offers, valuesOf_append]
  rw [List.append_assoc]
  obtain hname | hnone := h
  · rw [hname.find?_append, hname.find?_append]
  · exact find?_append_of_not_hasName hnone _ _

-- The first accepted count of the scenario, then of its feature, with the first name in the same
-- order. Other tags do not matter.
theorem resolve_isSettled (scenario : Scenario) (feature : Option Feature) :
    @IsSettled ε scenario feature where
  absent := by
    rw [result_resolve, directive?_eq, Except.ok.injEq, Option.map_eq_none_iff, acceptedCount?,
      List.findSome?_eq_none_iff]
  found := by
    intro count hcount
    rw [result_resolve, directive?_eq, hcount, Option.map_some]
  warned := warnings_resolve scenario feature
  framed := by
    intro scenario' feature' htags hfeature
    rw [result_resolve, result_resolve]
    congr 1
    apply directive?_congr
    intro word hword
    rw [htags.valuesOf_eq hword, hfeature.valuesOf_eq hword]
  extended := by
    intro more hcount
    obtain ⟨count, hfound⟩ := Option.isSome_iff_exists.mp hcount.isSome_findSome?
    have hshort := acceptedCount?_of_hasCount hcount feature []
    have hlong := acceptedCount?_of_hasCount hcount feature more
    rw [List.append_nil] at hshort
    simp only [result_resolve, directive?_eq, hlong, hshort, hfound, Option.map_some]
    exact ⟨⟨_, _, rfl, rfl⟩, fun h => by rw [acceptedName?_append h]⟩

def sail : Scenario :=
  { name := "Sail"
    tags := [{ name := "@retry:two" }, { name := "smoke" }, { name := "RetryExcept: " },
      { name := "RETRY: 0 " }, { name := "Retrying:4" }, { name := "RetryExcept: Storm" }] }

def coast : Feature :=
  { name := "Coast", tags := [{ name := "Retry:3" }, { name := "RetryExcept:Fog" }] }

-- The tags of the scenario in another order, with one of no meaning more.
def moored : Scenario :=
  { name := "Moored"
    tags := [{ name := "RetryExcept: " }, { name := "RetryExcept: Storm" }, { name := "slow" },
      { name := "@retry:two" }, { name := "RETRY: 0 " }] }

theorem resolve_isSettled_sail :
    acceptedCount? (offers countTag sail (some coast)) = some 0 ∧
    (resolve sail (some coast) : Run Empty _).result = .ok (some ⟨0, some "Storm"⟩) ∧
    warnings (resolve sail (some coast) : Run Empty _) =
      ["Ignoring @Retry:two on scenario 'Sail': value cannot be parsed",
        "Ignoring @RetryExcept:  on scenario 'Sail': value cannot be parsed"] ∧
    SameDirectives sail.tags moored.tags ∧
    (resolve moored (some coast) : Run Empty _).result = (resolve sail (some coast)).result ∧
    HasCount sail.tags ∧ HasName sail.tags ∧
    (resolve { sail with tags := sail.tags ++ [{ name := "RetryExcept:Rain" }] } (some coast) :
      Run Empty _).result = (resolve sail (some coast)).result := by
  have hsettled := @resolve_isSettled Empty sail (some coast)
  have haccepted : acceptedCount? (offers countTag sail (some coast)) = some 0 := by decide +kernel
  have hname : acceptedName? (offers sparedTag sail (some coast)) = some "Storm" := by
    decide +kernel
  have hsame : SameDirectives sail.tags moored.tags := by
    unfold SameDirectives
    decide +kernel
  have hcount : HasCount sail.tags := ⟨" 0 ", by decide +kernel, by decide +kernel⟩
  have hhas : HasName sail.tags := ⟨" Storm", by decide +kernel, by decide +kernel⟩
  have hresult := hsettled.found 0 haccepted
  rw [hname] at hresult
  exact ⟨haccepted, hresult, hsettled.warned.trans (by decide +kernel), hsame,
    hsettled.framed _ _ hsame fun _ _ => rfl, hcount, hhas,
    (hsettled.extended _ hcount).2 (.inl hhas)⟩

-- A name may still come after an accepted count.
theorem resolve_name_appended :
    let scenario : Scenario := { name := "Sail", tags := [{ name := "Retry:2" }] }
    let longer : Scenario :=
      { scenario with tags := scenario.tags ++ [{ name := "RetryExcept:Storm" }] }
    HasCount scenario.tags ∧ (resolve scenario none : Run Empty _).result = .ok (some ⟨2, none⟩) ∧
    (resolve longer none : Run Empty _).result = .ok (some ⟨2, some "Storm"⟩) := by
  refine ⟨⟨"2", by decide +kernel, by decide +kernel⟩, ?_, ?_⟩
  · rw [result_resolve]
    exact congrArg Except.ok (by decide +kernel)
  · rw [result_resolve]
    exact congrArg Except.ok (by decide +kernel)

end Rehearsal.Retry
