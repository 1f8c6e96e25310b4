import Rehearsal.Feature.Reader

namespace Rehearsal

theorem eq_ok_of_map {ε α β : Type} {f : α → β} {x : Except ε α} {b : β} (h : x.map f = .ok b) :
    ∃ a, x = .ok a ∧ f a = b := by
  cases x with
  | error e => cases h
  | ok a => exact ⟨a, rfl, Except.ok.inj h⟩

theorem forall_mem_some {α : Type} {P : α → Prop} {a : α} (h : P a) : ∀ b ∈ some a, P b := by
  rintro _ ⟨⟩
  exact h

namespace Feature

-- What steps belong to.
inductive Element where
  | background (value : Background)
  | scenario (value : Scenario)

namespace Element

def steps : Element → List Step
  | .background value => value.steps
  | .scenario value => value.steps

def description : Element → String
  | .background value => value.description
  | .scenario value => value.description

def withSteps (steps : List Step) : Element → Element
  | .background value => .background { value with steps }
  | .scenario value => .scenario { value with steps }

def withDescription (description : String) : Element → Element
  | .background value => .background { value with description }
  | .scenario value => .scenario { value with description }

@[simp] theorem steps_withSteps (steps : List Step) (e : Element) :
    (e.withSteps steps).steps = steps := by
  cases e <;> rfl

@[simp] theorem withSteps_withSteps (earlier steps : List Step) (e : Element) :
    (e.withSteps earlier).withSteps steps = e.withSteps steps := by
  cases e <;> rfl

@[simp] theorem description_withDescription (description : String) (e : Element) :
    (e.withDescription description).description = description := by
  cases e <;> rfl

@[simp] theorem withDescription_withDescription (earlier description : String) (e : Element) :
    (e.withDescription earlier).withDescription description = e.withDescription description := by
  cases e <;> rfl

theorem withSteps_withDescription (description : String) (steps : List Step) (e : Element) :
    (e.withDescription description).withSteps steps =
      (e.withSteps steps).withDescription description := by
  cases e <;> rfl

end Element

-- The feature after an element was opened. A background is opened before there are scenarios.
def opened (feature : Feature) : Element → Feature
  | .background value => { feature with background := some value, scenarios := [] }
  | .scenario value => { feature with scenarios := feature.scenarios ++ [value] }

theorem currentSteps_opened (feature : Feature) (e : Element) :
    (feature.opened e).currentSteps = e.steps := by
  cases e <;> simp [opened, currentSteps, Element.steps]

theorem updateSteps_opened (change : List Step → List Step) (feature : Feature) (e : Element) :
    (feature.opened e).updateSteps change = feature.opened (e.withSteps (change e.steps)) := by
  cases e <;> simp [opened, updateSteps, Element.steps, Element.withSteps]

theorem describeElement_opened (line : String) (feature : Feature) (e : Element) :
    (feature.opened e).describeElement line =
      feature.opened (e.withDescription (extended e.description line)) := by
  cases e <;> simp [opened, describeElement, Element.description, Element.withDescription]

theorem updateExamples_opened (change : List Examples → List Examples) (feature : Feature)
    (s : Scenario) :
    (feature.opened (.scenario s)).updateExamples change =
      feature.opened (.scenario { s with examples := change s.examples }) := by
  simp [opened, updateExamples]

theorem currentExamples?_opened (feature : Feature) (s : Scenario) :
    (feature.opened (.scenario s)).currentExamples? = s.examples.getLast? := by
  simp [opened, currentExamples?]

end Feature

namespace Reading

theorem readAll_append (r : Reading) (n : Nat) (front back : List (List Char)) :
    r.readAll n (front ++ back) =
      (r.readAll n front).bind fun r' => r'.readAll (n + front.length) back := by
  induction front generalizing r n with
  | nil => rfl
  | cons line rest ih =>
      rw [List.cons_append, readAll, readAll, List.length_cons]
      cases r.next n line with
      | error fault => rfl
      | ok s => simp only [ih, Nat.add_assoc, Nat.add_comm 1]

-- Reading a block of lines that starts at line n takes every reading of the first kind to one of
-- the second kind.
def Reads (n : Nat) (P : Reading → Prop) (block : List (List Char)) (Q : Reading → Prop) : Prop :=
  ∀ r, P r → ∃ r', r.readAll n block = .ok r' ∧ Q r'

variable {n : Nat} {P Q R : Reading → Prop}

theorem Reads.nil (h : ∀ r, P r → Q r) : Reads n P [] Q := fun r hr => ⟨r, rfl, h r hr⟩

theorem Reads.append {front back : List (List Char)} (hfront : Reads n P front Q)
    (hback : Reads (n + front.length) Q back R) : Reads n P (front ++ back) R := by
  intro r hr
  obtain ⟨r', hread, hr'⟩ := hfront r hr
  rw [readAll_append, hread]
  exact hback r' hr'

theorem Reads.cons {line : List Char} {rest : List (List Char)} (hline : Reads n P [line] Q)
    (hrest : Reads (n + 1) Q rest R) : Reads n P (line :: rest) R :=
  hline.append hrest

theorem Reads.weaken {block : List (List Char)} (h : Reads n P block Q) (hQ : ∀ r, Q r → R r) :
    Reads n P block R := by
  intro r hr
  obtain ⟨r', hread, hr'⟩ := h r hr
  exact ⟨r', hread, hQ r' hr'⟩

-- One line outside of doc strings.
theorem Reads.line {line : List Char} {kind : Line} (hline : Line.ofChars line = kind)
    (h : ∀ r, P r → r.fence = none ∧ ∃ r', r.takeLine n line kind = .ok r' ∧ Q r') :
    Reads n P [line] Q := by
  intro r hr
  obtain ⟨hfence, r', htake, hr'⟩ := h r hr
  exact ⟨r', by simp [readAll, next, hfence, hline, htake], hr'⟩

end Reading

end Rehearsal
