import Mathlib.Data.List.Forall2
import Rehearsal.Log.Basic

namespace Rehearsal

variable {ε δ α β : Type}

namespace Result

theorem bind_eq_ok {x : Except ε α} {f : α → Except ε β} {b : β} :
    x >>= f = .ok b ↔ ∃ a, x = .ok a ∧ f a = .ok b := by
  cases x <;> simp [bind, Except.bind]

theorem bind_eq_error {x : Except ε α} {f : α → Except ε β} {e : ε} :
    x >>= f = .error e ↔ x = .error e ∨ ∃ a, x = .ok a ∧ f a = .error e := by
  cases x <;> simp [bind, Except.bind]

theorem bind_fails {x : Except ε α} {f : α → Except ε β}
    (h : (∃ e, x = .error e) ∨ ∀ a, ∃ e, f a = .error e) : ∃ e, x >>= f = .error e := by
  cases x with
  | error e => exact ⟨e, rfl⟩
  | ok a =>
      obtain ⟨e, hfault⟩ | hall := h
      · cases hfault
      · exact hall a

theorem mapError_eq_ok {f : ε → δ} {x : Except ε α} {a : α} :
    x.mapError f = .ok a ↔ x = .ok a := by
  cases x <;> simp [Except.mapError]

-- A traversal has a result where each step has one.
theorem mapM_eq_some {f : α → Option β} {as : List α} {bs : List β} :
    as.mapM f = some bs ↔ List.Forall₂ (fun a b => f a = some b) as bs := by
  induction as generalizing bs with
  | nil => cases bs <;> simp
  | cons a rest ih =>
      simp only [List.mapM_cons, Option.bind_eq_bind, Option.bind_eq_some_iff, ih,
        List.forall₂_cons_left_iff, Option.pure_def, Option.some.injEq]
      constructor
      · rintro ⟨b, hb, others, hothers, rfl⟩
        exact ⟨b, others, hb, hothers, rfl⟩
      · rintro ⟨b, others, hb, hothers, rfl⟩
        exact ⟨b, hb, others, hothers, rfl⟩

theorem exists_of_mem_mapM {f : α → Option β} {as : List α} {bs : List β} (h : as.mapM f = some bs)
    {b : β} (hb : b ∈ bs) : ∃ a ∈ as, f a = some b := by
  rw [mapM_eq_some] at h
  induction h with
  | nil => cases hb
  | cons hfirst _ ih =>
      rw [List.exists_mem_cons_iff]
      obtain rfl | hrest := List.mem_cons.mp hb
      · exact .inl hfirst
      · exact .inr (ih hrest)

theorem mapM_eq_none {f : α → Option β} {as : List α} :
    as.mapM f = none ↔ ∃ a ∈ as, f a = none := by
  induction as with
  | nil => simp
  | cons a rest ih =>
      rw [List.mapM_cons, List.exists_mem_cons_iff, ← ih]
      cases f a <;> cases rest.mapM f <;> simp

theorem mapM_congr {f g : α → Option β} {as : List α} (h : ∀ a ∈ as, f a = g a) :
    as.mapM f = as.mapM g := by
  induction as with
  | nil => rfl
  | cons a rest ih =>
      rw [List.forall_mem_cons] at h
      rw [List.mapM_cons, List.mapM_cons, h.1, ih h.2]

-- A traversal fails where one of its steps does.
theorem exists_of_mapM_eq_error {f : α → Except ε β} {as : List α} {e : ε}
    (h : as.mapM f = .error e) : ∃ a ∈ as, f a = .error e := by
  induction as with
  | nil => cases h
  | cons a rest ih =>
      rw [List.exists_mem_cons_iff]
      rw [List.mapM_cons, bind_eq_error] at h
      obtain hfirst | ⟨b, -, h⟩ := h
      · exact .inl hfirst
      · obtain hrest | ⟨bs, -, h⟩ := bind_eq_error.mp h
        · exact .inr (ih hrest)
        · cases h

theorem mapM_fails {f : α → Except ε β} {as : List α} {a : α} (ha : a ∈ as)
    (h : ∃ e, f a = .error e) : ∃ e, as.mapM f = .error e := by
  induction as with
  | nil => cases ha
  | cons first rest ih =>
      rw [List.mapM_cons]
      obtain rfl | hrest := List.mem_cons.mp ha
      · exact bind_fails (.inl h)
      · exact bind_fails (.inr fun _ => bind_fails (.inl (ih hrest)))

end Result

namespace Run

-- What a computation comes to does not depend on what it logs.
@[simp] theorem result_bind (x : Run ε α) (f : α → Run ε β) :
    (x >>= f).result = x.result.bind fun a => (f a).result := by
  rcases x with ⟨log, _ | a⟩ <;> rfl

@[simp] theorem result_map (f : α → β) (x : Run ε α) :
    (f <$> x).result = x.result.map f := by
  rcases x with ⟨log, _ | a⟩ <;> rfl

@[simp] theorem result_fail (e : ε) : (fail e : Run ε α).result = .error e := rfl

@[simp] theorem result_ofExcept (result : Except ε α) : (ofExcept result).result = result := rfl

@[simp] theorem result_debug (text : String) : (debug text : Run ε Unit).result = .ok () := rfl

@[simp] theorem result_info (text : String) : (info text : Run ε Unit).result = .ok () := rfl

@[simp] theorem result_warn (text : String) : (warn text : Run ε Unit).result = .ok () := rfl

@[simp] theorem result_mapError (f : ε → δ) (x : Run ε α) :
    (x.mapError f).result = x.result.mapError f := rfl

@[simp] theorem log_warn (text : String) : (warn text : Run ε Unit).log = [⟨.warning, text⟩] := rfl

@[simp] theorem log_debug (text : String) : (debug text : Run ε Unit).log = [⟨.debug, text⟩] := rfl

theorem log_bind_of_ok {x : Run ε α} {a : α} (h : x.result = .ok a) (f : α → Run ε β) :
    (x >>= f).log = x.log ++ (f a).log := by
  rcases x with ⟨log, _ | b⟩ <;> cases h
  rfl

theorem log_bind_of_error {x : Run ε α} {e : ε} (h : x.result = .error e) (f : α → Run ε β) :
    (x >>= f).log = x.log := by
  rcases x with ⟨log, _ | a⟩ <;> cases h
  rfl

-- A warning that may or may not come first changes nothing.
theorem result_warn_or (c : Prop) [Decidable c] (text : String) (x : Run ε α) :
    (if c then warn text >>= fun _ => x else x).result = x.result := by
  by_cases h : c <;> simp [h, Except.bind]

theorem bind_eq_ok {x : Run ε α} {f : α → Run ε β} {b : β} :
    (x >>= f).result = .ok b ↔ ∃ a, x.result = .ok a ∧ (f a).result = .ok b := by
  rw [result_bind]
  exact Result.bind_eq_ok

theorem mapError_eq_ok {f : ε → δ} {x : Run ε α} {a : α} :
    (x.mapError f).result = .ok a ↔ x.result = .ok a :=
  Result.mapError_eq_ok

-- A traversal succeeds where each step does.
theorem mapM_eq_ok {f : α → Run ε β} {as : List α} {bs : List β} :
    (as.mapM f).result = .ok bs ↔ List.Forall₂ (fun a b => (f a).result = .ok b) as bs := by
  induction as generalizing bs with
  | nil => cases bs <;> simp
  | cons a rest ih =>
      simp only [List.mapM_cons, bind_eq_ok, ih, List.forall₂_cons_left_iff]
      constructor
      · rintro ⟨b, hb, others, hothers, heq⟩
        simp only [result_pure, Except.ok.injEq] at heq
        exact ⟨b, others, hb, hothers, heq.symm⟩
      · rintro ⟨b, others, hb, hothers, rfl⟩
        exact ⟨b, hb, others, hothers, rfl⟩

theorem result_mapM {f : α → Run ε β} {g : α → β} (h : ∀ a, (f a).result = .ok (g a))
    (as : List α) : (as.mapM f).result = .ok (as.map g) := by
  rw [mapM_eq_ok, List.forall₂_map_right_iff, List.forall₂_same]
  exact fun a _ => h a

-- Nothing that is logged is an error.
def IsCalm (x : Run ε α) : Prop := ∀ entry ∈ x.log, entry.level ≠ .error

theorem isCalm_pure (a : α) : (pure a : Run ε α).IsCalm := List.forall_mem_nil _

theorem isCalm_ofExcept (result : Except ε α) : (ofExcept result).IsCalm := List.forall_mem_nil _

theorem isCalm_tell {level : Level} (h : level ≠ .error) (text : String) :
    (tell level text : Run ε Unit).IsCalm :=
  List.forall_mem_singleton.mpr h

theorem IsCalm.mapError {x : Run ε α} (h : x.IsCalm) (f : ε → δ) : (x.mapError f).IsCalm := h

theorem IsCalm.bind {x : Run ε α} {f : α → Run ε β} (hx : x.IsCalm) (hf : ∀ a, (f a).IsCalm) :
    (x >>= f).IsCalm := by
  obtain ⟨log, _ | a⟩ := x
  · exact hx
  · exact List.forall_mem_append.mpr ⟨hx, hf a⟩

end Run

end Rehearsal
