import Rehearsal.Proofs.Code.Nesting

namespace Rehearsal.Code

structure Expr.IsWritable (e : Expr) : Prop where
  renders : ∃ text, e.render = .ok text
  names : ∀ name ∈ e.names, IsIdentifier name

mutual

-- Every expression has a text, and every name is an identifier.
def Stmt.IsWritable : Stmt → Prop
  | .eval value => value.IsWritable
  | .declare _ name init => IsIdentifier name ∧ ∀ e ∈ init, e.IsWritable
  | .assign left right => left.IsWritable ∧ right.IsWritable
  | .loop init test increment body =>
      init.IsWritable ∧ test.IsWritable ∧ increment.IsWritable ∧ Stmt.AreWritable body
  | .guarded body handlers => Stmt.AreWritable body ∧ Handler.AreWritable handlers
  | .branch condition yes no =>
      condition.IsWritable ∧ Stmt.AreWritable yes ∧ Stmt.AreWritable no
  | .leave value => ∀ e ∈ value, e.IsWritable
  | .throw value => ∀ e ∈ value, e.IsWritable
  | .foreign _ => False

def Stmt.AreWritable : List Stmt → Prop
  | [] => True
  | s :: rest => s.IsWritable ∧ Stmt.AreWritable rest

def Handler.IsWritable : Handler → Prop
  | .mk name type body =>
      IsIdentifier name ∧ (∃ t, type = .of t ∧ IsIdentifier t.name) ∧ Stmt.AreWritable body
  | .foreign _ => False

def Handler.AreWritable : List Handler → Prop
  | [] => True
  | h :: rest => h.IsWritable ∧ Handler.AreWritable rest

end

def Expr.text (e : Expr) : String := e.render.toOption.getD ""

-- A missing value is written as null.
def initText (init : Option Expr) : String := (init.map Expr.text).getD "None"

def Slot.typeText (type : Slot TypeRef) : String := (type.value?.map TypeRef.render).getD ""

mutual

-- The lines of a statement and the blocks below them. A loop starts before its heading, and its
-- block ends with the increment.
def Stmt.nesting : Stmt → Nesting
  | .eval value => .single value.text
  | .declare _ name init => .single (safeName name ++ " = " ++ initText init)
  | .assign left right => .single (left.text ++ " = " ++ right.text)
  | .loop init test increment body =>
      init.nesting ++
        .block ("while " ++ test.text ++ ":") (Stmt.nestings body ++ increment.nesting)
  | .guarded body handlers =>
      .cons "try:" (Stmt.nestings body).orPass (Handler.nestings handlers).orRethrow
  | .branch condition yes no =>
      .cons ("if " ++ condition.text ++ ":") (Stmt.nestings yes).orPass (Stmt.nestings no).underElse
  | .leave none => .single "return"
  | .leave (some value) => .single ("return " ++ value.text)
  | .throw none => .single "raise"
  | .throw (some value) => .single ("raise " ++ value.text)
  | .foreign _ => .nil

def Stmt.nestings : List Stmt → Nesting
  | [] => .nil
  | s :: rest => s.nesting ++ Stmt.nestings rest

def Handler.nesting : Handler → Nesting
  | .mk name type body =>
      .block ("except " ++ type.typeText ++ " as " ++ safeName name ++ ":")
        (Stmt.nestings body).orPass
  | .foreign _ => .nil

def Handler.nestings : List Handler → Nesting
  | [] => .nil
  | h :: rest => h.nesting ++ Handler.nestings rest

end

theorem Expr.text_of_render {e : Expr} {text : String} (h : e.render = .ok text) :
    e.text = text := by
  rw [Expr.text, h]
  rfl

theorem Expr.IsWritable.render_eq {e : Expr} (h : e.IsWritable) : e.render = .ok e.text := by
  obtain ⟨text, htext⟩ := h.renders
  rw [Expr.text_of_render htext, htext]

theorem Expr.IsWritable.opens {e : Expr} (h : e.IsWritable) : Opens e.text :=
  (e.opens_ends h.names e.text h.render_eq).1

theorem Expr.IsWritable.ends {e : Expr} (h : e.IsWritable) : Ends e.text :=
  (e.opens_ends h.names e.text h.render_eq).2

theorem renderInit_eq {init : Option Expr} (h : ∀ e ∈ init, e.IsWritable) :
    renderInit init = .ok (initText init) := by
  cases init with
  | none => rfl
  | some e => exact (h e rfl).render_eq

theorem ends_initText {init : Option Expr} (h : ∀ e ∈ init, e.IsWritable) :
    Ends (initText init) := by
  cases init with
  | none => exact ⟨'e', rfl, by decide⟩
  | some e => exact (h e rfl).ends

namespace Nesting

-- A nesting that can stand anywhere among others.
structure IsFree (n : Nesting) : Prop where
  proper : n.IsProper
  start : ¬n.StartsWith .alternative

theorem IsFree.nil : IsFree .nil := ⟨.nil, by simp [StartsWith, first?]⟩

theorem IsFree.append {n m : Nesting} (hn : n.IsFree) (hm : m.IsFree) : (n ++ m).IsFree := by
  refine ⟨hn.proper.append hm.proper hm.start, fun h => ?_⟩
  obtain hfirst | ⟨-, hsecond⟩ := startsWith_append h
  · exact hn.start hfirst
  · exact hm.start hsecond

theorem isFree_single {text : String} (hopens : Opens text) (hends : Ends text) :
    (single text).IsFree := by
  have hnone := heading?_of_ends hends
  have hnil := IsFree.nil
  refine ⟨.cons hopens (by simp [hnone]) hnil.start (by simp [hnone]) ?_ .nil .nil, ?_⟩
  · exact fun h => absurd h hnil.start
  · rw [single, startsWith_cons, hnone]
    simp

theorem isFree_pass : (single "pass").IsFree :=
  isFree_single ⟨'p', rfl, by decide⟩ ⟨'s', rfl, by decide⟩

theorem isFree_raise : (single "raise").IsFree :=
  isFree_single ⟨'r', rfl, by decide⟩ ⟨'e', rfl, by decide⟩

theorem single_ne_nil (text : String) : single text ≠ .nil := by
  simp [single]

theorem IsFree.orPass {n : Nesting} (h : n.IsFree) : n.orPass.IsFree := by
  cases n with
  | nil => exact isFree_pass
  | cons line inner next => exact h

theorem orPass_ne_nil (n : Nesting) : n.orPass ≠ .nil := by
  cases n <;> simp [orPass, single]

-- A heading with its block, in front of what belongs to it.
theorem isProper_heading {text : String} {h : Heading} {inner next : Nesting} (hopens : Opens text)
    (hheading : heading? text = some h) (hinner : inner.IsFree) (hne : inner ≠ .nil)
    (hnext : next.IsProper) (hhandled : h = .attempt → next.StartsWith .handler)
    (hpaired : next.StartsWith .alternative → h = .condition) :
    (Nesting.cons text inner next).IsProper := by
  refine .cons hopens (by simp [hheading, hne]) hinner.start ?_ ?_ hinner.proper hnext
  · intro heq
    exact hhandled (by simpa [hheading] using heq)
  · intro hstart
    rw [hheading, hpaired hstart]

theorem isProper_block {text : String} {h : Heading} {inner : Nesting} (hopens : Opens text)
    (hheading : heading? text = some h) (hinner : inner.IsFree) (hne : inner ≠ .nil)
    (hattempt : h ≠ .attempt) : (block text inner).IsProper :=
  isProper_heading hopens hheading hinner hne .nil (fun heq => absurd heq hattempt)
    (fun hstart => absurd hstart IsFree.nil.start)

theorem IsFree.of_heading {text : String} {h : Heading} {inner next : Nesting}
    (hproper : (Nesting.cons text inner next).IsProper) (hheading : heading? text = some h)
    (hother : h ≠ .alternative) : (Nesting.cons text inner next).IsFree := by
  refine ⟨hproper, ?_⟩
  rw [startsWith_cons, hheading]
  simpa using hother

theorem heading?_try : heading? "try:" = some .attempt := by decide

theorem heading?_else : heading? "else:" = some .alternative := by decide

theorem isFree_rethrow : (block "except Exception:" (single "raise")).IsFree := by
  have hheading : heading? "except Exception:" = some .handler := by decide
  have hblock := isProper_block ⟨'e', rfl, by decide⟩ hheading isFree_raise (single_ne_nil _)
    (by decide)
  exact .of_heading hblock hheading (by decide)

theorem isFree_orRethrow {n : Nesting} (h : n.IsFree) (hstart : n = .nil ∨ n.StartsWith .handler) :
    n.orRethrow.IsFree ∧ n.orRethrow.StartsWith .handler := by
  cases n with
  | nil => exact ⟨isFree_rethrow, startsWith_cons.mpr (by decide)⟩
  | cons line inner next => exact ⟨h, hstart.resolve_left (by simp)⟩

theorem isProper_underElse {n : Nesting} (h : n.IsFree) : n.underElse.IsProper := by
  cases n with
  | nil => exact .nil
  | cons line inner next =>
      exact isProper_block ⟨'e', rfl, by decide⟩ heading?_else h (by simp) (by decide)

theorem append_ne_nil {n m : Nesting} (h : n ≠ .nil ∨ m ≠ .nil) : n ++ m ≠ .nil := by
  cases n <;> simp_all

end Nesting

theorem heading?_while (test : String) : heading? ("while " ++ test ++ ":") = some .repeated := by
  have hword : "while " = Heading.repeated.word ++ " " := by decide
  rw [hword, heading?_of_word]

theorem heading?_if (test : String) : heading? ("if " ++ test ++ ":") = some .condition := by
  have hword : "if " = Heading.condition.word ++ " " := by decide
  rw [hword, heading?_of_word]

theorem heading?_except (type name : String) :
    heading? ("except " ++ type ++ " as " ++ name ++ ":") = some .handler := by
  have hword : "except " = Heading.handler.word ++ " " := by decide
  have hrest := heading?_of_word .handler (type ++ " as " ++ name)
  rw [hword]
  simpa only [String.append_assoc] using hrest

mutual

-- What is written for a statement can stand anywhere, and something is written.
theorem Stmt.isFree_nesting : (s : Stmt) → s.IsWritable → s.nesting.IsFree ∧ s.nesting ≠ .nil
  | .eval value, h => ⟨Nesting.isFree_single h.opens h.ends, Nesting.single_ne_nil _⟩
  | .declare _ name init, h => by
      refine ⟨Nesting.isFree_single ?_ ?_, Nesting.single_ne_nil _⟩
      · exact (h.1.opens_safeName.append " = ").append _
      · exact (ends_initText h.2).append _
  | .assign left right, h => by
      refine ⟨Nesting.isFree_single ?_ ?_, Nesting.single_ne_nil _⟩
      · exact (h.1.opens.append " = ").append _
      · exact h.2.ends.append _
  | .loop init test increment body, h => by
      obtain ⟨hinit, htest, hincrement, hbody⟩ := h
      obtain ⟨hfirst, hne⟩ := init.isFree_nesting hinit
      obtain ⟨hlast, hlastNe⟩ := increment.isFree_nesting hincrement
      have hblock := Nesting.isProper_block
        (Opens.append (Opens.append ⟨'w', rfl, by decide⟩ _) ":") (heading?_while test.text)
        ((Stmt.isFree_nestings body hbody).append hlast) (Nesting.append_ne_nil (.inr hlastNe))
        (by decide)
      exact ⟨hfirst.append (.of_heading hblock (heading?_while test.text) (by decide)),
        Nesting.append_ne_nil (.inl hne)⟩
  | .guarded body handlers, h => by
      obtain ⟨hhandlers, hstart⟩ := Handler.isFree_nestings handlers h.2
      obtain ⟨hclauses, hfirst⟩ := Nesting.isFree_orRethrow hhandlers hstart
      have hblock := Nesting.isProper_heading ⟨'t', rfl, by decide⟩ Nesting.heading?_try
        (Stmt.isFree_nestings body h.1).orPass (Nesting.orPass_ne_nil _) hclauses.proper
        (fun _ => hfirst) (fun halternative => absurd halternative hclauses.start)
      exact ⟨.of_heading hblock Nesting.heading?_try (by decide), by simp [Stmt.nesting]⟩
  | .branch condition yes no, h => by
      obtain ⟨-, hyes, hno⟩ := h
      have hblock := Nesting.isProper_heading
        (Opens.append (Opens.append ⟨'i', rfl, by decide⟩ _) ":") (heading?_if condition.text)
        (Stmt.isFree_nestings yes hyes).orPass (Nesting.orPass_ne_nil _)
        (Nesting.isProper_underElse (Stmt.isFree_nestings no hno)) (by simp) (fun _ => rfl)
      exact ⟨.of_heading hblock (heading?_if condition.text) (by decide), by simp [Stmt.nesting]⟩
  | .leave none, _ =>
      ⟨Nesting.isFree_single ⟨'r', rfl, by decide⟩ ⟨'n', rfl, by decide⟩, Nesting.single_ne_nil _⟩
  | .leave (some value), h => by
      refine ⟨Nesting.isFree_single ?_ ((h value rfl).ends.append _), Nesting.single_ne_nil _⟩
      exact Opens.append ⟨'r', rfl, by decide⟩ _
  | .throw none, _ => ⟨Nesting.isFree_raise, Nesting.single_ne_nil _⟩
  | .throw (some value), h => by
      refine ⟨Nesting.isFree_single ?_ ((h value rfl).ends.append _), Nesting.single_ne_nil _⟩
      exact Opens.append ⟨'r', rfl, by decide⟩ _

theorem Stmt.isFree_nestings : (ss : List Stmt) → Stmt.AreWritable ss → (Stmt.nestings ss).IsFree
  | [], _ => .nil
  | s :: rest, h => (s.isFree_nesting h.1).1.append (Stmt.isFree_nestings rest h.2)

theorem Handler.isFree_nesting : (handler : Handler) → handler.IsWritable →
    handler.nesting.IsFree ∧ handler.nesting.StartsWith .handler
  | .mk name type body, h => by
      have hheading := heading?_except type.typeText (safeName name)
      have hopens : Opens "except " := ⟨'e', rfl, by decide⟩
      have hblock := Nesting.isProper_block
        ((((hopens.append _).append " as ").append _).append ":") hheading
        (Stmt.isFree_nestings body h.2.2).orPass (Nesting.orPass_ne_nil _) (by decide)
      exact ⟨.of_heading hblock hheading (by decide), Nesting.startsWith_cons.mpr hheading⟩

theorem Handler.isFree_nestings : (handlers : List Handler) → Handler.AreWritable handlers →
    (Handler.nestings handlers).IsFree ∧
      (Handler.nestings handlers = .nil ∨ (Handler.nestings handlers).StartsWith .handler)
  | [], _ => ⟨.nil, .inl rfl⟩
  | handler :: rest, h => by
      obtain ⟨hfree, hstart⟩ := handler.isFree_nesting h.1
      exact ⟨hfree.append (Handler.isFree_nestings rest h.2).1, .inr (hstart.append _)⟩

end

-- The lines of a nesting as they stand in a text.
def Nesting.lines (unit : String) (n : Nesting) : List String := (n.placed 0).map (·.line unit)

namespace Nesting

variable {unit : String} {n : Nesting}

@[simp] theorem lines_nil : lines unit .nil = [] := rfl

@[simp] theorem lines_append (unit : String) (n m : Nesting) :
    (n ++ m).lines unit = n.lines unit ++ m.lines unit := by
  simp [lines]

theorem lines_single (unit text : String) : (single text).lines unit = [text] := by
  simp [lines, single, placed, Placed.line, margin]

theorem lines_cons (text : String) (next : Nesting) (h : n.IsFree) :
    (Nesting.cons text n next).lines unit =
      text :: (indented unit (n.lines unit) ++ next.lines unit) := by
  have hline : Placed.line unit ⟨0, text⟩ = text := String.empty_append
  rw [lines, placed, List.map_cons, List.map_append, hline, lines,
    indented_placed unit (h.proper.opens 0), lines]

theorem lines_block (text : String) (h : n.IsFree) :
    (block text n).lines unit = text :: indented unit (n.lines unit) := by
  rw [block, lines_cons text .nil h, lines_nil, List.append_nil]

theorem lines_eq_nil : n.lines unit = [] ↔ n = .nil := by
  cases n <;> simp [lines, placed]

theorem lines_orPass (unit : String) (n : Nesting) :
    n.orPass.lines unit = Code.orPass (n.lines unit) := by
  cases n with
  | nil => exact lines_single unit "pass"
  | cons line inner next => simp [Nesting.orPass, Code.orPass, lines_eq_nil]

end Nesting

-- Only where there are no handlers is the exception passed on.
theorem Handler.lines_orRethrow (unit : String) {handlers : List Handler}
    (h : Handler.AreWritable handlers) :
    (Handler.nestings handlers).orRethrow.lines unit = (Handler.nestings handlers).lines unit ++
      if handlers.isEmpty then ["except Exception:", unit ++ "raise"] else [] := by
  cases handlers with
  | nil =>
      simp [Handler.nestings, Nesting.orRethrow, Nesting.lines_block _ Nesting.isFree_raise,
        Nesting.lines_single, indented]
  | cons handler rest =>
      obtain ⟨line, inner, next, hcons, -⟩ := (handler.isFree_nesting h.1).2.exists_cons
      simp [Handler.nestings, hcons, Nesting.orRethrow]

theorem Stmt.lines_underElse (unit : String) {ss : List Stmt} (h : Stmt.AreWritable ss) :
    (Stmt.nestings ss).underElse.lines unit =
      if ss.isEmpty then [] else "else:" :: indented unit ((Stmt.nestings ss).lines unit) := by
  have hfree := Stmt.isFree_nestings ss h
  cases ss with
  | nil => rfl
  | cons s rest =>
      have hne := Nesting.append_ne_nil (.inl (s.isFree_nesting h.1).2) (m := Stmt.nestings rest)
      rw [Stmt.nestings] at hfree ⊢
      cases hlines : s.nesting ++ Stmt.nestings rest with
      | nil => exact absurd hlines hne
      | cons line inner next =>
          rw [hlines] at hfree
          exact Nesting.lines_block "else:" hfree

mutual

theorem Stmt.render_eq_lines (unit : String) : (s : Stmt) → s.IsWritable →
    s.render unit = .ok (s.nesting.lines unit)
  | .eval value, h => by
      rw [Stmt.render, Stmt.nesting, Expr.IsWritable.render_eq h, Nesting.lines_single]
      rfl
  | .declare _ name init, h => by
      rw [Stmt.render, Stmt.nesting, renderInit_eq h.2, Nesting.lines_single]
      rfl
  | .assign left right, h => by
      rw [Stmt.render, Stmt.nesting, h.1.render_eq, h.2.render_eq, Nesting.lines_single]
      rfl
  | .loop init test increment body, h => by
      obtain ⟨hinit, htest, hincrement, hbody⟩ := h
      have hblock := (Stmt.isFree_nestings body hbody).append (increment.isFree_nesting hincrement).1
      rw [Stmt.render, Stmt.renderAll_eq_lines unit body hbody,
        increment.render_eq_lines unit hincrement, init.render_eq_lines unit hinit,
        htest.render_eq, Stmt.nesting, Nesting.lines_append, Nesting.lines_block _ hblock,
        Nesting.lines_append]
      rfl
  | .guarded body handlers, h => by
      have hbody := (Stmt.isFree_nestings body h.1).orPass
      rw [Stmt.render, Stmt.renderAll_eq_lines unit body h.1,
        Handler.renderAll_eq_lines unit handlers h.2, Stmt.nesting, Nesting.lines_cons _ _ hbody,
        Nesting.lines_orPass, Handler.lines_orRethrow unit h.2, ← List.append_assoc]
      rfl
  | .branch condition yes no, h => by
      obtain ⟨hcondition, hyes, hno⟩ := h
      have hfirst := (Stmt.isFree_nestings yes hyes).orPass
      rw [Stmt.render, hcondition.render_eq, Stmt.renderAll_eq_lines unit yes hyes,
        Stmt.renderAll_eq_lines unit no hno, Stmt.nesting, Nesting.lines_cons _ _ hfirst,
        Nesting.lines_orPass, Stmt.lines_underElse unit hno]
      rfl
  | .leave none, _ => by rw [Stmt.render, Stmt.nesting, Nesting.lines_single]
  | .leave (some value), h => by
      rw [Stmt.render, Stmt.nesting, (h value rfl).render_eq, Nesting.lines_single]
      rfl
  | .throw none, _ => by rw [Stmt.render, Stmt.nesting, Nesting.lines_single]
  | .throw (some value), h => by
      rw [Stmt.render, Stmt.nesting, (h value rfl).render_eq, Nesting.lines_single]
      rfl

theorem Stmt.renderAll_eq_lines (unit : String) : (ss : List Stmt) → Stmt.AreWritable ss →
    Stmt.renderAll unit ss = .ok ((Stmt.nestings ss).lines unit)
  | [], _ => rfl
  | s :: rest, h => by
      rw [Stmt.renderAll, s.render_eq_lines unit h.1, Stmt.renderAll_eq_lines unit rest h.2,
        Stmt.nestings, Nesting.lines_append]
      rfl

theorem Handler.render_eq_lines (unit : String) : (handler : Handler) → handler.IsWritable →
    handler.render unit = .ok (handler.nesting.lines unit)
  | .mk name type body, h => by
      obtain ⟨-, ⟨t, rfl, -⟩, hbody⟩ := h
      have hblock := (Stmt.isFree_nestings body hbody).orPass
      rw [Handler.render, Stmt.renderAll_eq_lines unit body hbody, Handler.nesting,
        Nesting.lines_block _ hblock, Nesting.lines_orPass]
      rfl

theorem Handler.renderAll_eq_lines (unit : String) : (handlers : List Handler) →
    Handler.AreWritable handlers →
    Handler.renderAll unit handlers = .ok ((Handler.nestings handlers).lines unit)
  | [], _ => rfl
  | handler :: rest, h => by
      rw [Handler.renderAll, handler.render_eq_lines unit h.1,
        Handler.renderAll_eq_lines unit rest h.2, Handler.nestings, Nesting.lines_append]
      rfl

end

-- The rendered lines are well nested, and grouped by their depth they are the statements.
theorem Stmt.renderAll_wellNested {unit : String} (hunit : unit ≠ "")
    (hblank : ∀ c ∈ unit.toList, Text.isBlank c) {ss : List Stmt} (h : Stmt.AreWritable ss) :
    ∃ lines, Stmt.renderAll unit ss = .ok lines ∧
      (∀ line ∈ lines, Placed.indentation line =
        (List.replicate (Placed.ofLine unit line).depth unit.toList).flatten) ∧
      IsWellNested (lines.map (Placed.ofLine unit)) ∧
      grouped (lines.map (Placed.ofLine unit)) = Stmt.nestings ss := by
  have hfree := Stmt.isFree_nestings ss h
  have hopens := hfree.proper.opens 0
  have hplaced : ((Stmt.nestings ss).lines unit).map (Placed.ofLine unit) =
      (Stmt.nestings ss).placed 0 := by
    rw [Nesting.lines, List.map_map]
    exact (List.map_congr_left fun p hp => Placed.ofLine_line hunit hblank (hopens p hp)).trans
      (List.map_id _)
  refine ⟨_, Stmt.renderAll_eq_lines unit ss h, ?_, ?_, ?_⟩
  · intro line hline
    obtain ⟨p, hp, rfl⟩ := List.mem_map.mp hline
    rw [Placed.ofLine_line hunit hblank (hopens p hp), ← toList_margin]
    exact (Placed.toList_line hblank (hopens p hp)).1
  · rw [hplaced]
    exact hfree.proper.isWellNested hfree.start
  · rw [hplaced, Nesting.grouped_placed]

-- A loop over all the other ways to open a block, with blocks left empty.
def drill : List Stmt :=
  let count : Expr := .var "count"
  [.loop (.declare (.of ⟨"int", 0⟩) "count" (some (.literal (.int 0))))
    (.binary count .atMost (.literal (.int 2)))
    (.assign count (.binary count .plus (.literal (.int 1))))
    [.guarded [] [],
     .branch (.binary count .equals (.literal (.int 1))) [] [.eval (.call .this "rest" [])],
     .guarded [.throw (some (.var "fault"))] [.mk "error" (.of ⟨"Exception", 0⟩) []]],
   .leave none]

theorem areWritable_drill : Stmt.AreWritable drill := by
  have hzero : Expr.IsWritable (.literal (.int 0)) := ⟨⟨"0", rfl⟩, by decide⟩
  have htest : Expr.IsWritable (.binary (.var "count") .atMost (.literal (.int 2))) :=
    ⟨⟨"count <= 2", rfl⟩, by decide⟩
  have hcount : Expr.IsWritable (.var "count") := ⟨⟨"count", rfl⟩, by decide⟩
  have hnext : Expr.IsWritable (.binary (.var "count") .plus (.literal (.int 1))) :=
    ⟨⟨"count + 1", rfl⟩, by decide⟩
  have hfirst : Expr.IsWritable (.binary (.var "count") .equals (.literal (.int 1))) :=
    ⟨⟨"count == 1", rfl⟩, by decide⟩
  have hrest : Expr.IsWritable (.call .this "rest" []) := ⟨⟨"self.rest()", rfl⟩, by decide⟩
  have hfault : Expr.IsWritable (.var "fault") := ⟨⟨"fault", rfl⟩, by decide⟩
  have hname : IsIdentifier "count" ∧ IsIdentifier "error" ∧ IsIdentifier "Exception" := by decide
  simp [drill, Stmt.AreWritable, Stmt.IsWritable, Handler.AreWritable, Handler.IsWritable, *]

theorem Stmt.renderAll_wellNested_drill :
    Stmt.renderAll "  " drill = .ok
      ["count = 0",
       "while count <= 2:",
       "  try:",
       "    pass",
       "  except Exception:",
       "    raise",
       "  if count == 1:",
       "    pass",
       "  else:",
       "    self.rest()",
       "  try:",
       "    raise fault",
       "  except Exception as error:",
       "    pass",
       "  count = count + 1",
       "return"] ∧
      ∃ lines, Stmt.renderAll "  " drill = .ok lines ∧
        IsWellNested (lines.map (Placed.ofLine "  ")) ∧
        grouped (lines.map (Placed.ofLine "  ")) = Stmt.nestings drill := by
  have hunit : "  " ≠ "" := by decide
  obtain ⟨lines, hlines, -, hnested, hgrouped⟩ :=
    Stmt.renderAll_wellNested hunit (List.all_eq_true.mp rfl) areWritable_drill
  exact ⟨by rfl, lines, hlines, hnested, hgrouped⟩

end Rehearsal.Code
