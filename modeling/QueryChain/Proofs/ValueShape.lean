/-
# Values do not reach the text

The shape of a value is all that shows of it in a statement: whether there is anything to bind,
whether it is a number bound as text, and the shapes of its elements.  Two runs whose values have
the same shapes end alike, whatever the values are.
-/
import QueryChain.Proofs.Drafting
import Mathlib.Data.List.Forall2

namespace QueryChain

/-! ## Shapes -/

/-- The shape of a value. -/
inductive ValueShape where
  | absent
  | number
  | single
  | several (items : List ValueShape)
  deriving Repr

mutual

/-- The shape of a value; unless numbers are `typed`, one that is bound as text is like any other
single value. -/
def Value.shape (typed : Bool) : Value → ValueShape
  | .null => .absent
  | .list items => .several (Value.shapes typed items)
  | .numeric _ => if typed then .number else .single
  | _ => .single

/-- The shape of each value. -/
def Value.shapes (typed : Bool) : List Value → List ValueShape
  | [] => []
  | v :: rest => v.shape typed :: Value.shapes typed rest

end

mutual

/-- The layout of a shape. -/
def ValueShape.layout : ValueShape → Layout ValueShape
  | .absent => [.text "NULL"]
  | .several items =>
      if items.isEmpty then [.text "NULL"]
      else [.text ", "].intercalate (ValueShape.layouts items)
  | shape => [.slot shape]

/-- The layout of each shape. -/
def ValueShape.layouts : List ValueShape → List (Layout ValueShape)
  | [] => []
  | shape :: rest => shape.layout :: ValueShape.layouts rest

end

/-- A layout with shapes for its values. -/
def Layout.outline (typed : Bool) (l : Layout Value) : Layout ValueShape :=
  l.map (Piece.map (Value.shape typed))

mutual

/-- The outline of a value's layout is the layout of its shape. -/
theorem Value.outline_layout (typed : Bool) :
    ∀ v : Value, v.layout.outline typed = (v.shape typed).layout
  | .null => rfl
  | .list [] => by simp [layout, shape, shapes, ValueShape.layout, Layout.outline, Piece.map]
  | .list (item :: items) => by
    rw [layout, if_neg (by simp), shape, shapes, ValueShape.layout, if_neg (by simp), Layout.outline]
    rw [map_intercalate, ← shapes, ← outline_layouts]
    rfl
  | .numeric _ => by cases typed <;> rfl
  | .bool _ | .int _ | .uint _ | .float _ | .text _ | .bytes _ | .uuid _
  | .timestamp _ | .naiveTimestamp _ | .date _ | .time _ | .offsetDateTime _
  | .primitiveDateTime _ | .timeDate _ | .timeOfDay _ | .decimal _ => rfl

/-- Likewise for each value of a list. -/
theorem Value.outline_layouts (typed : Bool) :
    ∀ items : List Value, (Value.layouts items).map (Layout.outline typed)
      = ValueShape.layouts (Value.shapes typed items)
  | [] => rfl
  | v :: rest => by
    rw [layouts, shapes, List.map_cons, ValueShape.layouts, outline_layout typed v,
      outline_layouts typed rest]

end

/-! ## Agreement -/

/-- Two values of one shape. -/
def Value.SameShape (typed : Bool) (v w : Value) : Prop :=
  v.shape typed = w.shape typed

/-- Two clauses that differ at most in what their values are. -/
structure Clause.SameShape (typed : Bool) (c c' : Clause) : Prop where
  condition : c.condition = c'.condition
  args : List.Forall₂ (Value.SameShape typed) c.args c'.args

/-- Two scopes that differ at most in what their values are. -/
structure Scope.SameShape (typed : Bool) (s s' : Scope) : Prop where
  table : s.table = s'.table
  conditions : List.Forall₂ (Clause.SameShape typed) s.conditions s'.conditions
  orders : s.orders = s'.orders
  preloads : s.preloads = s'.preloads
  limit : s.limit = s'.limit
  offset : s.offset = s'.offset

/-- Two requests that differ at most in what the assigned values are. -/
inductive Request.SameShape (typed : Bool) : Request → Request → Prop
  | select (columns : List String) (limit : Option Nat) :
      SameShape typed (.select columns limit) (.select columns limit)
  | count : SameShape typed .count .count
  | delete : SameShape typed .delete .delete
  | update {assignments assignments' : List (String × Value)}
      (same : List.Forall₂ (fun a a' => a.1 = a'.1 ∧ a.2.SameShape typed a'.2)
        assignments assignments') :
      SameShape typed (.update assignments) (.update assignments')

/-- Two runs that fail alike, or write one text with binds of the same shapes. -/
inductive SameOutcome (typed : Bool) :
    Except RenderError Statement → Except RenderError Statement → Prop
  | failed (error : RenderError) : SameOutcome typed (.error error) (.error error)
  | written {st st' : Statement} (sql : st.sql = st'.sql)
      (binds : List.Forall₂ (Value.SameShape typed) st.binds st'.binds) :
      SameOutcome typed (.ok st) (.ok st')

/-- Lists agree in an image if their elements do. -/
theorem map_eq_map_iff_forall₂ {α β : Type} (f : α → β) (xs ys : List α) :
    xs.map f = ys.map f ↔ List.Forall₂ (fun x y => f x = f y) xs ys := by
  rw [← List.forall₂_eq_eq_eq, List.forall₂_map_left_iff, List.forall₂_map_right_iff]

/-! ## Outlines of statements -/

/-- Filled marks have the outlines of what fills them. -/
theorem outline_fillMarks (typed : Bool) (parts : List (List Char)) (ls : List (Layout Value)) :
    (fillMarks parts ls).outline typed = fillMarks parts (ls.map (Layout.outline typed)) := by
  induction parts generalizing ls with
  | nil => rfl
  | cons part rest ih =>
    cases rest with
    | nil => rfl
    | cons next rest =>
      cases ls with
      | nil =>
        rw [List.map_nil, fillMarks, fillMarks, Layout.outline, List.map_cons, ← Layout.outline, ih]
        rfl
      | cons l ls =>
        rw [List.map_cons, fillMarks, fillMarks, Layout.outline, List.cons_append, List.map_cons,
          List.map_append, ← Layout.outline, ← Layout.outline, ih]
        rfl

/-- Clauses that agree have one outline. -/
theorem Clause.SameShape.outline_layout {typed : Bool} {c c' : Clause} (h : c.SameShape typed c')
    (dialect : Dialect) : (c.layout dialect).outline typed = (c'.layout dialect).outline typed := by
  have hsql : c.sql dialect = c'.sql dialect := congrArg (Condition.sql dialect) h.condition
  have hargs : c.args.map (Value.shape typed) = c'.args.map (Value.shape typed) :=
    (map_eq_map_iff_forall₂ _ _ _).mpr h.args
  have hlayouts : ∀ args : List Value, (args.map Value.layout).map (Layout.outline typed)
      = (args.map (Value.shape typed)).map ValueShape.layout := by
    intro args
    rw [List.map_map, List.map_map]
    exact List.map_congr_left fun v _ => v.outline_layout typed
  rw [Clause.layout, Clause.layout, outline_fillMarks, outline_fillMarks, hlayouts, hlayouts, hsql,
    hargs]

/-- In parentheses or not, clauses that agree have one outline. -/
theorem Clause.SameShape.outline_groupLayout {typed : Bool} {c c' : Clause}
    (h : c.SameShape typed c') (dialect : Dialect) (several : Bool) :
    (c.groupLayout dialect several).outline typed
      = (c'.groupLayout dialect several).outline typed := by
  have hlayout := h.outline_layout dialect
  unfold Layout.outline at hlayout ⊢
  cases several with
  | false => simpa [Clause.groupLayout] using hlayout
  | true => simp [Clause.groupLayout, hlayout]

/-- Conditions that agree have one outline. -/
theorem outline_whereLayout {typed : Bool} {cs cs' : List Clause}
    (h : List.Forall₂ (Clause.SameShape typed) cs cs') (dialect : Dialect) :
    (whereLayout dialect cs).outline typed = (whereLayout dialect cs').outline typed := by
  have hlength : cs.length = cs'.length := h.length_eq
  have hempty : cs.isEmpty = cs'.isEmpty := by cases h <;> rfl
  have hgroups : ∀ several, cs.map (fun c => (c.groupLayout dialect several).outline typed)
      = cs'.map (fun c => (c.groupLayout dialect several).outline typed) := by
    intro several
    rw [map_eq_map_iff_forall₂]
    exact h.imp fun c c' hc => hc.outline_groupLayout dialect several
  unfold whereLayout
  rw [hempty, hlength]
  split
  · rfl
  · rw [Layout.outline, Layout.outline, List.map_cons, List.map_cons, map_intercalate,
      map_intercalate, List.map_map, List.map_map]
    congr 2
    exact hgroups _

/-- Assignments that agree have one outline. -/
theorem outline_assignmentsLayout {typed : Bool} {assignments assignments' : List (String × Value)}
    (h : List.Forall₂ (fun a a' => a.1 = a'.1 ∧ a.2.SameShape typed a'.2) assignments assignments')
    (dialect : Dialect) :
    (assignmentsLayout dialect assignments).outline typed
      = (assignmentsLayout dialect assignments').outline typed := by
  have hone : ∀ a a' : String × Value, a.1 = a'.1 ∧ a.2.SameShape typed a'.2 →
      (assignmentLayout dialect a).outline typed = (assignmentLayout dialect a').outline typed := by
    rintro ⟨column, v⟩ ⟨column', v'⟩ ⟨rfl, hv⟩
    have hlayout : v.layout.outline typed = v'.layout.outline typed := by
      rw [Value.outline_layout, Value.outline_layout, show v.shape typed = v'.shape typed from hv]
    exact congrArg (Piece.text _ :: ·) hlayout
  rw [assignmentsLayout, assignmentsLayout, Layout.outline, Layout.outline, map_intercalate,
    map_intercalate, List.map_map, List.map_map]
  congr 1
  rw [map_eq_map_iff_forall₂]
  exact h.imp hone

/-- Requests that agree on scopes that agree have one outline. -/
theorem outline_layout_request {typed : Bool} {s s' : Scope} {r r' : Request}
    (hs : s.SameShape typed s') (hr : r.SameShape typed r') (dialect : Dialect) :
    (r.layout dialect s).outline typed = (r'.layout dialect s').outline typed := by
  have hwhere := outline_whereLayout hs.conditions dialect
  unfold Layout.outline at hwhere ⊢
  cases hr with
  | select columns limit =>
    simp [Request.layout, hs.table, hs.orders, hs.limit, hs.offset, hwhere]
  | count => simp [Request.layout, hs.table, hwhere]
  | delete => simp [Request.layout, hs.table, hwhere]
  | update same =>
    have hassign := outline_assignmentsLayout same dialect
    unfold Layout.outline at hassign
    simp [Request.layout, hs.table, hwhere, hassign]

/-! ## Text and binds from the outline -/

/-- The placeholder for a numbered shape. -/
def shapePlaceholder (dialect : Dialect) : Nat × ValueShape → String
  | (index, .number) => dialect.numericPlaceholder index
  | (index, _) => dialect.placeholder index

/-- The shape of a value decides on its placeholder, if numbers are told apart where the dialect
does. -/
theorem numberedPlaceholder_eq_shapePlaceholder {dialect : Dialect} {typed : Bool}
    (h : typed = true ∨ dialect.isNumbered = false) (index : Nat) (v : Value) :
    numberedPlaceholder dialect (index, v) = shapePlaceholder dialect (index, v.shape typed) := by
  cases v with
  | numeric digits =>
    cases typed with
    | true => rfl
    | false =>
      -- Such a number looks like any other value, but so does its placeholder.
      have hplain : dialect.isNumbered = false := by simpa using h
      show dialect.numericPlaceholder index = dialect.placeholder index
      rw [Dialect.numericPlaceholder, hplain]
      rfl
  | _ => rfl

/-- The text of a layout is a matter of its outline. -/
theorem sql_eq_print_outline {dialect : Dialect} {typed : Bool}
    (h : typed = true ∨ dialect.isNumbered = false) (taken : Nat) (l : Layout Value) :
    l.sql dialect taken
      = Layout.print (shapePlaceholder dialect) (Layout.number taken (l.outline typed)) := by
  rw [Layout.outline, Layout.number_map, Layout.print_map, Layout.sql]
  congr 1
  funext p
  obtain ⟨index, v⟩ := p
  exact numberedPlaceholder_eq_shapePlaceholder h index v

/-- Layouts with one outline give statements with one text and binds of the same shapes. -/
theorem sameOutcome_of_outline {dialect : Dialect} {typed : Bool}
    (h : typed = true ∨ dialect.isNumbered = false) {l l' : Layout Value}
    (hl : l.outline typed = l'.outline typed) :
    SameOutcome typed (.ok (l.statement dialect)) (.ok (l'.statement dialect)) := by
  refine .written ?_ ?_
  · show l.sql dialect 0 = l'.sql dialect 0
    rw [sql_eq_print_outline h, sql_eq_print_outline h, hl]
  · show List.Forall₂ (Value.SameShape typed) l.slots l'.slots
    unfold Value.SameShape
    rw [← map_eq_map_iff_forall₂, ← Layout.slots_map, ← Layout.slots_map]
    exact congrArg Layout.slots hl

/-! ## Checks -/

/-- Clauses that agree are refused alike. -/
theorem Clause.SameShape.check_eq {typed : Bool} {c c' : Clause} (h : c.SameShape typed c')
    (dialect : Dialect) : c.check dialect = c'.check dialect := by
  have hsql : c.sql dialect = c'.sql dialect := congrArg (Condition.sql dialect) h.condition
  rw [Clause.check, Clause.check, hsql, h.args.length_eq]

/-- Conditions that agree are refused alike. -/
theorem checkClauses_eq_of_sameShape {typed : Bool} {cs cs' : List Clause}
    (h : List.Forall₂ (Clause.SameShape typed) cs cs') (dialect : Dialect) :
    checkClauses dialect cs = checkClauses dialect cs' := by
  induction h with
  | nil => rfl
  | cons hc _ ih => rw [checkClauses, checkClauses, hc.check_eq dialect, ih]

/-- Requests that agree on scopes that agree are refused alike. -/
theorem Request.SameShape.check_eq {typed : Bool} {s s' : Scope} {r r' : Request}
    (hr : r.SameShape typed r') (hs : s.SameShape typed s') (dialect : Dialect) :
    r.check dialect s = r'.check dialect s' := by
  have hclauses := checkClauses_eq_of_sameShape hs.conditions dialect
  cases hr with
  | update same =>
    -- Without assignments both runs are refused before any clause is looked at.
    cases same with
    | nil => rfl
    | cons _ _ => exact hclauses
  | _ => exact hclauses

/-! ## Two runs -/

/-- Two runs that differ at most in their values end alike. -/
theorem Request.SameShape.sameOutcome {dialect : Dialect} {typed : Bool}
    (h : typed = true ∨ dialect.isNumbered = false) {s s' : Scope} {r r' : Request}
    (hs : s.SameShape typed s') (hr : r.SameShape typed r') :
    SameOutcome typed (r.statement dialect s) (r'.statement dialect s') := by
  rw [Request.statement_eq_map, Request.statement_eq_map, hr.check_eq hs dialect]
  cases r'.check dialect s' with
  | error e => exact .failed e
  | ok u => exact sameOutcome_of_outline h (outline_layout_request hs hr dialect)

/-! ## Main statement -/

/-- **No injection through values.** Two runs that differ at most in values of equal shapes fail
with one error, or they write one text and bind as many values of the same shapes.  Where
placeholders are not numbered, a number may even take the place of any other single value. -/
theorem outcome_independent_of_values (dialect : Dialect) (s s' : Scope) (r r' : Request) :
    (s.SameShape true s' → r.SameShape true r' →
      SameOutcome true (r.statement dialect s) (r'.statement dialect s')) ∧
    (dialect = .mysql ∨ dialect = .sqlite → s.SameShape false s' → r.SameShape false r' →
      SameOutcome false (r.statement dialect s) (r'.statement dialect s')) := by
  constructor
  · intro hs hr
    exact hr.sameOutcome (Or.inl rfl) hs
  · intro hdialect hs hr
    have hplain : dialect.isNumbered = false := by
      rcases hdialect with rfl | rfl <;> rfl
    exact hr.sameOutcome (Or.inr hplain) hs

/-- A scope with conditions on two values. -/
def twoValueScope (name codes : Value) : Scope where
  table := "users"
  conditions := [⟨.column "name" "= ?", [name]⟩, ⟨.raw "code IN (?)", [codes]⟩]

/-- Text with quotes, question marks and placeholders is bound like any other, and without numbers
a text like a number. -/
theorem outcome_independent_of_hostile_values :
    ((Request.update [("note", .text "x")]).statement .postgres
        (twoValueScope (.text "ann") (.list [.int 1, .null, .numeric "2"]))
      = .ok ⟨"UPDATE \"users\" SET \"note\" = $1 WHERE (\"name\" = $2) AND (code IN ($3, NULL, $4::numeric))",
          [.text "x", .text "ann", .int 1, .numeric "2"]⟩ ∧
      SameOutcome true
        ((Request.update [("note", .text "x")]).statement .postgres
          (twoValueScope (.text "ann") (.list [.int 1, .null, .numeric "2"])))
        ((Request.update [("note", .text "$2, ?")]).statement .postgres
          (twoValueScope (.text "' OR 1 = 1 --") (.list [.text "?", .null, .numeric "0.5"])))) ∧
    (Request.delete.statement .mysql (twoValueScope (.numeric "2") (.list []))
      = .ok ⟨"DELETE FROM `users` WHERE (`name` = ?) AND (code IN (NULL))", [.numeric "2"]⟩ ∧
      SameOutcome false
        (Request.delete.statement .mysql (twoValueScope (.numeric "2") (.list [])))
        (Request.delete.statement .mysql (twoValueScope (.text "` ?") (.list [])))) := by
  refine ⟨⟨rfl, ?_⟩, rfl, ?_⟩
  · refine (outcome_independent_of_values .postgres _ _ _ _).1 ?_ ?_
    · exact ⟨rfl, .cons ⟨rfl, .cons rfl .nil⟩ (.cons ⟨rfl, .cons rfl .nil⟩ .nil), rfl, rfl, rfl, rfl⟩
    · exact .update (.cons ⟨rfl, rfl⟩ .nil)
  · refine (outcome_independent_of_values .mysql _ _ _ _).2 (Or.inl rfl) ?_ .delete
    exact ⟨rfl, .cons ⟨rfl, .cons rfl .nil⟩ (.cons ⟨rfl, .cons rfl .nil⟩ .nil), rfl, rfl, rfl, rfl⟩

end QueryChain
