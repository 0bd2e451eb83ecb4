/-
# The layout of a statement

A second description of a statement, in two passes.  The first one lays it out as text and open
slots, without any numbers; the second one numbers the slots from left to right and writes their
placeholders.  The binds are the values in the slots, in order.
-/
import QueryChain.Statement

namespace QueryChain

/-! ## Pieces -/

/-- A piece of a layout: text that is written as it stands, or a slot. -/
inductive Piece (σ : Type) where
  | text (s : String)
  | slot (v : σ)
  deriving DecidableEq, Repr

/-- A piece with something else in its slot. -/
def Piece.map {σ τ : Type} (f : σ → τ) : Piece σ → Piece τ
  | text s => .text s
  | slot v => .slot (f v)

/-- A statement before its slots are numbered. -/
abbrev Layout (σ : Type) := List (Piece σ)

namespace Layout

variable {σ τ : Type}

/-- What is in the slots, from left to right. -/
def slots : Layout σ → List σ
  | [] => []
  | .text _ :: rest => slots rest
  | .slot v :: rest => v :: slots rest

/-- Every slot with its number; `taken` numbers are given away before. -/
def number (taken : Nat) : Layout σ → Layout (Nat × σ)
  | [] => []
  | .text s :: rest => .text s :: number taken rest
  | .slot v :: rest => .slot (taken + 1, v) :: number (taken + 1) rest

/-- The text, with every slot written by `write`. -/
def print (write : σ → String) : Layout σ → String
  | [] => ""
  | .text s :: rest => s ++ print write rest
  | .slot v :: rest => write v ++ print write rest

/-- The slots of what stands further left come first. -/
@[simp]
theorem slots_append (l l' : Layout σ) : slots (l ++ l') = slots l ++ slots l' := by
  induction l with
  | nil => rfl
  | cons p rest ih => cases p <;> simp [slots, ih]

/-- The slots of what stands further right go on counting. -/
theorem number_append (taken : Nat) (l l' : Layout σ) :
    number taken (l ++ l') = number taken l ++ number (taken + (slots l).length) l' := by
  induction l generalizing taken with
  | nil => rfl
  | cons p rest ih =>
    cases p with
    | text s => simp [number, slots, ih]
    | slot v =>
      -- The slot takes a number itself, so what follows counts on from one more.
      simp only [List.cons_append, number, slots, List.length_cons, ih]
      rw [Nat.add_right_comm, Nat.add_assoc]

/-- Two layouts are written one after the other. -/
@[simp]
theorem print_append (write : σ → String) (l l' : Layout σ) :
    print write (l ++ l') = print write l ++ print write l' := by
  induction l with
  | nil => simp [print]
  | cons p rest ih => cases p <;> simp [print, ih, String.append_assoc]

/-- Numbering does not look into the slots. -/
theorem number_map (f : σ → τ) (taken : Nat) (l : Layout σ) :
    number taken (l.map (Piece.map f)) = (number taken l).map (Piece.map (Prod.map id f)) := by
  induction l generalizing taken with
  | nil => rfl
  | cons p rest ih => cases p <;> simp [number, Piece.map, ih]

/-- With more numbers given away before, every number is higher by as much. -/
theorem number_add (taken raised : Nat) (l : Layout σ) :
    number (taken + raised) l = (number taken l).map (Piece.map (Prod.map (· + raised) id)) := by
  induction l generalizing taken with
  | nil => rfl
  | cons p rest ih =>
    cases p with
    | text s => simp [number, Piece.map, ih]
    | slot v => simp [number, Piece.map, Nat.add_right_comm taken raised 1, ih]

/-- What is put into the slots is what is in them afterwards. -/
theorem slots_map (f : σ → τ) (l : Layout σ) : slots (l.map (Piece.map f)) = (slots l).map f := by
  induction l with
  | nil => rfl
  | cons p rest ih => cases p <;> simp [slots, Piece.map, ih]

/-- Writing what was put into the slots is writing the layout in another way. -/
theorem print_map (write : τ → String) (f : σ → τ) (l : Layout σ) :
    print write (l.map (Piece.map f)) = print (write ∘ f) l := by
  induction l with
  | nil => rfl
  | cons p rest ih => cases p <;> simp [print, Piece.map, ih]

end Layout

/-! ## Numbered statements -/

/-- A number is written in digits. -/
theorem isDigit_of_mem_toString {n : Nat} {c : Char} (h : c ∈ (toString n).toList) :
    c.isDigit = true :=
  Nat.isDigit_of_mem_toDigits (b := 10) (n := n) (by decide) (by decide) (by simpa [Nat.repr] using h)

/-- The placeholder for a numbered value. -/
def numberedPlaceholder (dialect : Dialect) : Nat × Value → String
  | (index, .numeric _) => dialect.numericPlaceholder index
  | (index, _) => dialect.placeholder index

/-- A placeholder is a question mark, or else its number behind a dollar sign, perhaps with a cast. -/
theorem numberedPlaceholder_cases (dialect : Dialect) (p : Nat × Value) :
    numberedPlaceholder dialect p = "?" ∨ ∃ cast ∈ ["", "::numeric"],
      numberedPlaceholder dialect p = "$" ++ toString p.1 ++ cast := by
  obtain ⟨index, v⟩ := p
  have hplain : dialect.placeholder index = "?" ∨ ∃ cast ∈ ["", "::numeric"],
      dialect.placeholder index = "$" ++ toString index ++ cast := by
    unfold Dialect.placeholder
    split
    · exact .inr ⟨"", List.mem_cons_self, String.append_empty.symm⟩
    · exact .inl rfl
  cases v with
  | numeric digits =>
    show dialect.numericPlaceholder index = "?" ∨ ∃ cast ∈ ["", "::numeric"],
      dialect.numericPlaceholder index = "$" ++ toString index ++ cast
    unfold Dialect.numericPlaceholder
    split
    · rename_i hnumbered
      refine .inr ⟨"::numeric", List.mem_cons_of_mem _ List.mem_cons_self, ?_⟩
      rw [Dialect.placeholder, if_pos hnumbered]
    · exact hplain
  | _ => exact hplain

namespace Layout

/-- The text of a layout behind `taken` binds. -/
def sql (dialect : Dialect) (taken : Nat) (l : Layout Value) : String :=
  print (numberedPlaceholder dialect) (number taken l)

/-- The statement with a layout. -/
def statement (dialect : Dialect) (l : Layout Value) : Statement :=
  ⟨l.sql dialect 0, l.slots⟩

/-- What stands further right is written with the numbers that are left. -/
theorem sql_append (dialect : Dialect) (taken : Nat) (l l' : Layout Value) :
    sql dialect taken (l ++ l') = sql dialect taken l ++ sql dialect (taken + (slots l).length) l' := by
  rw [sql, number_append, print_append, sql, sql]

/-- Text is written as it stands. -/
@[simp]
theorem sql_text_cons (dialect : Dialect) (taken : Nat) (s : String) (l : Layout Value) :
    sql dialect taken (.text s :: l) = s ++ sql dialect taken l := rfl

/-- Nothing is written for an empty layout. -/
@[simp]
theorem sql_nil (dialect : Dialect) (taken : Nat) : sql dialect taken [] = "" := rfl

/-- A slot is written with the next number. -/
theorem sql_slot_cons (dialect : Dialect) (taken : Nat) (v : Value) (l : Layout Value) :
    sql dialect taken (.slot v :: l)
      = numberedPlaceholder dialect (taken + 1, v) ++ sql dialect (taken + 1) l := rfl

/-- The placeholder of a slot carries the place of its value among the binds. -/
theorem statement_slot (dialect : Dialect) (before after : Layout Value) (v : Value) :
    let index := before.slots.length + 1
    (statement dialect (before ++ .slot v :: after)).binds[index - 1]? = some v ∧
      (statement dialect (before ++ .slot v :: after)).sql
        = sql dialect 0 before ++ numberedPlaceholder dialect (index, v)
          ++ sql dialect index after := by
  refine ⟨?_, ?_⟩
  · simp [statement, slots]
  · simp [statement, sql_append, sql_slot_cons, String.append_assoc]

end Layout

/-! ## Layouts of values -/

mutual

/-- The layout of a value: nothing to bind is the text `NULL`, a list is its elements one after
the other, and everything else is one slot. -/
def Value.layout : Value → Layout Value
  | .null => [.text "NULL"]
  | .list items =>
      if items.isEmpty then [.text "NULL"]
      else [.text ", "].intercalate (Value.layouts items)
  | v => [.slot v]

/-- The layout of each value. -/
def Value.layouts : List Value → List (Layout Value)
  | [] => []
  | v :: rest => v.layout :: Value.layouts rest

end

/-- The layouts of a list are those of its elements. -/
theorem Value.layouts_eq_map (items : List Value) : Value.layouts items = items.map Value.layout := by
  induction items with
  | nil => rfl
  | cons v rest ih => rw [Value.layouts, ih, List.map_cons]

/-- A separated list is its head with the separator before everything else. -/
theorem intercalate_cons {α : Type} (sep head : List α) (rest : List (List α)) :
    sep.intercalate (head :: rest) = head ++ rest.flatMap (sep ++ ·) := by
  induction rest generalizing head with
  | nil => simp
  | cons next rest ih => rw [List.intercalate_cons_cons, ih, List.flatMap_cons]; simp

/-- Mapping a separated list maps its parts and the separator. -/
theorem map_intercalate {α β : Type} (f : α → β) (sep : List α) (parts : List (List α)) :
    (sep.intercalate parts).map f = (sep.map f).intercalate (parts.map (List.map f)) := by
  cases parts with
  | nil => rfl
  | cons head rest =>
    rw [intercalate_cons, List.map_cons, intercalate_cons]
    simp [List.map_flatMap, List.flatMap_map]

/-- What is in a separated list is in the separator or in one of the parts. -/
theorem mem_of_mem_intercalate {α : Type} {sep : List α} {parts : List (List α)} {a : α}
    (h : a ∈ sep.intercalate parts) : a ∈ sep ∨ ∃ part ∈ parts, a ∈ part := by
  cases parts with
  | nil => cases h
  | cons head rest =>
    rw [intercalate_cons, List.mem_append] at h
    rcases h with hhead | hrest
    · exact .inr ⟨head, List.mem_cons_self, hhead⟩
    · obtain ⟨part, hpart, ha⟩ := List.mem_flatMap.mp hrest
      rcases List.mem_append.mp ha with hsep | ha
      · exact .inl hsep
      · exact .inr ⟨part, List.mem_cons_of_mem head hpart, ha⟩

mutual

/-- The texts in the layout of a value are `NULL` and commas. -/
theorem Value.eq_of_text_mem_layout :
    ∀ (v : Value) {s : String}, .text s ∈ v.layout → s = "NULL" ∨ s = ", "
  | .null, _, h => .inl (Piece.text.inj (List.mem_singleton.mp h))
  | .list [], _, h => .inl (Piece.text.inj (List.mem_singleton.mp h))
  | .list (item :: items), s, h => by
    rw [layout, if_neg (by simp)] at h
    rcases mem_of_mem_intercalate h with hsep | ⟨l, hl, hs⟩
    · exact .inr (Piece.text.inj (List.mem_singleton.mp hsep))
    · exact eq_of_text_mem_layouts (item :: items) hl hs
  | .bool _, _, h | .int _, _, h | .uint _, _, h | .float _, _, h | .text _, _, h | .bytes _, _, h
  | .numeric _, _, h | .uuid _, _, h | .timestamp _, _, h | .naiveTimestamp _, _, h | .date _, _, h
  | .time _, _, h | .offsetDateTime _, _, h | .primitiveDateTime _, _, h | .timeDate _, _, h
  | .timeOfDay _, _, h | .decimal _, _, h => nomatch List.mem_singleton.mp h

/-- Likewise for the elements of a list. -/
theorem Value.eq_of_text_mem_layouts :
    ∀ (items : List Value) {l : Layout Value} {s : String}, l ∈ Value.layouts items →
      .text s ∈ l → s = "NULL" ∨ s = ", "
  | [], _, _, hl, _ => nomatch hl
  | v :: rest, l, s, hl, hs => by
    rw [layouts] at hl
    rcases List.mem_cons.mp hl with rfl | hl
    · exact eq_of_text_mem_layout v hs
    · exact eq_of_text_mem_layouts rest hl hs

end

namespace Layout

/-- Separators take no slots. -/
theorem slots_intercalate {σ : Type} (sep : String) (ls : List (Layout σ)) :
    slots ([.text sep].intercalate ls) = ls.flatMap slots := by
  -- Behind the head, a separator stands before every part, and it is only text.
  have hflat : ∀ rest : List (Layout σ),
      slots (rest.flatMap ([.text sep] ++ ·)) = rest.flatMap slots := by
    intro rest
    induction rest with
    | nil => rfl
    | cons l rest ih => rw [List.flatMap_cons, slots_append, ih, List.flatMap_cons]; rfl
  cases ls with
  | nil => rfl
  | cons head rest => rw [intercalate_cons, slots_append, hflat, List.flatMap_cons]

/-- The texts of layouts that follow one another, behind `taken` binds. -/
def sqls (dialect : Dialect) : Nat → List (Layout Value) → List String
  | _, [] => []
  | taken, l :: rest => l.sql dialect taken :: sqls dialect (taken + l.slots.length) rest

/-- Every layout has its text. -/
@[simp]
theorem length_sqls (dialect : Dialect) (taken : Nat) (ls : List (Layout Value)) :
    (sqls dialect taken ls).length = ls.length := by
  induction ls generalizing taken with
  | nil => rfl
  | cons l rest ih => rw [sqls, List.length_cons, ih, List.length_cons]

/-- Layouts that stand further right go on counting. -/
theorem sqls_append (dialect : Dialect) (taken : Nat) (ls ls' : List (Layout Value)) :
    sqls dialect taken (ls ++ ls')
      = sqls dialect taken ls ++ sqls dialect (taken + (ls.flatMap slots).length) ls' := by
  induction ls generalizing taken with
  | nil => rfl
  | cons l rest ih =>
    rw [List.cons_append, sqls, ih, sqls, List.cons_append, List.flatMap_cons, List.length_append,
      Nat.add_assoc]

/-- Separated layouts are written as their texts with the separator between them. -/
theorem sql_intercalate (dialect : Dialect) (sep : String) (taken : Nat)
    (ls : List (Layout Value)) :
    sql dialect taken ([.text sep].intercalate ls) = sep.intercalate (sqls dialect taken ls) := by
  induction ls generalizing taken with
  | nil => rfl
  | cons l rest ih =>
    cases rest with
    | nil => rw [List.intercalate_singleton, sqls, sqls, String.intercalate_singleton]
    | cons next rest =>
      have htexts : sqls dialect (taken + l.slots.length) (next :: rest) ≠ [] := nofun
      rw [List.intercalate_cons_cons, sqls, String.intercalate_cons_of_ne_nil htexts, ← ih,
        List.append_assoc, sql_append, String.append_assoc]
      rfl

end Layout

/-! ## Leaves of values -/

mutual

/-- The values inside a value that are bound: lists are opened, and absent values left out. -/
def Value.leaves : Value → List Value
  | .null => []
  | .list items => Value.leavesOfAll items
  | v => [v]

/-- The bound values of a list, element by element. -/
def Value.leavesOfAll : List Value → List Value
  | [] => []
  | v :: rest => v.leaves ++ Value.leavesOfAll rest

end

mutual

/-- The slots of a value hold its leaves. -/
theorem Value.slots_layout : ∀ v : Value, v.layout.slots = v.leaves
  | .null => rfl
  | .list [] => rfl
  | .list (item :: items) => by
    rw [layout, if_neg (by simp), Layout.slots_intercalate, slots_layouts, leaves]
  | .bool _ | .int _ | .uint _ | .float _ | .text _ | .bytes _ | .numeric _ | .uuid _
  | .timestamp _ | .naiveTimestamp _ | .date _ | .time _ | .offsetDateTime _
  | .primitiveDateTime _ | .timeDate _ | .timeOfDay _ | .decimal _ => rfl

/-- Likewise for the elements of a list. -/
theorem Value.slots_layouts :
    ∀ items : List Value, (Value.layouts items).flatMap Layout.slots = Value.leavesOfAll items
  | [] => rfl
  | v :: rest => by
    rw [layouts, List.flatMap_cons, slots_layout v, slots_layouts rest, leavesOfAll]

end

/-! ## Filled marks -/

/-- Texts with layouts between them. -/
def fillMarks {σ : Type} : List (List Char) → List (Layout σ) → Layout σ
  | [], _ => []
  | [last], _ => [.text (String.ofList last)]
  | part :: next :: parts, [] => .text (String.ofList part) :: fillMarks (next :: parts) []
  | part :: next :: parts, l :: ls =>
      .text (String.ofList part) :: l ++ fillMarks (next :: parts) ls

/-! ## Layouts of conditions and assignments -/

/-- The layout of a clause: each question mark gives way to the layout of its value. -/
def Clause.layout (dialect : Dialect) (c : Clause) : Layout Value :=
  fillMarks (splitAtMarks (· == '?') (c.sql dialect).toList) (c.args.map Value.layout)

/-- The layout of a clause, in parentheses if there are several. -/
def Clause.groupLayout (dialect : Dialect) (several : Bool) (c : Clause) : Layout Value :=
  if several then .text "(" :: c.layout dialect ++ [.text ")"] else c.layout dialect

/-- The layout of the conditions. -/
def whereLayout (dialect : Dialect) (clauses : List Clause) : Layout Value :=
  if clauses.isEmpty then []
  else .text " WHERE " ::
    [.text " AND "].intercalate (clauses.map (Clause.groupLayout dialect (1 < clauses.length)))

/-- The layout of one assignment. -/
def assignmentLayout (dialect : Dialect) (assignment : String × Value) : Layout Value :=
  .text (dialect.quoteIdent assignment.1 ++ " = ") :: assignment.2.layout

/-- The layout of all assignments. -/
def assignmentsLayout (dialect : Dialect) (assignments : List (String × Value)) : Layout Value :=
  [.text ", "].intercalate (assignments.map (assignmentLayout dialect))

/-- The slots of assignments hold the leaves of the assigned values. -/
theorem slots_assignmentsLayout (dialect : Dialect) (assignments : List (String × Value)) :
    (assignmentsLayout dialect assignments).slots = assignments.flatMap (·.2.leaves) := by
  rw [assignmentsLayout, Layout.slots_intercalate, List.flatMap_map]
  congr 1
  funext a
  exact a.2.slots_layout

/-! ## Layouts of statements -/

/-- What is asked of a scope, with everything that the statement says besides. -/
inductive Request where
  | select (columns : List String) (limit : Option Nat)
  | count
  | delete
  | update (assignments : List (String × Value))
  deriving Repr

namespace Request

/-- The statement that is asked for. -/
def statement (dialect : Dialect) (s : Scope) : Request → Except RenderError Statement
  | select columns limit => Statement.select dialect s columns limit
  | count => Statement.count dialect s
  | delete => Statement.delete dialect s
  | update assignments => Statement.update dialect s assignments

/-- The layout of the statement: table, columns, order and pagination are plain text, and only
an update has slots outside of its conditions. -/
def layout (dialect : Dialect) (s : Scope) (r : Request) : Layout Value :=
  let table := dialect.quoteIdent s.table
  let conditions := whereLayout dialect s.conditions
  match r with
  | select columns limit =>
      .text ("SELECT " ++ selectedColumns dialect columns ++ " FROM " ++ table) :: conditions
        ++ [.text (orderText dialect s.orders),
            .text (paginationText dialect (limit.or s.limit) s.offset)]
  | count => .text ("SELECT COUNT(*) FROM " ++ table) :: conditions
  | delete => .text ("DELETE FROM " ++ table) :: conditions
  | update assignments =>
      .text ("UPDATE " ++ table ++ " SET ") :: assignmentsLayout dialect assignments
        ++ conditions

end Request

end QueryChain
