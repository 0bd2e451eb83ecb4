/-
# When generated filters can be written

A generated filter has a value for each question mark of its test.  Its marks are counted in the
whole text, though, and the quoted column is a part of that text.  So it can be written exactly if
there is no question mark in the name of its column; quoting keeps all of them.
-/
import QueryChain.Builder.Call
import QueryChain.Builder.Expansion
import QueryChain.Proofs.ChainedScope
import QueryChain.Proofs.Drafting

namespace QueryChain

/-! ## Characters of a quoted name -/

/-- The parts between marks have all characters but the marks. -/
theorem count_flatten_splitAtMarks {isMark : Char → Bool} {a : Char} (ha : isMark a = false)
    (cs : List Char) : (splitAtMarks isMark cs).flatten.count a = cs.count a := by
  induction cs with
  | nil => rfl
  | cons c rest ih =>
    obtain ⟨part, parts, hsplit⟩ := List.exists_cons_of_ne_nil (splitAtMarks_ne_nil isMark rest)
    rw [hsplit] at ih
    by_cases hc : isMark c = true
    · have hne : c ≠ a := by
        rintro rfl
        rw [hc] at ha
        cases ha
      rw [splitAtMarks, if_pos hc, hsplit, List.count_cons_of_ne hne]
      exact ih
    · rw [splitAtMarks, if_neg hc, hsplit, List.count_cons, ← ih]
      exact List.count_cons

/-- Separated parts have their own characters and those of the separator. -/
theorem count_intercalate_of_ne {a sep : Char} (ha : sep ≠ a) (parts : List (List Char)) :
    ([sep].intercalate parts).count a = parts.flatten.count a := by
  induction parts with
  | nil => rfl
  | cons part rest ih =>
    cases rest with
    | nil => simp
    | cons next rest =>
      rw [List.intercalate_cons_cons, List.flatten_cons, List.count_append, List.count_append,
        List.count_append, ih, List.count_singleton]
      simp [ha]

namespace Dialect

/-- Quoting a part adds nothing but quotes. -/
theorem count_quotePart {q a : Char} (ha : q ≠ a) (part : List Char) :
    (quotePart q part).count a = part.count a := by
  have hinside : (part.flatMap fun c => if c = q then [q, q] else [c]).count a = part.count a := by
    induction part with
    | nil => rfl
    | cons c rest ih =>
      rw [List.flatMap_cons, List.count_append, ih]
      by_cases hc : c = q
      · subst hc
        simp [List.count_cons_of_ne ha]
      · simp [hc, List.count_cons, Nat.add_comm]
  rw [quotePart, List.cons_append, List.count_cons_of_ne ha, List.count_append, hinside,
    List.count_singleton]
  simp [ha]

/-- A quoted name has as many question marks as the name. -/
theorem count_quoteIdent (d : Dialect) (name : String) :
    (d.quoteIdent name).toList.count '?' = name.toList.count '?' := by
  have hquote : d.quote ≠ '?' := by cases d <;> decide
  have hparts : ∀ parts : List (List Char),
      (parts.map (quotePart d.quote)).flatten.count '?' = parts.flatten.count '?' := by
    intro parts
    induction parts with
    | nil => rfl
    | cons part rest ih =>
      rw [List.map_cons, List.flatten_cons, List.flatten_cons, List.count_append,
        List.count_append, count_quotePart hquote, ih]
  rw [quoteIdent, String.toList_ofList, count_intercalate_of_ne (by decide), hparts, pathParts,
    count_flatten_splitAtMarks (by decide)]

/-- So there is none if the name has none. -/
theorem not_mem_quoteIdent (d : Dialect) {name : String} (h : '?' ∉ name.toList) :
    '?' ∉ (d.quoteIdent name).toList := by
  rw [← List.count_eq_zero, count_quoteIdent]
  exact List.count_eq_zero.mpr h

end Dialect

/-! ## Clauses on a column -/

section

variable {dialect : Dialect} {name test : String} {args : List Value}

/-- The question marks of a clause on a column are those of the name and those of the test. -/
theorem count_sql_column (dialect : Dialect) (name test : String) (args : List Value) :
    ((⟨.column name test, args⟩ : Clause).sql dialect).toList.count '?'
      = name.toList.count '?' + test.toList.count '?' := by
  have hspace : " ".toList.count '?' = 0 := by decide
  simp only [Clause.sql, Condition.sql, String.toList_append, List.count_append,
    Dialect.count_quoteIdent, hspace, Nat.add_zero]

/-- With a value for each question mark of its test, a clause on a column is only refused for the
question marks in the name. -/
theorem check_column (h : test.toList.count '?' = args.length) :
    (⟨.column name test, args⟩ : Clause).check dialect
      = if '?' ∈ name.toList then
          .error (.bindMismatch (dialect.quoteIdent name ++ " " ++ test)
            (name.toList.count '?' + args.length) args.length)
        else .ok () := by
  have hcount := count_sql_column dialect name test args
  rw [h] at hcount
  unfold Clause.check
  dsimp only
  rw [hcount]
  by_cases hname : '?' ∈ name.toList
  · have hpos : 0 < name.toList.count '?' := List.count_pos_iff.mpr hname
    rw [if_pos hname, if_neg (by omega)]
    rfl
  · have hzero : name.toList.count '?' = 0 := List.count_eq_zero.mpr hname
    rw [if_neg hname, if_pos (by omega)]

/-- Text without question marks is written as it stands. -/
theorem Draft.writeMarked_append (d : Draft) {text : List Char} (h : '?' ∉ text)
    (rest : List Char) (args : List Value) :
    d.writeMarked dialect (text ++ rest) args
      = (d.write (String.ofList text)).writeMarked dialect rest args := by
  induction text generalizing d with
  | nil => simp [write]
  | cons c text ih =>
    rw [List.mem_cons, not_or] at h
    rw [List.cons_append, writeMarked_cons_of_ne dialect d (Ne.symm h.1), ih _ h.2]
    simp only [write, String.ofList_cons, String.append_assoc]

/-- A column without question marks in its name is written before its test as it is quoted, and
only the test is filled in. -/
theorem Draft.writeMarked_column (d : Draft) (hname : '?' ∉ name.toList) :
    d.writeMarked dialect ((⟨.column name test, args⟩ : Clause).sql dialect).toList args
      = (d.write (dialect.quoteIdent name ++ " ")).writeMarked dialect test.toList args := by
  have hquoted : '?' ∉ (dialect.quoteIdent name ++ " ").toList := by
    rw [String.toList_append, List.mem_append, not_or]
    exact ⟨dialect.not_mem_quoteIdent hname, by decide⟩
  rw [Clause.sql, Condition.sql, String.toList_append, d.writeMarked_append hquoted,
    String.ofList_toList]

end

/-! ## Filters of a field -/

namespace FieldCall

/-- Whether a call adds a condition. -/
def isFilter : FieldCall → Bool
  | compare .. | membership .. | presence _ => true
  | order _ | preload => false

/-- A filter is a clause on the field's column, with a value for each question mark of its
test. -/
theorem clause?_refinement (f : ModelField) (call : FieldCall) :
    (call.isFilter = true ∧ ∃ test args, (call.refinement f).clause?
        = some ⟨.column f.column test, args⟩ ∧ test.toList.count '?' = args.length) ∨
      (call.isFilter = false ∧ (call.refinement f).clause? = none) := by
  cases call with
  | compare c v =>
    have htest : c.test.toList.count '?' = 1 := by cases c <;> decide
    exact Or.inl ⟨rfl, c.test, [v], rfl, htest⟩
  | membership m first rest =>
    have htest : m.test.toList.count '?' = 1 := by cases m <;> decide
    exact Or.inl ⟨rfl, m.test, [.list (first :: rest)], rfl, htest⟩
  | presence p =>
    have htest : p.test.toList.count '?' = 0 := by cases p <;> decide
    exact Or.inl ⟨rfl, p.test, [], rfl, htest⟩
  | order d => exact Or.inr ⟨rfl, rfl⟩
  | preload => exact Or.inr ⟨rfl, rfl⟩

/-- The only filters of a field are those of a column. -/
theorem isColumn_of_isFilter {f : ModelField} {call : FieldCall}
    (hoffered : call.operation ∈ FieldOperation.ofField f) (hfilter : call.isFilter = true) :
    f.isColumn = true := by
  by_contra hcolumn
  rw [FieldOperation.ofField, if_neg hcolumn] at hoffered
  split at hoffered
  · have hpreload : call.operation = .preload := List.mem_singleton.mp hoffered
    cases call with
    | preload => cases hfilter
    | _ => cases hpreload
  · cases hoffered

end FieldCall

namespace Model

/-- The scope behind a chain of calls of a model's fields. -/
def chain (m : Model) (calls : List (ModelField × FieldCall)) : Scope :=
  m.querySet.refineAll (calls.map fun call => call.2.refinement call.1)

/-- Whether the builder of a model has methods for these calls. -/
def Offers (m : Model) (calls : List (ModelField × FieldCall)) : Prop :=
  ∀ call ∈ calls, call.1 ∈ m.fields ∧ call.2.operation ∈ FieldOperation.ofField call.1

/-- The conditions of a chain are those of its calls. -/
theorem mem_conditions_chain {m : Model} {calls : List (ModelField × FieldCall)} {c : Clause} :
    c ∈ (m.chain calls).conditions ↔
      ∃ call ∈ calls, (call.2.refinement call.1).clause? = some c := by
  rw [chain, Scope.collected_refineAll Scope.conditions_refine]
  simp [querySet, Scope.ofTable, List.mem_filterMap]

/-- A condition of a chain is checked like the filter that it comes from: only a question mark in
the name of the column is a reason to refuse it. -/
theorem check_condition_chain {m : Model} {calls : List (ModelField × FieldCall)} {c : Clause}
    (hc : c ∈ (m.chain calls).conditions) (dialect : Dialect) :
    ∃ call ∈ calls, call.2.isFilter = true ∧ ∃ test args,
      c.check dialect = if '?' ∈ call.1.column.toList then
          .error (.bindMismatch (dialect.quoteIdent call.1.column ++ " " ++ test)
            (call.1.column.toList.count '?' + args) args)
        else .ok () := by
  obtain ⟨call, hcall, hsome⟩ := mem_conditions_chain.mp hc
  rcases call.2.clause?_refinement call.1 with ⟨hfilter, test, args, hclause, hcount⟩ | ⟨-, hnone⟩
  · rw [hclause, Option.some.injEq] at hsome
    subst hsome
    exact ⟨call, hcall, hfilter, test, args.length, check_column hcount⟩
  · rw [hnone] at hsome
    cases hsome

/-- The conditions of a chain can be written exactly if no filter of it is about a column with a
question mark in its name. -/
theorem forall_check_chain_iff (m : Model) (calls : List (ModelField × FieldCall))
    (dialect : Dialect) :
    (∀ c ∈ (m.chain calls).conditions, c.check dialect = .ok ()) ↔
      ∀ call ∈ calls, call.2.isFilter = true → '?' ∉ call.1.column.toList := by
  constructor
  · intro hall call hcall hfilter hmarked
    rcases call.2.clause?_refinement call.1 with ⟨-, test, args, hclause, hcount⟩ | ⟨hnone, -⟩
    · have hcheck := hall _ (mem_conditions_chain.mpr ⟨call, hcall, hclause⟩)
      rw [check_column hcount, if_pos hmarked] at hcheck
      cases hcheck
    · rw [hfilter] at hnone
      cases hnone
  · intro hunmarked c hc
    obtain ⟨call, hcall, hfilter, test, args, hcheck⟩ := check_condition_chain hc dialect
    rw [hcheck, if_neg (hunmarked call hcall hfilter)]

/-- A field that is a column is offered a filter. -/
theorem offers_eq {m : Model} {f : ModelField} (hf : f ∈ m.columnFields) (v : Value) :
    m.Offers [(f, .compare .eq v)] := by
  obtain ⟨hfield, hcolumn⟩ := List.mem_filter.mp hf
  intro call hcall
  rw [List.mem_singleton.mp hcall]
  refine ⟨hfield, ?_⟩
  rw [FieldOperation.ofField, if_pos hcolumn]
  simp [FieldCall.operation, FieldOperation.ofColumn]

/-- The columns of the filters that a model offers are its columns. -/
theorem forall_offered_iff (m : Model) :
    (∀ calls, m.Offers calls → ∀ call ∈ calls, call.2.isFilter = true →
        '?' ∉ call.1.column.toList) ↔
      ∀ column ∈ m.columns, '?' ∉ column.toList := by
  constructor
  · intro hall column hcolumn
    obtain ⟨f, hf, rfl⟩ := List.mem_map.mp hcolumn
    exact hall _ (offers_eq hf .null) _ (List.mem_singleton_self _) rfl
  · intro hcolumns calls hoffers call hcall hfilter
    obtain ⟨hfield, hoperation⟩ := hoffers call hcall
    have hcolumn := FieldCall.isColumn_of_isFilter hoperation hfilter
    exact hcolumns _ (List.mem_map_of_mem (List.mem_filter.mpr ⟨hfield, hcolumn⟩))

end Model

/-! ## Main statement -/

/-- **When generated filters can be written.** A clause on a column that has a value for each
question mark of its test is written behind the quoted name, which stays as it is, unless there is
a question mark in the name: then the clause is refused for having too many marks.  So a chain of
a model's calls can be written exactly if none of its filters is about such a column, and every
chain of a model can exactly if the model has no such column. -/
theorem generated_filters_render_iff (dialect : Dialect) (m : Model) :
    (∀ (d : Draft) (name test : String) (args : List Value),
      test.toList.count '?' = args.length →
      d.writeClause dialect ⟨.column name test, args⟩
        = if '?' ∈ name.toList then
            .error (.bindMismatch (dialect.quoteIdent name ++ " " ++ test)
              (name.toList.count '?' + args.length) args.length)
          else
            .ok ((d.write (dialect.quoteIdent name ++ " ")).writeMarked dialect test.toList args)) ∧
    (∀ (calls : List (ModelField × FieldCall)) (r : Request), r ≠ .update [] →
      ((∃ st, r.statement dialect (m.chain calls) = .ok st) ↔
        ∀ call ∈ calls, call.2.isFilter = true → '?' ∉ call.1.column.toList) ∧
      ∀ error, r.statement dialect (m.chain calls) = .error error →
        ∃ call ∈ calls, call.2.isFilter = true ∧ '?' ∈ call.1.column.toList ∧ ∃ test args,
          error = .bindMismatch (dialect.quoteIdent call.1.column ++ " " ++ test)
            (call.1.column.toList.count '?' + args) args) ∧
    ((∀ calls, m.Offers calls → ∀ r : Request, r ≠ .update [] →
        ∃ st, r.statement dialect (m.chain calls) = .ok st) ↔
      ∀ column ∈ m.columns, '?' ∉ column.toList) := by
  have hchain : ∀ calls (r : Request), r ≠ .update [] →
      ((∃ st, r.statement dialect (m.chain calls) = .ok st) ↔
        ∀ call ∈ calls, call.2.isFilter = true → '?' ∉ call.1.column.toList) := by
    intro calls r hr
    rw [Request.exists_statement_iff hr]
    exact m.forall_check_chain_iff calls dialect
  refine ⟨?_, fun calls r hr => ⟨hchain calls r hr, ?_⟩, ?_⟩
  · intro d name test args hcount
    rw [d.writeClause_eq_check, check_column hcount]
    by_cases hname : '?' ∈ name.toList
    · rw [if_pos hname, if_pos hname]
      rfl
    · rw [if_neg hname, if_neg hname]
      exact congrArg Except.ok (d.writeMarked_column hname)
  · intro error herror
    obtain ⟨c, hc, hrefused⟩ := Request.exists_check_error_of_statement hr herror
    obtain ⟨call, hcall, hfilter, test, args, hcheck⟩ := Model.check_condition_chain hc dialect
    rw [hcheck] at hrefused
    split at hrefused
    · rename_i hmarked
      exact ⟨call, hcall, hfilter, hmarked, test, args, (Except.error.inj hrefused).symm⟩
    · cases hrefused
  · rw [← m.forall_offered_iff]
    constructor
    · intro hall calls hoffers
      exact (hchain calls .count (by simp)).mp (hall calls hoffers .count (by simp))
    · intro hunmarked calls hoffers r hr
      exact (hchain calls r hr).mpr (hunmarked calls hoffers)

/-- The field of a type, stored in a column of the given name. -/
def sureField (column : String) : ModelField where
  ident := ⟨"sure", ⟨⟨1, 0⟩, ⟨1, 0⟩⟩⟩
  type := .named "bool"
  column
  kind := .of (.named "bool")
  options := { column := some column }
  doc := none

/-- A model with that field. -/
def answerModel (column : String) : Model where
  ident := ⟨"Answer", ⟨⟨1, 0⟩, ⟨1, 0⟩⟩⟩
  vis := []
  table := "answer"
  updater := true
  fields := [sureField column]

/-- The declaration of that model. -/
def answerItem (column : String) : Item :=
  let place : Span := ⟨⟨1, 0⟩, ⟨1, 0⟩⟩
  let stored : Attribute :=
    ⟨⟨false, ["queryset"]⟩, place,
      .list [⟨.ident "column", place⟩, ⟨.punct '=' false, place⟩, ⟨.literal (.text column), place⟩]
        ⟨.closing .paren, place⟩, place⟩
  ⟨[], [], ⟨"Answer", place⟩, none, .named [⟨[stored], [], ⟨"sure", place⟩, .named "bool"⟩]⟩

/-- A filter on the column, whatever its name. -/
def sureFilter (column : String) : List (ModelField × FieldCall) :=
  [(sureField column, .compare .eq (.bool true))]

/-- The model offers that filter. -/
theorem offers_sureFilter (column : String) :
    (answerModel column).Offers (sureFilter column) :=
  Model.offers_eq (List.mem_singleton_self (sureField column)) (.bool true)

/-- With a quote in the name of the column, its filter can be written. -/
theorem sureFilter_renders_quoted :
    "= ?".toList.count '?' = [Value.bool true].length ∧
      Draft.empty.writeClause .postgres ⟨.column "su\"re" "= ?", [.bool true]⟩
        = .ok ⟨"\"su\"\"re\" = $1", #[.bool true]⟩ ∧
      (answerModel "su\"re").Offers (sureFilter "su\"re") ∧ Request.count ≠ .update [] ∧
      ∃ st, Request.count.statement .postgres ((answerModel "su\"re").chain (sureFilter "su\"re"))
        = .ok st := by
  have hmain := generated_filters_render_iff .postgres (answerModel "su\"re")
  have hoffers := offers_sureFilter "su\"re"
  have hcolumns : ∀ column ∈ (answerModel "su\"re").columns, '?' ∉ column.toList := by decide
  refine ⟨rfl, (hmain.1 _ _ _ _ rfl).trans rfl, hoffers, nofun, ?_⟩
  exact hmain.2.2.mpr hcolumns _ hoffers .count nofun

/-- With a question mark in it, the declaration is accepted and the column selected all the same,
but its filter is refused. -/
theorem sureFilter_refused_marked :
    Model.ofItem (answerItem "sure?") = .ok (answerModel "sure?") ∧
      (answerItem "sure?").expand.isOk = true ∧
      (answerModel "sure?").Offers (sureFilter "sure?") ∧
      Statement.select .postgres (answerModel "sure?").querySet (answerModel "sure?").columns none
        = .ok ⟨"SELECT \"sure?\" FROM \"answer\"", []⟩ ∧
      Request.count.statement .postgres ((answerModel "sure?").chain (sureFilter "sure?"))
        = .error (.bindMismatch "\"sure?\" = ?" 2 1) :=
  ⟨rfl, by decide +kernel, offers_sureFilter _, rfl, rfl⟩

end QueryChain
