import Mathlib
import ApiChain.Proofs.Mapping.Fields
import ApiChain.Proofs.Run.Success
import ApiChain.Proofs.Table.RoundTrip

/-!
# The table of a whole run

The records of a run come from the items of its responses, in the order in which they came in. So the
table has a row for each item. Its columns are the targets of the definitions that gave a record: a
target has its column even if its source finds nothing anywhere, and a definition without items adds no
column.

* **`records_eq_items`**: the records of some exchanges are those of their items;
* **`distinct_names_turns`**: the columns of some turns, turn by turn;
* **`columns_of_run`** is the text of the table.
-/

namespace ApiChain

/-! ## Rows -/

namespace Exchange

/-- The items of the response, each with the definition that asked for it. -/
def items (x : Exchange) : List (Definition × Json) :=
  match x.answer with
  | .ok response => response.data.elements.map fun item => (x.sender, item)
  | .error _ => []

theorem records_eq_items (x : Exchange) :
    x.records = x.items.map fun p => Mapping.recordOf p.2 p.1.mapping := by
  obtain ⟨d, r, answer⟩ := x
  cases answer with
  | error cause => rfl
  | ok response => simp [records, items, Mapping.records, Function.comp_def]

end Exchange

namespace Mapping

/-- What some rules show of an item under a target: the text of what the last rule for the target finds,
or nothing without such a rule. -/
def shownText (rules : List Rule) (item : Json) (target : String) : String :=
  match lastRule? rules target with
  | none => ""
  | some rule => Table.shown (item.resolve (itemPath rule.source)).toJson?

theorem cell_recordOf (rules : List Rule) (item : Json) (target : String) :
    Table.cell ((recordOf item rules).get? target) = (shownText rules item target).toList := by
  rw [get?_recordOf, shownText]
  cases lastRule? rules target with
  | none => rfl
  | some rule =>
    show _ = (Table.shown _).toList
    rw [← Table.ofList_cell, String.toList_ofList, Option.bind_some]

/-- The rows of the records of some items, under any columns. -/
theorem map_row_items (columns : List String) (items : List (Definition × Json)) :
    (items.map fun p => recordOf p.2 p.1.mapping).map (Table.row columns)
      = items.map fun p => columns.map fun target =>
          (shownText p.1.mapping p.2 target).toList := by
  rw [List.map_map]
  apply List.map_congr_left
  intro p _
  exact List.map_congr_left fun target _ => cell_recordOf p.1.mapping p.2 target

end Mapping

/-! ## Columns -/

theorem distinct_eq_self {names : List String} (h : names.Nodup) : distinct names = names := by
  induction names with
  | nil => rfl
  | cons first rest ih =>
    obtain ⟨hfirst, hrest⟩ := List.nodup_cons.mp h
    rw [distinct, ih hrest, List.filter_eq_self.mpr]
    intro name hname
    simpa using fun heq : name = first => hfirst (heq ▸ hname)

/-- Lists that are all the same have the names of one of them. -/
theorem distinct_flatMap_const {α : Type} {f : α → List String} {xs : List α}
    {names : List String} (h : ∀ x ∈ xs, f x = names) (hne : xs ≠ []) :
    distinct (xs.flatMap f) = distinct names := by
  cases xs with
  | nil => exact absurd rfl hne
  | cons x rest =>
    obtain ⟨hx, hrest⟩ := List.forall_mem_cons.mp h
    rw [List.flatMap_cons, hx]
    apply distinct_append_of_subset
    intro name hname
    obtain ⟨y, hy, hmem⟩ := List.mem_flatMap.mp hname
    rwa [hrest y hy] at hmem

namespace Run

variable {σ : Type}

/-- The targets of a definition, in the order of its rules. -/
def targets (d : Definition) : List String := d.mapping.map (·.target)

theorem names_of_mem_records {turn : Turn}
    (hsenders : ∀ x ∈ turn.exchanges, x.sender = turn.definition) :
    ∀ r ∈ turn.records, r.names = distinct (targets turn.definition) := by
  intro r hr
  obtain ⟨x, hx, hr⟩ := List.mem_flatMap.mp hr
  rw [x.records_eq_items] at hr
  obtain ⟨⟨d, item⟩, hitem, rfl⟩ := List.mem_map.mp hr
  have hd : d = turn.definition := by
    rw [← hsenders x hx]
    unfold Exchange.items at hitem
    split at hitem
    · obtain ⟨_, -, heq⟩ := List.mem_map.mp hitem
      exact (congrArg Prod.fst heq).symm
    · exact absurd hitem List.not_mem_nil
  rw [Mapping.names_recordOf, hd]
  rfl

/-- A turn that gives a record has the columns of its definition, and any other turn has none. -/
theorem distinct_names_turn {turn : Turn}
    (hsenders : ∀ x ∈ turn.exchanges, x.sender = turn.definition) :
    distinct (turn.records.flatMap Record.names)
      = if turn.records.isEmpty then [] else distinct (targets turn.definition) := by
  cases hrecords : turn.records with
  | nil => rfl
  | cons r rest =>
    have hnames := names_of_mem_records hsenders
    rw [hrecords] at hnames
    rw [distinct_flatMap_const hnames (List.cons_ne_nil r rest),
      distinct_eq_self (firstSeen_distinct _).nodup]
    rfl

theorem distinct_names_turns {ts : List Turn}
    (hsenders : ∀ turn ∈ ts, ∀ x ∈ turn.exchanges, x.sender = turn.definition) :
    distinct ((ts.flatMap Turn.records).flatMap Record.names)
      = distinct ((ts.filter fun turn => !turn.records.isEmpty).flatMap
          fun turn => targets turn.definition) := by
  induction ts with
  | nil => rfl
  | cons turn rest ih =>
    obtain ⟨hturn, hrest⟩ := List.forall_mem_cons.mp hsenders
    have hfirst := distinct_names_turn hturn
    rw [List.flatMap_cons, List.flatMap_append]
    cases hempty : turn.records.isEmpty with
    | true =>
      rw [hempty, if_pos rfl] at hfirst
      have hnone : distinct (turn.records.flatMap Record.names) = distinct [] := hfirst
      rw [List.filter_cons_of_neg (by simp [hempty])]
      exact distinct_append_congr hnone (ih hrest)
    | false =>
      rw [hempty, if_neg Bool.false_ne_true] at hfirst
      rw [List.filter_cons_of_pos (by simp [hempty]), List.flatMap_cons]
      exact distinct_append_congr hfirst (ih hrest)

/-- **The table of a run.** Let a run from no records succeed and give at least one record. The columns
of its table are the targets of the definitions that gave a record, in the order of the definitions and
of their rules, each at its first place. Below them stands one row for each item of the responses, in
the order in which they came in. A cell shows what the last rule of the item's definition for its column
finds in the item: the text of the value, and nothing where there is no such rule, nothing is found or
`null` is. -/
theorem columns_of_run (t : Transport σ) (ds : List Definition) (s : State σ)
    (hempty : s.records = []) (hok : (runFrom t ds s).1 = .ok ())
    (hsome : (runFrom t ds s).2.records ≠ []) :
    (turns t ds s).map (·.definition) = ds ∧
    ∃ columns : List String,
      FirstSeen columns
        (((turns t ds s).filter fun turn => !turn.records.isEmpty).flatMap
          fun turn => turn.definition.mapping.map (·.target)) ∧
      ∀ delimiter : Char,
        Delimited.ofRecords delimiter (runFrom t ds s).2.records
          = String.ofList (Delimited.encode delimiter
              (columns.map String.toList ::
                ((exchanges t ds s).flatMap Exchange.items).map fun p =>
                  columns.map fun target =>
                    (Mapping.shownText p.1.mapping p.2 target).toList)) := by
  have hrecords := (runFrom_leaves t ds s).records
  rw [hempty, List.nil_append] at hrecords
  refine ⟨(runFrom_ok_iff.mp hok).1, Table.header (runFrom t ds s).2.records, ?_, ?_⟩
  · have hturns : (runFrom t ds s).2.records = (turns t ds s).flatMap Turn.records := by
      rw [hrecords, flatMap_records, exchanges]
    rw [Table.header, hturns, distinct_names_turns fun turn hturn => turns_senders hturn]
    exact firstSeen_distinct _
  · intro delimiter
    have hitems : (runFrom t ds s).2.records
        = ((exchanges t ds s).flatMap Exchange.items).map
            fun p => Mapping.recordOf p.2 p.1.mapping := by
      rw [hrecords, List.map_flatMap, funext Exchange.records_eq_items]
    have hnonempty : (runFrom t ds s).2.records.isEmpty = false := by
      simpa using hsome
    rw [Delimited.ofRecords, hnonempty, if_neg Bool.false_ne_true, Table.ofRecords]
    generalize Table.header (runFrom t ds s).2.records = columns
    rw [hitems, Mapping.map_row_items]

/-! ## Columns without values -/

/-- Asks for each thing of the list, with two rules for one target. -/
def detailsTwice : Definition := details.withRule "id" "found" |>.withRule "title" "name"

/-- What comes back for a list of two things, one of which has no identifier, and for their details. -/
def untitledThings : List (Except RequestError Response) :=
  [.object [("data", .array [.object [("id", .ofNat 1)], .object []])],
    .object [("title", .string "pen")], .array [.object [("name", .string "cup")], .null]].map
    fun body => .ok (.ofBody body)

theorem columns_of_run_untitled :
    (runFrom .scripted [listing, detailsTwice] (State.initial untitledThings)).1 = .ok () ∧
      Delimited.ofRecords ';'
        (runFrom .scripted [listing, detailsTwice] (State.initial untitledThings)).2.records
        = "id;name;found\n1;;\n;;\n;pen;\n;;\n;;" := by
  have hok : (runFrom .scripted [listing, detailsTwice] (State.initial untitledThings)).1
      = .ok () := by cbv
  have hcount : (runFrom .scripted [listing, detailsTwice]
      (State.initial untitledThings)).2.records.length = 5 := by cbv
  have hsome : (runFrom .scripted [listing, detailsTwice] (State.initial untitledThings)).2.records
      ≠ [] := by
    intro hnone
    rw [hnone] at hcount
    exact absurd hcount (by decide)
  obtain ⟨-, columns, hcolumns, htext⟩ := columns_of_run .scripted [listing, detailsTwice]
    (State.initial untitledThings) rfl hok hsome
  have hlist : ((turns .scripted [listing, detailsTwice] (State.initial untitledThings)).filter
      fun turn => !turn.records.isEmpty).flatMap (fun turn => turn.definition.mapping.map (·.target))
      = ["id", "name", "found", "name"] := by cbv
  rw [hlist] at hcolumns
  obtain rfl := hcolumns.unique (firstSeen_distinct _)
  refine ⟨hok, (htext ';').trans ?_⟩
  cbv

end Run

end ApiChain
