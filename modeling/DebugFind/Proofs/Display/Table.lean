/-
The table of stages, as the events of the display make it. A column or a row is added once, and a cell gets a new text
only if it is there; a table that takes all events was never addressed amiss (`addressed_of_draw`).

`sheet` is the table that should be seen after some transitions. The layout makes it for no transition, and the marks
of one more transition turn it into the next (`draw_marks`); so the marks of a whole run, each stage reached at most
once, make the sheet of all its transitions (`draw_flatMap_marks`).
-/
import DebugFind.Proofs.Display

namespace DebugFind

/-- the events of the display among all events -/
def onDisplay (events : List Event) : List Display.Event :=
  events.filterMap fun
    | .shown e => some e
    | _ => none

@[simp] theorem onDisplay_append (es fs : List Event) : onDisplay (es ++ fs) = onDisplay es ++ onDisplay fs :=
  List.filterMap_append

@[simp] theorem onDisplay_shown (es : List Display.Event) : onDisplay (es.map .shown) = es := by
  induction es with
  | nil => rfl
  | cons e es ih => exact congrArg (e :: ·) ih

namespace Display

/-! ## Tables -/

/-- a table: the keys of its columns, and its rows with their keys -/
structure Table where
  columns : List String := []
  rows : List (String × List String) := []
deriving DecidableEq, Repr

namespace Table

/-- the keys of the rows -/
def keys (table : Table) : List String := table.rows.map Prod.fst

/-- gives a cell a new text -/
def write (table : Table) (row column text : String) : Table :=
  { table with
    rows := table.rows.map fun (key, cells) =>
      (key, if key = row then cells.set (table.columns.idxOf column) text else cells) }

/-- what an event makes of a table: none if it adds what is there, or addresses what is not -/
def take (table : Table) : Event → Option Table
  | .column _ key =>
    if key ∈ table.columns then none
    else some ⟨table.columns ++ [key], table.rows.map fun (row, cells) => (row, cells ++ [""])⟩
  | .row key cells => if key ∈ table.keys then none else some { table with rows := table.rows ++ [(key, cells)] }
  | .cell row column text =>
    if row ∈ table.keys ∧ column ∈ table.columns then some (table.write row column text) else none
  | _ => some table

/-- what events in a row make of a table -/
def draw (table : Table) (events : List Event) : Option Table := events.foldlM take table

variable {table table' : Table} {events : List Event}

theorem draw_cons (e : Event) : table.draw (e :: events) = (table.take e).bind fun t => t.draw events :=
  List.foldlM_cons

theorem draw_append (es fs : List Event) : table.draw (es ++ fs) = (table.draw es).bind fun t => t.draw fs :=
  List.foldlM_append

theorem keys_write (row column text : String) : (table.write row column text).keys = table.keys := by
  simp [keys, write]

/-- an event adds the columns and rows that it names and no others -/
theorem mem_of_take {e : Event} (h : table.take e = some table') :
    (∀ key ∈ table'.columns, key ∈ table.columns ∨ ∃ label, e = .column label key) ∧
      ∀ key ∈ table'.keys, key ∈ table.keys ∨ ∃ cells, e = .row key cells := by
  cases e with
  | column label key =>
    rw [take] at h
    split_ifs at h
    cases h
    constructor
    · intro column hcolumn
      rcases List.mem_append.1 hcolumn with hcolumn | hcolumn
      · exact Or.inl hcolumn
      · exact Or.inr ⟨label, by rw [List.mem_singleton.1 hcolumn]⟩
    · intro row hrow
      exact Or.inl (by simpa [keys] using hrow)
  | row key cells =>
    rw [take] at h
    split_ifs at h
    cases h
    constructor
    · exact fun column hcolumn => Or.inl hcolumn
    · intro row hrow
      rw [keys, List.map_append, List.mem_append] at hrow
      rcases hrow with hrow | hrow
      · exact Or.inl hrow
      · exact Or.inr ⟨cells, by rw [List.mem_singleton.1 hrow]⟩
  | cell row column text =>
    rw [take] at h
    split_ifs at h
    cases h
    rw [keys_write]
    exact ⟨fun _ => Or.inl, fun _ => Or.inl⟩
  | binding | widget | status =>
    cases h
    exact ⟨fun _ => Or.inl, fun _ => Or.inl⟩

/-- and so do events in a row -/
theorem mem_of_draw (h : table.draw events = some table') :
    (∀ key ∈ table'.columns, key ∈ table.columns ∨ ∃ label, .column label key ∈ events) ∧
      ∀ key ∈ table'.keys, key ∈ table.keys ∨ ∃ cells, .row key cells ∈ events := by
  induction events generalizing table with
  | nil =>
    cases h
    exact ⟨fun _ => Or.inl, fun _ => Or.inl⟩
  | cons e events ih =>
    rw [draw_cons] at h
    obtain ⟨mid, hmid, hrest⟩ := Option.bind_eq_some_iff.1 h
    obtain ⟨hcolumns, hrows⟩ := mem_of_take hmid
    obtain ⟨hcolumns', hrows'⟩ := ih hrest
    constructor
    · intro key hkey
      rcases hcolumns' key hkey with hkey | ⟨label, hlabel⟩
      · exact (hcolumns key hkey).imp id fun ⟨label, he⟩ => ⟨label, by simp [he]⟩
      · exact Or.inr ⟨label, List.mem_cons_of_mem _ hlabel⟩
    · intro key hkey
      rcases hrows' key hkey with hkey | ⟨cells, hcells⟩
      · exact (hrows key hkey).imp id fun ⟨cells, he⟩ => ⟨cells, by simp [he]⟩
      · exact Or.inr ⟨cells, List.mem_cons_of_mem _ hcells⟩

end Table

/-- every cell that gets a new text stands in a row and a column that were added before -/
def Addressed (events : List Event) : Prop :=
  ∀ earlier row column text later, events = earlier ++ .cell row column text :: later →
    (∃ cells, .row row cells ∈ earlier) ∧ ∃ label, .column label column ∈ earlier

/-- a table that takes all events is never addressed amiss -/
theorem addressed_of_draw {events : List Event} {table : Table} (h : ({} : Table).draw events = some table) :
    Addressed events := by
  rintro earlier row column text later rfl
  rw [Table.draw_append] at h
  obtain ⟨mid, hmid, hrest⟩ := Option.bind_eq_some_iff.1 h
  rw [Table.draw_cons, Table.take] at hrest
  obtain ⟨hcolumns, hrows⟩ := Table.mem_of_draw hmid
  split_ifs at hrest with hthere
  · constructor
    · exact (hrows row hthere.1).resolve_left List.not_mem_nil
    · exact (hcolumns column hthere.2).resolve_left List.not_mem_nil
  · cases hrest

/-! ## The table of stages -/

/-- what is shown of a transition -/
def marks (t : Transition) : List Event :=
  [.cell t.stage.name "status" "done", .cell t.stage.name "detail" t.detail]

/-- the cells of a stage: those of its transition, if there was one -/
def cellsOf (reached : List Transition) (stage : Stage) : List String :=
  match reached.find? (·.stage = stage) with
  | some t => cells t
  | none => [stage.name, "pending", ""]

/-- the table that should be seen after some transitions -/
def sheet (reached : List Transition) : Table where
  columns := ["state", "status", "detail"]
  rows := Stage.reachable.map fun stage => (stage.name, cellsOf reached stage)

/-- the layout makes the table that should be seen before any transition -/
theorem draw_layout : ({} : Table).draw layout = some (sheet []) := by
  decide

theorem mem_reachable {stage : Stage} (h : stage ≠ .initial) : stage ∈ Stage.reachable := by
  cases stage <;> first | decide | exact absurd rfl h

theorem name_inj {stage stage' : Stage} : stage.name = stage'.name ↔ stage = stage' := by
  constructor
  · intro h
    cases stage <;> cases stage' <;> first | rfl | exact absurd h (by decide)
  · rintro rfl
    rfl

variable {reached : List Transition} {t : Transition}

theorem find?_eq_none_of_new (hnew : ∀ r ∈ reached, r.stage ≠ t.stage) :
    reached.find? (·.stage = t.stage) = none := List.find?_eq_none.2 fun r hr => by simpa using hnew r hr

/-- what the cells of a stage become at a transition to a new one -/
theorem cellsOf_concat (hnew : ∀ r ∈ reached, r.stage ≠ t.stage) (stage : Stage) :
    cellsOf (reached ++ [t]) stage = if stage = t.stage then cells t else cellsOf reached stage := by
  rw [cellsOf, List.find?_append]
  split_ifs with hstage
  · subst hstage
    simp [find?_eq_none_of_new hnew]
  · have hother : [t].find? (·.stage = stage) = none := by simp [Ne.symm hstage]
    rw [hother, Option.or_none, cellsOf]

/-- **One transition marks its row and no other.** -/
theorem draw_marks (hstage : t.stage ≠ .initial) (hnew : ∀ r ∈ reached, r.stage ≠ t.stage) :
    (sheet reached).draw (marks t) = some (sheet (reached ++ [t])) := by
  have hrow : t.stage.name ∈ (sheet reached).keys := by
    simp only [Table.keys, sheet, List.map_map, List.mem_map]
    exact ⟨t.stage, mem_reachable hstage, rfl⟩
  have htake {table : Table} (hkeys : table.keys = (sheet reached).keys) {column : String}
      (hcolumn : column ∈ table.columns) (text : String) :
      table.take (.cell t.stage.name column text) = some (table.write t.stage.name column text) :=
    if_pos ⟨by rwa [hkeys], hcolumn⟩
  have hbefore : cellsOf reached t.stage = [t.stage.name, "pending", ""] := by
    rw [cellsOf, find?_eq_none_of_new hnew]
  rw [marks, Table.draw_cons, htake rfl (by simp [sheet]), Option.bind_some, Table.draw_cons,
    htake (Table.keys_write _ _ _) (by simp [Table.write, sheet])]
  refine congrArg some (congrArg (Table.mk _) ?_)
  simp only [Table.write, sheet, List.map_map]
  refine List.map_congr_left fun stage _ => ?_
  simp only [Function.comp_apply, name_inj, cellsOf_concat hnew]
  split_ifs with hsame
  · subst hsame
    rw [hbefore]
    rfl
  · rfl

/-- the marks of transitions to different stages, one after the other -/
theorem draw_flatMap_marks {ts : List Transition} (hstages : ∀ t ∈ ts, t.stage ≠ .initial)
    (hnew : ((reached ++ ts).map Transition.stage).Nodup) :
    (sheet reached).draw (ts.flatMap marks) = some (sheet (reached ++ ts)) := by
  induction ts generalizing reached with
  | nil => simp [Table.draw]
  | cons t ts ih =>
    obtain ⟨hstage, hstages⟩ := List.forall_mem_cons.1 hstages
    have hfirst : ∀ r ∈ reached, r.stage ≠ t.stage := by
      intro r hr
      rw [List.map_append, List.map_cons] at hnew
      exact (List.nodup_append.1 hnew).2.2 _ (List.mem_map_of_mem hr) _ List.mem_cons_self
    have hrest : (((reached ++ [t]) ++ ts).map Transition.stage).Nodup := by simpa using hnew
    rw [List.flatMap_cons, Table.draw_append, draw_marks hstage hfirst, Option.bind_some, ih hstages hrest]
    simp

end Display

end DebugFind
