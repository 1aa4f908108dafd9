import Markweave.Proofs.Html.Nesting

namespace Markweave.Html

open Markdown (Event)
open Markdown.Event (cells rows tableOf within)

def alignmentName? : Markdown.Alignment → Option Text
  | .none => none
  | .left => some "left"
  | .center => some "center"
  | .right => some "right"

/-- The attributes of the cell at a place in a row: behind the last alignment there are none. Places are counted in 64
bits. -/
def alignAttributes (alignments : List Markdown.Alignment) (k : Nat) : List Attribute :=
  ((alignments[k % UInt64.size]?.bind alignmentName?).map (.of "align")).toList

theorem TableState.alignAttribute_eq (t : TableState) :
    t.alignAttribute = alignAttributes t.alignments t.cell.toNat := by
  rw [alignAttribute, alignAttributes, Nat.mod_eq_of_lt t.cell.toNat_lt]
  cases t.alignments[t.cell.toNat]? with
  | none => rfl
  | some a => cases a <;> rfl

/-- The places of a row, counted from its first cell. -/
theorem alignAttributes_from_zero (alignments : List Markdown.Alignment) :
    (fun k => alignAttributes alignments ((0 : UInt64) + .ofNat k).toNat) = alignAttributes alignments := by
  funext k
  rw [UInt64.zero_add, alignAttributes, alignAttributes, UInt64.toNat_ofNat', Nat.mod_mod]

namespace Writer

/-- The writer behind the contents of some cells. -/
def behind (w : Writer) (contents : List (List Event)) : Writer := (w.run contents.flatten).1

/-- The cells of a row, as elements of one name around what is written for their contents, each with the attributes of
its place. -/
def cellMarkup (w : Writer) (name : Text) (align : Nat → List Attribute) (contents : List (List Event)) :
    List Markup :=
  (contents.mapIdx fun k cell =>
    let w := w.behind (contents.take k)
    .opening name (w.classAttribute name ++ align k) :: ((w.run cell).2 ++ [.closing name])).flatten

def rowMarkup (w : Writer) (alignments : List Markdown.Alignment) (body : List (List (List Event))) : List Markup :=
  (body.mapIdx fun r row =>
    let w := w.behind (body.take r).flatten
    w.openTag "tr" :: (w.cellMarkup "td" (alignAttributes alignments) row ++ [.closing "tr"])).flatten

def tableMarkup (w : Writer) (alignments : List Markdown.Alignment) (head : List (List Event))
    (body : List (List (List Event))) : List Markup :=
  [w.openTag "table", w.openTag "thead", w.openTag "tr"] ++ w.cellMarkup "th" (alignAttributes alignments) head ++
    [.closing "tr", .closing "thead", (w.behind head).openTag "tbody"] ++ (w.behind head).rowMarkup alignments body ++
      [.closing "tbody", .closing "table"]

theorem behind_cons (w : Writer) (cell : List Event) (contents : List (List Event)) :
    w.behind (cell :: contents) = (w.run cell).1.behind contents := by
  rw [behind, List.flatten_cons, run_append]
  rfl

theorem behind_append (w : Writer) (front contents : List (List Event)) :
    w.behind (front ++ contents) = (w.behind front).behind contents := by
  rw [behind, List.flatten_append, run_append]
  rfl

theorem cellMarkup_cons (w : Writer) (name : Text) (align : Nat → List Attribute) (cell : List Event)
    (contents : List (List Event)) :
    w.cellMarkup name align (cell :: contents) =
      .opening name (w.classAttribute name ++ align 0) :: ((w.run cell).2 ++ [.closing name]) ++
        (w.run cell).1.cellMarkup name (fun k => align (k + 1)) contents := by
  rw [cellMarkup, List.mapIdx_cons, List.flatten_cons]
  refine congrArg (fun f => _ ++ (List.mapIdx f contents).flatten) (funext fun k => funext fun content => ?_)
  rw [List.take_succ_cons, behind_cons]

theorem rowMarkup_cons (w : Writer) (alignments : List Markdown.Alignment) (row : List (List Event))
    (body : List (List (List Event))) :
    w.rowMarkup alignments (row :: body) =
      w.openTag "tr" :: (w.cellMarkup "td" (alignAttributes alignments) row ++ [.closing "tr"]) ++
        (w.behind row).rowMarkup alignments body := by
  rw [rowMarkup, List.mapIdx_cons, List.flatten_cons]
  refine congrArg (fun f => _ ++ (List.mapIdx f body).flatten) (funext fun r => funext fun cells => ?_)
  rw [List.take_succ_cons, List.flatten_cons, behind_append]

section Run

variable {contents head : List (List Event)} {body : List (List (List Event))}

/-- A cell is written as the table says where it stands, and the next one stands one further. -/
theorem run_cell (w : Writer) (t : TableState) {cell : List Event} (hcell : ∀ e ∈ cell, e.isFree = true) :
    (w.setTable t).run (within .tableCell cell) =
      ((w.run cell).1.setTable { t with cell := t.cell + 1 },
        .opening t.cellName (w.classAttribute t.cellName ++ alignAttributes t.alignments t.cell.toNat) ::
          ((w.run cell).2 ++ [.closing t.cellName])) := by
  have hstart : (w.setTable t).start .tableCell = (w.setTable t,
      [.opening t.cellName (w.classAttribute t.cellName ++ t.alignAttribute)]) := rfl
  rw [run_within, hstart, run_setTable w hcell, t.alignAttribute_eq]
  rfl

/-- By induction over the cells of a row, from any place on. -/
theorem run_cells (w : Writer) (t : TableState) (hcontents : ∀ cell ∈ contents, ∀ e ∈ cell, e.isFree = true) :
    (w.setTable t).run (cells contents) =
      ((w.behind contents).setTable { t with cell := t.cell + .ofNat contents.length },
        w.cellMarkup t.cellName (fun k => alignAttributes t.alignments (t.cell + .ofNat k).toNat) contents) := by
  induction contents generalizing w t with
  | nil =>
    obtain ⟨inHead, alignments, cell⟩ := t
    have hcell : cell + .ofNat 0 = cell := UInt64.add_zero cell
    rw [List.length_nil, hcell]
    rfl
  | cons cell contents ih =>
    rw [List.forall_mem_cons] at hcontents
    have hrest := ih (w.run cell).1 { t with cell := t.cell + 1 } hcontents.2
    have hcell : t.cell + .ofNat 0 = t.cell := UInt64.add_zero t.cell
    simp only [UInt64.add_one_add_ofNat] at hrest
    rw [cells] at hrest
    rw [cells, List.flatMap_cons, run_append, run_cell w t hcontents.1, hrest, cellMarkup_cons, behind_cons, hcell]
    rfl

/-- From its first place on a row is written as its alignments say. -/
theorem run_row (w : Writer) (t : TableState) (hcontents : ∀ cell ∈ contents, ∀ e ∈ cell, e.isFree = true) :
    (w.setTable t).run (within .tableRow (cells contents)) =
      ((w.behind contents).setTable { t with cell := 0 + .ofNat contents.length },
        w.openTag "tr" :: (w.cellMarkup t.cellName (alignAttributes t.alignments) contents ++ [.closing "tr"])) := by
  have hstart : (w.setTable t).start .tableRow = (w.setTable { t with cell := 0 }, [w.openTag "tr"]) := rfl
  rw [run_within, hstart, run_cells w { t with cell := 0 } hcontents, alignAttributes_from_zero]
  rfl

/-- Rows leave the writer where they like, since the next one begins anew. -/
theorem run_rows (w : Writer) (t : TableState) (ht : t.inHead = false)
    (hbody : ∀ row ∈ body, ∀ cell ∈ row, ∀ e ∈ cell, e.isFree = true) :
    ∃ k, (w.setTable t).run (rows body) =
      ((w.behind body.flatten).setTable { t with cell := k }, w.rowMarkup t.alignments body) := by
  have hname : ∀ k, TableState.cellName { t with cell := k } = "td" := fun k => if_neg (by simp [ht])
  induction body generalizing w t with
  | nil => exact ⟨t.cell, rfl⟩
  | cons row body ih =>
    rw [List.forall_mem_cons] at hbody
    obtain ⟨k, hrest⟩ := ih (w.behind row) { t with cell := 0 + .ofNat row.length } ht hbody.2 hname
    refine ⟨k, ?_⟩
    rw [rows] at hrest
    rw [rows, List.flatMap_cons, run_append, run_row w t hbody.1, hrest, rowMarkup_cons, List.flatten_cons,
      behind_append, show t.cellName = "td" from hname t.cell]

/-- A table is written in the same way whatever the writer knew of tables before. -/
theorem run_tableOf (w : Writer) (alignments : List Markdown.Alignment)
    (hhead : ∀ cell ∈ head, ∀ e ∈ cell, e.isFree = true)
    (hbody : ∀ row ∈ body, ∀ cell ∈ row, ∀ e ∈ cell, e.isFree = true) :
    ∃ k, w.run (tableOf alignments head body) =
      (((w.behind head).behind body.flatten).setTable ⟨false, alignments, k⟩, w.tableMarkup alignments head body) := by
  have htable : w.start (.table alignments) = (w.setTable ⟨false, alignments, 0⟩, [w.openTag "table"]) := rfl
  have hopen : (w.setTable ⟨false, alignments, 0⟩).start .tableHead =
      (w.setTable ⟨true, alignments, 0⟩, [w.openTag "thead", w.openTag "tr"]) := rfl
  obtain ⟨k, hrows⟩ := run_rows (w.behind head) ⟨false, alignments, 0 + .ofNat head.length⟩ rfl hbody
  refine ⟨k, ?_⟩
  have hclose : ((w.behind head).setTable ⟨true, alignments, 0 + .ofNat head.length⟩).stop .tableHead =
      ((w.behind head).setTable ⟨false, alignments, 0 + .ofNat head.length⟩,
        [.closing "tr", .closing "thead", (w.behind head).openTag "tbody"]) := rfl
  have hheadRun : (w.setTable ⟨false, alignments, 0⟩).run (within .tableHead (cells head)) =
      ((w.behind head).setTable ⟨false, alignments, 0 + .ofNat head.length⟩,
        [w.openTag "thead", w.openTag "tr"] ++ (w.cellMarkup "th" (alignAttributes alignments) head ++
          [.closing "tr", .closing "thead", (w.behind head).openTag "tbody"])) := by
    rw [run_within, hopen, run_cells w ⟨true, alignments, 0⟩ hhead, alignAttributes_from_zero]
    rfl
  rw [tableOf, run_within, htable, run_append, hheadRun, hrows, tableMarkup]
  refine Prod.ext rfl ?_
  show [w.openTag "table"] ++ (_ ++ _ ++ [.closing "tbody", .closing "table"]) = _
  simp only [List.append_assoc, List.cons_append, List.nil_append]

/-- Nothing that is written for a table is taken from what the writer knew of tables. -/
theorem tableMarkup_setTable (w : Writer) (t : TableState) (alignments : List Markdown.Alignment)
    (hhead : ∀ cell ∈ head, ∀ e ∈ cell, e.isFree = true)
    (hbody : ∀ row ∈ body, ∀ cell ∈ row, ∀ e ∈ cell, e.isFree = true) :
    (w.setTable t).tableMarkup alignments head body = w.tableMarkup alignments head body := by
  obtain ⟨k, hrun⟩ := run_tableOf w alignments hhead hbody
  obtain ⟨j, hrun'⟩ := run_tableOf (w.setTable t) alignments hhead hbody
  have hstart : (w.setTable t).start (.table alignments) = w.start (.table alignments) := rfl
  rw [tableOf, run_within, hstart, ← run_within, ← tableOf, hrun] at hrun'
  exact congrArg Prod.snd hrun'.symm

end Run
end Writer

/-- Wherever a table stands it is written cell by cell, as by a writer that knew anything else of tables. -/
theorem write_tableOf (c : RenderConfig) (before after : List Event) (alignments : List Markdown.Alignment)
    {head : List (List Event)} {body : List (List (List Event))} (hhead : ∀ cell ∈ head, ∀ e ∈ cell, e.isFree = true)
    (hbody : ∀ row ∈ body, ∀ cell ∈ row, ∀ e ∈ cell, e.isFree = true) (t : TableState) :
    let w := ((Writer.ofConfig c).run before).1
    write c (before ++ (tableOf alignments head body ++ after)) =
      write c before ++ ((w.setTable t).tableMarkup alignments head body ++
        ((w.run (tableOf alignments head body)).1.run after).2) := by
  intro w
  obtain ⟨k, hrun⟩ := w.run_tableOf alignments hhead hbody
  rw [w.tableMarkup_setTable t alignments hhead hbody, write, Writer.run_append, Writer.run_append, hrun]
  rfl

example :
    writeAll (write { RenderConfig.default with defaultStyles := false }
      (.stop .tableCell :: tableOf [.left] [[.text "a"]] [[[.text "1"], [.text "2"]]])) =
      "</td><table><thead><tr><th align=\"left\">a</th></tr></thead>" ++
        "<tbody><tr><td align=\"left\">1</td><td>2</td></tr></tbody></table>" := by
  decide +kernel

/-- A table whose rows are longer and shorter than its head, behind parts of another one that was left open. -/
theorem write_tableOf_ragged :
    let head : List (List Event) := [[.text "a"], [.text "b"]]
    let body : List (List (List Event)) := [[[.text "1"], [.text "2"], [.text "3"], [.text "4"]], []]
    let before : List Event := [.start (.table [.center]), .start .tableHead, .stop .tableCell, .start .tableRow]
    let w := ((Writer.ofConfig .default).run before).1
    ((∀ cell ∈ head, ∀ e ∈ cell, e.isFree = true) ∧ ∀ row ∈ body, ∀ cell ∈ row, ∀ e ∈ cell, e.isFree = true) ∧
      write .default (before ++ (tableOf [.left, .none, .right] head body ++ [])) =
        write .default before ++ (w.tableMarkup [.left, .none, .right] head body ++ []) := by
  intro head body before w
  have hhead : ∀ cell ∈ head, ∀ e ∈ cell, e.isFree = true := by decide
  have hbody : ∀ row ∈ body, ∀ cell ∈ row, ∀ e ∈ cell, e.isFree = true := by decide
  exact ⟨⟨hhead, hbody⟩, write_tableOf .default before [] [.left, .none, .right] hhead hbody w.table⟩

end Markweave.Html
