import Mathlib.Data.Bool.AllAny
import Markweave.Markdown.Event

namespace Markweave.Markdown

/-- Neither a table nor a part of one. -/
def Tag.isFree : Tag → Bool
  | table _ => false
  | tableHead => false
  | tableRow => false
  | tableCell => false
  | _ => true

def StopTag.isFree : StopTag → Bool
  | table => false
  | tableHead => false
  | tableRow => false
  | tableCell => false
  | _ => true

theorem Tag.isFree_stop (tag : Tag) : tag.stop.isFree = tag.isFree := by
  cases tag <;> rfl

namespace Event

def isFree : Event → Bool
  | start tag => tag.isFree
  | stop tag => tag.isFree
  | _ => true

/-- Neither starts nor stops an element. -/
def isSingle : Event → Bool
  | start _ => false
  | stop _ => false
  | _ => true

theorem isFree_of_isSingle {e : Event} (h : e.isSingle = true) : e.isFree = true := by
  cases e with
  | start tag => cases h
  | stop tag => cases h
  | _ => rfl

def startsTable : Event → Bool
  | start (.table _) => true
  | _ => false

def cells (contents : List (List Event)) : List Event := contents.flatMap (within .tableCell)

def rows (contents : List (List (List Event))) : List Event :=
  contents.flatMap fun row => within .tableRow (cells row)

def tableOf (alignments : List Alignment) (head : List (List Event)) (body : List (List (List Event))) :
    List Event :=
  within (.table alignments) (within .tableHead (cells head) ++ rows body)

/-- The heads of tables that are open, after an event. -/
def headsAfter (heads : Nat) : Event → Nat
  | start .tableHead => heads + 1
  | stop .tableHead => heads - 1
  | _ => heads

end Event

open Event (within cells rows tableOf headsAfter startsTable)

/-- Every element that starts also stops, in order, and tables are made of one head of cells and rows of cells.
The cells hold what they like, tables too. -/
inductive WellNested : List Event → Prop
  | nil : WellNested []
  | single {e : Event} {es : List Event} (he : e.isSingle = true) (hs : WellNested es) : WellNested (e :: es)
  | element {tag : Tag} {inside es : List Event} (ht : tag.isFree = true) (hinside : WellNested inside)
      (hs : WellNested es) : WellNested (within tag inside ++ es)
  | table {alignments : List Alignment} {head : List (List Event)} {body : List (List (List Event))}
      {es : List Event} (hhead : ∀ cell ∈ head, WellNested cell)
      (hbody : ∀ row ∈ body, ∀ cell ∈ row, WellNested cell) (hs : WellNested es) :
      WellNested (tableOf alignments head body ++ es)

theorem all_eq_of_forall_mem {α : Type} {p q : α → Bool} {xs : List α} (h : ∀ x ∈ xs, p x = q x) :
    xs.all p = xs.all q := by
  induction xs with
  | nil => rfl
  | cons x xs ih =>
    rw [List.forall_mem_cons] at h
    rw [List.all_cons, List.all_cons, h.1, ih h.2]

/-- No table starts while the head of another one is open; so many are open before the first event. -/
def tablesApart : Nat → List Event → Bool
  | _, [] => true
  | heads, e :: es => (heads == 0 || !e.startsTable) && tablesApart (headsAfter heads e) es

/-- The events leave as many heads open as there were. -/
def Even (es : List Event) : Prop := ∀ heads, es.foldl headsAfter heads = heads

theorem tablesApart_append (heads : Nat) (es fs : List Event) :
    tablesApart heads (es ++ fs) = (tablesApart heads es && tablesApart (es.foldl headsAfter heads) fs) := by
  induction es generalizing heads with
  | nil => rfl
  | cons e es ih => rw [List.cons_append, tablesApart, tablesApart, ih, List.foldl_cons, Bool.and_assoc]

namespace Even

theorem append {es fs : List Event} (hes : Even es) (hfs : Even fs) : Even (es ++ fs) := by
  intro heads
  rw [List.foldl_append, hes, hfs]

theorem flatMap {α : Type} {xs : List α} {f : α → List Event} (h : ∀ x ∈ xs, Even (f x)) : Even (xs.flatMap f) := by
  induction xs with
  | nil => exact fun _ => rfl
  | cons x xs ih =>
    rw [List.forall_mem_cons] at h
    rw [List.flatMap_cons]
    exact h.1.append (ih h.2)

theorem within {inside : List Event} (h : Even inside) (tag : Tag) : Even (within tag inside) := by
  intro heads
  rw [Event.within, List.foldl_cons, List.foldl_append, h]
  cases tag <;> rfl

theorem cells {contents : List (List Event)} (h : ∀ cell ∈ contents, Even cell) : Even (cells contents) :=
  flatMap fun cell hcell => (h cell hcell).within .tableCell

theorem rows {contents : List (List (List Event))} (h : ∀ row ∈ contents, ∀ cell ∈ row, Even cell) :
    Even (rows contents) :=
  flatMap fun row hrow => (cells (h row hrow)).within .tableRow

theorem tablesApart_append {es : List Event} (h : Even es) (heads : Nat) (fs : List Event) :
    tablesApart heads (es ++ fs) = (tablesApart heads es && tablesApart heads fs) := by
  rw [Markdown.tablesApart_append, h]

theorem tablesApart_within {inside : List Event} (h : Even inside) (tag : Tag) (heads : Nat) :
    tablesApart heads (Event.within tag inside) =
      ((heads == 0 || !startsTable (.start tag)) && tablesApart (headsAfter heads (.start tag)) inside) := by
  rw [Event.within, tablesApart, h.tablesApart_append, tablesApart, tablesApart]
  simp [startsTable]

theorem tablesApart_flatMap {α : Type} {xs : List α} {f : α → List Event} (h : ∀ x ∈ xs, Even (f x)) (heads : Nat) :
    tablesApart heads (xs.flatMap f) = xs.all fun x => tablesApart heads (f x) := by
  induction xs with
  | nil => rfl
  | cons x xs ih =>
    rw [List.forall_mem_cons] at h
    rw [List.flatMap_cons, h.1.tablesApart_append, ih h.2, List.all_cons]

theorem tablesApart_cells {contents : List (List Event)} (h : ∀ cell ∈ contents, Even cell) (heads : Nat) :
    tablesApart heads (Event.cells contents) = contents.all (tablesApart heads) := by
  rw [Event.cells, tablesApart_flatMap fun cell hcell => (h cell hcell).within .tableCell]
  apply all_eq_of_forall_mem
  intro cell hcell
  rw [(h cell hcell).tablesApart_within]
  simp [startsTable, headsAfter]

theorem tablesApart_rows {contents : List (List (List Event))} (h : ∀ row ∈ contents, ∀ cell ∈ row, Even cell)
    (heads : Nat) : tablesApart heads (Event.rows contents) = contents.all (·.all (tablesApart heads)) := by
  rw [Event.rows, tablesApart_flatMap fun row hrow => (cells (h row hrow)).within .tableRow]
  apply all_eq_of_forall_mem
  intro row hrow
  have hrowStart : headsAfter heads (.start .tableRow) = heads := rfl
  rw [(cells (h row hrow)).tablesApart_within, hrowStart, tablesApart_cells (h row hrow)]
  simp [startsTable]

end Even

theorem even_single {e : Event} (he : e.isSingle = true) : Even [e] := by
  intro heads
  cases e with
  | start tag => cases he
  | stop tag => cases he
  | _ => rfl

theorem Even.tableOf (alignments : List Alignment) {head : List (List Event)} {body : List (List (List Event))}
    (hhead : ∀ cell ∈ head, Even cell) (hbody : ∀ row ∈ body, ∀ cell ∈ row, Even cell) :
    Even (tableOf alignments head body) :=
  (((cells hhead).within .tableHead).append (rows hbody)).within _

theorem WellNested.even {es : List Event} (h : WellNested es) : Even es := by
  induction h with
  | nil => exact fun _ => rfl
  | single he _ ih => exact (even_single he).append ih
  | element _ _ _ hinside ih => exact (hinside.within _).append ih
  | table _ _ _ hhead hbody ih => exact (Even.tableOf _ hhead hbody).append ih

theorem startsTable_free {tag : Tag} (h : tag.isFree = true) :
    startsTable (.start tag) = false ∧ ∀ heads, headsAfter heads (.start tag) = heads := by
  cases tag with
  | table alignments => cases h
  | tableHead => cases h
  | _ => exact ⟨rfl, fun _ => rfl⟩

/-- A table of well-nested cells. -/
theorem wellNested_tableOf {alignments : List Alignment} {head : List (List Event)} {body : List (List (List Event))}
    (hhead : ∀ cell ∈ head, WellNested cell) (hbody : ∀ row ∈ body, ∀ cell ∈ row, WellNested cell) :
    WellNested (tableOf alignments head body) := by
  have h : WellNested (tableOf alignments head body ++ []) := .table hhead hbody .nil
  rwa [List.append_nil] at h

/-- Within a head tables are apart when there are none. -/
theorem WellNested.tablesApart_succ {es : List Event} (h : WellNested es) (heads : Nat) :
    tablesApart (heads + 1) es = !es.any startsTable := by
  induction h with
  | nil => rfl
  | @single e es he _ ih =>
    have hnone : startsTable e = false := by
      cases e with
      | start tag => cases he
      | _ => rfl
    have heven := even_single he (heads + 1)
    rw [List.foldl_cons, List.foldl_nil] at heven
    rw [tablesApart, heven, ih, List.any_cons, hnone]
    rfl
  | @element tag inside es ht hinside _ ih ihs =>
    obtain ⟨hnone, hheads⟩ := startsTable_free ht
    have hwithin : (within tag inside).any startsTable = inside.any startsTable := by
      rw [within, List.any_cons, List.any_append, hnone]
      simp [startsTable]
    rw [(hinside.even.within tag).tablesApart_append, hinside.even.tablesApart_within, hheads, ih, ihs, hnone,
      List.any_append, hwithin]
    simp
  | @table alignments head body es => simp [tableOf, within, tablesApart, startsTable]

theorem tablesApart_of_none {es : List Event} (h : es.any startsTable = false) (heads : Nat) :
    tablesApart heads es = true := by
  induction es generalizing heads with
  | nil => rfl
  | cons e es ih =>
    rw [List.any_cons, Bool.or_eq_false_iff] at h
    rw [tablesApart, h.1, ih h.2]
    simp

theorem tablesApart_and_not (heads : Nat) (es : List Event) :
    (tablesApart heads es && !es.any startsTable) = !es.any startsTable := by
  cases h : es.any startsTable with
  | true => simp
  | false => simp [tablesApart_of_none h]

/-- The tables of a table are apart when there is none in its head and they are in each of the other cells. -/
theorem tablesApart_tableOf {alignments : List Alignment} {head : List (List Event)}
    {body : List (List (List Event))} (hhead : ∀ cell ∈ head, WellNested cell)
    (hbody : ∀ row ∈ body, ∀ cell ∈ row, WellNested cell) :
    tablesApart 0 (tableOf alignments head body) =
      (head.all (!·.any startsTable) && body.all (·.all (tablesApart 0))) := by
  have hcells : ∀ cell ∈ head, Even cell := fun cell hcell => (hhead cell hcell).even
  have hrows : ∀ row ∈ body, ∀ cell ∈ row, Even cell := fun row hrow cell hcell => (hbody row hrow cell hcell).even
  have hin : Even (within .tableHead (cells head)) := (Even.cells hcells).within _
  have htable : headsAfter 0 (.start (.table alignments)) = 0 := rfl
  have hopen : headsAfter 0 (.start .tableHead) = 1 := rfl
  have hnone : head.all (tablesApart 1) = head.all (!·.any startsTable) :=
    all_eq_of_forall_mem fun cell hcell => (hhead cell hcell).tablesApart_succ 0
  rw [tableOf, (hin.append (.rows hrows)).tablesApart_within, htable, hin.tablesApart_append,
    (Even.cells hcells).tablesApart_within, hopen, Even.tablesApart_cells hcells, Even.tablesApart_rows hrows, hnone]
  simp [startsTable]

end Markweave.Markdown
